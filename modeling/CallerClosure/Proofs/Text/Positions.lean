import CallerClosure.Proofs.Text.LineTable

/-!
# From offsets to positions and back

* `Text.offset_of_position` says that the offset of the position of an offset is the last boundary
  that is not after it. Only between the carriage return and the newline that end a line it is the
  boundary before, where the content of the line ends;
* `Text.position_of_offset` says that the position of the offset of a position is on the same line,
  at the first column that is not before the one asked for, or at the end of the line.
-/

namespace CallerClosure.Text

variable {t : Text}

/-- Whether an offset lies between a carriage return and the newline after it. -/
def SplitsLineBreak (t : Text) (o : Nat) : Prop :=
  ∃ a b, t = a ++ '\r' :: '\n' :: b ∧ o = size a + 1

/-- What is cut between the two characters of a line break. -/
theorem SplitsLineBreak.halves {a b : Text} (h : SplitsLineBreak (a ++ b) (size a)) :
    a.getLast? = some '\r' ∧ ∃ after, b = '\n' :: after := by
  obtain ⟨x, y, hsplit, hsize⟩ := h
  rw [List.append_cons x '\r'] at hsplit
  have hx : a = x ++ ['\r'] :=
    eq_of_size_eq ⟨b, rfl⟩ ⟨'\n' :: y, hsplit.symm⟩ (by rw [hsize, size_append]; rfl)
  subst hx
  exact ⟨List.getLast?_concat, y, List.append_cancel_left hsplit⟩

/-- A line break is not part of the content of a line. -/
theorem IsLine.not_splitsLineBreak {n : Nat} {front a c rest : Text}
    (h : IsLine t n front (a ++ c) rest) : ¬t.SplitsLineBreak (size (front ++ a)) := by
  intro hbreak
  have hsplit : t = (front ++ a) ++ (c ++ rest) := by simp [h.split]
  rw [hsplit] at hbreak
  obtain ⟨hreturn, after, hnewline⟩ := hbreak.halves
  cases c with
  | cons d c =>
    obtain ⟨rfl, -⟩ := List.cons.inj hnewline
    exact h.single (by simp)
  | nil =>
    obtain rfl : rest = '\n' :: after := hnewline
    rw [List.append_nil] at h
    exact h.getLast?_ne hreturn

/-- **The position of an offset leads back to the boundary at or before it.** -/
theorem offset_of_position (ht : size t < UInt32.size) (o : Nat) :
    (∃ s, IsGreatest {b | t.IsBoundary b ∧ b ≤ min o (size t)} s ∧
      (t.SplitsLineBreak s → t.offset? (t.position o) = some (s - 1)) ∧
      (¬t.SplitsLineBreak s → t.offset? (t.position o) = some s)) ∧
    t.positionByTable? o = some (t.position o) ∧
    ∀ p, t.offsetByTable? p = some (t.offset? p) := by
  refine ⟨⟨_, isGreatest_before t o, ?_⟩, positionByTable?_eq t o, offsetByTable?_eq t⟩
  obtain ⟨b, hb⟩ := before_isPrefix t o
  obtain ⟨front, content, rest, hline, ha, hcases⟩ := exists_isLine_around (before t o) b
  rw [hb] at hline
  have hsize : size (before t o) = size front + size (lastLine (before t o)) := by
    conv_lhs => rw [ha, size_append]
  rw [position_eq ht, hline.offset?_eq]
  rcases hcases with ⟨c, hcontent, hrest⟩ | ⟨hcontent, after, rfl⟩
  · -- The place lies in the content of its line, so it is found again at its column.
    have hfound : size front + columnOffset content (units (lastLine (before t o))) =
        size (before t o) := by
      rw [hcontent, columnOffset_append, hsize]
    refine ⟨fun hbreak => absurd hbreak ?_, fun _ => by rw [hfound]⟩
    rw [hcontent] at hline
    rw [ha]
    exact hline.not_splitsLineBreak
  · -- The column counts the carriage return too, which is past the end of the content.
    refine ⟨fun _ => ?_, fun hbreak => absurd ⟨front ++ content, after, ?_, ?_⟩ hbreak⟩
    · rw [columnOffset_of_units_le, hsize, hcontent, size_append]
      · rfl
      · rw [hcontent, units_append]
        omega
    · rw [← hb, ha, hcontent]
      simp
    · rw [hsize, hcontent, size_append, size_append]
      rfl

/-- Characters of two, four and one bytes, and a line break of two characters. -/
def wideAndNarrow : Text := ['é', '😀', '\r', '\n', 'x']

theorem offset_of_position_wideAndNarrow :
    size wideAndNarrow < UInt32.size ∧ wideAndNarrow.SplitsLineBreak 7 ∧
      wideAndNarrow.offset? (wideAndNarrow.position 7) = some 6 ∧
      ¬wideAndNarrow.SplitsLineBreak 2 ∧
      wideAndNarrow.offset? (wideAndNarrow.position 5) = some 2 := by
  have hsize : size wideAndNarrow < UInt32.size := by decide
  have hbreak : wideAndNarrow.SplitsLineBreak 7 := ⟨['é', '😀'], ['x'], rfl, rfl⟩
  have hnone : ¬wideAndNarrow.SplitsLineBreak 2 := by
    intro hinside
    exact absurd (SplitsLineBreak.halves (a := ['é']) hinside).1 (by decide)
  obtain ⟨⟨s, hs, hbetween, -⟩, -⟩ := offset_of_position hsize 7
  obtain ⟨⟨s', hs', -, helse⟩, -⟩ := offset_of_position hsize 5
  obtain rfl : s = 7 := hs.unique (isGreatest_before wideAndNarrow 7)
  obtain rfl : s' = 2 := hs'.unique (isGreatest_before wideAndNarrow 5)
  exact ⟨hsize, hbreak, hbetween hbreak, hnone, helse hnone⟩

/-- **The offset of a position leads back to the first place at or after it on its line.** -/
theorem position_of_offset (ht : size t < UInt32.size) (p : Position) :
    (t.offset? p = none ↔ newlines t + 1 ≤ p.line) ∧
    (p.line < newlines t + 1 → ∃ front content rest, t.IsLine p.line front content rest) ∧
    ∀ front content rest, t.IsLine p.line front content rest →
      ∃ b k, t.offset? p = some b ∧ t.IsBoundary b ∧ size front ≤ b ∧ b ≤ size (front ++ content) ∧
        t.position b = ⟨p.line, k⟩ ∧ content.IsColumnAt p.character k ∧
        t.offset? (t.position b) = some b := by
  refine ⟨offset?_eq_none_iff, fun hline => exists_isLine (Nat.le_of_lt_succ hline), ?_⟩
  intro front content rest h
  obtain ⟨a, c, rfl, ha, hcolumn⟩ := exists_isColumnAt content p.character
  have hoffset : t.offset? p = some (size front + size a) := by
    rw [ha]
    exact h.offset?_eq p.character
  have hposition := h.position_eq ht
  refine ⟨_, _, hoffset, isBoundary_of_offset? hoffset, Nat.le_add_right _ _, ?_, hposition,
    hcolumn, ?_⟩
  · rw [size_append, size_append]
    omega
  · rw [hposition, h.offset?_eq, columnOffset_append]

theorem position_of_offset_wideAndNarrow :
    size wideAndNarrow < UInt32.size ∧
      wideAndNarrow.IsLine 0 [] ['é', '😀'] ['\r', '\n', 'x'] ∧
      wideAndNarrow.offset? ⟨0, 2⟩ = some 6 ∧ wideAndNarrow.position 6 = ⟨0, 3⟩ ∧
      IsColumnAt ['é', '😀'] 2 3 := by
  have hsize : size wideAndNarrow < UInt32.size := by decide
  have hline : wideAndNarrow.IsLine 0 [] ['é', '😀'] ['\r', '\n', 'x'] :=
    ⟨rfl, rfl, .inl rfl, by decide, .inr (.inr ⟨['x'], rfl⟩)⟩
  obtain ⟨-, -, hplace⟩ := position_of_offset hsize ⟨0, 2⟩
  obtain ⟨b, k, hoffset, -, -, -, hposition, hcolumn, -⟩ := hplace _ _ _ hline
  have hb : wideAndNarrow.offset? ⟨0, 2⟩ = some 6 := rfl
  obtain rfl : b = 6 := Option.some.inj (hoffset.symm.trans hb)
  have hk : wideAndNarrow.position 6 = ⟨0, 3⟩ := rfl
  obtain rfl : k = 3 := (Position.mk.inj (hposition.symm.trans hk)).2
  exact ⟨hsize, hline, hoffset, hposition, hcolumn⟩

end CallerClosure.Text
