import CallerClosure.Proofs.Selection.Lines
import CallerClosure.Proofs.Text.LineTable

/-!
# Selected places as positions

The command line counts lines and columns from one, and columns in characters. A language server
counts from zero, and columns in UTF-16 code units. Between the two a place is told by its offset.

* `Text.position_of_offsetOf` says that a selected place gets the position that the characters
  before it on its line make up, and that this position leads back to it;
* `Text.lineEnds_differ_by_strayReturns` says how far apart both sides place the end of a line. They
  agree where it ends with its line break, and differ by the carriage returns that stand before
  that.
-/

namespace CallerClosure.Text

variable {t front content returns rest : Text} {n o line column start : Nat}

/-! ### Places -/

/-- **A selected place is on the same line for the server, at the units of what stands before it,
and is found again there.** -/
theorem position_of_offsetOf (ht : size t < UInt32.size) (h : t.offsetOf line column = .ok o) :
    0 < line ∧ 0 < column ∧ ∃ front content returns rest,
      t.IsSelectableLine (line - 1) front content returns rest ∧ column - 1 ≤ content.length ∧
      t.position o = ⟨line - 1, units (content.take (column - 1))⟩ ∧
      t.offset? (t.position o) = some o ∧
      t.positionByTable? o = some (t.position o) ∧
      t.offsetByTable? (t.position o) = some (some o) := by
  obtain ⟨n, front, a, b, returns, rest, rfl, rfl, hline, rfl⟩ := offsetOf_eq_ok_iff.1 h
  obtain ⟨tail, hserver⟩ := hline.isLine
  rw [List.append_assoc] at hserver
  have hposition : t.position (size (front ++ a)) = ⟨n, units a⟩ := by
    rw [size_append]
    exact hserver.position_eq ht
  have hback : t.offset? (t.position (size (front ++ a))) = some (size (front ++ a)) := by
    rw [hposition, hserver.offset?_eq, columnOffset_append, size_append]
  refine ⟨Nat.zero_lt_succ n, Nat.zero_lt_succ _, front, a ++ b, returns, rest, hline, by simp, ?_,
    hback, positionByTable?_eq t _, by rw [offsetByTable?_eq, hback]⟩
  rw [hposition, Nat.add_sub_cancel, Nat.add_sub_cancel, List.take_left]

/-- Characters of two, four and one bytes, then a line break with a carriage return in front of
it, and a line that ends with the text, after another carriage return. -/
def strayReturned : Text := ['é', '😀', '\r', '\r', '\n', 'x', '\r']

theorem position_of_offsetOf_strayReturned :
    size strayReturned < UInt32.size ∧ strayReturned.offsetOf 1 3 = .ok 6 ∧
      strayReturned.position 6 = ⟨0, 3⟩ ∧ strayReturned.offset? ⟨0, 3⟩ = some 6 := by
  have hsize : size strayReturned < UInt32.size := by decide
  have hoffset : strayReturned.offsetOf 1 3 = .ok 6 := rfl
  have hposition : strayReturned.position 6 = ⟨0, 3⟩ := rfl
  obtain ⟨-, -, -, -, -, -, -, -, -, hback, -⟩ := position_of_offsetOf hsize hoffset
  exact ⟨hsize, hoffset, hposition, hposition ▸ hback⟩

/-! ### Line ends -/

namespace IsSelectableLine

/-- The last column of a line is the one past its content. -/
theorem isGreatest_column (h : IsSelectableLine t n front content returns rest) :
    IsGreatest {column | ∃ o, t.offsetOf (n + 1) column = .ok o} (content.length + 1) := by
  refine ⟨⟨size (front ++ content), by simp [h.offsetOf_eq]⟩, ?_⟩
  rintro column ⟨o, ho⟩
  cases column with
  | zero => exact Nat.zero_le _
  | succ k =>
    rw [h.offsetOf_eq] at ho
    split at ho
    · rename_i hle
      exact Nat.succ_le_succ hle
    · cases ho

theorem offsetOf_greatest (h : IsSelectableLine t n front content returns rest) :
    t.offsetOf (n + 1) (content.length + 1) = .ok (size (front ++ content)) := by
  rw [h.offsetOf_eq, if_pos (Nat.le_refl _), List.take_length]

theorem onlyReturns_stray (h : IsSelectableLine t n front content returns rest) :
    ∀ c ∈ strayReturns returns rest, c = '\r' := fun c hc =>
  h.onlyReturns c ((strayReturns_isPrefix returns rest).mem hc)

/-- The server finds the end of a line after the carriage returns that are no part of its line
break. -/
theorem offset?_largest (h : IsSelectableLine t n front content returns rest)
    (ht : size t < UInt32.size) :
    t.offset? ⟨n, Position.largest⟩ =
      some (size (front ++ content) + (strayReturns returns rest).length) := by
  obtain ⟨tail, hserver⟩ := h.isLine
  have hunits : units (content ++ strayReturns returns rest) ≤ Position.largest := by
    have hle := units_le_size (content ++ strayReturns returns rest)
    have hlargest : UInt32.size = Position.largest + 1 := rfl
    rw [hserver.split, size_append, size_append] at ht
    omega
  rw [hserver.offset?_eq, columnOffset_of_units_le hunits, size_append, size_append,
    size_of_onlyReturns h.onlyReturns_stray, Nat.add_assoc]

end IsSelectableLine

/-- **The two ends of a line are apart by the carriage returns in front of its line break.** The
command line leaves them out, and the server does not. -/
theorem lineEnds_differ_by_strayReturns (ht : size t < UInt32.size)
    (h : t.offsetOf line 1 = .ok start) :
    0 < line ∧ ∃ front content returns rest,
      t.IsSelectableLine (line - 1) front content returns rest ∧ start = size front ∧
      IsGreatest {column | ∃ o, t.offsetOf line column = .ok o} (content.length + 1) ∧
      t.offsetOf line (content.length + 1) = .ok (size (front ++ content)) ∧
      t.offset? ⟨line - 1, Position.largest⟩ =
        some (size (front ++ content) + (strayReturns returns rest).length) ∧
      (t.offset? ⟨line - 1, Position.largest⟩ = some (size (front ++ content)) ↔
        returns = [] ∨ returns = ['\r'] ∧ rest ≠ []) := by
  obtain ⟨n, front, a, b, returns, rest, rfl, hcolumn, hline, rfl⟩ := offsetOf_eq_ok_iff.1 h
  obtain rfl : a = [] := List.length_eq_zero_iff.1 (Nat.succ.inj hcolumn).symm
  rw [List.nil_append] at hline
  refine ⟨Nat.zero_lt_succ n, front, b, returns, rest, hline, by rw [List.append_nil],
    hline.isGreatest_column, hline.offsetOf_greatest, hline.offset?_largest ht, ?_⟩
  rw [Nat.add_sub_cancel, hline.offset?_largest ht, Option.some.injEq, Nat.add_eq_left,
    List.length_eq_zero_iff]
  exact strayReturns_eq_nil_iff hline.onlyReturns

theorem lineEnds_differ_by_strayReturns_strayReturned :
    size strayReturned < UInt32.size ∧ strayReturned.offsetOf 1 1 = .ok 0 ∧
      IsGreatest {column | ∃ o, strayReturned.offsetOf 1 column = .ok o} 3 ∧
      strayReturned.offsetOf 1 3 = .ok 6 ∧
      strayReturned.offset? ⟨0, Position.largest⟩ = some 7 := by
  have hsize : size strayReturned < UInt32.size := by decide
  have hfirst : strayReturned.offsetOf 1 1 = .ok 0 := rfl
  have hthird : strayReturned.offsetOf 1 3 = .ok 6 := rfl
  have hline : IsSelectableLine strayReturned 0 [] ['é', '😀'] ['\r', '\r'] ['\n', 'x', '\r'] :=
    ⟨rfl, rfl, .inl rfl, by decide, by decide, by simp, .inr ⟨_, rfl⟩⟩
  obtain ⟨-, front, content, returns, rest, -, -, hgreatest, -⟩ :=
    lineEnds_differ_by_strayReturns hsize hfirst
  have hlength : content.length + 1 = 3 := hgreatest.unique hline.isGreatest_column
  rw [hlength] at hgreatest
  exact ⟨hsize, hfirst, hgreatest, hthird, rfl⟩

/-- A line whose line break has a carriage return of its own, after another one. -/
def twiceReturned : Text := ['a', '\r', '\r', '\n']

/-- The ends of a line are not the same on both sides. -/
theorem not_lineEnds_agree :
    ¬∀ (t : Text) (line start column o : Nat), size t < UInt32.size →
      t.offsetOf line 1 = .ok start →
      IsGreatest {column | ∃ o, t.offsetOf line column = .ok o} column →
      t.offsetOf line column = .ok o →
      t.offset? ⟨line - 1, Position.largest⟩ = some o := by
  intro h
  have hline : IsSelectableLine twiceReturned 0 [] ['a'] ['\r', '\r'] ['\n'] :=
    ⟨rfl, rfl, .inl rfl, by decide, by decide, by simp, .inr ⟨[], rfl⟩⟩
  have hagree := h twiceReturned 1 0 2 1 (by decide) rfl hline.isGreatest_column rfl
  exact absurd hagree (by decide)

end CallerClosure.Text
