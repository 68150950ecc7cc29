import CallerClosure.Proofs.Text.Places
import Mathlib.Data.Prod.Lex

/-!
# The order of positions

Positions are ordered by line and then by character. Reading on in a text, offsets and positions
grow together:

* `Text.position_mono` and `Text.offset?_mono` say so, although both functions clamp;
* `Text.span?_of_le` says that the span of an ordered range runs from the offset of its start to
  that of its stop;
* `Text.positions_in_order` adds that a range within another one has a span within its span.
-/

namespace CallerClosure

/-- Positions are ordered by line, then by character. -/
instance : LE Position where
  le p q := toLex (p.line, p.character) ≤ toLex (q.line, q.character)

namespace Position

variable {p q : Position}

theorem le_iff : p ≤ q ↔ p.line < q.line ∨ p.line = q.line ∧ p.character ≤ q.character :=
  Prod.Lex.toLex_le_toLex

theorem line_le_of_le (h : p ≤ q) : p.line ≤ q.line := by
  rcases le_iff.1 h with hlt | ⟨heq, -⟩
  · exact Nat.le_of_lt hlt
  · exact Nat.le_of_eq heq

end Position

namespace Text

variable {t a x front content rest : Text}

/-! ### Positions of later offsets -/

theorem lastLine_append_of_notMem (h : '\n' ∉ x) : lastLine (a ++ x) = lastLine a ++ x := by
  obtain ⟨front, ha, hlast, hstarts, -⟩ := exists_lastLine a
  have hnone : '\n' ∉ lastLine a ++ x := by
    rw [List.mem_append, not_or]
    exact ⟨hlast, h⟩
  conv_lhs => rw [ha, List.append_assoc]
  exact lastLine_append hstarts hnone

theorem position_mono (ht : size t < UInt32.size) {o o' : Nat} (h : o ≤ o') :
    position t o ≤ position t o' := by
  obtain ⟨x, hx⟩ := before_isPrefix_before t h
  rw [position_eq ht, position_eq ht, Position.le_iff, ← hx, newlines_append]
  by_cases hnewline : '\n' ∈ x
  · left
    have : newlines x ≠ 0 := fun hzero => newlines_eq_zero_iff.1 hzero hnewline
    show newlines (before t o) < newlines (before t o) + newlines x
    omega
  · right
    rw [newlines_eq_zero_iff.2 hnewline, lastLine_append_of_notMem hnewline, units_append]
    exact ⟨rfl, Nat.le_add_right _ _⟩

/-! ### Offsets of later positions -/

theorem exists_isLine_of_offset? {p : Position} {o : Nat} (h : offset? t p = some o) :
    ∃ front content rest, IsLine t p.line front content rest ∧
      o = size front + columnOffset content p.character := by
  have hline : p.line ≤ newlines t := by
    by_contra hlt
    rw [offset?_eq_none_iff.2 (Nat.lt_of_not_le hlt)] at h
    cases h
  obtain ⟨front, content, rest, hisLine⟩ := exists_isLine hline
  exact ⟨front, content, rest, hisLine,
    Option.some.inj (h.symm.trans (hisLine.offset?_eq p.character))⟩

/-- A line ends before a later one starts. -/
theorem IsLine.size_le {n m : Nat} {front' content' rest' : Text}
    (h : IsLine t n front content rest) (h' : IsLine t m front' content' rest') (hlt : n < m) :
    size (front ++ content) ≤ size front' := by
  have hpre : front ++ content <+: t := ⟨rest, h.split.symm⟩
  rcases List.prefix_or_prefix_of_prefix hpre h'.front_isPrefix with hle | hge
  · exact size_le_of_isPrefix hle
  · have := newlines_le_of_isPrefix hge
    rw [h'.number, h.newlines_content] at this
    omega

theorem offset?_mono {p q : Position} {o o' : Nat} (h : p ≤ q) (hp : offset? t p = some o)
    (hq : offset? t q = some o') : o ≤ o' := by
  obtain ⟨front, content, rest, hline, rfl⟩ := exists_isLine_of_offset? hp
  rcases Position.le_iff.1 h with hlt | ⟨heq, hcharacter⟩
  · obtain ⟨front', content', rest', hline', rfl⟩ := exists_isLine_of_offset? hq
    have hbefore := hline.size_le hline' hlt
    have hcolumn := columnOffset_le_size content p.character
    rw [size_append] at hbefore
    omega
  · have hsame : offset? t q = some (size front + columnOffset content q.character) := by
      rw [heq] at hline
      exact hline.offset?_eq q.character
    obtain rfl := Option.some.inj (hq.symm.trans hsame)
    exact Nat.add_le_add_left (columnOffset_mono content hcharacter) _

theorem exists_offset? {p : Position} (h : p.line < newlines t + 1) :
    ∃ o, offset? t p = some o := by
  obtain ⟨front, content, rest, hline⟩ := exists_isLine (Nat.le_of_lt_succ h)
  exact ⟨_, hline.offset?_eq p.character⟩

/-! ### Spans of ranges -/

/-- The span of an ordered range takes its offsets in this order. -/
theorem span?_of_le {r : Range} (h : r.start ≤ r.stop) :
    t.span? r = (t.offset? r.start).bind fun o => (t.offset? r.stop).map fun o' => ⟨o, o'⟩ := by
  unfold span?
  cases hstart : t.offset? r.start with
  | none => rfl
  | some o =>
    cases hstop : t.offset? r.stop with
    | none => rfl
    | some o' =>
      have hle := offset?_mono h hstart hstop
      dsimp only [Option.bind_some, Option.map_some]
      rw [Span.ofBounds_of_le hle]

/-- **Offsets and positions are in the same order**, and ranges contain each other as their spans
do. -/
theorem positions_in_order (ht : size t < UInt32.size) :
    (∀ o o', o ≤ o' → t.position o ≤ t.position o') ∧
    (∀ p q : Position, p ≤ q → p.line < newlines t + 1 → q.line < newlines t + 1 →
      ∃ o o', t.offset? p = some o ∧ t.offset? q = some o' ∧ o ≤ o') ∧
    (∀ r : Range, r.start ≤ r.stop → t.span? r =
      (t.offset? r.start).bind fun o => (t.offset? r.stop).map fun o' => ⟨o, o'⟩) ∧
    ∀ r r' : Range, r.start ≤ r.stop → r'.start ≤ r'.stop → r.start ≤ r'.start →
      r'.stop ≤ r.stop → r.stop.line < newlines t + 1 →
      ∃ s s', t.span? r = some s ∧ t.span? r' = some s' ∧ s.Covers s' := by
  refine ⟨fun o o' => position_mono ht, ?_, fun r => span?_of_le, ?_⟩
  · intro p q hle hp hq
    obtain ⟨o, ho⟩ := exists_offset? hp
    obtain ⟨o', ho'⟩ := exists_offset? hq
    exact ⟨o, o', ho, ho', offset?_mono hle ho ho'⟩
  · intro r r' hr hr' hstart hstop hline
    have hline' := (Position.line_le_of_le hstop).trans_lt hline
    obtain ⟨a, ha⟩ := exists_offset? (t := t) (p := r.start)
      ((Position.line_le_of_le hr).trans_lt hline)
    obtain ⟨b, hb⟩ := exists_offset? hline
    obtain ⟨a', ha'⟩ := exists_offset? (t := t) (p := r'.start)
      ((Position.line_le_of_le hr').trans_lt hline')
    obtain ⟨b', hb'⟩ := exists_offset? hline'
    refine ⟨⟨a, b⟩, ⟨a', b'⟩, ?_, ?_, offset?_mono hstart ha ha', offset?_mono hstop hb' hb⟩
    · rw [span?_of_le hr, ha, hb]
      rfl
    · rw [span?_of_le hr', ha', hb']
      rfl

/-- Two lines with a line break of two characters. -/
def brokenLine : Text := ['a', '\r', '\n', 'b']

theorem positions_in_order_brokenLine :
    size brokenLine < UInt32.size ∧ brokenLine.position 2 ≤ brokenLine.position 3 ∧
      (⟨0, 9⟩ : Position) ≤ ⟨1, 0⟩ ∧
      brokenLine.span? ⟨⟨0, 0⟩, ⟨1, 5⟩⟩ = some ⟨0, 4⟩ ∧
      brokenLine.span? ⟨⟨0, 9⟩, ⟨1, 0⟩⟩ = some ⟨1, 3⟩ ∧ (⟨0, 4⟩ : Span).Covers ⟨1, 3⟩ := by
  have hsize : size brokenLine < UInt32.size := by decide
  have houter : (⟨0, 0⟩ : Position) ≤ ⟨1, 5⟩ := Position.le_iff.2 (.inl (by decide))
  have hinner : (⟨0, 9⟩ : Position) ≤ ⟨1, 0⟩ := Position.le_iff.2 (.inl (by decide))
  have hstart : (⟨0, 0⟩ : Position) ≤ ⟨0, 9⟩ := Position.le_iff.2 (.inr ⟨rfl, by decide⟩)
  have hstop : (⟨1, 0⟩ : Position) ≤ ⟨1, 5⟩ := Position.le_iff.2 (.inr ⟨rfl, by decide⟩)
  obtain ⟨hposition, -, -, hcovers⟩ := positions_in_order hsize
  obtain ⟨s, s', hs, hs', hcover⟩ :=
    hcovers ⟨⟨0, 0⟩, ⟨1, 5⟩⟩ ⟨⟨0, 9⟩, ⟨1, 0⟩⟩ houter hinner hstart hstop (by decide)
  have hspan : brokenLine.span? ⟨⟨0, 0⟩, ⟨1, 5⟩⟩ = some ⟨0, 4⟩ := rfl
  have hspan' : brokenLine.span? ⟨⟨0, 9⟩, ⟨1, 0⟩⟩ = some ⟨1, 3⟩ := rfl
  obtain rfl := Option.some.inj (hs.symm.trans hspan)
  obtain rfl := Option.some.inj (hs'.symm.trans hspan')
  exact ⟨hsize, hposition 2 3 (by decide), hinner, hs, hs', hcover⟩

end Text

end CallerClosure
