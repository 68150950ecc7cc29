import CallerClosure.Proofs.Selection.Positions
import CallerClosure.Proofs.Text.PositionOrder

/-!
# Selected spans

Lines and columns are compared by line and then by column. Reading on in a text, they grow together
with their offsets, so that the end of a selection may be compared with its start by offset.

* `Text.offsetOf_lt_iff` says that lines and columns are in the order of their offsets;
* `Text.exists_offsetOf_iff` says which offsets they have: every boundary within the content of a
  line, its ends included;
* `Selection.span_eq_ok_iff` and `Selection.span_eq_error_iff` say when a selection has a span;
* `Selection.spans_in_order` puts this together, and adds that the span selects a part of the
  text.
-/

namespace CallerClosure

namespace Text

variable {t front content returns rest front' content' returns' rest' : Text}
  {n m o o' line line' column column' : Nat}

/-! ### The order of lines and columns -/

namespace IsSelectableLine

theorem content_isPrefix (h : IsSelectableLine t n front content returns rest) :
    front ++ content <+: t :=
  ⟨returns ++ rest, by simp [h.split]⟩

/-- Between a line and a later one there is at least the newline of the first. -/
theorem size_lt (h : IsSelectableLine t n front content returns rest)
    (h' : IsSelectableLine t m front' content' returns' rest') (hlt : n < m) :
    size (front ++ content) < size front' := by
  obtain ⟨tail, hserver⟩ := h.isLine
  obtain ⟨tail', hserver'⟩ := h'.isLine
  have hle := hserver.size_le hserver' hlt
  rw [← List.append_assoc, size_append] at hle
  refine Nat.lt_of_le_of_ne (by omega) fun heq => ?_
  have hsame := eq_of_size_eq h.content_isPrefix hserver'.front_isPrefix heq
  have hnumber : newlines (front ++ content) = n := by
    rw [newlines_append, h.number, newlines_eq_zero_iff.2 h.single, Nat.add_zero]
  rw [hsame, h'.number] at hnumber
  omega

end IsSelectableLine

theorem offsetOf_lt (h : t.offsetOf line column = .ok o) (h' : t.offsetOf line' column' = .ok o')
    (hlt : toLex (line, column) < toLex (line', column')) : o < o' := by
  obtain ⟨n, front, a, b, returns, rest, rfl, rfl, hline, rfl⟩ := offsetOf_eq_ok_iff.1 h
  obtain ⟨n', front', a', b', returns', rest', rfl, rfl, hline', rfl⟩ := offsetOf_eq_ok_iff.1 h'
  rcases Prod.Lex.toLex_lt_toLex.1 hlt with hlines | ⟨hsame, hcolumns⟩
  · have hbetween := hline.size_lt hline' (Nat.lt_of_succ_lt_succ hlines)
    simp only [size_append] at hbetween ⊢
    omega
  · -- On one line, both places come after beginnings of the same content.
    obtain rfl : n = n' := Nat.succ.inj hsame
    have hfound := (hline.lineAt?_eq 0).symm.trans (hline'.lineAt?_eq 0)
    rw [Option.some.injEq, Prod.mk.injEq] at hfound
    have hlength : a.length < a'.length := Nat.lt_of_succ_lt_succ hcolumns
    obtain ⟨x, rfl⟩ : a <+: a' :=
      List.prefix_of_prefix_length_le ⟨b, hfound.2⟩ ⟨b', rfl⟩ (Nat.le_of_lt hlength)
    have hne : x ≠ [] := by
      rintro rfl
      simp at hlength
    have hpos := size_pos hne
    simp only [size_append]
    omega

/-- **Lines and columns are in the order of their offsets.** -/
theorem offsetOf_lt_iff (h : t.offsetOf line column = .ok o)
    (h' : t.offsetOf line' column' = .ok o') :
    o < o' ↔ toLex (line, column) < toLex (line', column') := by
  refine ⟨fun hlt => ?_, offsetOf_lt h h'⟩
  rcases lt_trichotomy (toLex (line, column)) (toLex (line', column')) with hlex | heq | hgt
  · exact hlex
  · obtain ⟨rfl, rfl⟩ := Prod.mk.inj (toLex_inj.1 heq)
    obtain rfl := Except.ok.inj (h.symm.trans h')
    exact absurd hlt (Nat.lt_irrefl o)
  · exact absurd (offsetOf_lt h' h hgt) (Nat.lt_asymm hlt)

/-! ### The offsets of lines and columns -/

theorem isBoundary_of_offsetOf (h : t.offsetOf line column = .ok o) : t.IsBoundary o := by
  obtain ⟨n, front, a, b, returns, rest, -, -, hline, rfl⟩ := offsetOf_eq_ok_iff.1 h
  exact ⟨front ++ a, b ++ returns ++ rest, by simp [hline.split], rfl⟩

/-- **Every place within the content of a line can be selected**, and no other place. -/
theorem exists_offsetOf_iff :
    (∃ line column, t.offsetOf line column = .ok o) ↔
      ∃ n front content returns rest, t.IsSelectableLine n front content returns rest ∧
        t.IsBoundary o ∧ size front ≤ o ∧ o ≤ size (front ++ content) := by
  constructor
  · rintro ⟨line, column, h⟩
    have hboundary := isBoundary_of_offsetOf h
    obtain ⟨n, front, a, b, returns, rest, -, -, hline, rfl⟩ := offsetOf_eq_ok_iff.1 h
    refine ⟨n, front, a ++ b, returns, rest, hline, hboundary, ?_, ?_⟩ <;>
      · simp only [size_append]
        omega
  · rintro ⟨n, front, content, returns, rest, hline, ⟨x, y, hxy, rfl⟩, hstart, hend⟩
    have hx : x <+: t := ⟨y, hxy.symm⟩
    have hfront : front <+: t := (List.prefix_append front content).trans hline.content_isPrefix
    obtain ⟨a, rfl⟩ := prefix_of_size_le hfront hx hstart
    obtain ⟨b, hb⟩ := prefix_of_size_le hx hline.content_isPrefix hend
    rw [List.append_assoc, List.append_cancel_left_eq] at hb
    subst hb
    exact ⟨n + 1, a.length + 1, offsetOf_eq_ok_iff.2
      ⟨n, front, a, b, returns, rest, rfl, rfl, hline, rfl⟩⟩

/-- The character at a place ends after it; at the end of the text there is none. -/
theorem characterEnd_append (a b : Text) :
    characterEnd (a ++ b) (size a) = size (a ++ b.take 1) := by
  rw [characterEnd, splitAt?_append]
  cases b with
  | nil => simp
  | cons c b => simp [size_append]

end Text

/-! ### Spans -/

namespace Selection

variable {t : Text} {s : Selection} {taken : Span} {start column : Nat}

theorem span_of_error {e : SelectionError} (h : t.offsetOf s.line s.column = .error e) :
    s.span t = .error e := by
  simp only [span, h, bind, Except.bind]

/-- A selection without an end takes one character. -/
theorem span_of_endColumn_eq_none (h : t.offsetOf s.line s.column = .ok start)
    (hend : s.endColumn = none) : s.span t = .ok ⟨start, t.characterEnd start⟩ := by
  have hle : start ≤ t.characterEnd start := by
    obtain ⟨a, b, rfl, rfl⟩ := Text.isBoundary_of_offsetOf h
    rw [Text.characterEnd_append, Text.size_append]
    omega
  simp [span, h, hend, bind, Except.bind, pure, Except.pure, hle]

/-- A selection with an end needs a place there, which is not before its start. -/
theorem span_of_endColumn_eq_some (h : t.offsetOf s.line s.column = .ok start)
    (hend : s.endColumn = some column) :
    s.span t = match t.offsetOf (s.endLine.getD s.line) column with
      | .error e => .error e
      | .ok stop => if stop < start then .error .reversed else .ok ⟨start, stop⟩ := by
  simp only [span, h, hend, bind, Except.bind, pure, Except.pure]
  cases t.offsetOf (s.endLine.getD s.line) column <;> rfl

/-- **A selection has a span** if it starts at a place and ends at one that is not before it. -/
theorem span_eq_ok_iff :
    s.span t = .ok taken ↔ t.offsetOf s.line s.column = .ok taken.start ∧
      (s.endColumn = none ∧ taken.stop = t.characterEnd taken.start ∨
        ∃ column, s.endColumn = some column ∧
          t.offsetOf (s.endLine.getD s.line) column = .ok taken.stop ∧
          taken.start ≤ taken.stop) := by
  obtain ⟨first, last⟩ := taken
  rcases hstart : t.offsetOf s.line s.column with e | start
  · simp [span_of_error hstart]
  rcases hend : s.endColumn with _ | column
  · rw [span_of_endColumn_eq_none hstart hend]
    simp only [Except.ok.injEq, Span.mk.injEq, true_and, reduceCtorEq, false_and, exists_false,
      or_false]
    constructor <;>
      · rintro ⟨rfl, rfl⟩
        exact ⟨rfl, rfl⟩
  · rw [span_of_endColumn_eq_some hstart hend]
    rcases hstop : t.offsetOf (s.endLine.getD s.line) column with e | stop
    · simp [hstop]
    · by_cases hreversed : stop < start
      · simp [hstop, hreversed]
        omega
      · simp [hstop, hreversed]
        omega

/-- **A selection has no span** exactly if it does not start at a place, does not end at one, or
ends before its start. -/
theorem span_eq_error_iff :
    (∃ e, s.span t = .error e) ↔ (¬∃ o, t.offsetOf s.line s.column = .ok o) ∨
      ∃ column, s.endColumn = some column ∧
        ((¬∃ o, t.offsetOf (s.endLine.getD s.line) column = .ok o) ∨
          toLex (s.endLine.getD s.line, column) < toLex (s.line, s.column)) := by
  rcases hstart : t.offsetOf s.line s.column with e | start
  · exact iff_of_true ⟨e, span_of_error hstart⟩ (.inl (by simp))
  rcases hend : s.endColumn with _ | column
  · simp [span_of_endColumn_eq_none hstart hend]
  · rw [span_of_endColumn_eq_some hstart hend]
    rcases hstop : t.offsetOf (s.endLine.getD s.line) column with e | stop
    · simp [hstop]
    · have horder := Text.offsetOf_lt_iff hstop hstart
      by_cases hreversed : stop < start
      · simp [hreversed, horder.1 hreversed]
      · simp [hstop, hreversed, (not_congr horder).1 hreversed]

/-- What a selection without an end takes is one character, or nothing at the end of the text. -/
theorem exists_slice?_characterEnd (h : t.IsBoundary start) :
    t.IsBoundary (t.characterEnd start) ∧ start ≤ t.characterEnd start ∧
      ∃ part, t.slice? ⟨start, t.characterEnd start⟩ = some part ∧
        ((∃ c, part = [c]) ∨ part = [] ∧ start = t.size) := by
  obtain ⟨a, b, rfl, rfl⟩ := h
  rw [Text.characterEnd_append]
  have hsplit : a ++ b = a ++ b.take 1 ++ b.drop 1 := by
    rw [List.append_assoc, List.take_append_drop]
  refine ⟨⟨_, _, hsplit, rfl⟩, ?_, b.take 1, Text.slice?_of_eq hsplit, ?_⟩
  · rw [Text.size_append]
    omega
  · cases b with
    | nil => exact .inr ⟨rfl, by rw [List.append_nil]⟩
    | cons c b => exact .inl ⟨c, rfl⟩

/-- **Selections are in the order of their offsets, and the span of a selection is a part of the
text.** -/
theorem spans_in_order (t : Text) :
    (∀ line column line' column' o o', t.offsetOf line column = .ok o →
      t.offsetOf line' column' = .ok o' →
      (o < o' ↔ toLex (line, column) < toLex (line', column'))) ∧
    (∀ o, (∃ line column, t.offsetOf line column = .ok o) ↔
      ∃ n front content returns rest, t.IsSelectableLine n front content returns rest ∧
        t.IsBoundary o ∧ Text.size front ≤ o ∧ o ≤ Text.size (front ++ content)) ∧
    ∀ s : Selection,
      ((∃ e, s.span t = .error e) ↔ (¬∃ o, t.offsetOf s.line s.column = .ok o) ∨
        ∃ column, s.endColumn = some column ∧
          ((¬∃ o, t.offsetOf (s.endLine.getD s.line) column = .ok o) ∨
            toLex (s.endLine.getD s.line, column) < toLex (s.line, s.column))) ∧
      ∀ taken, s.span t = .ok taken →
        t.offsetOf s.line s.column = .ok taken.start ∧
        (∀ column, s.endColumn = some column →
          t.offsetOf (s.endLine.getD s.line) column = .ok taken.stop) ∧
        taken.start ≤ taken.stop ∧ taken.stop ≤ t.size ∧
        t.IsBoundary taken.start ∧ t.IsBoundary taken.stop ∧
        ∃ part, t.slice? taken = some part ∧
          (s.endColumn = none → (∃ c, part = [c]) ∨ part = [] ∧ taken.start = t.size) := by
  refine ⟨fun line column line' column' o o' => Text.offsetOf_lt_iff,
    fun o => Text.exists_offsetOf_iff, fun s => ⟨span_eq_error_iff, fun taken h => ?_⟩⟩
  obtain ⟨hstart, ⟨hend, hstop⟩ | ⟨column, hend, hstop, hle⟩⟩ := span_eq_ok_iff.1 h
  · have hboundary := Text.isBoundary_of_offsetOf hstart
    obtain ⟨hlast, hle, part, hpart, hone⟩ := exists_slice?_characterEnd hboundary
    rw [← hstop] at hlast hle hpart
    exact ⟨hstart, by simp [hend], hle, hlast.le_size, hboundary, hlast, part, hpart, fun _ => hone⟩
  · have hboundary := Text.isBoundary_of_offsetOf hstart
    have hlast := Text.isBoundary_of_offsetOf hstop
    obtain ⟨part, hpart⟩ := Text.exists_slice? hboundary hlast hle
    refine ⟨hstart, fun column' hcolumn => ?_, hle, hlast.le_size, hboundary, hlast, part, hpart,
      by simp [hend]⟩
    obtain rfl := Option.some.inj (hend.symm.trans hcolumn)
    exact hstop

theorem spans_in_order_strayReturned :
    Text.strayReturned.offsetOf 1 3 = .ok 6 ∧ Text.strayReturned.offsetOf 2 1 = .ok 9 ∧
      toLex (1, 3) < toLex (2, 1) ∧
      (Selection.mk 1 2 none none).span Text.strayReturned = .ok ⟨2, 6⟩ ∧
      (∃ c, Text.strayReturned.slice? ⟨2, 6⟩ = some [c]) ∧
      ∃ e, (Selection.mk 2 1 (some 1) (some 3)).span Text.strayReturned = .error e := by
  obtain ⟨horder, -, hspans⟩ := spans_in_order Text.strayReturned
  have hstart : Text.strayReturned.offsetOf 1 3 = .ok 6 := rfl
  have hlater : Text.strayReturned.offsetOf 2 1 = .ok 9 := rfl
  have hlex := (horder 1 3 2 1 6 9 hstart hlater).1 (by decide)
  have hspan : (Selection.mk 1 2 none none).span Text.strayReturned = .ok ⟨2, 6⟩ := rfl
  obtain ⟨-, -, -, -, -, -, part, hpart, hone⟩ := (hspans _).2 _ hspan
  obtain ⟨c, rfl⟩ := (hone rfl).resolve_right fun hend => absurd hend.2 (by decide)
  exact ⟨hstart, hlater, hlex, hspan, ⟨c, hpart⟩, (hspans _).1.2 (.inr ⟨3, rfl, .inr hlex⟩)⟩

end Selection

end CallerClosure
