import CallerClosure.Proofs.Text.Places
import CallerClosure.Proofs.Text.Utf8

/-!
# The table of line starts

Positions, offsets and whole lines can also be read off the table of line starts: a line is looked
up in the table, and the part of the text that is needed is cut out. A look-up in a table may go
past its end, and a cut may run past the text or through a character; then there is no result.

* `Text.positionByTable?`, `Text.offsetByTable?` and `Text.wholeLinesByTable?` work in this way;
* `Text.pairwise_lineStarts` says that the table is sorted, and `Text.lineStarts_eq` where an offset
  divides it;
* `Text.positionByTable?_eq`, `Text.offsetByTable?_eq` and `Text.wholeLinesByTable?_eq` say that no
  look-up and no cut ever fails, and that the results are those of `Text.position`, `Text.offset?`
  and `Text.wholeLines`.
-/

namespace CallerClosure.Text

variable {t a b front content rest : Text} {n o : Nat}

/-! ### Reading the table -/

/-- The number of the line that holds an offset: where the first line after it stands in the
table, less one. -/
def lineOf (t : Text) (o : Nat) : Nat :=
  (lineStarts t).findIdx (fun start => decide (o < start)) - 1

/-- The last boundary at or before an offset, found by stepping back byte by byte. -/
def stepBack (t : Text) : Nat → Nat
  | 0 => 0
  | o + 1 => if (splitAt? t (o + 1)).isSome then o + 1 else stepBack t o

/-- The position of an offset, from the text between the start of its line and the last boundary
that is not after it. -/
def positionByTable? (t : Text) (o : Nat) : Option Position := do
  let stop := stepBack t (min o (size t))
  let start ← (lineStarts t)[lineOf t stop]?
  let part ← slice? t ⟨start, stop⟩
  return ⟨Position.clamp (lineOf t stop), Position.clamp (units part)⟩

/-- Where the content of a line ends: in front of its newline, and of a byte that is a carriage
return before it. -/
def lineEnd? (t : Text) (line : Nat) : Option Nat :=
  match (lineStarts t)[line + 1]? with
  | none => some (size t)
  | some next =>
    let stop := next - 1
    if 0 < stop then do
      let byte ← (Utf8.encode t)[stop - 1]?
      return if byte = 13 then stop - 1 else stop
    else some stop

/-- The bytes of a line in front of a column, where `seen` code units and `bytes` bytes of the line
have been passed already. -/
def columnScan (column : Nat) : Text → Nat → Nat → Nat
  | [], _, bytes => bytes
  | c :: line, seen, bytes =>
    if column ≤ seen then bytes
    else columnScan column line (seen + unitsOf c) (bytes + c.utf8Size)

/-- The offset of a position, if its line is in the table, from the content of this line. -/
def offsetByTable? (t : Text) (p : Position) : Option (Option Nat) :=
  match (lineStarts t)[p.line]? with
  | none => some none
  | some start => do
    let stop ← lineEnd? t p.line
    let content ← slice? t ⟨start, stop⟩
    return some (start + columnScan p.character content 0 0)

/-- A span widened to whole lines, from the starts of its first line and of the line after its
last one. -/
def wholeLinesByTable? (t : Text) (s : Span) : Option Span := do
  let start ← (lineStarts t)[lineOf t s.start]?
  let stop := min s.stop (size t)
  return if start < stop ∧ stop ∈ lineStarts t then Span.ofBounds start stop
    else Span.ofBounds start ((lineStarts t)[lineOf t stop + 1]?.getD (size t))

/-! ### The order of the table -/

theorem lineStartsFrom_append (a b : Text) (k : Nat) :
    lineStartsFrom (a ++ b) k = lineStartsFrom a k ++ lineStartsFrom b (k + size a) := by
  induction a generalizing k with
  | nil => rfl
  | cons c a ih =>
    rw [List.cons_append, lineStartsFrom, lineStartsFrom, ih, size_cons, ← Nat.add_assoc]
    split <;> rfl

theorem length_lineStartsFrom (t : Text) (k : Nat) :
    (lineStartsFrom t k).length = newlines t := by
  induction t generalizing k with
  | nil => rfl
  | cons c t ih =>
    rw [lineStartsFrom]
    split
    · rename_i hc
      subst hc
      rw [List.length_cons, ih, newlines_cons_newline]
    · rename_i hc
      rw [ih]
      simp [newlines, hc]

theorem length_lineStarts (t : Text) : (lineStarts t).length = newlines t + 1 := by
  rw [lineStarts, List.length_cons, length_lineStartsFrom]

theorem bounds_of_mem_lineStartsFrom {k : Nat} (h : o ∈ lineStartsFrom t k) :
    k < o ∧ o ≤ k + size t := by
  obtain ⟨a, b, rfl, rfl⟩ := mem_lineStartsFrom.1 h
  have hnewline : '\n'.utf8Size = 1 := rfl
  rw [size_append, size_append, size_cons, size_cons, size_nil]
  omega

theorem pairwise_lineStartsFrom (t : Text) (k : Nat) :
    (lineStartsFrom t k).Pairwise (· < ·) := by
  induction t generalizing k with
  | nil => exact .nil
  | cons c t ih =>
    rw [lineStartsFrom]
    split
    · exact .cons (fun o ho => (bounds_of_mem_lineStartsFrom ho).1) (ih _)
    · exact ih _

/-- Lines start one after the other. -/
theorem pairwise_lineStarts (t : Text) : (lineStarts t).Pairwise (· < ·) :=
  .cons (fun _ ho => (bounds_of_mem_lineStartsFrom ho).1) (pairwise_lineStartsFrom t 0)

/-- An offset divides the table: the line starts in what lies before it come first. -/
theorem lineStarts_eq (t : Text) (o : Nat) :
    ∃ late, lineStarts t = (0 :: lineStartsFrom (before t o) 0) ++ late ∧
      (∀ start ∈ 0 :: lineStartsFrom (before t o) 0, start ≤ o) ∧ ∀ start ∈ late, o < start := by
  obtain ⟨b, hb⟩ := before_isPrefix t o
  refine ⟨lineStartsFrom b (size (before t o)), ?_, ?_, ?_⟩
  · conv_lhs => rw [lineStarts, ← hb, lineStartsFrom_append, Nat.zero_add]
    rfl
  · intro start hstart
    rcases List.mem_cons.1 hstart with rfl | hmem
    · exact Nat.zero_le o
    · have := (bounds_of_mem_lineStartsFrom hmem).2
      have := size_before_le t o
      omega
  · intro start hmem
    have hlate := (bounds_of_mem_lineStartsFrom hmem).1
    have hboundary : t.IsBoundary start :=
      isBoundary_of_mem_lineStarts (List.mem_cons_of_mem 0 (by
        rw [← hb, lineStartsFrom_append, Nat.zero_add]
        exact List.mem_append_right _ hmem))
    by_contra hle
    have := (isGreatest_before t o).2 ⟨hboundary, le_min (by omega) hboundary.le_size⟩
    omega

theorem lineOf_eq (t : Text) (o : Nat) : lineOf t o = newlines (before t o) := by
  obtain ⟨late, heq, hearly, hlate⟩ := lineStarts_eq t o
  have hfirst : (0 :: lineStartsFrom (before t o) 0).findIdx (fun start => decide (o < start)) =
      (0 :: lineStartsFrom (before t o) 0).length := by
    rw [List.findIdx_eq_length]
    intro start hstart
    simpa using hearly start hstart
  have hrest : late.findIdx (fun start => decide (o < start)) = 0 := by
    cases late with
    | nil => rfl
    | cons start late =>
      have hstart : decide (o < start) = true := by simpa using hlate start List.mem_cons_self
      rw [List.findIdx_cons, hstart]
      rfl
  rw [lineOf, heq, List.findIdx_append, hfirst, hrest, if_neg (Nat.lt_irrefl _), List.length_cons,
    length_lineStartsFrom]
  omega

/-- The start of a line is found under its number. -/
theorem getElem?_lineStarts (h : front <+: t)
    (hstarts : front = [] ∨ front.getLast? = some '\n') :
    (lineStarts t)[newlines front]? = some (size front) := by
  obtain ⟨rest, rfl⟩ := h
  rcases hstarts with rfl | hlast
  · rfl
  · obtain ⟨f, rfl⟩ := List.getLast?_eq_some_iff.1 hlast
    have hnumber : newlines (f ++ ['\n']) = (lineStartsFrom f 0).length + 1 := by
      rw [newlines_append, length_lineStartsFrom]
      rfl
    rw [lineStarts, lineStartsFrom_append, lineStartsFrom_append, hnumber, List.getElem?_cons_succ,
      List.append_assoc, List.getElem?_append_right (Nat.le_refl _), Nat.sub_self, size_append]
    simp [lineStartsFrom]

theorem lineStart_eq_getLast (t : Text) (o : Nat) :
    (0 :: lineStartsFrom (before t o) 0).getLast? = some (lineStart t o) := by
  obtain ⟨late, heq, hearly, hlate⟩ := lineStarts_eq t o
  have hfilter : (lineStarts t).filter (fun start => decide (start ≤ o)) =
      0 :: lineStartsFrom (before t o) 0 := by
    rw [heq, List.filter_append, List.filter_eq_self.2 (by simpa using hearly),
      List.filter_eq_nil_iff.2 (by simpa using hlate), List.append_nil]
  rw [lineStart, hfilter, List.getLastD_eq_getLast?, List.getLast?_cons]
  rfl

theorem getElem?_lineOf (t : Text) (o : Nat) :
    (lineStarts t)[lineOf t o]? = some (lineStart t o) := by
  obtain ⟨late, heq, -, -⟩ := lineStarts_eq t o
  rw [← lineStart_eq_getLast t o, List.getLast?_eq_getElem?, List.length_cons,
    length_lineStartsFrom, Nat.add_sub_cancel, lineOf_eq, heq, List.getElem?_append_left]
  rw [List.length_cons, length_lineStartsFrom]
  omega

theorem getElem?_lineOf_succ (t : Text) (o : Nat) :
    (lineStarts t)[lineOf t o + 1]?.getD (size t) = nextLineStart t o := by
  obtain ⟨late, heq, hearly, hlate⟩ := lineStarts_eq t o
  have hnone : (0 :: lineStartsFrom (before t o) 0).filter (fun start => decide (o < start)) = [] :=
    List.filter_eq_nil_iff.2 (by simpa using hearly)
  have hfilter : (lineStarts t).filter (fun start => decide (o < start)) = late := by
    rw [heq, List.filter_append, hnone, List.filter_eq_self.2 (by simpa using hlate),
      List.nil_append]
  have hlength : (0 :: lineStartsFrom (before t o) 0).length = newlines (before t o) + 1 := by
    rw [List.length_cons, length_lineStartsFrom]
  rw [nextLineStart, hfilter, lineOf_eq, heq, ← hlength,
    List.getElem?_append_right (Nat.le_refl _), Nat.sub_self, ← List.head?_eq_getElem?,
    List.headD_eq_head?_getD]

/-! ### Look-ups and cuts never fail -/

theorem isSome_splitAt?_iff : (splitAt? t o).isSome ↔ t.IsBoundary o := by
  constructor
  · intro h
    obtain ⟨⟨a, b⟩, hcut⟩ := Option.isSome_iff_exists.1 h
    exact ⟨a, b, (append_of_splitAt? hcut).symm, size_of_splitAt? hcut⟩
  · rintro ⟨a, b, rfl, rfl⟩
    rw [splitAt?_append]
    rfl

theorem isGreatest_stepBack (t : Text) (o : Nat) :
    IsGreatest {b | t.IsBoundary b ∧ b ≤ o} (stepBack t o) := by
  induction o with
  | zero => exact ⟨⟨⟨[], t, rfl, rfl⟩, Nat.le_refl 0⟩, fun b hb => hb.2⟩
  | succ o ih =>
    rw [stepBack]
    split
    · rename_i hcut
      exact ⟨⟨isSome_splitAt?_iff.1 hcut, Nat.le_refl _⟩, fun b hb => hb.2⟩
    · rename_i hcut
      refine ⟨⟨ih.1.1, Nat.le_succ_of_le ih.1.2⟩, ?_⟩
      rintro b ⟨hb, hle⟩
      rcases Nat.lt_or_eq_of_le hle with hlt | rfl
      · exact ih.2 ⟨hb, Nat.le_of_lt_succ hlt⟩
      · exact absurd (isSome_splitAt?_iff.2 hb) hcut

theorem stepBack_eq (t : Text) (o : Nat) : stepBack t (min o (size t)) = size (before t o) :=
  (isGreatest_stepBack t _).unique (isGreatest_before t o)

theorem slice?_of_eq (h : t = a ++ b ++ rest) :
    slice? t ⟨size a, size (a ++ b)⟩ = some b := by
  rw [h]
  exact slice?_append a b rest

/-- The text between the start of a line and a place on it can be cut out, and its units are the
column of the place. -/
theorem positionByTable?_eq (t : Text) (o : Nat) : positionByTable? t o = some (position t o) := by
  obtain ⟨front, ha, -, hstarts, hnumber⟩ := exists_lastLine (before t o)
  obtain ⟨b, hb⟩ := before_isPrefix t o
  have hline : lineOf t (size (before t o)) = newlines (before t o) := by
    rw [lineOf_eq, before_size ⟨b, hb⟩]
  have hsplit : t = front ++ lastLine (before t o) ++ b := by rw [← ha, hb]
  have hstart : (lineStarts t)[newlines (before t o)]? = some (size front) := by
    rw [← hnumber]
    exact getElem?_lineStarts ⟨_, by rw [← List.append_assoc, ← hsplit]⟩ hstarts
  have hpart : slice? t ⟨size front, size (before t o)⟩ = some (lastLine (before t o)) := by
    conv_lhs => rw [ha]
    exact slice?_of_eq hsplit
  simp only [positionByTable?, stepBack_eq, hline, hstart, Option.bind_eq_bind, Option.bind_some,
    hpart]
  rfl

theorem IsLine.getElem?_lineStarts (h : IsLine t n front content rest) :
    (lineStarts t)[n]? = some (size front) := by
  rw [← h.number]
  exact Text.getElem?_lineStarts h.front_isPrefix h.starts

/-- What ends at a newline ends before it, and before a carriage return in front of it. -/
theorem lineEnd?_of_newline (h : t = a ++ '\n' :: b) :
    lineEnd? t (newlines a) = some (size (dropReturn a)) := by
  have hnext : (lineStarts t)[newlines a + 1]? = some (size (a ++ ['\n'])) := by
    have hnumber : newlines (a ++ ['\n']) = newlines a + 1 := newlines_append a ['\n']
    rw [← hnumber]
    exact getElem?_lineStarts ⟨b, by rw [h, List.append_cons a '\n' b]⟩
      (.inr (List.getLast?_concat))
  have hstop : size (a ++ ['\n']) - 1 = size a := by
    rw [size_append]
    exact Nat.add_sub_cancel _ 1
  simp only [lineEnd?, hnext, hstop]
  rcases List.eq_nil_or_concat a with rfl | ⟨w, c, rfl⟩
  · rfl
  · obtain ⟨byte, hbyte, hiff⟩ := Utf8.exists_lastByte (a := w.concat c) (by simp) ('\n' :: b)
    rw [if_pos (size_pos (by simp)), h, hbyte, Option.bind_eq_bind, Option.bind_some]
    simp only [hiff, List.concat_eq_append, List.getLast?_concat, dropReturn, Option.some.injEq,
      List.dropLast_concat]
    split
    · rename_i hc
      subst hc
      rw [size_append]
      rfl
    · rfl

namespace IsLine

/-- The content of a line ends where the table and the bytes around it say. -/
theorem lineEnd?_eq (h : IsLine t n front content rest) :
    lineEnd? t n = some (size (front ++ content)) := by
  rcases h.ends with rfl | ⟨after, rfl, -⟩ | ⟨after, rfl⟩
  · have hnone : (lineStarts t)[n + 1]? = none := by
      rw [List.getElem?_eq_none_iff, length_lineStarts, h.split, List.append_nil,
        h.newlines_content]
    rw [lineEnd?, hnone, h.split, List.append_nil]
  · rw [← h.newlines_content, lineEnd?_of_newline h.split, dropReturn, if_neg h.getLast?_ne]
  · have hsplit : t = (front ++ content ++ ['\r']) ++ '\n' :: after := by
      rw [h.split, ← List.append_cons]
    have hdropped : dropReturn (front ++ content ++ ['\r']) = front ++ content := by
      simp [dropReturn]
    have hnumber : newlines (front ++ content ++ ['\r']) = n := by
      rw [newlines_append, h.newlines_content]
      rfl
    rw [← hnumber, lineEnd?_of_newline hsplit, hdropped]

end IsLine

/-- Counting up to a column is counting down what is left of it. -/
theorem columnScan_eq (line : Text) (column seen bytes : Nat) :
    columnScan column line seen bytes = bytes + columnOffset line (column - seen) := by
  induction line generalizing seen bytes with
  | nil => rfl
  | cons c line ih =>
    rw [columnScan]
    split
    · rename_i hreached
      rw [Nat.sub_eq_zero_of_le hreached, columnOffset_zero, Nat.add_zero]
    · rename_i hbefore
      obtain ⟨k, hk⟩ := Nat.exists_eq_add_one.2 (Nat.sub_pos_of_lt (Nat.lt_of_not_le hbefore))
      rw [ih, hk, columnOffset, ← hk, Nat.sub_sub, Nat.add_assoc]

/-- The content of every line in the table can be cut out, and no other line has an offset. -/
theorem offsetByTable?_eq (t : Text) (p : Position) :
    offsetByTable? t p = some (offset? t p) := by
  rcases Nat.lt_or_ge (newlines t) p.line with hline | hline
  · have hnone : (lineStarts t)[p.line]? = none := by
      rw [List.getElem?_eq_none_iff, length_lineStarts]
      exact hline
    rw [offsetByTable?, hnone, offset?_eq_none_iff.2 hline]
  · obtain ⟨front, content, rest, h⟩ := exists_isLine hline
    simp only [offsetByTable?, h.getElem?_lineStarts, h.lineEnd?_eq, Option.bind_eq_bind,
      Option.bind_some, slice?_of_eq h.split, columnScan_eq, Nat.zero_add, Nat.sub_zero]
    exact congrArg some (h.offset?_eq p.character).symm

theorem wholeLinesByTable?_eq (t : Text) (s : Span) :
    wholeLinesByTable? t s = some (wholeLines t s) := by
  have hmin : min s.stop (size t) = if s.stop ≤ size t then s.stop else size t := by
    rw [Nat.min_def]
  simp only [wholeLinesByTable?, wholeLines, getElem?_lineOf, getElem?_lineOf_succ, hmin,
    Option.bind_eq_bind, Option.bind_some]
  rfl

end CallerClosure.Text
