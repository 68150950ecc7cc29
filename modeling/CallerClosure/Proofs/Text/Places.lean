import CallerClosure.Proofs.Text.Lines
import CallerClosure.Proofs.Text.Numbers
import CallerClosure.Text.Utf8
import Mathlib.Order.Bounds.Basic

/-!
# Places in a text

An offset names a place by counting bytes, a position by counting lines and UTF-16 code units.

* `Text.isGreatest_before` says which boundary an offset is taken to;
* `Text.IsLine` tells a line of a text from what stands around it. Its content ends before the
  newline, and before a carriage return in front of that newline;
* `Text.IsColumnAt` is the column that a place on a line gets for the column asked for;
* `IsLine.offset?_eq` and `IsLine.position_eq` read both functions off the line, and
  `exists_isLine_around` finds the line of a place: a place lies in the content of its line, or
  between the carriage return and the newline that end it.
-/

namespace CallerClosure.Text

variable {t a b front content rest : Text} {n o : Nat}

/-! ### What lies before an offset -/

theorem size_le_of_isPrefix (h : a <+: b) : size a ≤ size b := by
  obtain ⟨x, rfl⟩ := h
  rw [size_append]
  omega

theorem before_isPrefix (t : Text) (o : Nat) : before t o <+: t := by
  induction t generalizing o with
  | nil => exact List.prefix_refl []
  | cons c t ih =>
    rw [before]
    split
    · exact (List.prefix_cons_inj c).2 (ih _)
    · exact List.nil_prefix

theorem size_before_le (t : Text) (o : Nat) : size (before t o) ≤ o := by
  induction t generalizing o with
  | nil => exact Nat.zero_le o
  | cons c t ih =>
    rw [before]
    split
    · have := ih (o - c.utf8Size)
      rw [size_cons]
      omega
    · exact Nat.zero_le o

/-- A beginning of a text that ends by an offset is a beginning of what lies before it. -/
theorem isPrefix_before (ha : a <+: t) (h : size a ≤ o) : a <+: before t o := by
  induction t generalizing a o with
  | nil =>
    rw [List.prefix_nil.1 ha]
    exact List.nil_prefix
  | cons c t ih =>
    rcases List.prefix_cons_iff.1 ha with rfl | ⟨a', rfl, ha'⟩
    · exact List.nil_prefix
    · rw [size_cons] at h
      rw [before, if_pos (by omega)]
      exact (List.prefix_cons_inj c).2 (ih ha' (by omega))

/-- What lies before an offset ends at the last boundary that is not above it. -/
theorem isGreatest_before (t : Text) (o : Nat) :
    IsGreatest {b | t.IsBoundary b ∧ b ≤ min o (size t)} (size (before t o)) := by
  obtain ⟨x, hx⟩ := before_isPrefix t o
  have hle := size_le_of_isPrefix (before_isPrefix t o)
  refine ⟨⟨⟨_, x, hx.symm, rfl⟩, le_min (size_before_le t o) hle⟩, ?_⟩
  rintro b ⟨⟨a, y, hay, rfl⟩, hb⟩
  exact size_le_of_isPrefix (isPrefix_before ⟨y, hay.symm⟩ (hb.trans (min_le_left _ _)))

/-- What lies before the end of a beginning is this beginning. -/
theorem before_size (ha : a <+: t) : before t (size a) = a := by
  have hle := size_le_of_isPrefix (isPrefix_before ha (Nat.le_refl (size a)))
  exact eq_of_size_eq (before_isPrefix _ _) ha (Nat.le_antisymm (size_before_le _ _) hle)

theorem before_isPrefix_before (t : Text) {o p : Nat} (h : o ≤ p) :
    before t o <+: before t p :=
  isPrefix_before (before_isPrefix t o) ((size_before_le t o).trans h)

/-! ### Newlines and the last line -/

theorem newlines_append (a b : Text) : newlines (a ++ b) = newlines a + newlines b := by
  simp [newlines]

@[simp] theorem newlines_cons_newline (t : Text) : newlines ('\n' :: t) = newlines t + 1 := by
  simp [newlines]

theorem newlines_eq_zero_iff : newlines t = 0 ↔ '\n' ∉ t := by
  simp only [newlines, List.length_eq_zero_iff, List.filter_eq_nil_iff, beq_iff_eq]
  constructor
  · intro h hmem
    exact h '\n' hmem rfl
  · rintro h c hc rfl
    exact h hc

theorem newlines_le_of_isPrefix (h : a <+: b) : newlines a ≤ newlines b := by
  obtain ⟨x, rfl⟩ := h
  rw [newlines_append]
  omega

theorem newlines_le_size (t : Text) : newlines t ≤ size t := by
  induction t with
  | nil => exact Nat.le_refl 0
  | cons c t ih =>
    have hpos := c.utf8Size_pos
    have hcons : newlines (c :: t) ≤ newlines t + 1 := by
      have := List.length_filter_le (· == '\n') [c]
      rw [← List.singleton_append, newlines_append]
      simp only [newlines, List.length_singleton] at this ⊢
      omega
    rw [size_cons]
    omega

theorem unitsOf_le_utf8Size (c : Char) : unitsOf c ≤ c.utf8Size := by
  have hpos := c.utf8Size_pos
  unfold unitsOf
  split
  · exact hpos
  · rename_i hlarge
    rw [← Utf8.length_encodeChar, Utf8.encodeChar]
    simp [show ¬c.toNat < 0x80 by omega, show ¬c.toNat < 0x800 by omega,
      show ¬c.toNat < 0x10000 by omega]

theorem units_le_size (t : Text) : units t ≤ size t := by
  induction t with
  | nil => exact Nat.le_refl 0
  | cons c t ih => exact Nat.add_le_add (unitsOf_le_utf8Size c) ih

/-- What follows the last newline is the last line. -/
theorem lastLine_append (hfront : front = [] ∨ front.getLast? = some '\n') (ha : '\n' ∉ a) :
    lastLine (front ++ a) = a := by
  have hall : ∀ c ∈ a.reverse, decide (c ≠ '\n') = true := by
    intro c hc
    rw [decide_eq_true_iff]
    rintro rfl
    exact ha (List.mem_reverse.1 hc)
  have hnone : front.reverse.takeWhile (· ≠ '\n') = [] := by
    rcases hfront with rfl | hlast
    · rfl
    · obtain ⟨f, rfl⟩ := List.getLast?_eq_some_iff.1 hlast
      simp
  rw [lastLine, List.reverse_append, List.takeWhile_append_of_pos hall, hnone, List.append_nil,
    List.reverse_reverse]

/-- A text ends with its last line, which stands at its start or after a newline. -/
theorem exists_lastLine (t : Text) :
    ∃ front, t = front ++ lastLine t ∧ '\n' ∉ lastLine t ∧
      (front = [] ∨ front.getLast? = some '\n') ∧ newlines front = newlines t := by
  obtain ⟨front, ht, hlast, hstarts⟩ : ∃ front, t = front ++ lastLine t ∧ '\n' ∉ lastLine t ∧
      (front = [] ∨ front.getLast? = some '\n') := by
    by_cases h : '\n' ∈ t.reverse
    · obtain ⟨x, y, hxy, hx⟩ := List.eq_append_cons_of_mem h
      have ht : t = (y.reverse ++ ['\n']) ++ x.reverse := by
        rw [← List.reverse_reverse t, hxy]
        simp
      have hlast : lastLine t = x.reverse := by
        rw [ht]
        exact lastLine_append (.inr (by simp)) (by simpa using hx)
      exact ⟨_, by rw [hlast]; exact ht, by simpa [hlast] using hx, .inr (by simp)⟩
    · have hlast : lastLine ([] ++ t) = t := lastLine_append (.inl rfl) (by simpa using h)
      rw [List.nil_append] at hlast
      exact ⟨[], by rw [hlast]; rfl, by simpa [hlast] using h, .inl rfl⟩
  refine ⟨front, ht, hlast, hstarts, ?_⟩
  conv_rhs => rw [ht, newlines_append, newlines_eq_zero_iff.2 hlast, Nat.add_zero]

/-! ### Lines -/

/-- Line number `n` of a text: what stands before it, its content, and what follows. The
content ends with the text or at a line break, which is a newline, together with a carriage
return if there is one before it. -/
structure IsLine (t : Text) (n : Nat) (front content rest : Text) : Prop where
  split : t = front ++ content ++ rest
  number : newlines front = n
  starts : front = [] ∨ front.getLast? = some '\n'
  single : '\n' ∉ content
  ends : rest = [] ∨ (∃ after, rest = '\n' :: after ∧ content.getLast? ≠ some '\r') ∨
    ∃ after, rest = '\r' :: '\n' :: after

namespace IsLine

/-- A line of what follows a newline is a later line of the whole text. -/
theorem later (h : IsLine b n front content rest) (ha : '\n' ∉ a) :
    IsLine (a ++ '\n' :: b) (n + 1) (a ++ '\n' :: front) content rest where
  split := by simp [h.split]
  number := by
    rw [newlines_append, newlines_cons_newline, newlines_eq_zero_iff.2 ha, h.number]
    omega
  starts := by
    right
    rcases h.starts with rfl | hlast
    · simp
    · rw [List.getLast?_append, List.getLast?_cons, hlast]
      rfl
  single := h.single
  ends := h.ends

theorem front_isPrefix (h : IsLine t n front content rest) : front <+: t :=
  ⟨content ++ rest, by rw [h.split, List.append_assoc]⟩

theorem number_le (h : IsLine t n front content rest) : n ≤ newlines t :=
  h.number ▸ newlines_le_of_isPrefix h.front_isPrefix

theorem newlines_content (h : IsLine t n front content rest) : newlines (front ++ content) = n := by
  rw [newlines_append, h.number, newlines_eq_zero_iff.2 h.single, Nat.add_zero]

theorem front_eq_nil (h : IsLine t 0 front content rest) : front = [] := by
  rcases h.starts with hnil | hlast
  · exact hnil
  · exact absurd (List.mem_of_getLast? hlast) (newlines_eq_zero_iff.1 h.number)

/-- A carriage return before the newline of a line is no part of its content. -/
theorem getLast?_ne {after : Text} (h : IsLine t n front content ('\n' :: after)) :
    (front ++ content).getLast? ≠ some '\r' := by
  have hlast : content.getLast? ≠ some '\r' := by
    rcases h.ends with hnil | ⟨-, -, hlast⟩ | ⟨x, hrest⟩
    · cases hnil
    · exact hlast
    · exact absurd (List.cons.inj hrest).1 (by decide)
  rcases List.eq_nil_or_concat content with rfl | ⟨w, c, rfl⟩
  · rcases h.starts with rfl | hstarts
    · simp
    · simp [hstarts]
  · rw [List.concat_eq_append] at hlast ⊢
    simpa using hlast

/-- A line after the first one is a line of what follows the first newline. -/
theorem of_later (h : IsLine (a ++ '\n' :: b) (n + 1) front content rest) (ha : '\n' ∉ a) :
    ∃ f, front = a ++ '\n' :: f ∧ IsLine b n f content rest := by
  have hmem : '\n' ∈ front := by
    by_contra hnone
    have := h.number
    rw [newlines_eq_zero_iff.2 hnone] at this
    omega
  obtain ⟨x, f, rfl, hx⟩ := List.eq_append_cons_of_mem hmem
  have hsplit := h.split
  rw [List.append_assoc, List.append_assoc, List.cons_append,
    append_cons_inj_left ha hx] at hsplit
  obtain ⟨rfl, rfl⟩ := hsplit
  refine ⟨f, rfl, ?_⟩
  exact
    { split := by rw [List.append_assoc]
      number := by
        have := h.number
        rw [newlines_append, newlines_cons_newline, newlines_eq_zero_iff.2 ha] at this
        omega
      starts := by
        rcases List.eq_nil_or_concat f with hnil | ⟨f', c, rfl⟩
        · exact .inl hnil
        · have := h.starts
          simp only [List.concat_eq_append] at this ⊢
          simpa [List.getLast?_append, List.getLast?_cons] using this
      single := h.single
      ends := h.ends }

end IsLine

/-- A text is one line, or one line with a newline and another text after it. -/
theorem exists_firstLine (t : Text) :
    '\n' ∉ t ∨ ∃ a b, t = a ++ '\n' :: b ∧ '\n' ∉ a := by
  by_cases h : '\n' ∈ t
  · exact .inr (List.eq_append_cons_of_mem h)
  · exact .inl h

theorem dropReturn_cases (line : Text) :
    (dropReturn line = line ∧ line.getLast? ≠ some '\r') ∨ line = dropReturn line ++ ['\r'] := by
  by_cases h : line.getLast? = some '\r'
  · obtain ⟨w, rfl⟩ := List.getLast?_eq_some_iff.1 h
    exact .inr (by simp [dropReturn])
  · exact .inl ⟨by rw [dropReturn, if_neg h], h⟩

/-- A carriage return is dropped from the second part of a line, unless there is none. -/
theorem exists_dropReturn_append (a x : Text) :
    (∃ c, dropReturn (a ++ x) = a ++ c) ∨ x = [] ∧ a = dropReturn a ++ ['\r'] := by
  rcases List.eq_nil_or_concat x with rfl | ⟨x, c, rfl⟩
  · rcases dropReturn_cases a with ⟨heq, -⟩ | heq
    · exact .inl ⟨[], by rw [List.append_nil, heq]⟩
    · exact .inr ⟨rfl, heq⟩
  · rw [List.concat_eq_append, ← List.append_assoc, dropReturn]
    split
    · exact .inl ⟨x, List.dropLast_concat⟩
    · exact .inl ⟨x ++ [c], List.append_assoc a x [c]⟩

/-- What the text ends is a line. -/
theorem IsLine.of_end {line : Text} (hstarts : front = [] ∨ front.getLast? = some '\n')
    (hline : '\n' ∉ line) : IsLine (front ++ line) (newlines front) front line [] :=
  ⟨(List.append_nil _).symm, rfl, hstarts, hline, .inl rfl⟩

/-- What a newline ends is a line, whose content leaves out a carriage return at its end. -/
theorem IsLine.of_break {line : Text} (hstarts : front = [] ∨ front.getLast? = some '\n')
    (hline : '\n' ∉ line) (after : Text) :
    ∃ rest, IsLine (front ++ line ++ '\n' :: after) (newlines front) front (dropReturn line) rest ∧
      line ++ '\n' :: after = dropReturn line ++ rest := by
  have hdropped := dropReturn_prefix line
  have hsingle : '\n' ∉ dropReturn line := fun hmem => hline (hdropped.mem hmem)
  rcases dropReturn_cases line with ⟨heq, hreturn⟩ | heq
  · refine ⟨'\n' :: after, ⟨by rw [heq], rfl, hstarts, hsingle, .inr (.inl ⟨after, rfl, ?_⟩)⟩, ?_⟩
    · rwa [heq]
    · rw [heq]
  · have hsplit : line ++ '\n' :: after = dropReturn line ++ '\r' :: '\n' :: after := by
      conv_lhs => rw [heq]
      simp
    refine ⟨'\r' :: '\n' :: after, ⟨?_, rfl, hstarts, hsingle, .inr (.inr ⟨after, rfl⟩)⟩, hsplit⟩
    rw [List.append_assoc, hsplit, List.append_assoc]

theorem exists_isLine (h : n ≤ newlines t) :
    ∃ front content rest, IsLine t n front content rest := by
  induction n generalizing t with
  | zero =>
    rcases exists_firstLine t with hnone | ⟨a, b, rfl, ha⟩
    · exact ⟨[], t, [], IsLine.of_end (.inl rfl) hnone⟩
    · obtain ⟨rest, hline, -⟩ := IsLine.of_break (.inl rfl) ha b
      exact ⟨[], dropReturn a, rest, hline⟩
  | succ n ih =>
    rcases exists_firstLine t with hnone | ⟨a, b, rfl, ha⟩
    · rw [newlines_eq_zero_iff.2 hnone] at h
      omega
    · rw [newlines_append, newlines_eq_zero_iff.2 ha, newlines_cons_newline] at h
      obtain ⟨front, content, rest, hline⟩ := ih (t := b) (by omega)
      exact ⟨_, content, rest, hline.later ha⟩

/-! ### Columns -/

/-- The UTF-16 columns at which a line can be cut. -/
def columns (line : Text) : Set Nat := {k | ∃ a, a <+: line ∧ units a = k}

/-- Where a place on a line is found that was looked for at `column`: at the first column that
is not before it, or at the end of the line. -/
def IsColumnAt (line : Text) (column k : Nat) : Prop :=
  IsLeast {j | j ∈ columns line ∧ column ≤ j} k ∨ (∀ j ∈ columns line, j < column) ∧ k = units line

theorem mem_columns_cons {c : Char} {line : Text} {k : Nat} :
    k ∈ columns (c :: line) ↔ k = 0 ∨ ∃ j ∈ columns line, k = unitsOf c + j := by
  constructor
  · rintro ⟨a, ha, rfl⟩
    rcases List.prefix_cons_iff.1 ha with rfl | ⟨a', rfl, ha'⟩
    · exact .inl rfl
    · exact .inr ⟨units a', ⟨a', ha', rfl⟩, rfl⟩
  · rintro (rfl | ⟨j, ⟨a, ha, rfl⟩, rfl⟩)
    · exact ⟨[], List.nil_prefix, rfl⟩
    · exact ⟨c :: a, (List.prefix_cons_inj c).2 ha, rfl⟩

theorem isColumnAt_zero (line : Text) : IsColumnAt line 0 0 :=
  .inl ⟨⟨⟨[], List.nil_prefix, rfl⟩, Nat.le_refl 0⟩, fun j _ => Nat.zero_le j⟩

/-- Past its first character, a line is searched for what is left of the column. -/
theorem IsColumnAt.cons {line : Text} {column k : Nat} (c : Char)
    (h : IsColumnAt line (column + 1 - unitsOf c) k) :
    IsColumnAt (c :: line) (column + 1) (unitsOf c + k) := by
  rcases h with ⟨⟨hmem, hle⟩, hleast⟩ | ⟨hshort, rfl⟩
  · refine .inl ⟨⟨mem_columns_cons.2 (.inr ⟨k, hmem, rfl⟩), by omega⟩, ?_⟩
    rintro j ⟨hj, hcolumn⟩
    rcases mem_columns_cons.1 hj with rfl | ⟨i, hi, rfl⟩
    · omega
    · have : k ≤ i := hleast ⟨hi, by omega⟩
      omega
  · refine .inr ⟨fun j hj => ?_, rfl⟩
    rcases mem_columns_cons.1 hj with rfl | ⟨i, hi, rfl⟩
    · omega
    · have := hshort i hi
      omega

/-- The offset of a column is that of the first place not before it, or the end of the line. -/
theorem exists_isColumnAt (line : Text) (column : Nat) :
    ∃ a b, line = a ++ b ∧ size a = columnOffset line column ∧
      IsColumnAt line column (units a) := by
  induction line generalizing column with
  | nil =>
    cases column with
    | zero => exact ⟨[], [], rfl, rfl, isColumnAt_zero []⟩
    | succ column =>
      refine ⟨[], [], rfl, rfl, .inr ⟨?_, rfl⟩⟩
      rintro j ⟨a, ha, rfl⟩
      rw [List.prefix_nil.1 ha]
      exact Nat.zero_lt_succ column
  | cons c line ih =>
    cases column with
    | zero => exact ⟨[], c :: line, rfl, rfl, isColumnAt_zero _⟩
    | succ column =>
      obtain ⟨a, b, rfl, ha, hcolumn⟩ := ih (column + 1 - unitsOf c)
      exact ⟨c :: a, b, rfl, by rw [size_cons, ha]; rfl, hcolumn.cons c⟩

theorem columnOffset_zero (line : Text) : columnOffset line 0 = 0 := by
  cases line <;> rfl

/-- A place on a line is found at its own column. -/
theorem columnOffset_append (a b : Text) : columnOffset (a ++ b) (units a) = size a := by
  induction a with
  | nil => exact columnOffset_zero b
  | cons c a ih =>
    obtain ⟨k, hk⟩ : ∃ k, units (c :: a) = k + 1 := by
      refine Nat.exists_eq_add_one.2 ?_
      rw [units_cons, unitsOf]
      split <;> omega
    have hrest : k + 1 - unitsOf c = units a := by rw [← hk, units_cons]; omega
    rw [hk, List.cons_append, columnOffset, hrest, ih, size_cons]

theorem columnOffset_of_units_le {line : Text} {column : Nat} (h : units line ≤ column) :
    columnOffset line column = size line := by
  obtain ⟨a, b, rfl, ha, ⟨⟨-, hle⟩, -⟩ | ⟨-, hend⟩⟩ := exists_isColumnAt line column
  all_goals
    have hb : units b = 0 := by
      rw [units_append] at *
      omega
    cases b with
    | nil => rw [← ha, List.append_nil]
    | cons c b =>
      rw [units_cons, unitsOf] at hb
      split at hb <;> omega

theorem columnOffset_le_size (line : Text) (column : Nat) :
    columnOffset line column ≤ size line := by
  obtain ⟨a, b, rfl, ha⟩ := exists_columnOffset line column
  rw [← ha, size_append]
  omega

theorem columnOffset_mono (line : Text) {column column' : Nat} (h : column ≤ column') :
    columnOffset line column ≤ columnOffset line column' := by
  induction line generalizing column column' with
  | nil => exact Nat.le_refl 0
  | cons c line ih =>
    cases column with
    | zero => exact Nat.zero_le _
    | succ column =>
      cases column' with
      | zero => omega
      | succ column' => exact Nat.add_le_add_left (ih (by omega)) _

/-! ### Offsets and positions on a line -/

theorem lines_of_notMem (h : '\n' ∉ t) : lines t = [t] := by
  induction t with
  | nil => rfl
  | cons c t ih =>
    rw [List.mem_cons, not_or] at h
    rw [lines, if_neg (Ne.symm h.1), ih h.2]

theorem lines_append (h : '\n' ∉ a) (b : Text) : lines (a ++ '\n' :: b) = a :: lines b := by
  induction a with
  | nil => simp [lines]
  | cons c a ih =>
    rw [List.mem_cons, not_or] at h
    rw [List.cons_append, lines, if_neg (Ne.symm h.1), ih h.2]

/-- The first of several lines, without its carriage return. -/
theorem offsetInLines?_zero (line : Text) {after : List Text} (h : after ≠ [])
    (column start : Nat) :
    offsetInLines? column (line :: after) 0 start =
      some (start + columnOffset (dropReturn line) column) := by
  cases after with
  | nil => exact absurd rfl h
  | cons next after => rfl

theorem offsetInLines?_succ (line : Text) (after : List Text) (column n start : Nat) :
    offsetInLines? column (line :: after) (n + 1) start =
      offsetInLines? column after n (start + size line + 1) := by
  cases after <;> rfl

namespace IsLine

theorem offsetInLines?_eq (h : IsLine t n front content rest) (column start : Nat) :
    offsetInLines? column (lines t) n start =
      some (start + size front + columnOffset content column) := by
  -- Each line that is passed is cut off from the front of the text, until the line asked for is
  -- the first one.
  induction n generalizing t front start with
  | zero =>
    obtain rfl := h.front_eq_nil
    have hsplit : t = content ++ rest := h.split
    rcases h.ends with rfl | ⟨after, rfl, hreturn⟩ | ⟨after, rfl⟩
    · rw [hsplit, List.append_nil, lines_of_notMem h.single]
      rfl
    · rw [hsplit, lines_append h.single, offsetInLines?_zero _ (lines_ne_nil _), dropReturn,
        if_neg hreturn]
      rfl
    · have hsingle : '\n' ∉ content ++ ['\r'] := by simpa using h.single
      rw [hsplit, List.append_cons, lines_append hsingle, offsetInLines?_zero _ (lines_ne_nil _)]
      simp [dropReturn]
  | succ n ih =>
    rcases exists_firstLine t with hnone | ⟨a, b, rfl, ha⟩
    · have := h.number_le
      rw [newlines_eq_zero_iff.2 hnone] at this
      omega
    · obtain ⟨f, rfl, hline⟩ := h.of_later ha
      rw [lines_append ha, offsetInLines?_succ, ih hline, size_append, size_cons]
      have hnewline : '\n'.utf8Size = 1 := rfl
      rw [Option.some.injEq]
      omega

/-- The offset of a column on a line. -/
theorem offset?_eq (h : IsLine t n front content rest) (column : Nat) :
    offset? t ⟨n, column⟩ = some (size front + columnOffset content column) := by
  rw [offset?, h.offsetInLines?_eq, Nat.zero_add]

end IsLine

theorem length_lines (t : Text) : (lines t).length = newlines t + 1 := by
  induction t with
  | nil => rfl
  | cons c t ih =>
    by_cases hc : c = '\n'
    · subst hc
      simp [lines, ih]
    · have hcons : newlines (c :: t) = newlines t := by simp [newlines, hc]
      rw [lines, if_neg hc, hcons, ← ih]
      split <;> simp_all

theorem offsetInLines?_of_length_le {ls : List Text} (h : ls.length ≤ n) (column start : Nat) :
    offsetInLines? column ls n start = none := by
  induction ls generalizing n start with
  | nil => rfl
  | cons line rest ih =>
    obtain ⟨n, rfl⟩ := Nat.exists_eq_add_one.2 (Nat.lt_of_lt_of_le (Nat.zero_lt_succ _) h)
    rw [offsetInLines?_succ, ih (Nat.le_of_succ_le_succ h)]

/-- Only a line that does not exist has no offsets. -/
theorem offset?_eq_none_iff {p : Position} : offset? t p = none ↔ newlines t < p.line := by
  constructor
  · intro hnone
    by_contra hline
    obtain ⟨front, content, rest, h⟩ := exists_isLine (Nat.le_of_not_lt hline)
    have hsome := h.offset?_eq p.character
    rw [hnone] at hsome
    cases hsome
  · intro hline
    exact offsetInLines?_of_length_le (by rw [length_lines]; exact hline) _ _

theorem clamp_of_lt {k : Nat} (h : k < UInt32.size) : Position.clamp k = k :=
  if_pos (Nat.le_of_lt_succ h)

/-- The position of an offset counts the newlines before it, and the code units after the last
of them. -/
theorem position_eq (ht : size t < UInt32.size) (o : Nat) :
    position t o = ⟨newlines (before t o), units (lastLine (before t o))⟩ := by
  obtain ⟨front, hfront, -⟩ := exists_lastLine (before t o)
  have hbefore := size_le_of_isPrefix (before_isPrefix t o)
  have hnewlines := newlines_le_size (before t o)
  have hunits := units_le_size (lastLine (before t o))
  have hlast : size (lastLine (before t o)) ≤ size (before t o) := by
    conv_rhs => rw [hfront, size_append]
    omega
  rw [position, clamp_of_lt (by omega), clamp_of_lt (by omega)]

/-- The position of a place on a line. -/
theorem IsLine.position_eq (h : IsLine t n front (a ++ b) rest) (ht : size t < UInt32.size) :
    position t (size front + size a) = ⟨n, units a⟩ := by
  have hsplit : t = front ++ a ++ (b ++ rest) := by simp [h.split]
  have ha : '\n' ∉ a := fun hmem => h.single (List.mem_append_left b hmem)
  have hbefore : before t (size front + size a) = front ++ a := by
    rw [← size_append]
    exact before_size ⟨b ++ rest, hsplit.symm⟩
  rw [Text.position_eq ht, hbefore, lastLine_append h.starts ha, newlines_append, h.number,
    newlines_eq_zero_iff.2 ha, Nat.add_zero]

/-- Where a text is cut, the last line of the first part lies in the content of a line, or goes
up to the newline of a line that also has a carriage return. -/
theorem exists_isLine_around (a b : Text) :
    ∃ front content rest, IsLine (a ++ b) (newlines a) front content rest ∧
      a = front ++ lastLine a ∧
      ((∃ c, content = lastLine a ++ c ∧ b = c ++ rest) ∨
        lastLine a = content ++ ['\r'] ∧ ∃ after, b = '\n' :: after) := by
  obtain ⟨front, ha, hlast, hstarts, hnumber⟩ := exists_lastLine a
  rcases exists_firstLine b with hnone | ⟨x, y, rfl, hx⟩
  · have hline : '\n' ∉ lastLine a ++ b := by
      rw [List.mem_append, not_or]
      exact ⟨hlast, hnone⟩
    have h := IsLine.of_end hstarts hline
    rw [hnumber, ← List.append_assoc, ← ha] at h
    exact ⟨front, _, [], h, ha, .inl ⟨b, rfl, (List.append_nil b).symm⟩⟩
  · have hline : '\n' ∉ lastLine a ++ x := by
      rw [List.mem_append, not_or]
      exact ⟨hlast, hx⟩
    obtain ⟨rest, h, hbreak⟩ := IsLine.of_break hstarts hline y
    rw [hnumber, ← List.append_assoc, ← ha, List.append_assoc] at h
    refine ⟨front, _, rest, h, ha, ?_⟩
    rcases exists_dropReturn_append (lastLine a) x with ⟨c, hc⟩ | ⟨rfl, hreturn⟩
    · rw [hc, List.append_assoc, List.append_assoc] at hbreak
      exact .inl ⟨c, hc, List.append_cancel_left hbreak⟩
    · rw [List.append_nil]
      exact .inr ⟨hreturn, y, rfl⟩

end CallerClosure.Text
