import CallerClosure.Text.Position
import Mathlib.Data.List.Basic

/-!
# Boundaries and whole lines

* `Text.IsBoundary` holds of the offsets at which a text can be cut. `isBoundary_of_offset?` says
  that every position is at such an offset, however far to the right its column lies, and
  `exists_slice?` that two of them select a part of the text;
* `Text.mem_lineStarts` tells where lines start, `lineStart` and `nextLineStart` are the nearest
  such offsets on either side;
* `Text.WholeLinesAround` says that a text is made of the whole lines around a part of another
  one, `exists_wholeLines` that `Text.wholeLines` selects such a text.
-/

namespace CallerClosure.Text

/-! ### Boundaries -/

/-- Whether a text can be cut at an offset. -/
def IsBoundary (t : Text) (o : Nat) : Prop := ∃ a b, t = a ++ b ∧ size a = o

theorem size_pos {t : Text} (h : t ≠ []) : 0 < size t := by
  cases t with
  | nil => exact absurd rfl h
  | cons c t => exact Nat.add_pos_left c.utf8Size_pos _

theorem splitAt?_append (a b : Text) : splitAt? (a ++ b) (size a) = some (a, b) := by
  induction a with
  | nil => cases b <;> rfl
  | cons c a ih =>
    obtain ⟨n, hn⟩ := Nat.exists_eq_add_one.2 c.utf8Size_pos
    have hsize : size (c :: a) = n + size a + 1 := by rw [size_cons, hn]; omega
    have hle : c.utf8Size ≤ n + size a + 1 := by omega
    have hrest : n + size a + 1 - c.utf8Size = size a := by omega
    rw [List.cons_append, hsize, splitAt?, if_pos hle, hrest, ih]
    rfl

/-- Of two beginnings of a text, the one with fewer bytes is a beginning of the other. -/
theorem prefix_of_size_le {t a b : Text} (ha : a <+: t) (hb : b <+: t) (h : size a ≤ size b) :
    a <+: b := by
  rcases List.prefix_or_prefix_of_prefix ha hb with hab | ⟨c, rfl⟩
  · exact hab
  · have hc : c = [] := by
      by_contra hne
      have := size_pos hne
      rw [size_append] at h
      omega
    simp [hc]

theorem eq_of_size_eq {t a b : Text} (ha : a <+: t) (hb : b <+: t) (h : size a = size b) :
    a = b :=
  (prefix_of_size_le ha hb (Nat.le_of_eq h)).eq_of_length_le
    (prefix_of_size_le hb ha (Nat.le_of_eq h.symm)).length_le

theorem IsBoundary.le_size {t : Text} {o : Nat} (h : t.IsBoundary o) : o ≤ size t := by
  obtain ⟨a, b, rfl, rfl⟩ := h
  rw [size_append]
  omega

theorem isBoundary_size (t : Text) : t.IsBoundary (size t) := ⟨t, [], by simp, rfl⟩

/-- Two cuts of a text, and what lies between them. -/
theorem exists_between {t : Text} {o p : Nat} (ho : t.IsBoundary o) (hp : t.IsBoundary p)
    (h : o ≤ p) : ∃ a b c, t = a ++ b ++ c ∧ size a = o ∧ size (a ++ b) = p := by
  obtain ⟨a, x, hax, rfl⟩ := ho
  obtain ⟨d, c, hdc, rfl⟩ := hp
  obtain ⟨b, rfl⟩ := prefix_of_size_le ⟨x, hax.symm⟩ ⟨c, hdc.symm⟩ h
  exact ⟨a, b, c, hdc, rfl, rfl⟩

theorem slice?_append (a b c : Text) :
    slice? (a ++ b ++ c) ⟨size a, size (a ++ b)⟩ = some b := by
  have hlength : size (a ++ b) - size a = size b := by rw [size_append]; omega
  rw [slice?, if_pos (by dsimp only; rw [size_append]; omega), List.append_assoc,
    splitAt?_append]
  dsimp only
  rw [hlength, splitAt?_append]
  rfl

/-- What a span selects lies between its two ends. -/
theorem exists_of_slice? {t b : Text} {s : Span} (h : slice? t s = some b) :
    ∃ a c, t = a ++ b ++ c ∧ size a = s.start ∧ size (a ++ b) = s.stop := by
  unfold slice? at h
  split at h
  · rename_i hle
    cases hcut : splitAt? t s.start with
    | none =>
      rw [hcut] at h
      cases h
    | some halves =>
      rw [hcut] at h
      obtain ⟨⟨b', c⟩, hrest, rfl⟩ := Option.map_eq_some_iff.1 h
      refine ⟨halves.1, c, ?_, size_of_splitAt? hcut, ?_⟩
      · rw [List.append_assoc, append_of_splitAt? hrest, append_of_splitAt? hcut]
      · rw [size_append, size_of_splitAt? hcut, size_of_splitAt? hrest]
        omega
  · cases h

theorem exists_slice? {t : Text} {s : Span} (hstart : t.IsBoundary s.start)
    (hstop : t.IsBoundary s.stop) (h : s.start ≤ s.stop) : ∃ b, slice? t s = some b := by
  obtain ⟨a, b, c, rfl, ha, hab⟩ := exists_between hstart hstop h
  refine ⟨b, ?_⟩
  have hs : s = ⟨size a, size (a ++ b)⟩ := by rw [ha, hab]
  rw [hs]
  exact slice?_append a b c

/-! ### Positions -/

theorem exists_columnOffset (line : Text) (column : Nat) :
    ∃ a b, line = a ++ b ∧ size a = columnOffset line column := by
  induction line generalizing column with
  | nil => exact ⟨[], [], rfl, rfl⟩
  | cons c line ih =>
    cases column with
    | zero => exact ⟨[], c :: line, rfl, rfl⟩
    | succ column =>
      obtain ⟨a, b, hab, ha⟩ := ih (column + 1 - unitsOf c)
      exact ⟨c :: a, b, by rw [hab]; rfl, by rw [size_cons, ha]; rfl⟩

theorem dropReturn_prefix (line : Text) : dropReturn line <+: line := by
  unfold dropReturn
  split
  · exact List.dropLast_prefix line
  · exact List.prefix_refl line

theorem lines_ne_nil (t : Text) : lines t ≠ [] := by
  cases t with
  | nil => simp [lines]
  | cons c t =>
    rw [lines]
    split
    · simp
    · split <;> simp

/-- The lines of a text and the newlines between them make up the text. -/
theorem intercalate_lines (t : Text) : ['\n'].intercalate (lines t) = t := by
  induction t with
  | nil => rfl
  | cons c t ih =>
    rw [lines]
    split
    · rename_i hc
      rw [List.intercalate_cons_of_ne_nil (lines_ne_nil t), ih, hc]
      rfl
    · split
      · rename_i hnil
        exact absurd hnil (lines_ne_nil t)
      · rename_i l rest hlines
        rw [hlines] at ih
        rw [← ih]
        cases rest with
        | nil => simp
        | cons l' rest => simp [List.intercalate_cons_of_ne_nil]

/-- An offset in the lines of a text comes after some characters of that text. -/
theorem exists_of_offsetInLines? {character : Nat} {ls : List Text} {n start o : Nat}
    (h : offsetInLines? character ls n start = some o) :
    ∃ a b, ['\n'].intercalate ls = a ++ b ∧ o = start + size a := by
  induction ls generalizing n start with
  | nil => cases h
  | cons line rest ih =>
    cases n with
    | zero =>
      cases rest with
      | nil =>
        obtain ⟨a, b, hab, ha⟩ := exists_columnOffset line character
        rw [offsetInLines?, Option.some.injEq] at h
        exact ⟨a, b, by simpa using hab, by rw [ha, h]⟩
      | cons next rest =>
        obtain ⟨a, b, hab, ha⟩ := exists_columnOffset (dropReturn line) character
        obtain ⟨c, hc⟩ := dropReturn_prefix line
        rw [offsetInLines?, Option.some.injEq] at h
        refine ⟨a, b ++ c ++ ['\n'] ++ ['\n'].intercalate (next :: rest), ?_, by rw [ha, h]⟩
        rw [List.intercalate_cons_of_ne_nil (by simp), ← hc, hab]
        simp
    | succ n =>
      rw [offsetInLines?] at h
      obtain ⟨a, b, hab, rfl⟩ := ih h
      cases rest with
      | nil => cases h
      | cons next rest =>
        refine ⟨line ++ ['\n'] ++ a, b, ?_, ?_⟩
        · rw [List.intercalate_cons_of_ne_nil (by simp), hab]
          simp
        · have hnewline : size ['\n'] = 1 := rfl
          rw [size_append, size_append, hnewline]
          omega

/-- The offset of a position is a boundary. -/
theorem isBoundary_of_offset? {t : Text} {p : Position} {o : Nat} (h : t.offset? p = some o) :
    t.IsBoundary o := by
  obtain ⟨a, b, hab, ho⟩ := exists_of_offsetInLines? h
  rw [intercalate_lines] at hab
  exact ⟨a, b, hab, by rw [ho, Nat.zero_add]⟩

theorem isBoundary_ofBounds {t : Text} {a b : Nat} (ha : t.IsBoundary a) (hb : t.IsBoundary b) :
    t.IsBoundary (Span.ofBounds a b).start ∧ t.IsBoundary (Span.ofBounds a b).stop := by
  unfold Span.ofBounds
  split
  · exact ⟨ha, hb⟩
  · exact ⟨hb, ha⟩

/-- The span of a range runs from one boundary to a later one. -/
theorem boundaries_of_span? {t : Text} {r : Range} {s : Span} (h : t.span? r = some s) :
    t.IsBoundary s.start ∧ t.IsBoundary s.stop ∧ s.start ≤ s.stop := by
  unfold span? at h
  split at h
  · rename_i a b ha hb
    cases h
    obtain ⟨hstart, hstop⟩ :=
      isBoundary_ofBounds (isBoundary_of_offset? ha) (isBoundary_of_offset? hb)
    exact ⟨hstart, hstop, Span.ofBounds_ordered a b⟩
  · cases h

/-! ### Line starts -/

theorem mem_lineStartsFrom {t : Text} {offset o : Nat} :
    o ∈ lineStartsFrom t offset ↔
      ∃ a b, t = a ++ '\n' :: b ∧ o = offset + size (a ++ ['\n']) := by
  induction t generalizing offset with
  | nil => simp [lineStartsFrom]
  | cons c t ih =>
    have hlater : (∃ a b, t = a ++ '\n' :: b ∧ o = offset + c.utf8Size + size (a ++ ['\n'])) ↔
        ∃ a b, c :: t = c :: a ++ '\n' :: b ∧ o = offset + size (c :: a ++ ['\n']) := by
      simp [Nat.add_assoc]
    rw [lineStartsFrom]
    split
    · rename_i hc
      subst hc
      rw [List.mem_cons, ih, hlater]
      constructor
      · rintro (rfl | ⟨a, b, hab, ho⟩)
        · exact ⟨[], t, rfl, rfl⟩
        · exact ⟨_, b, hab, ho⟩
      · rintro ⟨a, b, hab, ho⟩
        cases a with
        | nil => exact .inl ho
        | cons d a =>
          obtain ⟨rfl, hab⟩ := List.cons.inj hab
          exact .inr ⟨a, b, by rw [hab], ho⟩
    · rename_i hc
      rw [ih, hlater]
      constructor
      · rintro ⟨a, b, hab, ho⟩
        exact ⟨_, b, hab, ho⟩
      · rintro ⟨a, b, hab, ho⟩
        cases a with
        | nil => exact absurd (List.cons.inj hab).1 hc
        | cons d a =>
          obtain ⟨rfl, hab⟩ := List.cons.inj hab
          exact ⟨a, b, by rw [hab], ho⟩

/-- A line starts at the start of the text and after every newline. -/
theorem mem_lineStarts {t : Text} {o : Nat} :
    o ∈ lineStarts t ↔
      ∃ a b, t = a ++ b ∧ size a = o ∧ (a = [] ∨ a.getLast? = some '\n') := by
  rw [lineStarts, List.mem_cons, mem_lineStartsFrom]
  constructor
  · rintro (rfl | ⟨a, b, rfl, rfl⟩)
    · exact ⟨[], t, rfl, rfl, .inl rfl⟩
    · exact ⟨a ++ ['\n'], b, by simp, by simp, .inr (by simp)⟩
  · rintro ⟨a, b, rfl, rfl, rfl | ha⟩
    · exact .inl rfl
    · obtain ⟨a', rfl⟩ := List.getLast?_eq_some_iff.1 ha
      exact .inr ⟨a', b, by simp, by simp⟩

theorem isBoundary_of_mem_lineStarts {t : Text} {o : Nat} (h : o ∈ lineStarts t) :
    t.IsBoundary o := by
  obtain ⟨a, b, hab, ha, -⟩ := mem_lineStarts.1 h
  exact ⟨a, b, hab, ha⟩

/-- What comes before the start of a line is nothing, or ends with a newline. -/
theorem ends_of_mem_lineStarts {t a : Text} (ha : a <+: t) (h : size a ∈ lineStarts t) :
    a = [] ∨ a.getLast? = some '\n' := by
  obtain ⟨x, y, hxy, hsize, hx⟩ := mem_lineStarts.1 h
  rwa [eq_of_size_eq ha ⟨y, hxy.symm⟩ hsize.symm]

/-- The line that holds an offset starts at or before it. -/
theorem lineStart_mem (t : Text) (o : Nat) : lineStart t o ∈ lineStarts t ∧ lineStart t o ≤ o := by
  have hne : (lineStarts t).filter (fun start => decide (start ≤ o)) ≠ [] := by
    simp [lineStarts]
  have hmem := List.getLast_mem hne
  have heq : lineStart t o =
      ((lineStarts t).filter fun start => decide (start ≤ o)).getLast hne := by
    rw [lineStart, List.getLastD_eq_getLast?, List.getLast?_eq_some_getLast hne, Option.getD_some]
  rw [← heq] at hmem
  simpa using List.mem_filter.1 hmem

/-- After the line that holds an offset comes another line, or the end of the text. -/
theorem nextLineStart_spec (t : Text) (o : Nat) :
    nextLineStart t o ∈ lineStarts t ∧ o < nextLineStart t o ∨ nextLineStart t o = size t := by
  unfold nextLineStart
  cases hlater : (lineStarts t).filter fun start => decide (o < start) with
  | nil => exact .inr rfl
  | cons start rest =>
    have hmem : start ∈ (lineStarts t).filter fun start => decide (o < start) := by simp [hlater]
    exact .inl (by simpa using List.mem_filter.1 hmem)

/-! ### Whole lines -/

/-- A span widened to whole lines starts where its first line does and ends where a line
starts, or with the text. It is empty only at the end. -/
theorem wholeLines_spec {t : Text} {s : Span} (hle : s.start ≤ s.stop) (hsize : s.stop ≤ size t) :
    (wholeLines t s).start ∈ lineStarts t ∧ (wholeLines t s).start ≤ s.start ∧
      s.stop ≤ (wholeLines t s).stop ∧
      ((wholeLines t s).stop ∈ lineStarts t ∧ (wholeLines t s).start < (wholeLines t s).stop ∨
        (wholeLines t s).stop = size t) := by
  obtain ⟨hmem, hstart⟩ := lineStart_mem t s.start
  unfold wholeLines
  dsimp only
  rw [if_pos hsize]
  split
  · rename_i hends
    rw [Span.ofBounds_of_le (Nat.le_of_lt hends.1)]
    exact ⟨hmem, hstart, Nat.le_refl _, .inl ⟨hends.2, hends.1⟩⟩
  · rcases nextLineStart_spec t s.stop with ⟨hnext, hlt⟩ | hend
    · rw [Span.ofBounds_of_le (by omega)]
      exact ⟨hmem, hstart, Nat.le_of_lt hlt, .inl ⟨hnext, by dsimp only; omega⟩⟩
    · rw [Span.ofBounds_of_le (by omega)]
      exact ⟨hmem, hstart, by dsimp only; omega, .inr hend⟩

/-- A text is made of whole lines of another one, and the part that a span selects there lies
within it. -/
def WholeLinesAround (content : Text) (s : Span) (text : Text) : Prop :=
  ∃ before head part tail after, content = before ++ text ++ after ∧ text = head ++ part ++ tail ∧
    content.slice? s = some part ∧ size (before ++ head) = s.start ∧
    (before = [] ∨ before.getLast? = some '\n') ∧ (after = [] ∨ text.getLast? = some '\n')

/-- **The whole lines around a part of a text are a text around this part.** -/
theorem exists_wholeLines {t : Text} {s : Span} (hstart : t.IsBoundary s.start)
    (hstop : t.IsBoundary s.stop) (hle : s.start ≤ s.stop) :
    ∃ text, t.slice? (t.wholeLines s) = some text ∧ t.WholeLinesAround s text := by
  obtain ⟨part, hpart⟩ := exists_slice? hstart hstop hle
  obtain ⟨front, back, hfront, hfsize, hpsize⟩ := exists_of_slice? hpart
  obtain ⟨hfirst, hbefore, hafter, hlast⟩ := wholeLines_spec hle hstop.le_size
  have hlastBoundary : t.IsBoundary (t.wholeLines s).stop := by
    rcases hlast with ⟨hmem, -⟩ | hend
    · exact isBoundary_of_mem_lineStarts hmem
    · exact hend ▸ isBoundary_size t
  obtain ⟨text, htext⟩ := exists_slice? (isBoundary_of_mem_lineStarts hfirst) hlastBoundary
    (by omega)
  obtain ⟨before, after, ht, hbsize, htsize⟩ := exists_of_slice? htext
  -- The part begins after `before` and ends before `after`, so it lies in the text between them.
  obtain ⟨head, rfl⟩ : before <+: front :=
    prefix_of_size_le ⟨text ++ after, by rw [← List.append_assoc, ← ht]⟩
      ⟨part ++ back, by rw [← List.append_assoc, ← hfront]⟩ (by omega)
  obtain ⟨tail, htail⟩ : before ++ head ++ part <+: before ++ text :=
    prefix_of_size_le ⟨back, hfront.symm⟩ ⟨after, ht.symm⟩ (by omega)
  have hsplit : text = head ++ part ++ tail := by simpa using htail.symm
  refine ⟨text, htext, before, head, part, tail, after, ht, hsplit, hpart, hfsize, ?_, ?_⟩
  · rw [← hbsize] at hfirst
    exact ends_of_mem_lineStarts ⟨text ++ after, by rw [← List.append_assoc, ← ht]⟩ hfirst
  · rcases hlast with ⟨hmem, hlt⟩ | hend
    · rw [← htsize] at hmem hlt
      have hne : text ≠ [] := by
        rintro rfl
        rw [List.append_nil, hbsize] at hlt
        exact Nat.lt_irrefl _ hlt
      rcases ends_of_mem_lineStarts ⟨after, ht.symm⟩ hmem with hnil | hnewline
      · exact absurd (List.append_eq_nil_iff.1 hnil).2 hne
      · rw [List.getLast?_append_of_ne_nil _ hne] at hnewline
        exact .inr hnewline
    · refine .inl (by_contra fun hne => ?_)
      have hpos := size_pos hne
      rw [← htsize, ht, size_append (before ++ text)] at hend
      omega

end CallerClosure.Text
