import CallerClosure.Proofs.Text.LineTable
import Mathlib.Data.List.Pairwise

/-!
# Widening to whole lines

* `Text.StartsLine` holds of the offsets at which a line starts; `lineStart` is the last of them at
  or before an offset, `nextLineStart` the first one after it;
* `Text.IsWidened` says what the whole lines around a span are, without the function that finds
  them: all lines that the span reaches and no others;
* `Text.wholeLines_exact` says that `Text.wholeLines` finds them and leaves them as they are when it
  is asked again, and that even a span which is reversed or runs past the end of the text gets a
  part of the text.
-/

namespace CallerClosure.Text

variable {t : Text} {s w : Span} {o l : Nat}

/-! ### Line starts around an offset -/

/-- Whether a line starts at an offset: at the start of the text, or after a newline. -/
def StartsLine (t : Text) (o : Nat) : Prop :=
  ∃ a b, t = a ++ b ∧ size a = o ∧ (a = [] ∨ a.getLast? = some '\n')

theorem startsLine_iff : t.StartsLine o ↔ o ∈ lineStarts t := mem_lineStarts.symm

theorem isGreatest_lineStart (t : Text) (o : Nat) :
    IsGreatest {l | t.StartsLine l ∧ l ≤ o} (lineStart t o) := by
  obtain ⟨hmem, hle⟩ := lineStart_mem t o
  refine ⟨⟨startsLine_iff.2 hmem, hle⟩, ?_⟩
  rintro l ⟨hl, hlo⟩
  obtain ⟨late, heq, -, hlate⟩ := lineStarts_eq t o
  have hsorted : (0 :: lineStartsFrom (before t o) 0).Pairwise (· ≤ ·) := by
    have hall := pairwise_lineStarts t
    rw [heq] at hall
    exact (List.pairwise_append.1 hall).1.imp Nat.le_of_lt
  have hearly : l ∈ 0 :: lineStartsFrom (before t o) 0 := by
    have hin := startsLine_iff.1 hl
    rw [heq] at hin
    exact (List.mem_append.1 hin).resolve_right fun hmem => absurd (hlate l hmem) (by omega)
  have hlast := hsorted.rel_getLast hearly
  have hgetLast := lineStart_eq_getLast t o
  rw [List.getLast?_eq_some_getLast (List.cons_ne_nil _ _), Option.some.injEq] at hgetLast
  rwa [hgetLast] at hlast

theorem lineStart_of_startsLine (h : t.StartsLine o) : lineStart t o = o :=
  Nat.le_antisymm (lineStart_mem t o).2 ((isGreatest_lineStart t o).2 ⟨h, Nat.le_refl o⟩)

theorem nextLineStart_le (h : t.StartsLine l) (hlt : o < l) : nextLineStart t o ≤ l := by
  have hmem : l ∈ (lineStarts t).filter fun start => decide (o < start) :=
    List.mem_filter.2 ⟨startsLine_iff.1 h, decide_eq_true hlt⟩
  have hsorted := (pairwise_lineStarts t).filter fun start => decide (o < start)
  unfold nextLineStart
  generalize (lineStarts t).filter (fun start => decide (o < start)) = later at hmem hsorted
  cases hsorted with
  | nil => cases hmem
  | cons hfirst _ =>
    rcases List.mem_cons.1 hmem with rfl | hrest
    · exact Nat.le_refl _
    · exact Nat.le_of_lt (hfirst l hrest)

theorem StartsLine.le_size (h : t.StartsLine o) : o ≤ size t :=
  (isBoundary_of_mem_lineStarts (startsLine_iff.1 h)).le_size

theorem nextLineStart_size (t : Text) : nextLineStart t (size t) = size t := by
  rcases nextLineStart_spec t (size t) with ⟨hmem, hlt⟩ | hend
  · have := (startsLine_iff.2 hmem).le_size
    omega
  · exact hend

/-! ### The lines that a span reaches -/

/-- `w` is made of the whole lines around the span `s`. -/
structure IsWidened (t : Text) (s w : Span) : Prop where
  /-- The first line is the one that holds the start of the span. -/
  first : IsGreatest {o | t.StartsLine o ∧ o ≤ s.start} w.start
  /-- The last line ends where the next one starts, or with the text. -/
  last : t.StartsLine w.stop ∨ w.stop = size t
  covers : w.Covers s
  /-- A line that starts at the end of a span or after it is not reached. -/
  reached : s.start < s.stop → ∀ o, t.StartsLine o → s.stop ≤ o → w.stop ≤ o
  /-- An empty span is in one line only. -/
  single : s.start = s.stop → (s.stop < w.stop ∨ w.stop = size t) ∧
    ∀ o, t.StartsLine o → o ≤ w.start ∨ w.stop ≤ o

theorem wholeLines_eq (hle : s.start ≤ s.stop) (hsize : s.stop ≤ size t) :
    wholeLines t s = ⟨lineStart t s.start,
      if lineStart t s.start < s.stop ∧ s.stop ∈ lineStarts t then s.stop
      else nextLineStart t s.stop⟩ := by
  have hstart := (lineStart_mem t s.start).2
  unfold wholeLines
  dsimp only
  rw [if_pos hsize]
  split
  · rename_i hends
    rw [Span.ofBounds_of_le (Nat.le_of_lt hends.1)]
  · rw [Span.ofBounds_of_le]
    rcases nextLineStart_spec t s.stop with ⟨-, hlt⟩ | hend <;> omega

theorem isWidened_wholeLines (hle : s.start ≤ s.stop) (hsize : s.stop ≤ size t) :
    t.IsWidened s (t.wholeLines s) := by
  obtain ⟨hmem, hbefore, hafter, hlast⟩ := wholeLines_spec hle hsize
  have heq := wholeLines_eq hle hsize
  have hfirst : (t.wholeLines s).start = lineStart t s.start := by rw [heq]
  refine ⟨by rw [hfirst]; exact isGreatest_lineStart t s.start, ?_, ⟨hbefore, hafter⟩, ?_, ?_⟩
  · exact hlast.imp (fun h => startsLine_iff.2 h.1) id
  · intro hne o ho hso
    rw [heq]
    dsimp only
    split
    · exact hso
    · rename_i hends
      have hstop : s.stop ≠ o := by
        rintro rfl
        exact hends ⟨by omega, startsLine_iff.1 ho⟩
      exact nextLineStart_le ho (by omega)
  · intro hempty
    -- Where a line starts, an empty span lies at the start of its line and not after it.
    have hstop : (t.wholeLines s).stop = nextLineStart t s.stop := by
      rw [heq]
      dsimp only
      rw [if_neg]
      rintro ⟨hlt, hin⟩
      rw [hempty, lineStart_of_startsLine (startsLine_iff.2 hin)] at hlt
      exact Nat.lt_irrefl _ hlt
    rw [hstop, hfirst]
    refine ⟨(nextLineStart_spec t s.stop).imp (·.2) id, fun o ho => ?_⟩
    rcases Nat.lt_or_ge s.stop o with hlt | hge
    · exact .inr (nextLineStart_le ho hlt)
    · exact .inl ((isGreatest_lineStart t s.start).2 ⟨ho, by omega⟩)

/-- Whole lines are left as they are. -/
theorem wholeLines_of_lines (hstart : t.StartsLine w.start) (hle : w.start ≤ w.stop)
    (hlast : t.StartsLine w.stop ∧ w.start < w.stop ∨ w.stop = size t) :
    t.wholeLines w = w := by
  have hsize : w.stop ≤ size t := hlast.elim (fun h => h.1.le_size) Nat.le_of_eq
  rw [wholeLines_eq hle hsize, lineStart_of_startsLine hstart]
  split
  · rfl
  · rename_i hends
    have hend : w.stop = size t := hlast.resolve_left fun h =>
      hends ⟨h.2, startsLine_iff.1 h.1⟩
    rw [hend, nextLineStart_size, ← hend]

theorem wholeLines_wholeLines (hle : s.start ≤ s.stop) (hsize : s.stop ≤ size t) :
    t.wholeLines (t.wholeLines s) = t.wholeLines s := by
  obtain ⟨hmem, hbefore, hafter, hlast⟩ := wholeLines_spec hle hsize
  exact wholeLines_of_lines (startsLine_iff.2 hmem) (by omega)
    (hlast.imp (fun h => ⟨startsLine_iff.2 h.1, h.2⟩) id)

/-! ### Spans of any kind -/

theorem isBoundary_nextLineStart (t : Text) (o : Nat) : t.IsBoundary (nextLineStart t o) := by
  rcases nextLineStart_spec t o with ⟨hmem, -⟩ | hend
  · exact isBoundary_of_mem_lineStarts hmem
  · exact hend ▸ isBoundary_size t

/-- What a span is widened to is a part of the text, even for a reversed span or one that runs past
the end. -/
theorem exists_slice?_wholeLines (t : Text) (s : Span) :
    ∃ text, t.slice? (t.wholeLines s) = some text := by
  have hstart := isBoundary_of_mem_lineStarts (lineStart_mem t s.start).1
  unfold wholeLines
  dsimp only
  generalize (if s.stop ≤ size t then s.stop else size t) = stop
  split
  · rename_i hends
    obtain ⟨h, h'⟩ := isBoundary_ofBounds hstart (isBoundary_of_mem_lineStarts hends.2)
    exact exists_slice? h h' (Span.ofBounds_ordered _ _)
  · obtain ⟨h, h'⟩ := isBoundary_ofBounds hstart (isBoundary_nextLineStart t _)
    exact exists_slice? h h' (Span.ofBounds_ordered _ _)

/-- **A span is widened to the lines that it reaches and to no others.** -/
theorem wholeLines_exact (t : Text) (s : Span) :
    (s.start ≤ s.stop → s.stop ≤ size t →
      t.IsWidened s (t.wholeLines s) ∧ t.wholeLines (t.wholeLines s) = t.wholeLines s) ∧
    (∃ text, t.slice? (t.wholeLines s) = some text) ∧
    t.wholeLinesByTable? s = some (t.wholeLines s) :=
  ⟨fun hle hsize => ⟨isWidened_wholeLines hle hsize, wholeLines_wholeLines hle hsize⟩,
    exists_slice?_wholeLines t s, wholeLinesByTable?_eq t s⟩

/-- Two lines, of which the first has a character of two bytes and the last one has no newline. -/
def accentLine : Text := ['é', '\n', 'x']

theorem wholeLines_exact_accentLine :
    (1 ≤ 1 ∧ 1 ≤ size accentLine ∧ accentLine.IsWidened ⟨1, 1⟩ ⟨0, 3⟩ ∧
      accentLine.wholeLines ⟨0, 3⟩ = ⟨0, 3⟩) ∧
    (2 ≤ 4 ∧ 4 ≤ size accentLine ∧ accentLine.IsWidened ⟨2, 4⟩ ⟨0, 4⟩ ∧
      accentLine.wholeLines ⟨0, 4⟩ = ⟨0, 4⟩) := by
  have hsize : size accentLine = 4 := rfl
  obtain ⟨hwithin, -⟩ := wholeLines_exact accentLine ⟨1, 1⟩
  obtain ⟨hacross, -⟩ := wholeLines_exact accentLine ⟨2, 4⟩
  have hone : accentLine.wholeLines ⟨1, 1⟩ = ⟨0, 3⟩ := by decide
  have htwo : accentLine.wholeLines ⟨2, 4⟩ = ⟨0, 4⟩ := by decide
  obtain ⟨hwidened, hagain⟩ := hwithin (by decide) (by decide)
  obtain ⟨hwidened', hagain'⟩ := hacross (by decide) (by decide)
  rw [hone] at hwidened hagain
  rw [htwo] at hwidened' hagain'
  exact ⟨⟨by decide, by omega, hwidened, hagain⟩, by decide, by omega, hwidened', hagain'⟩

end CallerClosure.Text
