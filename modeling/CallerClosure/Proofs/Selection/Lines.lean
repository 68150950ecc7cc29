import CallerClosure.CommandLine.Selection
import CallerClosure.Proofs.Text.Places
import Mathlib.Data.List.TakeWhile

/-!
# Lines that can be selected

A line of the command line ends with its content, before the carriage returns and the newline at
its end. A newline at the end of a text starts no further line.

* `Text.IsSelectableLine` tells such a line from what stands around it;
* `IsSelectableLine.lineAt?_eq` and `exists_isSelectableLine` say that these are the lines that
  are looked up, and `offsetOf_eq_ok_iff` which lines and columns have an offset;
* `IsSelectableLine.isLine` says that a language server has the same line, whose content also
  takes in the carriage returns in front of the line break.
-/

namespace CallerClosure.Text

variable {t a b front content returns rest : Text} {n o line column : Nat}

/-! ### Carriage returns at the end of a line -/

/-- A line is cut in two: what is kept does not end with a carriage return, and the rest is made
of carriage returns only. -/
theorem exists_dropReturns (line : Text) :
    ∃ returns, line = dropReturns line ++ returns ∧ (∀ c ∈ returns, c = '\r') ∧
      (dropReturns line).getLast? ≠ some '\r' := by
  refine ⟨(line.reverse.takeWhile (· == '\r')).reverse, ?_, fun c hc => ?_, fun hlast => ?_⟩
  · rw [dropReturns, ← List.reverse_append, List.takeWhile_append_dropWhile, List.reverse_reverse]
  · have hreturn := List.mem_takeWhile_imp (List.mem_reverse.1 hc)
    exact beq_iff_eq.1 hreturn
  · rw [dropReturns, List.getLast?_reverse] at hlast
    have hstop := List.head?_dropWhile_not (· == '\r') line.reverse
    rw [hlast] at hstop
    exact absurd hstop (by decide)

theorem dropReturns_append (hcontent : content.getLast? ≠ some '\r')
    (hreturns : ∀ c ∈ returns, c = '\r') : dropReturns (content ++ returns) = content := by
  have hall : ∀ c ∈ returns.reverse, (c == '\r') = true := fun c hc =>
    beq_iff_eq.2 (hreturns c (List.mem_reverse.1 hc))
  have hstop : content.reverse.dropWhile (· == '\r') = content.reverse := by
    rcases List.eq_nil_or_concat content with rfl | ⟨w, c, rfl⟩
    · rfl
    · have hc : ¬c = '\r' := by simpa using hcontent
      simp [hc]
  rw [dropReturns, List.reverse_append, List.dropWhile_append_of_pos hall, hstop,
    List.reverse_reverse]

/-- A carriage return is one byte. -/
theorem size_of_onlyReturns (h : ∀ c ∈ returns, c = '\r') : size returns = returns.length := by
  induction returns with
  | nil => rfl
  | cons c returns ih =>
    obtain rfl := h c List.mem_cons_self
    rw [size_cons, ih fun d hd => h d (List.mem_cons_of_mem _ hd), List.length_cons]
    exact Nat.add_comm 1 _

/-! ### The lines of a text -/

theorem selectableLines_of_notMem (h : '\n' ∉ t) :
    selectableLines t = if t = [] then [] else [t] := by
  rw [selectableLines, lines_of_notMem h]
  simp

theorem selectableLines_append (h : '\n' ∉ a) (b : Text) :
    selectableLines (a ++ '\n' :: b) = a :: selectableLines b := by
  have hne := lines_ne_nil b
  rw [selectableLines, selectableLines, lines_append h, List.getLast?_cons_of_ne_nil hne,
    List.dropLast_cons_of_ne_nil hne]
  split <;> rfl

/-- Line number `n` of a text as it can be selected: what stands before it, its content, the
carriage returns at its end, and what follows. A newline ends the line, or else the text does, and
then there is something on it. -/
structure IsSelectableLine (t : Text) (n : Nat) (front content returns rest : Text) : Prop where
  split : t = front ++ content ++ returns ++ rest
  number : newlines front = n
  starts : front = [] ∨ front.getLast? = some '\n'
  single : '\n' ∉ content
  bare : content.getLast? ≠ some '\r'
  onlyReturns : ∀ c ∈ returns, c = '\r'
  ends : rest = [] ∧ content ++ returns ≠ [] ∨ ∃ after, rest = '\n' :: after

/-- The carriage returns at the end of a line that are no part of its line break: without a
newline all of them, and all but the last one in front of a newline. -/
def strayReturns (returns rest : Text) : Text :=
  if rest = [] then returns else returns.dropLast

theorem strayReturns_isPrefix (returns rest : Text) : strayReturns returns rest <+: returns := by
  unfold strayReturns
  split
  · exact List.prefix_refl returns
  · exact List.dropLast_prefix returns

theorem strayReturns_eq_nil_iff (h : ∀ c ∈ returns, c = '\r') :
    strayReturns returns rest = [] ↔ returns = [] ∨ returns = ['\r'] ∧ rest ≠ [] := by
  by_cases hrest : rest = []
  · simp [strayReturns, hrest]
  · rw [strayReturns, if_neg hrest]
    rcases List.eq_nil_or_concat returns with rfl | ⟨stray, c, rfl⟩
    · simp
    · obtain rfl : c = '\r' := h c (by simp)
      simp [hrest]

namespace IsSelectableLine

theorem notMem_returns (h : IsSelectableLine t n front content returns rest) :
    '\n' ∉ returns := fun hmem => absurd (h.onlyReturns '\n' hmem) (by decide)

theorem notMem (h : IsSelectableLine t n front content returns rest) :
    '\n' ∉ content ++ returns := by
  rw [List.mem_append, not_or]
  exact ⟨h.single, h.notMem_returns⟩

/-- A language server has the same line. To its content belong the carriage returns that are no
part of the line break. -/
theorem isLine (h : IsSelectableLine t n front content returns rest) :
    ∃ tail, IsLine t n front (content ++ strayReturns returns rest) tail := by
  have hstray : '\n' ∉ content ++ strayReturns returns rest := fun hmem =>
    h.notMem (((List.prefix_append_right_inj content).2
      (strayReturns_isPrefix returns rest)).mem hmem)
  rcases h.ends with ⟨rfl, -⟩ | ⟨after, rfl⟩
  · refine ⟨[], ?_, h.number, h.starts, hstray, .inl rfl⟩
    rw [strayReturns, if_pos rfl, h.split, ← List.append_assoc]
  · rcases List.eq_nil_or_concat returns with rfl | ⟨stray, c, rfl⟩
    · refine ⟨'\n' :: after, ?_, h.number, h.starts, hstray, .inr (.inl ⟨after, rfl, ?_⟩)⟩
      · simp [strayReturns, h.split]
      · simpa [strayReturns] using h.bare
    · obtain rfl : c = '\r' := h.onlyReturns c (by simp)
      refine ⟨'\r' :: '\n' :: after, ?_, h.number, h.starts, hstray, .inr (.inr ⟨after, rfl⟩)⟩
      simp [strayReturns, h.split]

/-- A line of what follows a newline is a later line of the whole text. -/
theorem later (h : IsSelectableLine b n front content returns rest) (ha : '\n' ∉ a) :
    IsSelectableLine (a ++ '\n' :: b) (n + 1) (a ++ '\n' :: front) content returns rest := by
  obtain ⟨tail, hline⟩ := h.isLine
  have hlater := hline.later ha
  exact ⟨by simp [h.split], hlater.number, hlater.starts, h.single, h.bare, h.onlyReturns, h.ends⟩

/-- A line after the first one is a line of what follows the first newline. -/
theorem of_later (h : IsSelectableLine (a ++ '\n' :: b) (n + 1) front content returns rest)
    (ha : '\n' ∉ a) :
    ∃ f, front = a ++ '\n' :: f ∧ IsSelectableLine b n f content returns rest := by
  obtain ⟨tail, hline⟩ := h.isLine
  obtain ⟨f, rfl, hfirst⟩ := hline.of_later ha
  have hsplit := h.split
  rw [List.append_assoc, List.append_assoc, List.append_assoc, List.cons_append,
    List.append_cancel_left_eq, List.cons_inj_right] at hsplit
  refine ⟨f, rfl, ?_, hfirst.number, hfirst.starts, h.single, h.bare, h.onlyReturns, h.ends⟩
  rw [hsplit, List.append_assoc, List.append_assoc]

/-- The line is found under its number, with its start and its content. -/
theorem lineAt?_eq (h : IsSelectableLine t n front content returns rest) (start : Nat) :
    lineAt? (selectableLines t) n start = some (start + size front, content) := by
  have hdropped := dropReturns_append h.bare h.onlyReturns
  -- As in `IsLine.offsetInLines?_eq`, the lines before it are cut off one by one.
  induction n generalizing t front start with
  | zero =>
    obtain ⟨tail, hline⟩ := h.isLine
    obtain rfl := hline.front_eq_nil
    have hsplit : t = (content ++ returns) ++ rest := h.split
    rcases h.ends with ⟨rfl, hne⟩ | ⟨after, rfl⟩
    · rw [hsplit, List.append_nil, selectableLines_of_notMem h.notMem, if_neg hne, lineAt?,
        hdropped]
      rfl
    · rw [hsplit, selectableLines_append h.notMem, lineAt?, hdropped]
      rfl
  | succ n ih =>
    rcases exists_firstLine t with hnone | ⟨a, b, rfl, ha⟩
    · obtain ⟨tail, hline⟩ := h.isLine
      have := hline.number_le
      rw [newlines_eq_zero_iff.2 hnone] at this
      omega
    · obtain ⟨f, rfl, hline⟩ := h.of_later ha
      have hnewline : '\n'.utf8Size = 1 := rfl
      rw [selectableLines_append ha, lineAt?, ih hline, size_append, size_cons, Option.some.injEq,
        Prod.mk.injEq]
      exact ⟨by omega, rfl⟩

end IsSelectableLine

/-- What is looked up under a number is such a line. -/
theorem exists_isSelectableLine {start : Nat} {found : Nat × Text}
    (h : lineAt? (selectableLines t) n start = some found) :
    ∃ front content returns rest, IsSelectableLine t n front content returns rest := by
  induction n generalizing t start with
  | zero =>
    rcases exists_firstLine t with hnone | ⟨a, b, rfl, ha⟩
    · rw [selectableLines_of_notMem hnone] at h
      split at h
      · cases h
      · rename_i hne
        obtain ⟨returns, hline, hreturns, hbare⟩ := exists_dropReturns t
        rw [hline] at hne hnone
        rw [List.mem_append, not_or] at hnone
        exact ⟨[], _, returns, [], by simpa using hline, rfl, .inl rfl, hnone.1, hbare, hreturns,
          .inl ⟨rfl, hne⟩⟩
    · obtain ⟨returns, hline, hreturns, hbare⟩ := exists_dropReturns a
      rw [hline, List.mem_append, not_or] at ha
      exact ⟨[], _, returns, '\n' :: b, by rw [List.nil_append, ← hline], rfl, .inl rfl, ha.1,
        hbare, hreturns, .inr ⟨b, rfl⟩⟩
  | succ n ih =>
    rcases exists_firstLine t with hnone | ⟨a, b, rfl, ha⟩
    · rw [selectableLines_of_notMem hnone] at h
      split at h <;> cases h
    · rw [selectableLines_append ha, lineAt?] at h
      obtain ⟨front, content, returns, rest, hline⟩ := ih h
      exact ⟨_, content, returns, rest, hline.later ha⟩

/-! ### Lines and columns with an offset -/

theorem IsSelectableLine.offsetOf_eq (h : IsSelectableLine t n front content returns rest)
    (k : Nat) :
    t.offsetOf (n + 1) (k + 1) =
      if k ≤ content.length then .ok (size (front ++ content.take k))
      else .error (.columnMissing (n + 1) (k + 1)) := by
  rw [offsetOf, if_neg (by omega), Nat.add_sub_cancel, Nat.add_sub_cancel, h.lineAt?_eq]
  simp only [Nat.zero_add, size_append]

/-- **A line and column have an offset if there is such a line, and the column comes after some
characters of its content.** -/
theorem offsetOf_eq_ok_iff :
    t.offsetOf line column = .ok o ↔
      ∃ n front a b returns rest, line = n + 1 ∧ column = a.length + 1 ∧
        IsSelectableLine t n front (a ++ b) returns rest ∧ o = size (front ++ a) := by
  constructor
  · intro h
    obtain ⟨n, rfl⟩ : ∃ n, line = n + 1 := by
      refine Nat.exists_eq_add_one.2 (Nat.pos_of_ne_zero ?_)
      rintro rfl
      cases h
    obtain ⟨k, rfl⟩ : ∃ k, column = k + 1 := by
      refine Nat.exists_eq_add_one.2 (Nat.pos_of_ne_zero ?_)
      rintro rfl
      cases h
    cases hfound : lineAt? (selectableLines t) n 0 with
    | none =>
      rw [offsetOf, if_neg (by omega), Nat.add_sub_cancel, hfound] at h
      cases h
    | some found =>
      obtain ⟨front, content, returns, rest, hline⟩ := exists_isSelectableLine hfound
      rw [hline.offsetOf_eq] at h
      split at h
      · rename_i hle
        refine ⟨n, front, content.take k, content.drop k, returns, rest, rfl, ?_, ?_,
          (Except.ok.inj h).symm⟩
        · rw [List.length_take_of_le hle]
        · rwa [List.take_append_drop]
      · cases h
  · rintro ⟨n, front, a, b, returns, rest, rfl, rfl, hline, rfl⟩
    rw [hline.offsetOf_eq, if_pos (by simp), List.take_left]

end CallerClosure.Text
