import Mathlib.Data.List.Basic

/-!
# Numbers and separators in texts

Identities are put together from texts and numbers with separators between them. A number is
told by its digits, and no separator is a digit.

* `toDigits_injective` and `notMem_toDigits` say so;
* `append_cons_inj_left` and `append_cons_inj_right` take a text apart at a separator that does
  not occur on one of its sides.
-/

namespace CallerClosure

/-- A number is told by its decimal digits. -/
theorem toDigits_injective : Function.Injective (Nat.toDigits 10) := by
  intro n m h
  have hread := congrArg (fun cs => Nat.ofDigitChars 10 cs 0) h
  simpa only [Nat.ofDigitChars_ten_toDigits] using hread

/-- What is no digit does not occur in a number. -/
theorem notMem_toDigits {c : Char} (h : c.isDigit = false) (n : Nat) :
    c ∉ Nat.toDigits 10 n := by
  intro hc
  have hdigit := Nat.isDigit_of_mem_toDigits (by decide) (by decide) hc
  rw [h] at hdigit
  cases hdigit

section Separators

variable {α : Type} {xs xs' ys ys' : List α} {c : α}

/-- The first occurrence of a separator divides a list in one way. -/
theorem append_cons_inj_left (h : c ∉ xs) (h' : c ∉ xs') :
    xs ++ c :: ys = xs' ++ c :: ys' ↔ xs = xs' ∧ ys = ys' := by
  constructor
  · intro heq
    rcases List.append_eq_append_iff.1 heq with ⟨as, hxs, hys⟩ | ⟨as, hxs, hys⟩
    all_goals
      rcases as with _ | ⟨a, as⟩
      · simp_all
      · rw [List.cons_append] at hys
        obtain ⟨rfl, -⟩ := List.cons.inj hys
        simp [hxs] at h h'
  · rintro ⟨rfl, rfl⟩
    rfl

/-- The last occurrence of a separator divides a list in one way. -/
theorem append_cons_inj_right (h : c ∉ ys) (h' : c ∉ ys') :
    xs ++ c :: ys = xs' ++ c :: ys' ↔ xs = xs' ∧ ys = ys' := by
  rw [← List.reverse_inj]
  simp only [List.reverse_append, List.reverse_cons, List.append_assoc, List.cons_append,
    List.nil_append]
  rw [append_cons_inj_left (by simpa using h) (by simpa using h'), List.reverse_inj,
    List.reverse_inj]
  exact and_comm

end Separators

end CallerClosure
