/-!
# Least elements of a list

* `leastFirst?` finds an element of least measure, the first one in case of a tie;
* `leastLast?` finds the last one instead;
* `least_of_leastFirst?` and `least_of_leastLast?` say so of elements that carry their positions.
-/

namespace CallerClosure

/-- The first element of least measure. -/
def leastFirst? {α : Type} (measure : α → Nat) : List α → Option α
  | [] => none
  | a :: rest =>
    match leastFirst? measure rest with
    | none => some a
    | some b => if measure a ≤ measure b then some a else some b

/-- The last element of least measure. -/
def leastLast? {α : Type} (measure : α → Nat) : List α → Option α
  | [] => none
  | a :: rest =>
    match leastLast? measure rest with
    | none => some a
    | some b => if measure a < measure b then some a else some b

variable {α : Type} {measure : α → Nat} {xs : List α} {a : α}

theorem mem_of_leastFirst? (h : leastFirst? measure xs = some a) : a ∈ xs := by
  induction xs generalizing a with
  | nil => simp [leastFirst?] at h
  | cons x xs ih =>
    simp only [leastFirst?] at h
    split at h
    · simp_all
    · rename_i b hb
      split at h
      · simp_all
      · obtain rfl := Option.some.inj h
        exact List.mem_cons_of_mem _ (ih hb)

theorem mem_of_leastLast? (h : leastLast? measure xs = some a) : a ∈ xs := by
  induction xs generalizing a with
  | nil => simp [leastLast?] at h
  | cons x xs ih =>
    simp only [leastLast?] at h
    split at h
    · simp_all
    · rename_i b hb
      split at h
      · simp_all
      · obtain rfl := Option.some.inj h
        exact List.mem_cons_of_mem _ (ih hb)

theorem leastLast?_eq_none_iff : leastLast? measure xs = none ↔ xs = [] := by
  cases xs with
  | nil => simp [leastLast?]
  | cons x xs =>
    simp only [leastLast?, reduceCtorEq, iff_false]
    split
    · simp
    · split <;> simp

theorem leastFirst?_eq_none_iff : leastFirst? measure xs = none ↔ xs = [] := by
  cases xs with
  | nil => simp [leastFirst?]
  | cons x xs =>
    simp only [leastFirst?, reduceCtorEq, iff_false]
    split
    · simp
    · split <;> simp

/-- No element is less than the least one, and every element before it is greater. -/
theorem split_of_leastFirst? (h : leastFirst? measure xs = some a) :
    ∃ before after, xs = before ++ a :: after ∧ (∀ b ∈ before, measure a < measure b) ∧
      ∀ b ∈ after, measure a ≤ measure b := by
  induction xs generalizing a with
  | nil => cases h
  | cons x xs ih =>
    rw [leastFirst?] at h
    cases hleast : leastFirst? measure xs with
    | none =>
      rw [hleast] at h
      obtain rfl := Option.some.inj h
      rw [leastFirst?_eq_none_iff] at hleast
      exact ⟨[], xs, rfl, by simp, by simp [hleast]⟩
    | some b =>
      obtain ⟨before, after, rfl, hbefore, hafter⟩ := ih hleast
      rw [hleast] at h
      by_cases hle : measure x ≤ measure b
      · obtain rfl := Option.some.inj ((if_pos hle).symm.trans h)
        refine ⟨[], before ++ b :: after, rfl, by simp, fun c hc => ?_⟩
        rcases List.mem_append.1 hc with hc | hc
        · exact Nat.le_trans hle (Nat.le_of_lt (hbefore c hc))
        · rcases List.mem_cons.1 hc with rfl | hc
          · exact hle
          · exact Nat.le_trans hle (hafter c hc)
      · obtain rfl := Option.some.inj ((if_neg hle).symm.trans h)
        exact ⟨x :: before, after, rfl,
          List.forall_mem_cons.2 ⟨Nat.lt_of_not_le hle, hbefore⟩, hafter⟩

/-- No element is less than the least one, and every element after it is greater. -/
theorem split_of_leastLast? (h : leastLast? measure xs = some a) :
    ∃ before after, xs = before ++ a :: after ∧ (∀ b ∈ before, measure a ≤ measure b) ∧
      ∀ b ∈ after, measure a < measure b := by
  induction xs generalizing a with
  | nil => cases h
  | cons x xs ih =>
    rw [leastLast?] at h
    cases hleast : leastLast? measure xs with
    | none =>
      rw [hleast] at h
      obtain rfl := Option.some.inj h
      rw [leastLast?_eq_none_iff] at hleast
      exact ⟨[], xs, rfl, by simp, by simp [hleast]⟩
    | some b =>
      obtain ⟨before, after, rfl, hbefore, hafter⟩ := ih hleast
      rw [hleast] at h
      by_cases hlt : measure x < measure b
      · obtain rfl := Option.some.inj ((if_pos hlt).symm.trans h)
        refine ⟨[], before ++ b :: after, rfl, by simp, fun c hc => ?_⟩
        rcases List.mem_append.1 hc with hc | hc
        · exact Nat.lt_of_lt_of_le hlt (hbefore c hc)
        · rcases List.mem_cons.1 hc with rfl | hc
          · exact hlt
          · exact Nat.lt_trans hlt (hafter c hc)
      · obtain rfl := Option.some.inj ((if_neg hlt).symm.trans h)
        exact ⟨x :: before, after, rfl,
          List.forall_mem_cons.2 ⟨Nat.not_lt.1 hlt, hbefore⟩, hafter⟩

/-! ### Elements with their positions -/

/-- Positions in a list grow. -/
theorem pairwise_zipIdx (xs : List α) : xs.zipIdx.Pairwise (·.2 < ·.2) := by
  have h : (xs.zipIdx.map (·.2)).Pairwise (· < ·) := by
    rw [List.zipIdx_map_snd]
    exact List.pairwise_lt_range'
  exact List.pairwise_map.1 h

section Positions

variable {measure : α × Nat → Nat} {xs : List (α × Nat)} {a b : α × Nat}
  (hxs : xs.Pairwise (·.2 < ·.2))

include hxs

/-- Of the least elements the first one is at the lowest position. -/
theorem least_of_leastFirst? (h : leastFirst? measure xs = some a) (hb : b ∈ xs) :
    measure a ≤ measure b ∧ (measure a = measure b → a.2 ≤ b.2) := by
  obtain ⟨before, after, rfl, hbefore, hafter⟩ := split_of_leastFirst? h
  rcases List.mem_append.1 hb with hb | hb
  · have hlt := hbefore b hb
    exact ⟨Nat.le_of_lt hlt, fun heq => absurd heq (Nat.ne_of_lt hlt)⟩
  · rcases List.mem_cons.1 hb with rfl | hb
    · exact ⟨Nat.le_refl _, fun _ => Nat.le_refl _⟩
    · have hpositions := (List.pairwise_cons.1 (List.pairwise_append.1 hxs).2.1).1 b hb
      exact ⟨hafter b hb, fun _ => Nat.le_of_lt hpositions⟩

/-- Of the least elements the last one is at the highest position. -/
theorem least_of_leastLast? (h : leastLast? measure xs = some a) (hb : b ∈ xs) :
    measure a ≤ measure b ∧ (measure a = measure b → b.2 ≤ a.2) := by
  obtain ⟨before, after, rfl, hbefore, hafter⟩ := split_of_leastLast? h
  rcases List.mem_append.1 hb with hb | hb
  · have hpositions := (List.pairwise_append.1 hxs).2.2 b hb a List.mem_cons_self
    exact ⟨hbefore b hb, fun _ => Nat.le_of_lt hpositions⟩
  · rcases List.mem_cons.1 hb with rfl | hb
    · exact ⟨Nat.le_refl _, fun _ => Nat.le_refl _⟩
    · have hlt := hafter b hb
      exact ⟨Nat.le_of_lt hlt, fun heq => absurd heq (Nat.ne_of_lt hlt)⟩

end Positions

end CallerClosure
