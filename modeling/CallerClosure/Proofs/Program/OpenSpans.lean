import CallerClosure.Proofs.Program.Nesting
import Mathlib.Data.List.Basic
import Mathlib.Data.List.TakeWhile

/-!
# The spans that stay open

The pass over the spans of a document keeps a stack of open spans, whether or not the spans are
nested. Each span on the stack covers those above it, and is the parent of the next one above it.

* `Nesting.stackAfter` is the stack after a pass, `Nesting.isTower_stackAfter` and
  `Nesting.linked_stackAfter` are what holds of it for any spans;
* `Nesting.mem_stackAfter` says which spans are not closed: those that cover all that comes
  after them. `Nesting.getLast?_stackAfter` says where one stays that covers all others: at the
  bottom;
* `Nesting.exists_findSome?_of_mem` is about a search through the stack, from the inside.
-/

namespace CallerClosure

namespace Nesting

/-- The stack after a pass over spans. -/
def stackAfter : List IndexedSpan → List IndexedSpan → List IndexedSpan
  | stack, [] => stack
  | stack, s :: rest => stackAfter (s :: openAround s.span stack) rest

theorem stackAfter_append (stack xs ys : List IndexedSpan) :
    stackAfter stack (xs ++ ys) = stackAfter (stackAfter stack xs) ys := by
  induction xs generalizing stack with
  | nil => rfl
  | cons s rest ih => exact ih _

/-- The last span is on top. -/
theorem stackAfter_concat (stack spans : List IndexedSpan) (s : IndexedSpan) :
    stackAfter stack (spans ++ [s]) = s :: openAround s.span (stackAfter stack spans) :=
  stackAfter_append stack spans [s]

theorem parentsFrom_append (stack xs ys : List IndexedSpan) :
    parentsFrom stack (xs ++ ys) = parentsFrom stack xs ++ parentsFrom (stackAfter stack xs) ys := by
  induction xs generalizing stack with
  | nil => rfl
  | cons s rest ih => simp [parentsFrom, stackAfter, ih]

variable {stack spans : List IndexedSpan}

/-- The spans that are still open cover the one that is opened. -/
theorem isTower_cons_openAround (h : IsTower stack) (s : IndexedSpan) :
    IsTower (s :: openAround s.span stack) := by
  refine List.pairwise_cons.2 ⟨fun t ht => ?_, h.sublist (List.dropWhile_sublist _)⟩
  rw [openAround_eq_around h] at ht
  exact (mem_around.1 ht).2

theorem isTower_stackAfter (h : IsTower stack) : IsTower (stackAfter stack spans) := by
  induction spans generalizing stack with
  | nil => exact h
  | cons s rest ih => exact ih (isTower_cons_openAround h s)

/-- The stack holds spans of the pass, the later ones first. -/
theorem stackAfter_sublist : (stackAfter stack spans).Sublist (spans.reverse ++ stack) := by
  induction spans generalizing stack with
  | nil => exact .refl _
  | cons s rest ih =>
    rw [List.reverse_cons, List.append_assoc]
    exact ih.trans (((List.dropWhile_sublist _).cons_cons s).append_left _)

/-- A span stays open as long as it covers what comes next. -/
theorem mem_stackAfter (h : IsTower stack) {t : IndexedSpan} (ht : t ∈ stack)
    (hcovers : ∀ s ∈ spans, t.span.Covers s.span) : t ∈ stackAfter stack spans := by
  induction spans generalizing stack with
  | nil => exact ht
  | cons s rest ih =>
    obtain ⟨hs, hrest⟩ := List.forall_mem_cons.1 hcovers
    refine ih (isTower_cons_openAround h s) (List.mem_cons_of_mem _ ?_) hrest
    rw [openAround_eq_around h]
    exact mem_around.2 ⟨ht, hs⟩

/-- A span that covers the next one is not closed, so it stays at the bottom. -/
theorem getLast?_openAround {root : IndexedSpan} {span : Span} (hroot : stack.getLast? = some root)
    (hcovers : root.span.Covers span) : (openAround span stack).getLast? = some root := by
  obtain ⟨closed, hsplit⟩ : openAround span stack <:+ stack := List.dropWhile_suffix _
  have hopen : openAround span stack ≠ [] := by
    intro hnil
    have hclosed := List.dropWhile_eq_nil_iff.1 hnil root (List.mem_of_getLast? hroot)
    simp [hcovers] at hclosed
  rwa [← hsplit, List.getLast?_append_of_ne_nil closed hopen] at hroot

/-- A span that covers all others of a pass is at the bottom of the stack from then on. -/
theorem getLast?_stackAfter {root : IndexedSpan} (hroot : stack.getLast? = some root)
    (hcovers : ∀ s ∈ spans, root.span.Covers s.span) :
    (stackAfter stack spans).getLast? = some root := by
  induction spans generalizing stack with
  | nil => exact hroot
  | cons s rest ih =>
    obtain ⟨hs, hrest⟩ := List.forall_mem_cons.1 hcovers
    refine ih ?_ hrest
    rw [List.getLast?_cons, getLast?_openAround hroot hs, Option.getD_some]

/-- The next span below a span of the stack is its parent, and the lowest one has none. -/
def Linked (links : List (Nat × Option Nat)) (stack : List IndexedSpan) : Prop :=
  ∀ above s below, stack = above ++ s :: below → (s.index, below.head?.map (·.index)) ∈ links

variable {links : List (Nat × Option Nat)}

theorem Linked.of_suffix {lower : List IndexedSpan} (h : Linked links stack)
    (hlower : lower <:+ stack) : Linked links lower := by
  obtain ⟨upper, rfl⟩ := hlower
  rintro above s below rfl
  exact h (upper ++ above) s below (List.append_assoc _ _ _).symm

/-- The parents that a pass finds link its stack. -/
theorem linked_stackAfter (h : Linked links stack) (hlinks : parentsFrom stack spans ⊆ links) :
    Linked links (stackAfter stack spans) := by
  induction spans generalizing stack with
  | nil => exact h
  | cons s rest ih =>
    obtain ⟨hs, hrest⟩ := List.forall_mem_cons.1 hlinks
    refine ih (fun above t below heq => ?_) hrest
    cases above with
    | nil =>
      obtain ⟨rfl, rfl⟩ := List.cons.inj heq
      exact hs
    | cons _ above =>
      have hopen := (List.cons.inj heq).2
      exact h.of_suffix (List.dropWhile_suffix _) above t below hopen

/-- A search from the inside to the outside finds what belongs to a span, or something that belongs
to a span inside it. -/
theorem exists_findSome?_of_mem {α : Type} {f : Nat → Option α} (h : IsTower stack)
    {t : IndexedSpan} (ht : t ∈ stack) (hf : f t.index ≠ none) :
    ∃ u ∈ stack, ∃ a, f u.index = some a ∧
      (stack.map (·.index)).findSome? f = some a ∧ t.span.Covers u.span := by
  induction stack with
  | nil => cases ht
  | cons top below ih =>
    obtain ⟨hbelow, htower⟩ := List.pairwise_cons.1 h
    rw [List.map_cons, List.findSome?_cons]
    cases htop : f top.index with
    | some a =>
      refine ⟨top, List.mem_cons_self, a, htop, rfl, ?_⟩
      rcases List.mem_cons.1 ht with rfl | ht
      · exact ⟨Nat.le_refl _, Nat.le_refl _⟩
      · exact hbelow t ht
    | none =>
      rcases List.mem_cons.1 ht with rfl | ht
      · exact absurd htop hf
      · obtain ⟨u, hu, a, ha, hfind, hcovers⟩ := ih htower ht
        exact ⟨u, List.mem_cons_of_mem _ hu, a, ha, hfind, hcovers⟩

end Nesting

end CallerClosure
