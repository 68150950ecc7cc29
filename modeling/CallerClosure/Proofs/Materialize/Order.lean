import CallerClosure.Proofs.Materialize.Fragments
import Mathlib.Data.List.Nodup

/-!
# The order of declarations

* `Path.compare` is a linear order of documents, `Path.compare_eq_iff` says of which ones;
* `Symbol.compareDeclarations_eq` takes the order of declarations apart: members without a
  source last, then by document, by offset and by identity;
* `SymbolSet.pairwise_ordered`: members with identities of their own are listed strictly in
  this order;
* `SymbolSet.ordered_eq_of_perm`: so there is only one way to list them.
-/

namespace CallerClosure

/-! ### Paths -/

namespace Path

instance : Ord Component := ⟨Component.compare⟩

theorem Component.compare_eq :
    (Ord.compare : Component → Component → Ordering) =
      compareLex (compareOn Component.rank) (compareOn Component.label) := rfl

instance : Std.TransOrd Component := by
  unfold Std.TransOrd
  rw [Component.compare_eq]
  infer_instance

instance : Std.LawfulEqOrd Component where
  compare_self {a} := by
    rw [Component.compare_eq]
    exact Std.ReflCmp.compare_self
  eq_of_compare {a b} h := by
    rw [Component.compare_eq, compareLex_eq_eq] at h
    have hrank : a.rank = b.rank := Std.LawfulEqOrd.eq_of_compare h.1
    have hlabel : a.label = b.label := Std.LawfulEqOrd.eq_of_compare h.2
    cases a <;> cases b <;> simp_all [Component.rank, Component.label]

theorem compareComponents_eq : compareComponents = Ord.compare := by
  funext as bs
  induction as generalizing bs with
  | nil => cases bs <;> rfl
  | cons a as ih =>
    cases bs with
    | nil => rfl
    | cons b bs =>
      rw [compareComponents, ih]
      exact List.compareLex_cons_cons.symm

instance : Std.TransCmp compare where
  eq_swap := by
    unfold compare
    rw [compareComponents_eq]
    exact Std.OrientedOrd.eq_swap
  isLE_trans := by
    unfold compare
    rw [compareComponents_eq]
    exact Std.TransOrd.isLE_trans

/-- Paths compare as equal exactly when they name the same document. -/
theorem compare_eq_iff {p q : Path} : p.compare q = .eq ↔ p.Same q := by
  rw [compare, compareComponents_eq]
  exact Std.LawfulEqOrd.compare_eq_iff_eq

end Path

/-! ### Symbols -/

namespace Symbol

/-- Whether a symbol has no source, as a number. -/
def sourceRank (s : Symbol) : Nat :=
  match s.source? with
  | some _ => 0
  | none => 1

/-- The components of the document where a symbol is declared. -/
def declaredIn (s : Symbol) : List Path.Component :=
  match s.source? with
  | some source => source.document.components
  | none => []

/-- The offset where a symbol is declared. -/
def declaredAt (s : Symbol) : Nat :=
  match s.source? with
  | some source => source.span.start
  | none => 0

/-- **The order of declarations is lexicographic.** -/
theorem compareDeclarations_eq : compareDeclarations =
    compareLex (compareOn sourceRank) (compareLex (compareOn declaredIn)
      (compareLex (compareOn declaredAt) (compareOn Symbol.id))) := by
  funext a b
  unfold compareDeclarations compareLex compareOn sourceRank declaredIn declaredAt
  cases a.source? with
  | none =>
    cases b.source? with
    | none => rfl
    | some t => rfl
  | some s =>
    cases b.source? with
    | none => rfl
    | some t =>
      dsimp only
      rw [Path.compare, Path.compareComponents_eq, Ordering.then_assoc]
      rfl

instance : Std.TransCmp compareDeclarations := by
  rw [compareDeclarations_eq]
  infer_instance

theorem id_eq_of_compareDeclarations {a b : Symbol} (h : a.compareDeclarations b = .eq) :
    a.id = b.id := by
  rw [compareDeclarations_eq, compareLex_eq_eq, compareLex_eq_eq, compareLex_eq_eq] at h
  exact Std.LawfulEqOrd.eq_of_compare h.2.2.2

end Symbol

namespace SymbolSet

/-- **Members are listed strictly in the order of their declarations.** -/
theorem pairwise_ordered {s : SymbolSet} (h : s.ids.Nodup) :
    (s.ordered .declaration).Pairwise fun a b => a.compareDeclarations b = .lt := by
  have hsorted : (s.ordered .declaration).Pairwise fun a b =>
      (a.compareDeclarations b).isLE = true := by
    apply List.pairwise_mergeSort
    · exact fun a b c hab hbc => Std.TransCmp.isLE_trans hab hbc
    · intro a b
      have hswap : b.compareDeclarations a = (a.compareDeclarations b).swap :=
        Std.OrientedCmp.eq_swap
      rw [hswap]
      cases a.compareDeclarations b <;> rfl
  have hdistinct : (s.ordered .declaration).Pairwise fun a b => a.id ≠ b.id := by
    have hnodup := ((s.perm_ordered .declaration).map Symbol.id).nodup_iff.2 h
    exact List.pairwise_map.1 hnodup
  refine (hsorted.and hdistinct).imp fun {a b} hab => ?_
  rcases Ordering.isLE_iff_eq_lt_or_eq_eq.1 hab.1 with hlt | heq
  · exact hlt
  · exact absurd (Symbol.id_eq_of_compareDeclarations heq) hab.2

/-- In the order of declarations it is forgotten how members were found. -/
theorem ordered_eq_of_perm {s t : SymbolSet} (h : s.toList.Perm t.toList)
    (hs : s.ids.Nodup) : s.ordered .declaration = t.ordered .declaration := by
  have hperm : (s.ordered .declaration).Perm (t.ordered .declaration) :=
    (s.perm_ordered .declaration).trans (h.trans (t.perm_ordered .declaration).symm)
  have ht : t.ids.Nodup := (h.map Symbol.id).nodup_iff.1 hs
  refine hperm.eq_of_pairwise (fun a b _ _ hab hba => ?_) (pairwise_ordered hs)
    (pairwise_ordered ht)
  exact absurd (hab.symm.trans (Std.OrientedCmp.gt_of_lt hba)) (by decide)

end SymbolSet

end CallerClosure
