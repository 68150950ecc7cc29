import CallerClosure.Resolve
import Mathlib.Data.Finset.Card
import Mathlib.Data.Finset.Dedup

/-!
# Walks in a fixed syntax tree

When the answers about nodes depend on the node alone, a walk is a function of the node that
it starts at.

* `SyntaxTree` holds such answers, `Program.Shows` says that a program gives them;
* `SyntaxTree.walk` is the walk in a tree, and `Program.Shows.ask_walk` says that the program
  walks in the same way;
* `SyntaxTree.walk_eq_walk`: limits that leave room for every node make no difference;
* `Program.Outwards` is the way from a node to an outermost one. Where questions on it change
  nothing, a walk ends with the first method on it, `Program.ask_walk_of_outwards`.
-/

namespace CallerClosure

/-- What nodes stand for, and which nodes are around them. -/
structure SyntaxTree (ν : Type) where
  used : ν → Option Symbol
  declared : ν → Option Symbol
  parent : ν → Option ν

/-- A program answers as a tree says, in whatever state it is. -/
structure Program.Shows {σ ν : Type} (p : Program σ ν) (t : SyntaxTree ν) : Prop where
  used : ∀ node s, ((p.referencedSymbol node).ask s).1 = .ok (t.used node)
  declared : ∀ node s, ((p.declaredSymbol node).ask s).1 = .ok (t.declared node)
  parent : ∀ node s, p.parent node s = t.parent node

namespace SyntaxTree

variable {ν : Type} (t : SyntaxTree ν)

/-- The method that a node uses or else declares. -/
def methodAt (node : ν) : Option Symbol :=
  ((t.used node).filter Symbol.isMethodLike).or ((t.declared node).filter Symbol.isMethodLike)

variable [DecidableEq ν]

/-- The first method on the way outwards from a node. -/
def walk : Nat → List ν → ν → Option Symbol
  | 0, _, _ => none
  | limit + 1, seen, node =>
    if node ∈ seen then none
    else (t.methodAt node).or ((t.parent node).bind (walk limit (node :: seen)))

theorem walk_of_mem {seen : List ν} {node : ν} (h : node ∈ seen) (limit : Nat) :
    t.walk limit seen node = none := by
  cases limit with
  | zero => rfl
  | succ limit => rw [walk, if_pos h]

/-- A walk ends at a node with the method that it finds. -/
theorem exists_of_walk {limit : Nat} {seen : List ν} {node : ν} {m : Symbol}
    (h : t.walk limit seen node = some m) : ∃ n, t.methodAt n = some m := by
  induction limit generalizing seen node with
  | zero => cases h
  | succ limit ih =>
    rw [walk] at h
    split at h
    · cases h
    · rcases Option.or_eq_some_iff.1 h with h | ⟨-, h⟩
      · exact ⟨node, h⟩
      · obtain ⟨outer, -, h⟩ := Option.bind_eq_some_iff.1 h
        exact ih h

/-- Nodes that were seen are not all of them when one of them was not seen. -/
theorem length_lt_card {nodes : Finset ν} {seen : List ν} (hnodup : seen.Nodup)
    (hseen : ∀ n ∈ seen, n ∈ nodes) {node : ν} (hnode : node ∈ nodes) (hnew : node ∉ seen) :
    seen.length < nodes.card := by
  have hcard := List.toFinset_card_of_nodup (List.nodup_cons.2 ⟨hnew, hnodup⟩)
  have hsub : (node :: seen).toFinset ⊆ nodes := by
    intro n hn
    rcases List.mem_cons.1 (List.mem_toFinset.1 hn) with rfl | hn
    · exact hnode
    · exact hseen n hn
  have hle := Finset.card_le_card hsub
  rw [hcard, List.length_cons] at hle
  exact hle

/-- **A limit that leaves room for every node is as good as any other.** At the latest when
all nodes were seen the walk is over. -/
theorem walk_eq_walk {nodes : Finset ν}
    (hnodes : ∀ n ∈ nodes, ∀ m, t.parent n = some m → m ∈ nodes) {node : ν} (hnode : node ∈ nodes)
    {seen : List ν} (hnodup : seen.Nodup) (hseen : ∀ n ∈ seen, n ∈ nodes) {limit limit' : Nat}
    (hlimit : nodes.card ≤ seen.length + limit) (hlimit' : nodes.card ≤ seen.length + limit') :
    t.walk limit seen node = t.walk limit' seen node := by
  -- every step takes one off the limits and adds one node to those that were seen
  induction limit generalizing limit' seen node with
  | zero =>
    have hmem : node ∈ seen := by
      by_contra hnew
      have hlt := length_lt_card hnodup hseen hnode hnew
      omega
    rw [t.walk_of_mem hmem, t.walk_of_mem hmem]
  | succ limit ih =>
    by_cases hnew : node ∈ seen
    · rw [t.walk_of_mem hnew, t.walk_of_mem hnew]
    · have hlt := length_lt_card hnodup hseen hnode hnew
      obtain ⟨limit', rfl⟩ : ∃ k, limit' = k + 1 := Nat.exists_eq_succ_of_ne_zero (by omega)
      rw [walk, walk, if_neg hnew, if_neg hnew]
      cases hparent : t.parent node with
      | none => rfl
      | some outer =>
        have hrest : ∀ n ∈ node :: seen, n ∈ nodes := by
          intro n hn
          rcases List.mem_cons.1 hn with rfl | hn
          · exact hnode
          · exact hseen n hn
        rw [Option.bind_some, Option.bind_some]
        congr 1
        apply ih (hnodes node hnode outer hparent) (List.nodup_cons.2 ⟨hnew, hnodup⟩) hrest
        · rw [List.length_cons]
          omega
        · rw [List.length_cons]
          omega

end SyntaxTree

theorem Program.ask_parentNow {σ ν : Type} (p : Program σ ν) (node : ν) (s : σ) :
    (p.parentNow node).ask s = (.ok (p.parent node s), s) := rfl

namespace Program.Shows

variable {σ ν : Type} {p : Program σ ν} {t : SyntaxTree ν}

theorem ask_methodAt (h : p.Shows t) (node : ν) (s : σ) :
    ((p.methodAt node).ask s).1 = .ok (t.methodAt node) := by
  rw [Program.methodAt, Query.ask_bind_of_ok (Prod.ext (h.used node s) rfl), SyntaxTree.methodAt]
  cases (t.used node).filter Symbol.isMethodLike with
  | some used => rfl
  | none =>
    dsimp only
    rw [Query.ask_bind_of_ok (Prod.ext (h.declared node _) rfl)]
    rfl

/-- **A program walks as its tree does.** -/
theorem ask_walk [DecidableEq ν] (h : p.Shows t) (limit : Nat) (seen : List ν) (node : ν)
    (s : σ) : ((p.walk limit seen node).ask s).1 = .ok (t.walk limit seen node) := by
  induction limit generalizing seen node s with
  | zero => rfl
  | succ limit ih =>
    rw [Program.walk, SyntaxTree.walk]
    by_cases hseen : node ∈ seen
    · rw [if_pos hseen, if_pos hseen]
      rfl
    · rw [if_neg hseen, if_neg hseen,
        Query.ask_bind_of_ok (Prod.ext (h.ask_methodAt node s) rfl)]
      cases t.methodAt node with
      | some method => rfl
      | none =>
        dsimp only
        rw [Query.ask_bind_of_ok (Program.ask_parentNow p node _), h.parent]
        cases t.parent node with
        | none => rfl
        | some outer => exact ih (node :: seen) outer _

end Program.Shows

/-! ### Ways outwards -/

namespace Program

variable {σ ν : Type} {p : Program σ ν} {s : σ}

/-- The way outwards from a node: each node is followed by its parent, and the last one has
no parent. -/
inductive Outwards (p : Program σ ν) (s : σ) : Option ν → List ν → Prop
  | done : Outwards p s none []
  | step {node : ν} {rest : List ν} :
      Outwards p s (p.parent node s) rest → Outwards p s (some node) (node :: rest)

/-- A way starts at its first node. -/
theorem Outwards.eq_head? {node : Option ν} {way : List ν} (h : p.Outwards s node way) :
    node = way.head? := by
  cases h <;> rfl

/-- **A walk with room for a way outwards finds the first method on it**, where asking about its
nodes changes nothing. -/
theorem ask_walk_of_outwards [DecidableEq ν] {method : ν → Option Symbol} {limit : Nat}
    {seen way : List ν} {node : ν} (h : p.Outwards s (some node) way)
    (hmethod : ∀ n ∈ way, (p.methodAt n).ask s = (.ok (method n), s))
    (hnodup : way.Nodup) (hseen : ∀ n ∈ way, n ∉ seen) (hlimit : way.length ≤ limit) :
    (p.walk limit seen node).ask s = (.ok (way.findSome? method), s) := by
  induction way generalizing limit seen node with
  | nil => cases h
  | cons n rest ih =>
    obtain ⟨hnode, hrest⟩ := List.nodup_cons.1 hnodup
    cases h with
    | step h =>
      obtain ⟨limit, rfl⟩ : ∃ k, limit = k + 1 := Nat.exists_eq_succ_of_ne_zero (by
        rw [List.length_cons] at hlimit
        omega)
      rw [walk, if_neg (hseen n List.mem_cons_self),
        Query.ask_bind_of_ok (hmethod n List.mem_cons_self), List.findSome?_cons]
      cases method n with
      | some found => rfl
      | none =>
        dsimp only
        rw [Query.ask_bind_of_ok (ask_parentNow p n s)]
        cases hparent : p.parent n s with
        | none =>
          rw [hparent] at h
          cases h
          rfl
        | some outer =>
          rw [hparent] at h
          refine ih h (fun k hk => hmethod k (List.mem_cons_of_mem _ hk)) hrest ?_ ?_
          · intro k hk hmem
            rcases List.mem_cons.1 hmem with rfl | hmem
            · exact hnode hk
            · exact hseen k (List.mem_cons_of_mem _ hk) hmem
          · rw [List.length_cons] at hlimit
            omega

end Program

end CallerClosure
