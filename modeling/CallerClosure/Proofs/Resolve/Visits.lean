import CallerClosure.Program.Tabled
import CallerClosure.Proofs.Program.Transcript
import CallerClosure.Proofs.Resolve.Walk
import Mathlib.Data.List.Chain
import Mathlib.Logic.Relation

/-!
# The nodes that a walk visits

The parents of nodes need not lead anywhere: they may run together, and they may go round in
circles. A walk follows them until it comes to a method, to a node without a parent, or to a node
that it has seen.

* `SyntaxTree.Visits` says which nodes are visited; each of them once (`Visits.nodup`), one the
  parent of the other (`Visits.isChain`), the last one alone with a method
  (`Visits.methodAt_of_mem_dropLast`);
* `SyntaxTree.exists_visits`: among finitely many nodes every walk comes to an end;
* `SyntaxTree.Visits.mem_of_reachable`: a walk that finds no method has been everywhere;
* `Program.Shows.ask_walk_transcribed` says what is asked on a walk, and
  `Program.resolveMethod_exact` puts this together for a selection.
-/

namespace CallerClosure

namespace SyntaxTree

variable {ν : Type} (t : SyntaxTree ν)

/-- The questions about a node: what it uses, and if that is no method, what it declares. -/
def questionsAt (node : ν) : List (Question ν) :=
  match (t.used node).filter Symbol.isMethodLike with
  | some _ => [.referencedSymbol node]
  | none => [.referencedSymbol node, .declaredSymbol node]

/-- The second node is the parent of the first one. -/
def IsParent (inner outer : ν) : Prop := t.parent inner = some outer

/-- The nodes that a walk visits from the next one on, when it has seen some nodes. -/
inductive Visits : List ν → Option ν → List ν → Prop
  /-- There is no next node. -/
  | outermost (seen : List ν) : Visits seen none []
  /-- The next node was seen before. -/
  | again {seen : List ν} {node : ν} (hseen : node ∈ seen) : Visits seen (some node) []
  /-- The next node has a method. -/
  | found {seen : List ν} {node : ν} {m : Symbol} (hnew : node ∉ seen)
      (hmethod : t.methodAt node = some m) : Visits seen (some node) [node]
  /-- The next node is passed by. -/
  | passed {seen : List ν} {node : ν} {rest : List ν} (hnew : node ∉ seen)
      (hmethod : t.methodAt node = none) (hrest : Visits (node :: seen) (t.parent node) rest) :
      Visits seen (some node) (node :: rest)

variable {t} {seen way : List ν} {next : Option ν}

/-- A node without a method uses none and declares none. -/
theorem methodAt_eq_none_iff {node : ν} :
    t.methodAt node = none ↔
      ∀ m, t.used node = some m ∨ t.declared node = some m → m.isMethodLike = false := by
  rw [methodAt, Option.or_eq_none_iff, Option.filter_eq_none_iff, Option.filter_eq_none_iff]
  constructor
  · rintro ⟨hused, hdeclared⟩ m (hm | hm)
    · simpa using hused m hm
    · simpa using hdeclared m hm
  · intro h
    exact ⟨fun m hm => by simp [h m (.inl hm)], fun m hm => by simp [h m (.inr hm)]⟩

namespace Visits

/-- No node is visited that was seen before. -/
theorem notMem (h : t.Visits seen next way) : ∀ n ∈ way, n ∉ seen := by
  induction h with
  | outermost seen => simp
  | again hseen => simp
  | found hnew _ => simpa using hnew
  | passed hnew _ _ ih =>
    exact List.forall_mem_cons.2 ⟨hnew, fun n hn hmem => ih n hn (List.mem_cons_of_mem _ hmem)⟩

/-- **No node is visited twice.** -/
theorem nodup (h : t.Visits seen next way) : way.Nodup := by
  induction h with
  | outermost seen => exact .nil
  | again hseen => exact .nil
  | found _ _ => exact List.nodup_singleton _
  | passed _ _ hrest ih =>
    exact List.nodup_cons.2 ⟨fun hmem => hrest.notMem _ hmem List.mem_cons_self, ih⟩

/-- The first node that is visited is the next one. -/
theorem next_eq (h : t.Visits seen next way) {node : ν} (hnode : node ∈ way.head?) :
    next = some node := by
  cases h with
  | outermost seen => cases hnode
  | again hseen => cases hnode
  | found _ _ => exact hnode
  | passed _ _ _ => exact hnode

/-- The next node is visited unless it was seen before. -/
theorem head?_eq (h : t.Visits seen next way) (hnext : ∀ n, next = some n → n ∉ seen) :
    way.head? = next := by
  cases h with
  | outermost seen => rfl
  | again hseen => exact absurd hseen (hnext _ rfl)
  | found _ _ => rfl
  | passed _ _ _ => rfl

/-- **Each node is the parent of the one that was visited before it.** -/
theorem isChain (h : t.Visits seen next way) : way.IsChain t.IsParent := by
  induction h with
  | outermost seen => exact .nil
  | again hseen => exact .nil
  | found _ _ => exact .singleton _
  | passed _ _ hrest ih => exact ih.cons fun outer houter => hrest.next_eq houter

/-- **Nodes with a method end a walk.** -/
theorem methodAt_of_mem_dropLast (h : t.Visits seen next way) :
    ∀ n ∈ way.dropLast, t.methodAt n = none := by
  induction h with
  | outermost seen => simp
  | again hseen => simp
  | found _ _ => simp
  | @passed seen node rest _ hmethod _ ih =>
    cases rest with
    | nil => simp
    | cons outer rest =>
      rw [List.dropLast_cons_of_ne_nil (List.cons_ne_nil _ _)]
      exact List.forall_mem_cons.2 ⟨hmethod, ih⟩

/-- Parents lead from the next node to every node that is visited. -/
theorem reachable (h : t.Visits seen next way) :
    ∀ n ∈ way, ∃ c, next = some c ∧ Relation.ReflTransGen t.IsParent c n := by
  induction h with
  | outermost seen => simp
  | again hseen => simp
  | @found seen node _ _ _ => simpa using Relation.ReflTransGen.refl
  | @passed seen node rest _ _ _ ih =>
    refine List.forall_mem_cons.2 ⟨⟨node, rfl, .refl⟩, fun n hn => ?_⟩
    obtain ⟨outer, houter, hchain⟩ := ih n hn
    exact ⟨node, rfl, .head houter hchain⟩

/-- A walk that finds no method stays among what it has seen. -/
theorem closed (h : t.Visits seen next way) (hnone : ∀ n ∈ way, t.methodAt n = none) :
    (∀ n, next = some n → n ∈ seen ∨ n ∈ way) ∧
      ∀ n ∈ way, ∀ outer, t.parent n = some outer → outer ∈ seen ∨ outer ∈ way := by
  induction h with
  | outermost seen => simp
  | again hseen => simpa using hseen
  | found _ hmethod =>
    have hmethod' := hnone _ (List.mem_singleton_self _)
    rw [hmethod] at hmethod'
    cases hmethod'
  | @passed seen node rest _ _ _ ih =>
    obtain ⟨hnext, hrest⟩ := ih fun n hn => hnone n (List.mem_cons_of_mem _ hn)
    have hmoved : ∀ n, n ∈ node :: seen ∨ n ∈ rest → n ∈ seen ∨ n ∈ node :: rest := by
      simp only [List.mem_cons]
      tauto
    refine ⟨fun n hn => ?_,
      List.forall_mem_cons.2 ⟨fun outer houter => ?_, fun n hn outer houter => ?_⟩⟩
    · obtain rfl := Option.some.inj hn
      exact .inr List.mem_cons_self
    · exact hmoved outer (hnext outer houter)
    · exact hmoved outer (hrest n hn outer houter)

/-- **A walk that finds no method has been everywhere**, although it stops where it was before. -/
theorem mem_of_reachable {c n : ν} (h : t.Visits [] (some c) way)
    (hnone : ∀ n ∈ way, t.methodAt n = none) (hn : Relation.ReflTransGen t.IsParent c n) :
    n ∈ way := by
  obtain ⟨hfirst, hclosed⟩ := h.closed hnone
  induction hn with
  | refl => simpa using hfirst c rfl
  | tail _ hparent ih => simpa using hclosed _ ih _ hparent

/-- A walk finds a method exactly when parents lead to one. -/
theorem findSome?_eq_none_iff (h : t.Visits [] next way) :
    way.findSome? t.methodAt = none ↔
      ∀ c, next = some c → ∀ n, Relation.ReflTransGen t.IsParent c n → t.methodAt n = none := by
  rw [List.findSome?_eq_none_iff]
  constructor
  · rintro hnone c rfl n hn
    exact hnone n (h.mem_of_reachable hnone hn)
  · intro hnone n hn
    obtain ⟨c, hc, hchain⟩ := h.reachable n hn
    exact hnone c hc n hchain

end Visits

/-! ### Walks among finitely many nodes -/

section Finite

variable [DecidableEq ν] {nodes : Finset ν}

/-- **Among finitely many nodes every walk comes to an end.** -/
theorem exists_visits (hnodes : ∀ n ∈ nodes, ∀ m, t.parent n = some m → m ∈ nodes)
    (hnext : ∀ n, next = some n → n ∈ nodes) (hnodup : seen.Nodup)
    (hseen : ∀ n ∈ seen, n ∈ nodes) : ∃ way, t.Visits seen next way := by
  -- every step leaves one node fewer that was not seen
  induction hk : nodes.card - seen.length using Nat.strong_induction_on generalizing seen next with
  | _ k ih =>
    cases next with
    | none => exact ⟨[], .outermost seen⟩
    | some node =>
      by_cases hnew : node ∈ seen
      · exact ⟨[], .again hnew⟩
      cases hmethod : t.methodAt node with
      | some m => exact ⟨[node], .found hnew hmethod⟩
      | none =>
        have hnode := hnext node rfl
        have hlt := length_lt_card hnodup hseen hnode hnew
        obtain ⟨rest, hrest⟩ := ih (nodes.card - (node :: seen).length)
          (by rw [List.length_cons]; omega) (hnodes node hnode) (List.nodup_cons.2 ⟨hnew, hnodup⟩)
          (List.forall_mem_cons.2 ⟨hnode, hseen⟩) rfl
        exact ⟨node :: rest, .passed hnew hmethod hrest⟩

theorem Visits.length_le (h : t.Visits seen next way)
    (hnodes : ∀ n ∈ nodes, ∀ m, t.parent n = some m → m ∈ nodes)
    (hnext : ∀ n, next = some n → n ∈ nodes) : way.length ≤ nodes.card := by
  rw [← List.toFinset_card_of_nodup h.nodup]
  refine Finset.card_le_card fun n hn => ?_
  obtain ⟨c, hc, hchain⟩ := h.reachable n (List.mem_toFinset.1 hn)
  clear hn
  induction hchain with
  | refl => exact hnext c hc
  | tail _ hparent ih => exact hnodes _ ih _ hparent

end Finite

end SyntaxTree

/-! ### What is asked on a walk -/

namespace Program.Shows

variable {σ ν : Type} {p : Program σ ν} {t : SyntaxTree ν}

theorem ask_methodAt_transcribed (h : p.Shows t) (node : ν) (s : Transcript σ ν) :
    ∃ u, ((p.transcribed .none).methodAt node).ask s =
      (.ok (t.methodAt node), ⟨u, s.asked ++ t.questionsAt node, s.told⟩) := by
  have hused : ((p.transcribed .none).referencedSymbol node).ask s = (.ok (t.used node),
      ⟨((p.referencedSymbol node).ask s.inner).2, s.asked ++ [.referencedSymbol node], s.told⟩) :=
    congrArg (·, _) (h.used node s.inner)
  rw [Program.methodAt, Query.ask_bind_of_ok hused, SyntaxTree.methodAt, SyntaxTree.questionsAt]
  cases (t.used node).filter Symbol.isMethodLike with
  | some used => exact ⟨_, rfl⟩
  | none =>
    dsimp only
    generalize ((p.referencedSymbol node).ask s.inner).2 = v
    have hdeclared : ((p.transcribed .none).declaredSymbol node).ask
        ⟨v, s.asked ++ [.referencedSymbol node], s.told⟩ = (.ok (t.declared node),
        ⟨((p.declaredSymbol node).ask v).2,
          (s.asked ++ [.referencedSymbol node]) ++ [.declaredSymbol node], s.told⟩) :=
      congrArg (·, _) (h.declared node v)
    rw [Query.ask_bind_of_ok hdeclared, List.append_assoc]
    exact ⟨_, rfl⟩

/-- **A walk asks about the nodes that it visits**, and ends with the first method there, if it has
room for all of them. -/
theorem ask_walk_transcribed [DecidableEq ν] (h : p.Shows t) {seen way : List ν} {node : ν}
    (hvisits : t.Visits seen (some node) way) {limit : Nat} (hlimit : way.length ≤ limit)
    (s : Transcript σ ν) :
    ∃ u, ((p.transcribed .none).walk limit seen node).ask s =
      (.ok (way.findSome? t.methodAt), ⟨u, s.asked ++ way.flatMap t.questionsAt, s.told⟩) := by
  generalize hnext : some node = next at hvisits
  induction hvisits generalizing limit node s with
  | outermost seen => cases hnext
  | again hseen =>
    obtain rfl := Option.some.inj hnext
    refine ⟨s.inner, ?_⟩
    rw [List.flatMap_nil, List.append_nil]
    cases limit with
    | zero => rfl
    | succ limit =>
      rw [Program.walk, if_pos hseen]
      rfl
  | found hnew hmethod =>
    obtain rfl := Option.some.inj hnext
    obtain ⟨limit, rfl⟩ : ∃ k, limit = k + 1 := Nat.exists_eq_succ_of_ne_zero (by
      rw [List.length_singleton] at hlimit
      omega)
    obtain ⟨u, hu⟩ := h.ask_methodAt_transcribed node s
    rw [hmethod] at hu
    rw [Program.walk, if_neg hnew, Query.ask_bind_of_ok hu, List.findSome?_cons, hmethod,
      List.flatMap_singleton]
    exact ⟨u, rfl⟩
  | @passed seen _ rest hnew hmethod hrest ih =>
    obtain rfl := Option.some.inj hnext
    rw [List.length_cons] at hlimit
    obtain ⟨limit, rfl⟩ : ∃ k, limit = k + 1 := Nat.exists_eq_succ_of_ne_zero (by omega)
    obtain ⟨u, hu⟩ := h.ask_methodAt_transcribed node s
    rw [hmethod] at hu
    rw [Program.walk, if_neg hnew, Query.ask_bind_of_ok hu, List.findSome?_cons, hmethod,
      List.flatMap_cons, ← List.append_assoc]
    dsimp only
    rw [Query.ask_bind_of_ok (Program.ask_parentNow _ node _)]
    have hparent : (p.transcribed .none).parent node
        ⟨u, s.asked ++ t.questionsAt node, s.told⟩ = t.parent node := h.parent node u
    rw [hparent]
    cases hp : t.parent node with
    | none =>
      rw [hp] at hrest
      cases hrest
      exact ⟨u, by simp⟩
    | some outer =>
      exact ih (by omega) _ hp.symm

end Program.Shows

/-- **Resolution looks outwards once.** In a program that answers by a tree, with finitely many
nodes around a selection, the walk comes to its end whatever the parents are. It asks for the node
around the selection once, and then about nodes of which each is the parent of the one before,
never about one of them twice, and not beyond the first one with a method: this is its answer.
There is none exactly when parents lead to no method. -/
theorem Program.resolveMethod_exact {σ ν : Type} [DecidableEq ν] {p : Program σ ν}
    {t : SyntaxTree ν} (hp : p.Shows t) {document : Path} {span : Span} {cover : Option ν}
    (hcover : ∀ s, ((p.coveringNode document span).ask s).1 = .ok cover)
    (hspan : span.isEmpty = false) {nodes : Finset ν}
    (hmem : ∀ n, cover = some n → n ∈ nodes)
    (hnodes : ∀ n ∈ nodes, ∀ m, t.parent n = some m → m ∈ nodes) :
    ∃ way : List ν, way.head? = cover ∧ way.IsChain t.IsParent ∧ way.Nodup ∧
      (∀ n ∈ way.dropLast, t.methodAt n = none) ∧
      (∀ limit, nodes.card ≤ limit → ∀ s,
        ((p.resolveMethod limit document span).ask s).1 = .ok (way.findSome? t.methodAt) ∧
        ∃ u, ((p.transcribed .none).resolveMethod limit document span).ask (.start s) =
          (.ok (way.findSome? t.methodAt),
            ⟨u, .coveringNode document span :: way.flatMap t.questionsAt, .empty⟩)) ∧
      (way.findSome? t.methodAt = none ↔
        ∀ c, cover = some c → ∀ n, Relation.ReflTransGen t.IsParent c n →
          ∀ m, t.used n = some m ∨ t.declared n = some m → m.isMethodLike = false) := by
  obtain ⟨way, hvisits⟩ := SyntaxTree.exists_visits hnodes hmem List.nodup_nil (by simp)
  have hasked : ∀ limit, nodes.card ≤ limit → ∀ s,
      ∃ u, ((p.transcribed .none).resolveMethod limit document span).ask (.start s) =
        (.ok (way.findSome? t.methodAt),
          ⟨u, .coveringNode document span :: way.flatMap t.questionsAt, .empty⟩) := by
    intro limit hlimit s
    have hfirst : ((p.transcribed .none).coveringNode document span).ask (.start s) =
        (.ok cover, ⟨((p.coveringNode document span).ask s).2,
          [.coveringNode document span], .empty⟩) := congrArg (·, _) (hcover s)
    rw [Program.resolveMethod, if_neg (by simp [hspan]), Query.ask_bind_of_ok hfirst]
    cases cover with
    | none =>
      cases hvisits
      exact ⟨_, rfl⟩
    | some node =>
      exact hp.ask_walk_transcribed hvisits ((hvisits.length_le hnodes hmem).trans hlimit) _
  refine ⟨way, hvisits.head?_eq (by simp), hvisits.isChain, hvisits.nodup,
    hvisits.methodAt_of_mem_dropLast, fun limit hlimit s => ⟨?_, hasked limit hlimit s⟩, ?_⟩
  · -- a transcript shows what the program answers without one
    obtain ⟨u, hu⟩ := hasked limit hlimit s
    obtain ⟨more, -, hsame⟩ := ((Transcript.nodesSimulated p (fun _ => True) trivial).resolveMethod
      limit document span) (.start s)
    rw [hu] at hsame
    exact (congrArg Prod.fst hsame).symm
  · simp only [hvisits.findSome?_eq_none_iff, SyntaxTree.methodAt_eq_none_iff]

/-! ### A circle of parents -/

namespace TabledProgram

/-- What the nodes of a tabled program stand for. -/
def tree (t : TabledProgram) : SyntaxTree Nat where
  used node := (t.nodes[node]?.bind (·.referenced)).bind t.symbol?
  declared node := (t.nodes[node]?.bind (·.declared)).bind t.symbol?
  parent node := t.nodes[node]?.bind (·.parent)

theorem shows_tree {σ : Type} (t : TabledProgram) :
    (t.program : Program σ Nat).Shows t.tree where
  used _ _ := rfl
  declared _ _ := rfl
  parent _ _ := rfl

/-- A node inside two nodes that are the parents of each other; none of them has a method. -/
def circle : TabledProgram where
  symbols := [⟨"c", "c", .«class», []⟩, ⟨"x", "x", .field, []⟩]
  nodes := [⟨some 1, some "x", none⟩, ⟨some 2, none, some "c"⟩, ⟨some 1, none, none⟩]
  cover := [(⟨⟨"m"⟩, ⟨0, 1⟩⟩, 0)]
  containers := []
  references := []
  texts := []

end TabledProgram

open TabledProgram in
theorem Program.resolveMethod_exact_circle :
    (circle.program : Program Unit Nat).Shows circle.tree ∧
      ∃ way : List Nat, way.head? = some 0 ∧ way.IsChain circle.tree.IsParent ∧ way.Nodup ∧
        way.flatMap circle.tree.questionsAt =
          [.referencedSymbol 0, .declaredSymbol 0, .referencedSymbol 1, .declaredSymbol 1,
            .referencedSymbol 2, .declaredSymbol 2] ∧
        ∀ limit, 3 ≤ limit →
          ((circle.program.resolveMethod limit ⟨"m"⟩ ⟨0, 1⟩).ask ()).1 = .ok none := by
  have hcover : ∀ s, (((circle.program : Program Unit Nat).coveringNode ⟨"m"⟩ ⟨0, 1⟩).ask s).1 =
      .ok (some 0) := fun _ => rfl
  have hmem : ∀ n, some 0 = some n → n ∈ Finset.range 3 := by simp
  have hnodes : ∀ n ∈ Finset.range 3, ∀ m, circle.tree.parent n = some m → m ∈ Finset.range 3 := by
    decide
  obtain ⟨way, hhead, hchain, hnodup, -, hrun, -⟩ :=
    Program.resolveMethod_exact (shows_tree circle) hcover rfl hmem hnodes
  -- one run with room for all nodes shows what is asked in all of them
  obtain ⟨-, u, hasked⟩ := hrun 3 (by simp) ()
  have hclosed : ((circle.program.transcribed .none).resolveMethod 3 ⟨"m"⟩ ⟨0, 1⟩).ask (.start ()) =
      (.ok none, ⟨(), [.coveringNode ⟨"m"⟩ ⟨0, 1⟩, .referencedSymbol 0, .declaredSymbol 0,
        .referencedSymbol 1, .declaredSymbol 1, .referencedSymbol 2, .declaredSymbol 2],
        .empty⟩) := rfl
  rw [hclosed] at hasked
  simp only [Prod.mk.injEq, Except.ok.injEq, Transcript.mk.injEq, List.cons.injEq, true_and,
    and_true] at hasked
  obtain ⟨hnone, hquestions⟩ := hasked
  refine ⟨shows_tree circle, way, hhead, hchain, hnodup, hquestions.symm, fun limit hlimit => ?_⟩
  rw [(hrun limit (by simpa using hlimit) ()).1, ← hnone]

end CallerClosure
