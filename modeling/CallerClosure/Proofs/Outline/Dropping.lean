import CallerClosure.Outline.Document
import CallerClosure.Proofs.Outline.Preorder
import Mathlib.Data.List.Forall2

/-!
# Dropped nodes

A document drops the nodes of its outline whose ranges do not lie in the text, and numbers the
others anew. A table that grows on the way leads from the old indices to the new ones.

* `OutlineVisit.kept` are the nodes that a document keeps, in the order of their visits;
* `Document.moved_parent` says what the table gives for a parent, and `Document.forall₂_keep_kept`
  what the walk makes of the nodes;
* `Document.declarations_of_kept` says it of a document: its declarations are the kept nodes, and
  in a hierarchy each one has the parent that the outline gives it, or none where that is gone.
-/

namespace CallerClosure

/-- Both ranges of a node lie in a text. -/
def OutlineNode.Lies (text : Text) (node : OutlineNode) : Prop :=
  (text.span? node.range).isSome = true ∧ (text.span? node.selection).isSome = true

instance (text : Text) (node : OutlineNode) : Decidable (node.Lies text) :=
  inferInstanceAs (Decidable (_ ∧ _))

/-- A declaration is that of a node, with the spans of its ranges. -/
structure OutlineNode.Declares (text : Text) (node : OutlineNode) (c : Declaration) : Prop where
  name : c.entry.name = node.name
  kind : c.entry.kind = node.kind
  range : c.entry.range = node.range
  selection : c.entry.selection = node.selection
  span : text.span? node.range = some c.span
  nameSpan : text.span? node.selection = some c.name

namespace OutlineVisit

/-- The visits to nodes that lie in a text. -/
def kept (text : Text) (visits : List OutlineVisit) : List OutlineVisit :=
  visits.filter fun v => decide (v.node.Lies text)

variable {text : Text} {outline : Outline} {v w : OutlineVisit} {visits others : List OutlineVisit}

theorem mem_kept : v ∈ kept text visits ↔ v ∈ visits ∧ v.node.Lies text := by
  rw [kept, List.mem_filter, decide_eq_true_iff]

@[simp] theorem kept_nil : kept text [] = [] := rfl

theorem kept_append : kept text (visits ++ others) = kept text visits ++ kept text others :=
  List.filter_append ..

theorem kept_cons_of_lies (h : v.node.Lies text) :
    kept text (v :: visits) = v :: kept text visits :=
  List.filter_cons_of_pos (decide_eq_true h)

theorem kept_cons_of_not_lies (h : ¬ v.node.Lies text) :
    kept text (v :: visits) = kept text visits :=
  List.filter_cons_of_neg (by simpa using h)

theorem pairwise_kept (text : Text) (outline : Outline) :
    (kept text outline.preorder).Pairwise NotAround :=
  (Outline.pairwise_preorder outline).sublist List.filter_sublist

theorem nodup_kept (text : Text) (outline : Outline) :
    ((kept text outline.preorder).map address).Nodup :=
  Outline.nodup_of_pairwise (pairwise_kept text outline)

/-- A dropped node has no new index. -/
theorem indexAt?_kept_of_not_lies (hv : v ∈ outline.preorder) (hlies : ¬ v.node.Lies text) :
    indexAt? (kept text outline.preorder) v.address = none := by
  rw [indexAt?_eq_none_iff]
  intro w hw haddress
  obtain ⟨hw, hwlies⟩ := mem_kept.1 hw
  rw [Outline.eq_of_address_eq hw hv haddress] at hwlies
  exact hlies hwlies

/-- The new index of a parent is that of a kept node whose child the node is. -/
theorem indexAt?_kept_eq_some_iff {j : Nat} (hv : v ∈ outline.preorder) :
    indexAt? (kept text outline.preorder) v.address.tail = some j ↔
      ∃ w, (kept text outline.preorder)[j]? = some w ∧ v.IsChildOf w := by
  rw [indexAt?_eq_some_iff (nodup_kept text outline)]
  refine exists_congr fun w => and_congr_right fun hw => ?_
  exact (Outline.isChildOf_iff hv (mem_kept.1 (List.mem_of_getElem? hw)).1).symm

/-- There is no new index for the parent of an outermost node, nor for a dropped parent. -/
theorem indexAt?_kept_eq_none_iff (hv : v ∈ outline.preorder) :
    indexAt? (kept text outline.preorder) v.address.tail = none ↔
      v.IsOutermost ∨ ∃ w ∈ outline.preorder, v.IsChildOf w ∧ ¬ w.node.Lies text := by
  constructor
  · intro hnone
    rcases Outline.isOutermost_or_exists hv with hout | ⟨w, hw, hchild⟩
    · exact .inl hout
    · refine .inr ⟨w, hw, hchild, fun hlies => ?_⟩
      exact indexAt?_eq_none_iff.1 hnone w (mem_kept.2 ⟨hw, hlies⟩)
        ((Outline.isChildOf_iff hv hw).1 hchild)
  · rintro (⟨index, haddress⟩ | ⟨w, hw, hchild, hlies⟩)
    · rw [haddress, indexAt?_eq_none_iff]
      exact fun w hw => Outline.address_ne_nil (mem_kept.1 hw).1
    · rw [← (Outline.isChildOf_iff hv hw).1 hchild]
      exact indexAt?_kept_of_not_lies hw hlies

end OutlineVisit

namespace Document

open OutlineVisit (kept indexAt?)

variable {text : Text} {outline : Outline} {v : OutlineVisit} {before after : List OutlineVisit}

/-! ### The walk -/

/-- The new indices of the nodes so far. -/
def newIndices (text : Text) (outline : Outline) (before : List OutlineVisit) :
    List (Option Nat) :=
  before.map fun w => indexAt? (kept text outline.preorder) w.address

theorem newIndices_snoc :
    newIndices text outline (before ++ [v]) =
      newIndices text outline before ++ [indexAt? (kept text outline.preorder) v.address] :=
  List.map_append

/-- The table of the new indices leads from the old index of a parent to its new one. -/
theorem moved_parent (h : outline.preorder = before ++ v :: after) :
    ((v.entryIn outline.preorder).parent.bind fun p =>
      ((newIndices text outline before)[p]?).join) =
      indexAt? (kept text outline.preorder) v.address.tail := by
  have hv : outline.preorder[before.length]? = some v := by simp [h]
  show (indexAt? outline.preorder v.address.tail).bind _ = _
  cases hp : indexAt? outline.preorder v.address.tail with
  | none =>
    symm
    rw [Option.bind_none, OutlineVisit.indexAt?_eq_none_iff]
    rw [OutlineVisit.indexAt?_eq_none_iff] at hp
    exact fun w hw => hp w (OutlineVisit.mem_kept.1 hw).1
  | some p =>
    have hnodup := Outline.nodup_of_pairwise (Outline.pairwise_preorder outline)
    obtain ⟨w, hw, haddress⟩ := (OutlineVisit.indexAt?_eq_some_iff hnodup).1 hp
    have hchild : v.IsChildOf w :=
      (Outline.isChildOf_iff (List.mem_of_getElem? hv) (List.mem_of_getElem? hw)).2 haddress
    -- a parent comes first, so the table has a place for it already
    have hlt : p < before.length :=
      Outline.lt_of_isChildOf (Outline.pairwise_preorder outline) hv hw hchild
    rw [h, List.getElem?_append_left hlt] at hw
    rw [Option.bind_some, newIndices, List.getElem?_map, hw, ← haddress]
    rfl

/-- What the walk makes of the nodes that are still to come: those that lie in the text become
declarations, and the parent of each has its new index. -/
theorem forall₂_keep_kept (h : outline.preorder = before ++ after) :
    List.Forall₂
      (fun v c => v.node.Declares text c ∧
        c.parent = indexAt? (kept text outline.preorder) v.address.tail)
      (kept text after)
      (keep text (after.map (·.entryIn outline.preorder)) (newIndices text outline before)
        (kept text before).length) := by
  induction after generalizing before with
  | nil => exact .nil
  | cons v after ih =>
    have hnext : outline.preorder = (before ++ [v]) ++ after := by
      rw [h, List.append_cons]
    have hrest := ih hnext
    rw [newIndices_snoc, OutlineVisit.kept_append] at hrest
    rw [List.map_cons, keep]
    by_cases hlies : v.node.Lies text
    · have hindex : indexAt? (kept text outline.preorder) v.address =
          some (kept text before).length := by
        have hkept : kept text outline.preorder =
            kept text before ++ v :: kept text after := by
          rw [h, OutlineVisit.kept_append, OutlineVisit.kept_cons_of_lies hlies]
        exact OutlineVisit.indexAt?_of_split (OutlineVisit.nodup_kept text outline) hkept
      obtain ⟨span, hspan⟩ := Option.isSome_iff_exists.1 hlies.1
      obtain ⟨name, hname⟩ := Option.isSome_iff_exists.1 hlies.2
      rw [hindex, OutlineVisit.kept_cons_of_lies hlies, List.length_append] at hrest
      rw [OutlineVisit.kept_cons_of_lies hlies]
      have hrange : text.span? (v.entryIn outline.preorder).range = some span := hspan
      have hselection : text.span? (v.entryIn outline.preorder).selection = some name := hname
      rw [hrange, hselection]
      exact .cons ⟨⟨rfl, rfl, rfl, rfl, hspan, hname⟩, moved_parent h⟩ hrest
    · have hv : v ∈ outline.preorder := by
        rw [h]
        exact List.mem_append_right _ List.mem_cons_self
      rw [OutlineVisit.indexAt?_kept_of_not_lies hv hlies, OutlineVisit.kept_cons_of_not_lies hlies,
        OutlineVisit.kept_nil, List.append_nil] at hrest
      rw [OutlineVisit.kept_cons_of_not_lies hlies]
      split
      · rename_i span name hspan hname
        exact absurd ⟨Option.isSome_of_eq_some hspan, Option.isSome_of_eq_some hname⟩ hlies
      · exact hrest

/-- The walk through all entries of an outline. -/
theorem forall₂_keep_flatten (text : Text) (outline : Outline) :
    List.Forall₂
      (fun v c => v.node.Declares text c ∧
        c.parent = indexAt? (kept text outline.preorder) v.address.tail)
      (kept text outline.preorder) (keep text outline.flatten [] 0) := by
  rw [Outline.flatten_eq_map]
  exact forall₂_keep_kept (List.nil_append outline.preorder).symm

/-! ### Documents -/

/-- Nesting by span changes nothing but the parents. -/
theorem forall₂_nestBySpan {visits : List OutlineVisit} {declarations : List Declaration}
    (h : List.Forall₂ (fun v c => v.node.Declares text c) visits declarations) :
    List.Forall₂ (fun v c => v.node.Declares text c) visits (nestBySpan declarations) := by
  rw [← List.zipIdx_map_fst 0 declarations, List.forall₂_map_right_iff] at h
  rw [nestBySpan, List.forall₂_map_right_iff]
  exact h.imp fun v x hx => ⟨hx.name, hx.kind, hx.range, hx.selection, hx.span, hx.nameSpan⟩

/-- An outline in which a node has a parent keeps its own hierarchy. -/
theorem declarations_of_isChildOf (path : Path) (text : Text)
    (h : ∃ v ∈ outline.preorder, ∃ w ∈ outline.preorder, v.IsChildOf w) :
    (ofOutline path text outline).declarations = keep text outline.flatten [] 0 := by
  obtain ⟨v, hv, w, hw, hchild⟩ := h
  have hparent : (v.entryIn outline.preorder).parent.isSome = true := by
    show (indexAt? outline.preorder v.address.tail).isSome = true
    rw [Option.isSome_iff_ne_none, Ne, OutlineVisit.indexAt?_eq_none_iff]
    exact fun hnone => hnone w hw ((Outline.isChildOf_iff hv hw).1 hchild)
  have hany : (outline.flatten.any fun e => e.parent.isSome) = true := by
    rw [Outline.flatten_eq_map, List.any_map]
    exact List.any_eq_true.2 ⟨v, hv, hparent⟩
  unfold ofOutline
  dsimp only
  rw [if_pos hany]

/-- **A document keeps the nodes of its outline that lie in the text, and the hierarchy among
them.** Its declarations are the kept nodes in preorder, with the spans of their ranges. Where any
node has a parent, the parent of a declaration is the index of the kept node whose child its node
is, which comes earlier; there is none if the node is outermost or its parent is dropped. -/
theorem declarations_of_kept (path : Path) (text : Text) (outline : Outline) :
    List.Forall₂ (fun v c => v.node.Declares text c) (kept text outline.preorder)
      (ofOutline path text outline).declarations ∧
    ((∃ v ∈ outline.preorder, ∃ w ∈ outline.preorder, v.IsChildOf w) →
      ∀ (i : Nat) (v : OutlineVisit) (c : Declaration), (kept text outline.preorder)[i]? = some v →
        (ofOutline path text outline).declarations[i]? = some c →
        (∀ j, c.parent = some j ↔
          ∃ w, (kept text outline.preorder)[j]? = some w ∧ v.IsChildOf w) ∧
        (c.parent = none ↔
          v.IsOutermost ∨ ∃ w ∈ outline.preorder, v.IsChildOf w ∧ ¬ w.node.Lies text) ∧
        ∀ j, c.parent = some j → j < i) := by
  have hkeep := forall₂_keep_flatten text outline
  have hdeclares : List.Forall₂ (fun v c => v.node.Declares text c) (kept text outline.preorder)
      (keep text outline.flatten [] 0) := hkeep.imp fun v c h => h.1
  refine ⟨?_, fun hchild i v c hv hc => ?_⟩
  · unfold ofOutline
    dsimp only
    split
    · exact hdeclares
    · exact forall₂_nestBySpan hdeclares
  · rw [declarations_of_isChildOf path text hchild] at hc
    have hmem : v ∈ outline.preorder := (OutlineVisit.mem_kept.1 (List.mem_of_getElem? hv)).1
    have hparent : c.parent = indexAt? (kept text outline.preorder) v.address.tail := by
      obtain ⟨hi, rfl⟩ := List.getElem?_eq_some_iff.1 hv
      obtain ⟨hj, rfl⟩ := List.getElem?_eq_some_iff.1 hc
      exact (hkeep.get hi hj).2
    rw [hparent]
    refine ⟨fun j => OutlineVisit.indexAt?_kept_eq_some_iff hmem,
      OutlineVisit.indexAt?_kept_eq_none_iff hmem, fun j hj => ?_⟩
    obtain ⟨w, hw, hchild⟩ := (OutlineVisit.indexAt?_kept_eq_some_iff hmem).1 hj
    exact Outline.lt_of_isChildOf (OutlineVisit.pairwise_kept text outline) hv hw hchild

/-- A class after a function that is not in the text, with two methods. The first one is in
another class that is not in the text. -/
def strayed : Outline :=
  let away : Range := ⟨⟨9, 0⟩, ⟨9, 4⟩⟩
  [⟨"gone", .function, none, away, away, []⟩,
    ⟨"C", .class, none, ⟨⟨0, 0⟩, ⟨2, 1⟩⟩, ⟨⟨0, 0⟩, ⟨0, 1⟩⟩,
      [⟨"lost", .class, none, away, away,
        [⟨"f", .method, none, ⟨⟨1, 0⟩, ⟨1, 1⟩⟩, ⟨⟨1, 0⟩, ⟨1, 1⟩⟩, []⟩]⟩,
      ⟨"g", .method, none, ⟨⟨2, 0⟩, ⟨2, 1⟩⟩, ⟨⟨2, 0⟩, ⟨2, 1⟩⟩, []⟩]⟩]

theorem declarations_of_kept_strayed :
    (∃ v ∈ strayed.preorder, ∃ w ∈ strayed.preorder, v.IsChildOf w) ∧
    ∃ f g, (ofOutline ⟨"/ws/m.py"⟩ "C\nf\ng".toList strayed).declarations[1]? = some f ∧
      (ofOutline ⟨"/ws/m.py"⟩ "C\nf\ng".toList strayed).declarations[2]? = some g ∧
      f.parent = none ∧ g.parent = some 0 := by
  have hchild : ∃ v ∈ strayed.preorder, ∃ w ∈ strayed.preorder, v.IsChildOf w :=
    ⟨⟨[0, 1], _⟩, Outline.mem_preorder.2 rfl, ⟨[1], _⟩, Outline.mem_preorder.2 rfl, 0, rfl, rfl⟩
  obtain ⟨-, hparents⟩ := declarations_of_kept ⟨"/ws/m.py"⟩ "C\nf\ng".toList strayed
  obtain ⟨-, hf, -⟩ := hparents hchild 1 _ _ rfl rfl
  obtain ⟨hg, -⟩ := hparents hchild 2 _ _ rfl rfl
  refine ⟨hchild, _, _, rfl, rfl, hf.2 ?_, (hg 0).2 ?_⟩
  · exact .inr ⟨⟨[0, 1], _⟩, Outline.mem_preorder.2 rfl, ⟨0, rfl, rfl⟩, by decide⟩
  · exact ⟨_, rfl, 1, rfl, rfl⟩

end Document

end CallerClosure
