import CallerClosure.Outline.Basic
import Mathlib.Data.List.Nodup

/-!
# Outlines in preorder

`Outline.flatten` numbers the nodes of a forest as it goes, and an entry knows its parent by
number alone. `Outline.preorder` lists the same nodes with their places in the forest.

* An address leads to a node from the inside outwards: it holds the index of the node among its
  siblings, then that of its parent, and so on. `Outline.node?` is the node at an address;
* `Outline.mem_preorder` says that the preorder visits each node at its address, and
  `Outline.pairwise_preorder` that it comes to every node once and after the nodes around it;
* `Outline.flatten_eq_map` says that the entries are the visits in this order, each with the index
  of the visit to its parent.
-/

namespace CallerClosure

/-- A node of an outline with its address: the index of the node among its siblings, then that of
its parent, and so on outwards. -/
structure OutlineVisit where
  address : List Nat
  node : OutlineNode

mutual

/-- A node with the address `address`, and its subtree, depth first. -/
def OutlineNode.visits (address : List Nat) : OutlineNode → List OutlineVisit
  | ⟨name, kind, detail, range, selection, children⟩ =>
    ⟨address, ⟨name, kind, detail, range, selection, children⟩⟩ ::
      Outline.visitsFrom address 0 children

/-- The subtrees of siblings, the first of which has the index `index`. -/
def Outline.visitsFrom (outer : List Nat) (index : Nat) : List OutlineNode → List OutlineVisit
  | [] => []
  | node :: rest =>
    node.visits (index :: outer) ++ Outline.visitsFrom outer (index + 1) rest

end

/-- The nodes of an outline with their addresses, depth first. -/
def Outline.preorder (outline : Outline) : List OutlineVisit :=
  Outline.visitsFrom [] 0 outline

namespace OutlineVisit

/-- One visited node is the child of another. -/
def IsChildOf (v w : OutlineVisit) : Prop :=
  ∃ index, v.address = index :: w.address ∧ w.node.children[index]? = some v.node

/-- A visited node is one of the outermost. -/
def IsOutermost (v : OutlineVisit) : Prop :=
  ∃ index, v.address = [index]

/-- A later visit is not to a node around an earlier one, nor to the same place. -/
def NotAround (earlier later : OutlineVisit) : Prop :=
  ¬ later.address <:+ earlier.address

/-- The index of the visit at an address. -/
def indexAt? (visits : List OutlineVisit) (address : List Nat) : Option Nat :=
  visits.findIdx? fun w => decide (w.address = address)

/-- The entry of a visited node, whose parent is looked up in a list of visits. -/
def entryIn (visits : List OutlineVisit) (v : OutlineVisit) : OutlineEntry :=
  ⟨v.node.name, v.node.kind, v.node.range, v.node.selection, indexAt? visits v.address.tail⟩

variable {visits : List OutlineVisit} {a : List Nat} {n : Nat}

theorem indexAt?_eq_none_iff : indexAt? visits a = none ↔ ∀ w ∈ visits, w.address ≠ a := by
  simp [indexAt?, List.findIdx?_eq_none_iff]

/-- Where no address occurs twice, the index of an address is that of its visit. -/
theorem indexAt?_eq_some_iff (h : (visits.map address).Nodup) :
    indexAt? visits a = some n ↔ ∃ w, visits[n]? = some w ∧ w.address = a := by
  rw [indexAt?, List.findIdx?_eq_some_iff_getElem]
  constructor
  · rintro ⟨hn, hat, -⟩
    exact ⟨visits[n], List.getElem?_eq_getElem hn, of_decide_eq_true hat⟩
  · rintro ⟨w, hw, hat⟩
    obtain ⟨hn, rfl⟩ := List.getElem?_eq_some_iff.1 hw
    refine ⟨hn, decide_eq_true hat, fun m hm hother => ?_⟩
    -- an earlier visit at the same address would be this one
    have hsame : visits[m].address = visits[n].address :=
      (of_decide_eq_true hother).trans hat.symm
    have hlt : m < n := hm
    exact absurd hsame (List.pairwise_iff_getElem.1 (List.pairwise_map.1 h) m n _ hn hlt)

theorem indexAt?_of_split {before after : List OutlineVisit} {v : OutlineVisit}
    (h : (visits.map address).Nodup) (hvisits : visits = before ++ v :: after) :
    indexAt? visits v.address = some before.length := by
  refine (indexAt?_eq_some_iff h).2 ⟨v, ?_, rfl⟩
  rw [hvisits, List.getElem?_append_right (Nat.le_refl _), Nat.sub_self, List.getElem?_cons_zero]

end OutlineVisit

namespace Outline

variable {outline : Outline} {v w : OutlineVisit}

/-! ### Addresses -/

/-- The nodes right below an address: the outermost ones, or the children of the node there. -/
def below? (outline : Outline) : List Nat → Option (List OutlineNode)
  | [] => some outline
  | index :: outer => ((below? outline outer).bind (·[index]?)).map (·.children)

/-- The node at an address. -/
def node? (outline : Outline) : List Nat → Option OutlineNode
  | [] => none
  | index :: outer => (outline.below? outer).bind (·[index]?)

theorem below?_of_node? {address : List Nat} {node : OutlineNode}
    (h : outline.node? address = some node) : outline.below? address = some node.children := by
  cases address with
  | nil => cases h
  | cons index outer =>
    rw [node?] at h
    rw [below?, h]
    rfl

mutual

theorem node?_of_mem_visits {address : List Nat} {node : OutlineNode}
    (hnode : outline.node? address = some node) (hv : v ∈ node.visits address) :
    outline.node? v.address = some v.node := by
  obtain ⟨name, kind, detail, range, selection, children⟩ := node
  rw [OutlineNode.visits] at hv
  rcases List.mem_cons.1 hv with rfl | hv
  · exact hnode
  · exact node?_of_mem_visitsFrom (below?_of_node? hnode) rfl hv

theorem node?_of_mem_visitsFrom {outer : List Nat} {index : Nat}
    {siblings nodes : List OutlineNode} (hsiblings : outline.below? outer = some siblings)
    (hnodes : siblings.drop index = nodes) (hv : v ∈ visitsFrom outer index nodes) :
    outline.node? v.address = some v.node := by
  cases nodes with
  | nil => cases hv
  | cons node rest =>
    rw [visitsFrom] at hv
    have hat : siblings[index]? = some node := by
      rw [← List.head?_drop, hnodes, List.head?_cons]
    rcases List.mem_append.1 hv with hv | hv
    · refine node?_of_mem_visits ?_ hv
      rw [node?, hsiblings]
      exact hat
    · refine node?_of_mem_visitsFrom hsiblings ?_ hv
      rw [← List.tail_drop, hnodes, List.tail_cons]

end

theorem self_mem_visits (address : List Nat) (node : OutlineNode) :
    ⟨address, node⟩ ∈ node.visits address := by
  obtain ⟨name, kind, detail, range, selection, children⟩ := node
  rw [OutlineNode.visits]
  exact List.mem_cons_self

/-- Among the visits of siblings is each sibling. -/
theorem mem_visitsFrom_of_getElem? (outer : List Nat) (index : Nat) {k : Nat}
    {nodes : List OutlineNode} {node : OutlineNode} (h : nodes[k]? = some node) :
    ⟨(index + k) :: outer, node⟩ ∈ visitsFrom outer index nodes := by
  induction nodes generalizing index k with
  | nil => cases h
  | cons first rest ih =>
    rw [visitsFrom]
    cases k with
    | zero =>
      obtain rfl : first = node := Option.some.inj h
      exact List.mem_append_left _ (self_mem_visits _ first)
    | succ k =>
      rw [Nat.add_comm k 1, ← Nat.add_assoc]
      exact List.mem_append_right _ (ih (index + 1) h)

mutual

theorem child_mem_visits {address : List Nat} {node child : OutlineNode} {index : Nat}
    (hv : v ∈ node.visits address) (hchild : v.node.children[index]? = some child) :
    ⟨index :: v.address, child⟩ ∈ node.visits address := by
  obtain ⟨name, kind, detail, range, selection, children⟩ := node
  rw [OutlineNode.visits] at hv ⊢
  refine List.mem_cons_of_mem _ ?_
  rcases List.mem_cons.1 hv with rfl | hv
  · simpa using mem_visitsFrom_of_getElem? address 0 hchild
  · exact child_mem_visitsFrom hv hchild

theorem child_mem_visitsFrom {outer : List Nat} {first index : Nat} {nodes : List OutlineNode}
    {child : OutlineNode} (hv : v ∈ visitsFrom outer first nodes)
    (hchild : v.node.children[index]? = some child) :
    ⟨index :: v.address, child⟩ ∈ visitsFrom outer first nodes := by
  cases nodes with
  | nil => cases hv
  | cons node rest =>
    rw [visitsFrom] at hv ⊢
    rcases List.mem_append.1 hv with hv | hv
    · exact List.mem_append_left _ (child_mem_visits hv hchild)
    · exact List.mem_append_right _ (child_mem_visitsFrom hv hchild)

end

/-- **The preorder visits each node of an outline at its address, and nothing else.** -/
theorem mem_preorder : v ∈ outline.preorder ↔ outline.node? v.address = some v.node := by
  constructor
  · exact node?_of_mem_visitsFrom rfl rfl
  · obtain ⟨address, node⟩ := v
    intro h
    induction address generalizing node with
    | nil => cases h
    | cons index outer ih =>
      obtain ⟨siblings, hsiblings, hat⟩ := Option.bind_eq_some_iff.1 h
      cases outer with
      | nil =>
        obtain rfl : outline = siblings := Option.some.inj hsiblings
        simpa [preorder] using mem_visitsFrom_of_getElem? [] 0 hat
      | cons k outer =>
        obtain ⟨parent, hparent, rfl⟩ := Option.map_eq_some_iff.1 hsiblings
        exact child_mem_visitsFrom (ih parent hparent) hat

/-- No two nodes have the same address. -/
theorem eq_of_address_eq (hv : v ∈ outline.preorder) (hw : w ∈ outline.preorder)
    (h : v.address = w.address) : v = w := by
  have hnode : some v.node = some w.node := by
    rw [← mem_preorder.1 hv, ← mem_preorder.1 hw, h]
  cases v
  cases w
  cases h
  cases hnode
  rfl

theorem address_ne_nil (hv : v ∈ outline.preorder) : v.address ≠ [] := by
  intro hnil
  have hnode := mem_preorder.1 hv
  rw [hnil] at hnode
  cases hnode

/-- A visited node is the child of the one at the rest of its address. -/
theorem isChildOf_iff (hv : v ∈ outline.preorder) (hw : w ∈ outline.preorder) :
    v.IsChildOf w ↔ w.address = v.address.tail := by
  constructor
  · rintro ⟨index, haddress, -⟩
    rw [haddress, List.tail_cons]
  · intro haddress
    obtain ⟨index, outer, hcons⟩ := List.exists_cons_of_ne_nil (address_ne_nil hv)
    rw [hcons, List.tail_cons] at haddress
    have hnode := mem_preorder.1 hv
    rw [hcons, node?, ← haddress, below?_of_node? (mem_preorder.1 hw)] at hnode
    exact ⟨index, by rw [hcons, haddress], hnode⟩

/-- Every node but the outermost ones is the child of a node. -/
theorem isOutermost_or_exists (hv : v ∈ outline.preorder) :
    v.IsOutermost ∨ ∃ w ∈ outline.preorder, v.IsChildOf w := by
  obtain ⟨index, outer, hcons⟩ := List.exists_cons_of_ne_nil (address_ne_nil hv)
  cases outer with
  | nil => exact .inl ⟨index, hcons⟩
  | cons k outer =>
    have hnode := mem_preorder.1 hv
    rw [hcons] at hnode
    obtain ⟨siblings, hsiblings, -⟩ := Option.bind_eq_some_iff.1 hnode
    obtain ⟨parent, hparent, -⟩ := Option.map_eq_some_iff.1 hsiblings
    have hw : ⟨k :: outer, parent⟩ ∈ outline.preorder := mem_preorder.2 hparent
    exact .inr ⟨_, hw, (isChildOf_iff hv hw).2 (by rw [hcons, List.tail_cons])⟩

/-! ### Order -/

mutual

theorem suffix_of_mem_visits {address : List Nat} {node : OutlineNode}
    (hv : v ∈ node.visits address) : address <:+ v.address := by
  obtain ⟨name, kind, detail, range, selection, children⟩ := node
  rw [OutlineNode.visits] at hv
  rcases List.mem_cons.1 hv with rfl | hv
  · exact List.suffix_rfl
  · obtain ⟨k, -, hk⟩ := suffix_of_mem_visitsFrom hv
    exact (List.suffix_cons k address).trans hk

theorem suffix_of_mem_visitsFrom {outer : List Nat} {index : Nat} {nodes : List OutlineNode}
    (hv : v ∈ visitsFrom outer index nodes) : ∃ k, index ≤ k ∧ (k :: outer) <:+ v.address := by
  cases nodes with
  | nil => cases hv
  | cons node rest =>
    rw [visitsFrom] at hv
    rcases List.mem_append.1 hv with hv | hv
    · exact ⟨index, Nat.le_refl _, suffix_of_mem_visits hv⟩
    · obtain ⟨k, hk, hsuffix⟩ := suffix_of_mem_visitsFrom hv
      exact ⟨k, Nat.le_of_succ_le hk, hsuffix⟩

end

mutual

theorem pairwise_visits (address : List Nat) (node : OutlineNode) :
    (node.visits address).Pairwise OutlineVisit.NotAround := by
  obtain ⟨name, kind, detail, range, selection, children⟩ := node
  rw [OutlineNode.visits]
  refine .cons (fun v hv hsuffix => ?_) (pairwise_visitsFrom address 0 children)
  -- the addresses below are longer
  obtain ⟨k, -, hk⟩ := suffix_of_mem_visitsFrom hv
  have hle : address.length + 1 ≤ address.length := (hk.trans hsuffix).length_le
  omega

theorem pairwise_visitsFrom (outer : List Nat) (index : Nat) (nodes : List OutlineNode) :
    (visitsFrom outer index nodes).Pairwise OutlineVisit.NotAround := by
  cases nodes with
  | nil => exact .nil
  | cons node rest =>
    rw [visitsFrom, List.pairwise_append]
    refine ⟨pairwise_visits _ node, pairwise_visitsFrom outer (index + 1) rest, ?_⟩
    intro w hw v hv hsuffix
    -- the subtrees of two siblings part at the index of the sibling
    obtain ⟨k, hk, hv⟩ := suffix_of_mem_visitsFrom hv
    have hsame : k :: outer = index :: outer :=
      (List.suffix_of_suffix_length_le (hv.trans hsuffix) (suffix_of_mem_visits hw)
        (by simp)).eq_of_length (by simp)
    have hindex : k = index := (List.cons.inj hsame).1
    omega

end

/-- **The preorder comes to a node after all nodes around it, and to none twice.** -/
theorem pairwise_preorder (outline : Outline) : outline.preorder.Pairwise OutlineVisit.NotAround :=
  pairwise_visitsFrom [] 0 outline

theorem nodup_of_pairwise {visits : List OutlineVisit}
    (h : visits.Pairwise OutlineVisit.NotAround) : (visits.map OutlineVisit.address).Nodup := by
  rw [List.Nodup, List.pairwise_map]
  exact h.imp fun {w v} hnot (heq : w.address = v.address) => hnot (heq ▸ List.suffix_rfl)

/-- A parent is visited before its child. -/
theorem lt_of_isChildOf {visits : List OutlineVisit} {i j : Nat}
    (hvisits : visits.Pairwise OutlineVisit.NotAround) (hv : visits[i]? = some v)
    (hw : visits[j]? = some w) (h : v.IsChildOf w) : j < i := by
  obtain ⟨index, haddress, -⟩ := h
  have hsuffix : w.address <:+ v.address := by
    rw [haddress]
    exact List.suffix_cons _ _
  obtain ⟨hi, rfl⟩ := List.getElem?_eq_some_iff.1 hv
  obtain ⟨hj, rfl⟩ := List.getElem?_eq_some_iff.1 hw
  rcases Nat.lt_trichotomy j i with hlt | rfl | hlt
  · exact hlt
  · have hlength := congrArg List.length haddress
    simp at hlength
  · exact absurd hsuffix (List.pairwise_iff_getElem.1 hvisits i j hi hj hlt)

/-! ### Entries -/

-- `before` is what the walk has left behind and `after` what is still to come. Parents are looked
-- up in the whole, which does not change on the way.
mutual

theorem flattenFrom_node {all before after : List OutlineVisit} {address : List Nat}
    {node : OutlineNode} (hall : all = before ++ (node.visits address ++ after))
    (hnodup : (all.map OutlineVisit.address).Nodup) :
    node.flattenFrom (OutlineVisit.indexAt? all address.tail) before.length =
      (node.visits address).map (·.entryIn all) := by
  obtain ⟨name, kind, detail, range, selection, children⟩ := node
  rw [OutlineNode.visits, List.cons_append] at hall
  have hindex : OutlineVisit.indexAt? all address = some before.length :=
    OutlineVisit.indexAt?_of_split hnodup hall
  rw [List.append_cons] at hall
  have hchildren := flattenFrom_forest hall hnodup
  rw [hindex, List.length_append, List.length_singleton] at hchildren
  rw [OutlineNode.flattenFrom, OutlineNode.visits, List.map_cons, hchildren]
  rfl

theorem flattenFrom_forest {all before after : List OutlineVisit} {outer : List Nat}
    {index : Nat} {nodes : List OutlineNode}
    (hall : all = before ++ (visitsFrom outer index nodes ++ after))
    (hnodup : (all.map OutlineVisit.address).Nodup) :
    flattenFrom (OutlineVisit.indexAt? all outer) before.length nodes =
      (visitsFrom outer index nodes).map (·.entryIn all) := by
  cases nodes with
  | nil => rw [flattenFrom, visitsFrom, List.map_nil]
  | cons node rest =>
    rw [visitsFrom, List.append_assoc] at hall
    have hnode := flattenFrom_node hall hnodup
    rw [← List.append_assoc] at hall
    have hrest := flattenFrom_forest hall hnodup
    have hlength : (node.flattenFrom (OutlineVisit.indexAt? all outer) before.length).length =
        (node.visits (index :: outer)).length := by
      simpa using congrArg List.length hnode
    rw [List.length_append, ← hlength] at hrest
    rw [flattenFrom, visitsFrom, List.map_append, ← hnode, ← hrest]
    rfl

end

/-- **The entries of an outline are its nodes in preorder, each with the index of its parent.** -/
theorem flatten_eq_map (outline : Outline) :
    outline.flatten = outline.preorder.map (·.entryIn outline.preorder) := by
  have hnone : OutlineVisit.indexAt? outline.preorder [] = none :=
    OutlineVisit.indexAt?_eq_none_iff.2 fun v hv => address_ne_nil hv
  have hall : outline.preorder = [] ++ (visitsFrom [] 0 outline ++ []) :=
    (List.append_nil outline.preorder).symm
  have hforest := flattenFrom_forest hall (nodup_of_pairwise (pairwise_preorder outline))
  rw [hnone] at hforest
  exact hforest

end Outline

end CallerClosure
