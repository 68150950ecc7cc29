import CallerClosure.Proofs.Outline.Preorder
import CallerClosure.Server.Answer

/-!
# An outline from its entries

A flattened outline holds no children, only the indices of parents. They are enough to build the
forest again, by putting one entry after the other below its parent.

* `EntryForest` is a forest whose nodes remember their indices, and `EntryForest.attach` puts
  trees below a node of it;
* `EntryForest.ofEntries` builds a forest from entries in their order, and
  `EntryForest.foldl_place_nodes` says what the entries of some siblings add to a forest;
* `EntryForest.toOutline_ofEntries` says that flattening loses nothing but details;
* `OutlineAnswer.flatten_nested` says all this of a hierarchical answer.
-/

namespace CallerClosure

/-- A forest of entries with their indices: a first tree with its children, and the rest. -/
inductive EntryForest
  | nil
  | cons (index : Nat) (entry : OutlineEntry) (children rest : EntryForest)

namespace EntryForest

variable {forest s t new : EntryForest} {p c m n : Nat} {parent : Option Nat}

/-! ### Attaching trees -/

/-- The trees of two forests. -/
def append : EntryForest → EntryForest → EntryForest
  | nil, t => t
  | cons index entry children rest, t => cons index entry children (rest.append t)

instance : Append EntryForest := ⟨append⟩

@[simp] theorem nil_append (t : EntryForest) : nil ++ t = t := rfl

@[simp] theorem cons_append (index : Nat) (entry : OutlineEntry) (children rest t : EntryForest) :
    cons index entry children rest ++ t = cons index entry children (rest ++ t) := rfl

@[simp] theorem append_nil (s : EntryForest) : s ++ nil = s := by
  induction s with
  | nil => rfl
  | cons index entry children rest _ ih => rw [cons_append, ih]

theorem append_assoc (r s t : EntryForest) : r ++ s ++ t = r ++ (s ++ t) := by
  induction r with
  | nil => rfl
  | cons index entry children rest _ ih => rw [cons_append, cons_append, cons_append, ih]

/-- New trees as the last children of the nodes with an index. -/
def under (p : Nat) : EntryForest → EntryForest → EntryForest
  | nil, _ => nil
  | cons index entry children rest, new =>
    cons index entry (if index = p then children ++ new else children.under p new)
      (rest.under p new)

/-- New trees below a parent, or beside the others. -/
def attach (forest : EntryForest) (parent : Option Nat) (new : EntryForest) : EntryForest :=
  match parent with
  | none => forest ++ new
  | some p => forest.under p new

/-- An entry with its index, put below its parent. -/
def place (forest : EntryForest) (e : OutlineEntry × Nat) : EntryForest :=
  forest.attach e.1.parent (cons e.2 e.1 nil nil)

/-- The forest that grows from entries, one after the other. -/
def ofEntries (entries : List OutlineEntry) : EntryForest :=
  entries.zipIdx.foldl place nil

/-- The outline of a forest. Entries have no details. -/
def toOutline : EntryForest → Outline
  | nil => []
  | cons _ entry children rest =>
    ⟨entry.name, entry.kind, none, entry.range, entry.selection, children.toOutline⟩ ::
      rest.toOutline

/-- All indices are below a bound. -/
def Below (n : Nat) : EntryForest → Prop
  | nil => True
  | cons index _ children rest => index < n ∧ children.Below n ∧ rest.Below n

theorem Below.mono (h : forest.Below m) (hle : m ≤ n) : forest.Below n := by
  induction forest with
  | nil => trivial
  | cons index entry children rest ihc ihr =>
    obtain ⟨hindex, hchildren, hrest⟩ := h
    exact ⟨Nat.lt_of_lt_of_le hindex hle, ihc hchildren, ihr hrest⟩

theorem Below.append (hs : s.Below n) (ht : t.Below n) : (s ++ t).Below n := by
  induction s with
  | nil => exact ht
  | cons index entry children rest _ ih =>
    obtain ⟨hindex, hchildren, hrest⟩ := hs
    exact ⟨hindex, hchildren, ih hrest⟩

theorem Below.under (hforest : forest.Below n) (hnew : new.Below n) :
    (forest.under p new).Below n := by
  induction forest with
  | nil => trivial
  | cons index entry children rest ihc ihr =>
    obtain ⟨hindex, hchildren, hrest⟩ := hforest
    refine ⟨hindex, ?_, ihr hrest⟩
    split
    · exact hchildren.append hnew
    · exact ihc hchildren

theorem Below.attach (hforest : forest.Below n) (hnew : new.Below n) (parent : Option Nat) :
    (forest.attach parent new).Below n := by
  cases parent with
  | none => exact hforest.append hnew
  | some p => exact hforest.under hnew

/-- Below a node that is not there nothing changes. -/
theorem under_of_below (h : forest.Below p) : forest.under p new = forest := by
  induction forest with
  | nil => rfl
  | cons index entry children rest ihc ihr =>
    obtain ⟨hindex, hchildren, hrest⟩ := h
    rw [under, if_neg (Nat.ne_of_lt hindex), ihc hchildren, ihr hrest]

theorem attach_nil (forest : EntryForest) (parent : Option Nat) :
    forest.attach parent nil = forest := by
  cases parent with
  | none => exact append_nil forest
  | some p =>
    show forest.under p nil = forest
    induction forest with
    | nil => rfl
    | cons index entry children rest ihc ihr => rw [under, append_nil, ihc, ihr, ite_self]

/-- Trees that come later stand behind those that are there. -/
theorem attach_attach (forest : EntryForest) (parent : Option Nat) (s t : EntryForest) :
    (forest.attach parent s).attach parent t = forest.attach parent (s ++ t) := by
  cases parent with
  | none => exact append_assoc forest s t
  | some p =>
    show (forest.under p s).under p t = forest.under p (s ++ t)
    induction forest with
    | nil => rfl
    | cons index entry children rest ihc ihr =>
      rw [under, under, under, ihr]
      split
      · rw [append_assoc]
      · rw [ihc]

theorem append_under (s t : EntryForest) :
    (s ++ t).under p new = s.under p new ++ t.under p new := by
  induction s with
  | nil => rfl
  | cons index entry children rest _ ih => rw [cons_append, under, ih, under, cons_append]

/-- Children of a new leaf may as well come with it. -/
theorem attach_leaf (h : forest.Below c) (parent : Option Nat) (entry : OutlineEntry)
    (new : EntryForest) :
    (forest.attach parent (cons c entry nil nil)).attach (some c) new =
      forest.attach parent (cons c entry new nil) := by
  have hleaf : (cons c entry nil nil).under c new = cons c entry new nil := by
    rw [under, if_pos rfl, nil_append, under]
  cases parent with
  | none =>
    show (forest ++ cons c entry nil nil).under c new = forest ++ cons c entry new nil
    rw [append_under, under_of_below h, hleaf]
  | some p =>
    show (forest.under p (cons c entry nil nil)).under c new = forest.under p (cons c entry new nil)
    induction forest with
    | nil => rfl
    | cons index entry' children rest ihc ihr =>
      obtain ⟨hindex, hchildren, hrest⟩ := h
      rw [under, under, under, if_neg (Nat.ne_of_lt hindex), ihr hrest]
      split
      · rw [append_under, under_of_below hchildren, hleaf]
      · rw [ihc hchildren]

theorem toOutline_append (s t : EntryForest) :
    (s ++ t).toOutline = s.toOutline ++ t.toOutline := by
  induction s with
  | nil => rfl
  | cons index entry children rest _ ih =>
    rw [cons_append, toOutline, ih, toOutline, List.cons_append]

end EntryForest

/-! ### The forest of an outline -/

mutual

/-- A node without its details and those of its subtree. -/
def OutlineNode.withoutDetails : OutlineNode → OutlineNode
  | ⟨name, kind, _, range, selection, children⟩ =>
    ⟨name, kind, none, range, selection, Outline.withoutDetails children⟩

/-- An outline without details. -/
def Outline.withoutDetails : List OutlineNode → List OutlineNode
  | [] => []
  | node :: rest => node.withoutDetails :: Outline.withoutDetails rest

end

mutual

/-- The tree of a node that has the index `index`. -/
def OutlineNode.toForest (parent : Option Nat) (index : Nat) : OutlineNode → EntryForest
  | ⟨name, kind, _, range, selection, children⟩ =>
    .cons index ⟨name, kind, range, selection, parent⟩
      (Outline.toForest (some index) (index + 1) children) .nil

/-- The trees of siblings, the first of which has the index `index`. -/
def Outline.toForest (parent : Option Nat) (index : Nat) : List OutlineNode → EntryForest
  | [] => .nil
  | node :: rest =>
    node.toForest parent index ++
      Outline.toForest parent (index + (node.flattenFrom parent index).length) rest

end

namespace EntryForest

-- indices are handed out as entries are, so the next free one is as far away as there are entries
mutual

theorem below_node (parent : Option Nat) (index : Nat) (node : OutlineNode) :
    (node.toForest parent index).Below (index + (node.flattenFrom parent index).length) := by
  obtain ⟨name, kind, detail, range, selection, children⟩ := node
  have hchildren := below_nodes (some index) (index + 1) children
  rw [Nat.add_right_comm, Nat.add_assoc] at hchildren
  rw [OutlineNode.toForest, OutlineNode.flattenFrom, List.length_cons]
  exact ⟨by omega, hchildren, trivial⟩

theorem below_nodes (parent : Option Nat) (index : Nat) (nodes : List OutlineNode) :
    (Outline.toForest parent index nodes).Below
      (index + (Outline.flattenFrom parent index nodes).length) := by
  cases nodes with
  | nil => trivial
  | cons node rest =>
    rw [Outline.toForest, Outline.flattenFrom, List.length_append, ← Nat.add_assoc]
    exact ((below_node parent index node).mono (Nat.le_add_right _ _)).append
      (below_nodes parent _ rest)

end

mutual

/-- The entries of a node, put into a forest one after the other, become the tree of the node. -/
theorem foldl_place_node {forest : EntryForest} {index : Nat} (h : forest.Below index)
    (parent : Option Nat) (node : OutlineNode) :
    ((node.flattenFrom parent index).zipIdx index).foldl place forest =
      forest.attach parent (node.toForest parent index) := by
  obtain ⟨name, kind, detail, range, selection, children⟩ := node
  let entry : OutlineEntry := ⟨name, kind, range, selection, parent⟩
  have hleaf : (cons index entry nil nil).Below (index + 1) :=
    ⟨Nat.lt_succ_self index, trivial, trivial⟩
  have hforest := (h.mono (Nat.le_succ index)).attach hleaf parent
  rw [OutlineNode.flattenFrom, List.zipIdx_cons, List.foldl_cons]
  refine (foldl_place_nodes hforest (some index) children).trans ?_
  rw [attach_leaf h, OutlineNode.toForest]

/-- So do those of siblings. -/
theorem foldl_place_nodes {forest : EntryForest} {index : Nat} (h : forest.Below index)
    (parent : Option Nat) (nodes : List OutlineNode) :
    ((Outline.flattenFrom parent index nodes).zipIdx index).foldl place forest =
      forest.attach parent (Outline.toForest parent index nodes) := by
  cases nodes with
  | nil => exact (attach_nil forest parent).symm
  | cons node rest =>
    have hforest := (h.mono (Nat.le_add_right _ _)).attach (below_node parent index node) parent
    rw [Outline.flattenFrom, List.zipIdx_append, List.foldl_append, foldl_place_node h,
      foldl_place_nodes hforest, attach_attach, Outline.toForest]

end

mutual

theorem toOutline_node (parent : Option Nat) (index : Nat) (node : OutlineNode) :
    (node.toForest parent index).toOutline = [node.withoutDetails] := by
  obtain ⟨name, kind, detail, range, selection, children⟩ := node
  rw [OutlineNode.toForest, toOutline, toOutline_nodes, OutlineNode.withoutDetails, toOutline]

theorem toOutline_nodes (parent : Option Nat) (index : Nat) (nodes : List OutlineNode) :
    (Outline.toForest parent index nodes).toOutline = Outline.withoutDetails nodes := by
  cases nodes with
  | nil => rfl
  | cons node rest =>
    rw [Outline.toForest, toOutline_append, toOutline_node, toOutline_nodes,
      Outline.withoutDetails, List.singleton_append]

end

/-- **Flattening loses nothing but the details.** -/
theorem toOutline_ofEntries (outline : Outline) :
    (ofEntries outline.flatten).toOutline = Outline.withoutDetails outline := by
  have hempty : Below 0 nil := trivial
  rw [ofEntries, Outline.flatten, foldl_place_nodes hempty]
  exact toOutline_nodes none 0 outline

end EntryForest

/-! ### Parents of entries -/

namespace Outline

variable {outline : Outline} {v : OutlineVisit} {e : OutlineEntry} {i j : Nat}

theorem parent_of_getElem? (hv : outline.preorder[i]? = some v)
    (he : outline.flatten[i]? = some e) :
    e.parent = OutlineVisit.indexAt? outline.preorder v.address.tail := by
  rw [flatten_eq_map, List.getElem?_map, hv] at he
  obtain rfl := Option.some.inj he
  rfl

/-- The outermost nodes have entries without parents, and no others. -/
theorem parent_eq_none_iff (hv : outline.preorder[i]? = some v)
    (he : outline.flatten[i]? = some e) : e.parent = none ↔ v.IsOutermost := by
  rw [parent_of_getElem? hv he, OutlineVisit.indexAt?_eq_none_iff]
  have hmem := List.mem_of_getElem? hv
  constructor
  · intro hnone
    refine (isOutermost_or_exists hmem).resolve_right ?_
    rintro ⟨w, hw, hchild⟩
    exact hnone w hw ((isChildOf_iff hmem hw).1 hchild)
  · rintro ⟨index, haddress⟩ w hw
    rw [haddress]
    exact address_ne_nil hw

/-- The parent of an entry is that of the node right around its node, and comes before it. -/
theorem parent_eq_some_iff (hv : outline.preorder[i]? = some v)
    (he : outline.flatten[i]? = some e) :
    e.parent = some j ↔ j < i ∧ ∃ w, outline.preorder[j]? = some w ∧ v.IsChildOf w := by
  have hmem := List.mem_of_getElem? hv
  have horder := pairwise_preorder outline
  rw [parent_of_getElem? hv he, OutlineVisit.indexAt?_eq_some_iff (nodup_of_pairwise horder)]
  constructor
  · rintro ⟨w, hw, haddress⟩
    have hchild := (isChildOf_iff hmem (List.mem_of_getElem? hw)).2 haddress
    exact ⟨lt_of_isChildOf horder hv hw hchild, w, hw, hchild⟩
  · rintro ⟨-, w, hw, hchild⟩
    exact ⟨w, hw, (isChildOf_iff hmem (List.mem_of_getElem? hw)).1 hchild⟩

end Outline

/-! ### Hierarchical answers -/

mutual

/-- A symbol of a hierarchical answer and all below it, depth first. -/
def NestedSymbol.preorder : NestedSymbol → List NestedSymbol
  | ⟨name, detail, kind, range, selection, children⟩ =>
    ⟨name, detail, kind, range, selection, children⟩ :: NestedSymbol.preorderAll children

/-- The symbols of a hierarchical answer, depth first. -/
def NestedSymbol.preorderAll : List NestedSymbol → List NestedSymbol
  | [] => []
  | s :: rest => s.preorder ++ NestedSymbol.preorderAll rest

end

namespace NestedSymbol

mutual

theorem map_node_visits (address : List Nat) (s : NestedSymbol) :
    (s.toNode.visits address).map (·.node) = s.preorder.map toNode := by
  obtain ⟨name, detail, kind, range, selection, children⟩ := s
  rw [toNode, OutlineNode.visits, List.map_cons, map_node_visitsFrom, preorder, List.map_cons,
    toNode]

theorem map_node_visitsFrom (outer : List Nat) (index : Nat) (symbols : List NestedSymbol) :
    (Outline.visitsFrom outer index (toNodes symbols)).map (·.node) =
      (preorderAll symbols).map toNode := by
  cases symbols with
  | nil => rfl
  | cons s rest =>
    rw [toNodes, Outline.visitsFrom, List.map_append, map_node_visits, map_node_visitsFrom,
      preorderAll, List.map_append]

end

end NestedSymbol

/-- **Flattening a hierarchical answer loses nothing.** There is one entry for each symbol, depth
first, with its name, the kind that its number stands for, and its ranges. An entry has no parent
exactly if its symbol is one of the outermost, and otherwise the index, smaller than its own, of
the entry of the symbol right around it; addresses tell where symbols are. And the entries, put one
after the other below their parents, become the forest again, only without details. -/
theorem OutlineAnswer.flatten_nested (symbols : List NestedSymbol) :
    let outline : Outline := toOutline (some (.nested symbols))
    outline.flatten.map (fun e => (e.name, e.kind, e.range, e.selection)) =
        (NestedSymbol.preorderAll symbols).map (fun s =>
          (s.name, SymbolKind.ofCode s.kind, s.range, s.selection)) ∧
      outline.preorder.map (·.node) = (NestedSymbol.preorderAll symbols).map NestedSymbol.toNode ∧
      (∀ (i : Nat) (v : OutlineVisit) (e : OutlineEntry), outline.preorder[i]? = some v →
        outline.flatten[i]? = some e →
          outline.node? v.address = some v.node ∧ (e.parent = none ↔ v.IsOutermost) ∧
          ∀ j, e.parent = some j ↔
            j < i ∧ ∃ w, outline.preorder[j]? = some w ∧ v.IsChildOf w) ∧
      (EntryForest.ofEntries outline.flatten).toOutline = Outline.withoutDetails outline := by
  intro outline
  have hnodes : outline.preorder.map (·.node) =
      (NestedSymbol.preorderAll symbols).map NestedSymbol.toNode :=
    NestedSymbol.map_node_visitsFrom [] 0 symbols
  refine ⟨?_, hnodes, fun i v e hv he => ⟨?_, Outline.parent_eq_none_iff hv he,
    fun j => Outline.parent_eq_some_iff hv he⟩, EntryForest.toOutline_ofEntries outline⟩
  case refine_2 => exact Outline.mem_preorder.1 (List.mem_of_getElem? hv)
  have hmap : outline.flatten.map (fun e => (e.name, e.kind, e.range, e.selection)) =
      (outline.preorder.map (·.node)).map fun n => (n.name, n.kind, n.range, n.selection) := by
    rw [Outline.flatten_eq_map, List.map_map, List.map_map]
    rfl
  rw [hmap, hnodes, List.map_map]
  refine List.map_congr_left fun s _ => ?_
  obtain ⟨name, detail, kind, range, selection, children⟩ := s
  rw [Function.comp_apply, NestedSymbol.toNode]

end CallerClosure
