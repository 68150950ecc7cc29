import CallerClosure.Proofs.Program.Nesting
import CallerClosure.Proofs.Recording.Checks
import CallerClosure.Program.Recorded
import Mathlib.Data.List.Nodup

/-!
# The nodes of a recorded program

* `RecordedNode.isOutside_iff` spells out the order of nodes, `pairwise_ofDocument` says
  that the nodes of a document are listed in it;
* `RecordedNode.mem_ofDocument` says which nodes these are;
* `Recording.parent?_freeze` reads the parent of a node off the pass over its document;
* `Recording.declared?_freeze`: the nodes that declare a symbol are those of the recorded
  declarations, in their order.
-/

namespace CallerClosure

/-! ### The order of nodes -/

namespace RecordedNode

theorem isOutside_iff {a b : RecordedNode × Nat} : isOutside a b = true ↔
    a.1.span.start < b.1.span.start ∨ a.1.span.start = b.1.span.start ∧
      (b.1.span.stop < a.1.span.stop ∨ b.1.span.stop = a.1.span.stop ∧
        (a.1.role.rank < b.1.role.rank ∨ a.1.role.rank = b.1.role.rank ∧ a.2 ≤ b.2)) := by
  simp only [isOutside, Ordering.isLE_then_iff_or, Nat.compare_eq_lt, Nat.compare_eq_eq,
    Nat.isLE_compare]

theorem isOutside_trans (a b c : RecordedNode × Nat) (h : isOutside a b = true)
    (h' : isOutside b c = true) : isOutside a c = true := by
  rw [isOutside_iff] at *
  omega

theorem isOutside_total (a b : RecordedNode × Nat) :
    (isOutside a b || isOutside b a) = true := by
  rw [Bool.or_eq_true, isOutside_iff, isOutside_iff]
  omega

/-- The nodes of a document are listed from outside to inside. -/
theorem pairwise_ofDocument (nodes : List RecordedNode) (document : Path) :
    (ofDocument nodes document).Pairwise fun a b => isOutside a b = true :=
  List.pairwise_mergeSort isOutside_trans isOutside_total _

theorem mem_ofDocument {nodes : List RecordedNode} {document : Path} {v : RecordedNode}
    {n : Nat} : (v, n) ∈ ofDocument nodes document ↔
      nodes[n]? = some v ∧ v.document.Same document := by
  rw [ofDocument, List.mem_mergeSort, List.mem_filter, List.mk_mem_zipIdx_iff_getElem?,
    decide_eq_true_eq]

theorem nodup_ofDocument (nodes : List RecordedNode) (document : Path) :
    ((ofDocument nodes document).map (·.2)).Nodup := by
  have hindices : (nodes.zipIdx.map (·.2)).Nodup := by
    rw [List.zipIdx_map_snd]
    exact List.nodup_range'
  refine ((List.mergeSort_perm _ _).map _).nodup_iff.2 ?_
  exact hindices.sublist (List.filter_sublist.map _)

/-- Spellings of one path have the same nodes. -/
theorem ofDocument_congr {p q : Path} (h : p.Same q) (nodes : List RecordedNode) :
    ofDocument nodes p = ofDocument nodes q := by
  simp only [ofDocument, Path.same_congr h]

theorem parentsIn_congr {p q : Path} (h : p.Same q) (nodes : List RecordedNode) :
    parentsIn nodes p = parentsIn nodes q := by
  rw [parentsIn, parentsIn, ofDocument_congr h]

/-- The pass over a document gives each node of it a parent or none, and only once. -/
theorem map_fst_parentsIn (nodes : List RecordedNode) (document : Path) :
    (parentsIn nodes document).map (·.1) = (ofDocument nodes document).map (·.2) := by
  rw [parentsIn, Nesting.parents, Nesting.map_fst_parentsFrom, List.map_map]
  rfl

theorem exists_of_mem_parentsIn {nodes : List RecordedNode} {document : Path} {n : Nat}
    {parent : Option Nat} (h : (n, parent) ∈ parentsIn nodes document) :
    ∃ v, nodes[n]? = some v ∧ v.document.Same document := by
  have hn : n ∈ (ofDocument nodes document).map (·.2) := by
    rw [← map_fst_parentsIn]
    exact List.mem_map_of_mem h
  obtain ⟨⟨v, n⟩, hv, rfl⟩ := List.mem_map.1 hn
  exact ⟨v, mem_ofDocument.1 hv⟩

end RecordedNode

theorem RecordedProgram.checkBounds_eq_ok {r : RecordedProgram} {document : Path} {text : Text}
    {span : Span} (ht : r.text? document = some text) (hstop : span.stop ≤ text.size) :
    r.checkBounds document span = .ok () := by
  rw [checkBounds, ht]
  exact if_neg (Nat.not_lt.2 hstop)

namespace Recording

variable {r : Recording}

/-- A document has a node for the whole of it. -/
theorem exists_root {document : Path} {text : Text}
    (h : textOf? r.documents document = some text) :
    ∃ (n : Nat) (path : Path),
      r.nodes[n]? = some ⟨path, ⟨0, text.size⟩, .document⟩ ∧ path.Same document := by
  obtain ⟨path, hd, hsame⟩ := exists_of_textOf? h
  obtain ⟨n, hn⟩ := List.mem_iff_getElem?.1 hd
  refine ⟨n, path, ?_, hsame⟩
  have hlt := (List.getElem?_eq_some_iff.1 hn).1
  rw [nodes, List.append_assoc, List.getElem?_append_left (by simpa using hlt),
    List.getElem?_map, hn]
  rfl

/-! ### Parents -/

/-- The parent of a node is the one that the pass over its document finds, whatever spelling
of the document the pass was started with. -/
theorem parent?_freeze {document : Path} {text : Text} {n : Nat} {parent : Option Nat}
    (hd : (document, text) ∈ r.documents)
    (h : (n, parent) ∈ RecordedNode.parentsIn r.nodes document) :
    r.freeze.parent? n = parent := by
  have hmem : (n, parent) ∈ r.freeze.parents := List.mem_flatMap.2 ⟨_, hd, h⟩
  cases hfind : r.freeze.parents.find? fun p => p.1 == n with
  | none => exact absurd (List.find?_eq_none.1 hfind _ hmem) (by simp)
  | some found =>
    obtain ⟨k, other⟩ := found
    have hk : k = n := by simpa using List.find?_some hfind
    subst hk
    -- the entry that is found comes from a document with the same components
    obtain ⟨⟨document', text'⟩, -, h'⟩ :=
      List.mem_flatMap.1 (List.mem_of_find?_eq_some hfind)
    obtain ⟨v, hv, hsame⟩ := RecordedNode.exists_of_mem_parentsIn h
    obtain ⟨v', hv', hsame'⟩ := RecordedNode.exists_of_mem_parentsIn h'
    obtain rfl : v = v' := Option.some.inj (hv.symm.trans hv')
    rw [RecordedNode.parentsIn_congr (hsame'.symm.trans hsame)] at h'
    have hnodup : ((RecordedNode.parentsIn r.nodes document).map (·.1)).Nodup := by
      rw [RecordedNode.map_fst_parentsIn]
      exact RecordedNode.nodup_ofDocument _ _
    have hentry := List.inj_on_of_nodup_map hnodup h' h rfl
    rw [RecordedProgram.parent?, hfind]
    exact congrArg Prod.snd hentry

/-- A parent is a node. -/
theorem lt_of_parent?_freeze {n m : Nat} (h : r.freeze.parent? n = some m) :
    m < r.nodes.length := by
  obtain ⟨⟨k, parent⟩, hfind, rfl⟩ := Option.bind_eq_some_iff.1 h
  obtain ⟨⟨document, text⟩, -, hmem⟩ := List.mem_flatMap.1 (List.mem_of_find?_eq_some hfind)
  obtain ⟨s, hs, rfl⟩ := Nesting.exists_of_mem_parents hmem
  obtain ⟨⟨v, n⟩, hv, rfl⟩ := List.mem_map.1 hs
  exact (List.getElem?_eq_some_iff.1 (RecordedNode.mem_ofDocument.1 hv).1).1

/-! ### Declarations and their nodes -/

/-- The symbol with the identity of a symbol of a valid recording is that symbol. -/
theorem symbol?_freeze (hv : r.Valid) {m : Symbol} (hm : m ∈ r.symbols) :
    r.freeze.symbol? m.id = some m := by
  cases hfind : r.freeze.symbol? m.id with
  | none => exact absurd (List.find?_eq_none.1 hfind m hm) (by simp)
  | some other =>
    have hid : other.id = m.id := by simpa using List.find?_some hfind
    rw [List.inj_on_of_nodup_map hv.nodup (List.mem_of_find?_eq_some hfind) hm hid]

/-- The node of the declaration at a position of a recording. -/
def declarationNode (r : Recording) (i : Nat) : Nat := r.documents.length + i

theorem getElem?_declarationNode {i : Nat} {d : RecordedDeclaration}
    (h : r.declarations[i]? = some d) :
    r.nodes[r.declarationNode i]? = some ⟨d.document, d.span, .declaration d.symbol.id⟩ := by
  have hi := (List.getElem?_eq_some_iff.1 h).1
  rw [nodes, declarationNode, List.append_assoc, List.getElem?_append_right (by simp),
    List.length_map, Nat.add_sub_cancel_left, List.getElem?_append_left (by simpa using hi),
    List.getElem?_map, h]
  rfl

/-- A node with the role of a declaration is the node of a declaration. -/
theorem exists_declarationNode {n : Nat} {v : RecordedNode} {id : SymbolId}
    (h : r.nodes[n]? = some v) (hrole : v.role = .declaration id) :
    ∃ i d, r.declarations[i]? = some d ∧ r.declarationNode i = n ∧ d.symbol.id = id := by
  rw [nodes, List.append_assoc, List.getElem?_append, List.getElem?_append, List.length_map,
    List.length_map] at h
  by_cases hdocuments : n < r.documents.length
  · rw [if_pos hdocuments, List.getElem?_map] at h
    obtain ⟨d, -, rfl⟩ := Option.map_eq_some_iff.1 h
    cases hrole
  · rw [if_neg hdocuments] at h
    by_cases hdeclarations : n - r.documents.length < r.declarations.length
    · rw [if_pos hdeclarations, List.getElem?_map] at h
      obtain ⟨d, hd, rfl⟩ := Option.map_eq_some_iff.1 h
      refine ⟨_, d, hd, ?_, NodeRole.declaration.inj hrole⟩
      rw [declarationNode]
      omega
    · rw [if_neg hdeclarations, List.getElem?_map] at h
      obtain ⟨u, -, rfl⟩ := Option.map_eq_some_iff.1 h
      cases hrole

/-- **The nodes that declare a symbol are those of the recorded declarations.** -/
theorem declared?_freeze (hv : r.Valid) {n : Nat} {m : Symbol} :
    r.freeze.declared? n = some m ↔
      ∃ i d, r.declarations[i]? = some d ∧ r.declarationNode i = n ∧ d.symbol = m := by
  have hsymbol : ∀ d ∈ r.declarations, r.freeze.symbol? d.symbol.id = some d.symbol :=
    fun d hd => symbol?_freeze hv (List.mem_append_left _ (List.mem_map_of_mem hd))
  constructor
  · intro h
    unfold RecordedProgram.declared? at h
    split at h
    · rename_i id hid
      obtain ⟨v, hnode, hrole⟩ := Option.map_eq_some_iff.1 hid
      obtain ⟨i, d, hd, hn, rfl⟩ := exists_declarationNode hnode hrole
      rw [hsymbol d (List.mem_of_getElem? hd)] at h
      exact ⟨i, d, hd, hn, Option.some.inj h⟩
    · cases h
  · rintro ⟨i, d, hd, rfl, rfl⟩
    have hnode : r.freeze.nodes[r.declarationNode i]? =
      some ⟨d.document, d.span, .declaration d.symbol.id⟩ := getElem?_declarationNode hd
    rw [RecordedProgram.declared?, hnode]
    exact hsymbol d (List.mem_of_getElem? hd)

end Recording

end CallerClosure
