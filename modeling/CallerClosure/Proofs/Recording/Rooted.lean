import CallerClosure.Proofs.Recording.Crossing
import Mathlib.Data.Prod.Lex

/-!
# The syntax tree of a document, whatever its spans

Whether the declarations and uses of a document nest, cross, coincide or are empty, its nodes are
a tree. The node for the whole document comes first and covers all others, so the pass over the
document never closes it.

* `RecordedNode.rankKey` is the order from outside to inside, in which the pass meets the nodes;
* `RecordedProgram.IsTree` says that the nodes of a document are a tree with a given root;
* `Recording.getLast?_way` is the invariant of the pass: every way outwards ends at the root;
* `tree_of_document` is the main statement.
-/

namespace CallerClosure

open Nesting (IsTower stackAfter)

/-! ### The order from outside to inside -/

/-- Where a node comes in the order from outside to inside: nodes are compared by their starts,
then by their ends, the later one first, then by the ranks of their roles, then by their
indices. -/
def RecordedNode.rankKey (n : RecordedNode × Nat) : ℕ ×ₗ ℕᵒᵈ ×ₗ ℕ ×ₗ ℕ :=
  toLex (n.1.span.start, toLex (OrderDual.toDual n.1.span.stop, toLex (n.1.role.rank, n.2)))

/-- The nodes of a document are listed in this order. -/
theorem RecordedNode.isOutside_iff_rankKey_le {a b : RecordedNode × Nat} :
    isOutside a b = true ↔ rankKey a ≤ rankKey b := by
  rw [isOutside_iff, rankKey, rankKey, Prod.Lex.toLex_le_toLex, Prod.Lex.toLex_le_toLex,
    Prod.Lex.toLex_le_toLex, OrderDual.toDual_lt_toDual, OrderDual.toDual_inj]
  dsimp only
  rw [eq_comm (a := b.1.span.stop)]

/-- A node that is listed before another one comes before it. -/
theorem RecordedNode.rankKey_lt {a b : RecordedNode × Nat} (h : isOutside a b = true)
    (hne : a.2 ≠ b.2) : rankKey a < rankKey b := by
  refine lt_of_le_of_ne (isOutside_iff_rankKey_le.1 h) fun heq => hne ?_
  simp only [rankKey, EmbeddingLike.apply_eq_iff_eq, Prod.mk.injEq] at heq
  exact heq.2.2.2

/-! ### Trees -/

namespace RecordedProgram

/-- A node of a document. -/
def IsNodeOf (r : RecordedProgram) (document : Path) (n : Nat) : Prop :=
  ∃ v, r.nodes[n]? = some v ∧ v.document.Same document

/-- The nodes of a document are a tree. -/
structure IsTree (r : RecordedProgram) (document : Path) (root : Nat) : Prop where
  /-- The root stands for the whole document. -/
  root_role : ∃ v, r.nodes[root]? = some v ∧ v.document.Same document ∧ v.role = .document
  /-- No other node is without a parent. -/
  parent?_eq_none : ∀ n, r.IsNodeOf document n → (r.parent? n = none ↔ n = root)
  /-- A parent is a node of the same document, covers the node and comes before it. -/
  parent?_eq_some : ∀ n v m, r.nodes[n]? = some v → v.document.Same document →
    r.parent? n = some m → ∃ w, r.nodes[m]? = some w ∧ w.document.Same document ∧
      w.span.Covers v.span ∧ RecordedNode.rankKey (w, m) < RecordedNode.rankKey (v, n)
  /-- The way outwards from a node visits no node twice and ends at the root. It takes one step
  less than it has nodes. -/
  exists_way : ∀ n, r.IsNodeOf document n → ∃ way,
    (r.program : Program Unit Nat).Outwards () (some n) way ∧ way.Nodup ∧
      (∀ m ∈ way, r.IsNodeOf document m) ∧ way.getLast? = some root ∧
      way.length ≤ (r.nodesOf document).length

end RecordedProgram

namespace Recording

variable {r : Recording} {document : Path} {text : Text}

/-- What is not listed after the node for the whole of a document stands for the whole of it. -/
theorem role_eq_document_of_isOutside (hr : r.Regular) (hv : r.Valid)
    (ht : textOf? r.documents document = some text) {v : RecordedNode} {n i : Nat} {path : Path}
    (hmem : v ∈ r.nodes) (hsame : v.document.Same document)
    (h : RecordedNode.isOutside (v, n) (⟨path, ⟨0, text.size⟩, .document⟩, i) = true) :
    v.role = .document ∧ v.span = ⟨0, text.size⟩ := by
  rcases root_or_mem_spansIn hr hv ht hmem hsame with hroot | ⟨-, -, hstop⟩
  · exact hroot
  · obtain ⟨path', ⟨start, stop⟩, role⟩ := v
    have hzero : (NodeRole.document).rank = 0 := rfl
    rw [RecordedNode.isOutside_iff, hzero] at h
    dsimp only at h hstop ⊢
    obtain ⟨rfl, rfl, hrank⟩ : start = 0 ∧ stop = text.size ∧ role.rank = 0 := by omega
    refine ⟨?_, rfl⟩
    cases role with
    | document => rfl
    | declaration id => cases hrank
    | use id => cases hrank

/-- The node for the whole of a document is listed first, and covers all others. -/
theorem exists_ofDocument_eq_cons (hr : r.Regular) (hv : r.Valid)
    (ht : textOf? r.documents document = some text) :
    ∃ root rest, RecordedNode.ofDocument r.nodes document = root :: rest ∧
      root.1.role = .document ∧ root.1.span = ⟨0, text.size⟩ := by
  obtain ⟨i, path, hnode, hsame⟩ := exists_root ht
  have hmem := RecordedNode.mem_ofDocument.2 ⟨hnode, hsame⟩
  have horder := RecordedNode.pairwise_ofDocument r.nodes document
  cases hlist : RecordedNode.ofDocument r.nodes document with
  | nil =>
    rw [hlist] at hmem
    cases hmem
  | cons first rest =>
    refine ⟨first, rest, rfl, ?_⟩
    have hfirst : first ∈ RecordedNode.ofDocument r.nodes document := by simp [hlist]
    obtain ⟨hat, hsame'⟩ := RecordedNode.mem_ofDocument.1 hfirst
    rw [hlist] at hmem horder
    rcases List.mem_cons.1 hmem with heq | hmem
    · rw [← heq]
      exact ⟨rfl, rfl⟩
    · exact role_eq_document_of_isOutside hr hv ht (List.mem_of_getElem? hat) hsame'
        ((List.pairwise_cons.1 horder).1 _ hmem)

/-! ### Ways to the root -/

section Root

variable {root c : RecordedNode × Nat} {rest left right : List (RecordedNode × Nat)}

/-- **Every way outwards ends at the root**, which covers all nodes of the document and is never
closed. -/
theorem getLast?_way (hcons : left ++ c :: right = root :: rest)
    (hcovers : ∀ n ∈ root :: rest, root.1.span.Covers n.1.span) :
    (way left c).getLast? = some (indexed root) := by
  obtain ⟨tail, htail⟩ : ∃ tail, left ++ [c] = root :: tail := by
    cases left with
    | nil => exact ⟨[], by rw [(List.cons.inj hcons).1]; rfl⟩
    | cons first left => exact ⟨left ++ [c], by rw [← (List.cons.inj hcons).1]; rfl⟩
  have hsub : tail ⊆ root :: rest := by
    intro n hn
    have hmem : n ∈ left ++ [c] := by
      rw [htail]
      exact List.mem_cons_of_mem _ hn
    rw [← hcons]
    simp only [List.mem_append, List.mem_cons, List.not_mem_nil, or_false] at hmem ⊢
    exact hmem.imp_right .inl
  rw [way, htail, List.map_cons]
  show (stackAfter [indexed root] (tail.map indexed)).getLast? = some (indexed root)
  refine Nesting.getLast?_stackAfter rfl fun s hs => ?_
  obtain ⟨n, hn, rfl⟩ := List.mem_map.1 hs
  exact hcovers n (hsub hn)

/-- Behind its start a way goes through nodes that are listed before it, the last ones first. -/
theorem sublist_of_way_eq_cons {outer : List IndexedSpan} (h : way left c = indexed c :: outer) :
    outer.Sublist (left.map indexed).reverse := by
  have hway := way_sublist left c
  rw [h, List.map_append, List.reverse_append] at hway
  exact List.cons_sublist_cons.1 hway

end Root

section Way

variable {c : RecordedNode × Nat} {left right : List (RecordedNode × Nat)}
  (hsplit : RecordedNode.ofDocument r.nodes document = left ++ c :: right)

include hsplit

/-- No way visits a node twice. -/
theorem nodup_way : ((way left c).map (·.index)).Nodup := by
  have hnodup := RecordedNode.nodup_ofDocument r.nodes document
  rw [hsplit, List.append_cons, List.map_append] at hnodup
  have hway := (way_sublist left c).map (·.index)
  rw [List.map_reverse, List.map_map] at hway
  exact (List.nodup_reverse.2 (List.nodup_append.1 hnodup).1).sublist hway

/-- A way goes through nodes of the document. -/
theorem isNodeOf_way {n : Nat} (hn : n ∈ (way left c).map (·.index)) :
    r.freeze.IsNodeOf document n := by
  obtain ⟨t, ht, rfl⟩ := List.mem_map.1 hn
  obtain ⟨v, hnode, hsame, -⟩ := exists_node_of_mem_way hsplit ht
  exact ⟨v, hnode, hsame⟩

/-- The parent of a node is the next one on its way. -/
theorem parent?_of_way (ht : textOf? r.documents document = some text)
    {outer : List IndexedSpan} (h : way left c = indexed c :: outer) :
    r.freeze.parent? c.2 = outer.head?.map (·.index) := by
  have hway := outwards_way hsplit ht ()
  rw [h] at hway
  cases hway with
  | step hrest =>
    rw [← List.head?_map]
    exact hrest.eq_head?

/-- Only the root is without a parent. -/
theorem parent?_eq_none_iff_of_way (ht : textOf? r.documents document = some text)
    {root : RecordedNode × Nat} (hlast : (way left c).getLast? = some (indexed root)) :
    r.freeze.parent? c.2 = none ↔ c.2 = root.2 := by
  obtain ⟨outer, houter⟩ := way_eq_cons left c
  have hnodup := nodup_way hsplit
  rw [parent?_of_way hsplit ht houter]
  rw [houter] at hlast hnodup
  cases outer with
  | nil =>
    obtain ⟨hindex, -⟩ := IndexedSpan.mk.inj (Option.some.inj hlast)
    exact ⟨fun _ => hindex, fun _ => rfl⟩
  | cons t outer =>
    -- the root comes later on the way, which does not come to it twice
    rw [List.getLast?_cons_cons] at hlast
    have hroot : root.2 ∈ (t :: outer).map (·.index) :=
      List.mem_map_of_mem (List.mem_of_getLast? hlast)
    rw [List.map_cons, List.nodup_cons] at hnodup
    constructor
    · rintro ⟨⟩
    · intro heq
      exact absurd hroot (heq ▸ hnodup.1)

/-- A parent is a node of the same document that covers the node and comes before it. -/
theorem exists_of_parent?_eq_some (ht : textOf? r.documents document = some text) {m : Nat}
    (hparent : r.freeze.parent? c.2 = some m) :
    ∃ w, r.nodes[m]? = some w ∧ w.document.Same document ∧ w.span.Covers c.1.span ∧
      RecordedNode.rankKey (w, m) < RecordedNode.rankKey c := by
  obtain ⟨outer, houter⟩ := way_eq_cons left c
  have htower := isTower_way left c
  rw [parent?_of_way hsplit ht houter] at hparent
  rw [houter] at htower
  cases outer with
  | nil => cases hparent
  | cons t outer =>
    have hmem := (sublist_of_way_eq_cons houter).subset List.mem_cons_self
    obtain ⟨⟨w, k⟩, hw, rfl⟩ := List.mem_map.1 (List.mem_reverse.1 hmem)
    obtain rfl : k = m := Option.some.inj hparent
    have hnode : (w, k) ∈ RecordedNode.ofDocument r.nodes document := by
      rw [hsplit]
      exact List.mem_append_left _ hw
    obtain ⟨hat, hsame⟩ := RecordedNode.mem_ofDocument.1 hnode
    have horder := RecordedNode.pairwise_ofDocument r.nodes document
    have hnodup := RecordedNode.nodup_ofDocument r.nodes document
    rw [hsplit] at horder hnodup
    have hbefore := (List.pairwise_append.1 horder).2.2 _ hw c List.mem_cons_self
    have hne := (List.pairwise_append.1 (List.pairwise_map.1 hnodup)).2.2 _ hw c List.mem_cons_self
    exact ⟨w, hat, hsame, (List.pairwise_cons.1 htower).1 _ List.mem_cons_self,
      RecordedNode.rankKey_lt hbefore hne⟩

end Way

/-- **The nodes of a document are a tree.** -/
theorem exists_isTree (hr : r.Regular) (hv : r.Valid)
    (ht : textOf? r.documents document = some text) : ∃ root, r.freeze.IsTree document root := by
  obtain ⟨root, rest, hcons, hrole, hspan⟩ := exists_ofDocument_eq_cons hr hv ht
  have hcovers : ∀ n ∈ root :: rest, root.1.span.Covers n.1.span := by
    intro n hn
    rw [← hcons] at hn
    obtain ⟨hnode, hsame⟩ := RecordedNode.mem_ofDocument.1 hn
    rw [hspan]
    exact ⟨Nat.zero_le _, (ordered_of_mem_nodes hr hv ht (List.mem_of_getElem? hnode) hsame).2⟩
  -- a node with what is listed before and after it, and the end of its way
  have hway : ∀ {v n}, r.nodes[n]? = some v → v.document.Same document → ∃ left right,
      RecordedNode.ofDocument r.nodes document = left ++ (v, n) :: right ∧
      (way left (v, n)).getLast? = some (indexed root) := by
    intro v n hnode hsame
    obtain ⟨left, right, hsplit⟩ :=
      List.append_of_mem (RecordedNode.mem_ofDocument.2 ⟨hnode, hsame⟩)
    exact ⟨left, right, hsplit, getLast?_way (hsplit.symm.trans hcons) hcovers⟩
  refine ⟨root.2, ⟨root.1, ?_⟩, ?_, ?_, ?_⟩
  · have hroot : root ∈ RecordedNode.ofDocument r.nodes document := by simp [hcons]
    obtain ⟨hnode, hsame⟩ := RecordedNode.mem_ofDocument.1 hroot
    exact ⟨hnode, hsame, hrole⟩
  · rintro n ⟨v, hnode, hsame⟩
    obtain ⟨left, right, hsplit, hlast⟩ := hway hnode hsame
    exact parent?_eq_none_iff_of_way hsplit ht hlast
  · intro n v m hnode hsame hparent
    obtain ⟨left, right, hsplit, -⟩ := hway hnode hsame
    exact exists_of_parent?_eq_some hsplit ht hparent
  · rintro n ⟨v, hnode, hsame⟩
    obtain ⟨left, right, hsplit, hlast⟩ := hway hnode hsame
    refine ⟨_, outwards_way hsplit ht (), nodup_way hsplit, fun m => isNodeOf_way hsplit, ?_, ?_⟩
    · rw [List.getLast?_map, hlast]
      rfl
    · rw [List.length_map]
      exact length_way_le_nodesOf hsplit

end Recording

/-! ### The main statement -/

open Recording in
/-- **The syntax tree of a document of a program that passes its checks**, whatever crosses what
in it. One node of the document is without a parent, and stands for all of it. Every other one has
a parent in the document, which covers it and comes before it from outside to inside, and parents
lead from every node to the root. The search for the method around a place comes to no node
twice. -/
theorem tree_of_document {σ : Type} {steps : List RecordingStep} {r : RecordedProgram}
    {document : Path} {text : Text} (hbuild : (ofSteps steps).build = .ok r)
    (htext : r.text? document = some text) (s : σ) :
    (∃ root, r.IsTree document root) ∧
      ∀ span : Span, span.stop ≤ text.size → ∃ node way,
        r.smallestCovering? document span = some node ∧
        (r.program : Program σ Nat).Outwards s (some node) way ∧ way.Nodup ∧
        ((r.program : Program σ Nat).containingDeclaration ⟨document, span⟩).ask s =
          (.ok (way.findSome? r.method?), s) := by
  obtain ⟨hvalid, rfl⟩ := build_eq_ok_iff.1 hbuild
  refine ⟨exists_isTree (regular_ofSteps steps) hvalid htext, fun span hstop => ?_⟩
  obtain ⟨left, c, right, h⟩ := exists_innermost htext hstop
  exact ⟨c.2, _, h.smallest, outwards_way h.split htext s, nodup_way h.split,
    congrArg (·, s) (h.containing_eq htext hstop)⟩

/-- A method and a class that lie across each other, an empty use inside both of them, and two
uses that are as large as the document. -/
def Recording.tangled : Recording :=
  .ofSteps [.document ⟨"a"⟩ "m[k(n])".toList, .declare ⟨"a"⟩ "m" .method ⟨0, 6⟩,
    .declare ⟨"a"⟩ "k" .«class» ⟨2, 7⟩, .reference ⟨"a"⟩ "a#0" ⟨4, 4⟩,
    .reference ⟨"a"⟩ "a#2" ⟨0, 7⟩, .reference ⟨"a"⟩ "a#2" ⟨0, 7⟩]

theorem tree_of_document_tangled :
    Recording.tangled.build = .ok Recording.tangled.freeze ∧
      Recording.tangled.freeze.text? ⟨"a"⟩ = some "m[k(n])".toList ∧
      ¬ (⟨0, 6⟩ : Span).Nested ⟨2, 7⟩ ∧
      Recording.tangled.freeze.IsTree ⟨"a"⟩ 0 ∧
      ∃ node way,
        (Recording.tangled.freeze.program : Program Unit Nat).Outwards () (some node) way ∧
        way.Nodup ∧
        (Recording.tangled.freeze.program.containingDeclaration ⟨⟨"a"⟩, ⟨4, 4⟩⟩).ask () =
          (.ok (way.findSome? Recording.tangled.freeze.method?), ()) := by
  have hbuild : Recording.tangled.build = .ok Recording.tangled.freeze := rfl
  have htext : Recording.tangled.freeze.text? ⟨"a"⟩ = some "m[k(n])".toList := rfl
  obtain ⟨⟨root, htree⟩, hsearch⟩ := tree_of_document hbuild htext ()
  obtain ⟨node, way, -, hway⟩ := hsearch ⟨4, 4⟩ (by decide)
  -- only the first node stands for the document
  obtain ⟨v, hv, -, hrole⟩ := htree.root_role
  have hlt := (List.getElem?_eq_some_iff.1 hv).1
  match root with
  | 0 => exact ⟨hbuild, htext, by decide, htree, node, way, hway⟩
  | 1 | 2 | 3 | 4 | 5 =>
    obtain rfl := Option.some.inj hv
    cases hrole
  | root + 6 => exact absurd hlt (Nat.not_lt.2 (Nat.le_add_left 6 root))

end CallerClosure
