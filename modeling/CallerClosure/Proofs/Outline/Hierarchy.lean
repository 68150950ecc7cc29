import CallerClosure.Proofs.Outline.Spans
import CallerClosure.Proofs.Outline.Ways
import Mathlib.Data.List.Forall2

/-!
# Documents with a hierarchy

In an outline that nests, the declarations around a span form a chain, and the hierarchy of the
outline leads through all of it.

* `Outline.Nests` says of a forest that each node lies within its parent and that siblings share
  no byte;
* `Document.forall₂_keep` says that the declarations are then the entries of the outline, with
  their parents;
* `Document.Inwards` is a list of declarations in which each one is the parent of the next.
  `chains_of_nests` goes through the subtree of a node, `inwards_around` through a document;
* `Document.exists_outwards_of_inwards` is the way outwards from the smallest declaration.
-/

namespace CallerClosure

/-! ### Outlines that nest -/

/-- Two spans that share no byte. -/
def Span.Apart (a b : Span) : Prop :=
  ∀ offset, ¬ (a.Covers ⟨offset, offset + 1⟩ ∧ b.Covers ⟨offset, offset + 1⟩)

/-- Spans that share no byte are not around one span that has any. -/
theorem Span.Apart.not_covers {a b q : Span} (h : a.Apart b) (hq : q.start < q.stop)
    (ha : a.Covers q) : ¬ b.Covers q := by
  intro hb
  have hbyte : q.Covers ⟨q.start, q.start + 1⟩ := ⟨Nat.le_refl _, hq⟩
  exact h q.start ⟨ha.trans hbyte, hb.trans hbyte⟩

/-- Two nodes whose ranges share no byte of a text. -/
def OutlineNode.Apart (text : Text) (a b : OutlineNode) : Prop :=
  ∀ s t, text.span? a.range = some s → text.span? b.range = some t → s.Apart t

/-- In the subtree of a node all ranges lie in a text, each child lies within its parent, and
siblings share no byte. -/
inductive OutlineNode.Nests (text : Text) : OutlineNode → Prop
  | intro {node : OutlineNode} {span name : Span} (hspan : text.span? node.range = some span)
      (hname : text.span? node.selection = some name)
      (hwithin : ∀ child ∈ node.children, ∀ inner,
        text.span? child.range = some inner → span.Covers inner)
      (happart : node.children.Pairwise (OutlineNode.Apart text))
      (hchildren : ∀ child ∈ node.children, Nests text child) : Nests text node

/-- The nodes of a forest nest, and the outermost ones share no byte. -/
structure Outline.Nests (text : Text) (outline : Outline) : Prop where
  nodes : ∀ node ∈ outline, node.Nests text
  apart : outline.Pairwise (OutlineNode.Apart text)

namespace Document

variable {p : Path} {text : Text} {outline : Outline} {q : Span}

/-! ### Entries and declarations -/

/-- Both ranges of an entry lie in a text. -/
def Lies (text : Text) (e : OutlineEntry) : Prop :=
  (text.span? e.range).isSome = true ∧ (text.span? e.selection).isSome = true

/-- A declaration that is made of an entry and keeps its parent. -/
structure Lists (text : Text) (e : OutlineEntry) (c : Declaration) : Prop where
  entry : c.entry = e
  parent : c.parent = e.parent
  declared : Declared text c

/-- Every entry in a list that starts at an index has a parent that comes earlier. -/
def Precede (parent : Option Nat) (index : Nat) (entries : List OutlineEntry) : Prop :=
  ∀ x ∈ entries.zipIdx index, x.1.parent = parent ∨ ∃ k, x.1.parent = some k ∧ k < x.2

mutual

theorem precede_node (parent : Option Nat) (index : Nat) (node : OutlineNode) :
    Precede parent index (node.flattenFrom parent index) := by
  obtain ⟨name, kind, detail, range, selection, children⟩ := node
  rw [OutlineNode.flattenFrom]
  intro x hx
  rw [List.zipIdx_cons] at hx
  rcases List.mem_cons.1 hx with rfl | hx
  · exact .inl rfl
  · have hle := List.le_snd_of_mem_zipIdx hx
    rcases precede_forest (some index) (index + 1) children x hx with h | h
    · exact .inr ⟨index, h, hle⟩
    · exact .inr h

theorem precede_forest (parent : Option Nat) (index : Nat) (nodes : List OutlineNode) :
    Precede parent index (Outline.flattenFrom parent index nodes) := by
  cases nodes with
  | nil =>
    intro x hx
    simp [Outline.flattenFrom] at hx
  | cons node rest =>
    intro x hx
    rw [Outline.flattenFrom, List.zipIdx_append] at hx
    rcases List.mem_append.1 hx with hx | hx
    · exact precede_node parent index node x hx
    · exact precede_forest parent _ rest x hx

end

theorem lies_forest {nodes : List OutlineNode}
    (h : ∀ node ∈ nodes, ∀ parent index, ∀ e ∈ node.flattenFrom parent index, Lies text e)
    (parent : Option Nat) (index : Nat) :
    ∀ e ∈ Outline.flattenFrom parent index nodes, Lies text e := by
  induction nodes generalizing index with
  | nil =>
    intro e he
    simp [Outline.flattenFrom] at he
  | cons node rest ih =>
    intro e he
    rw [Outline.flattenFrom] at he
    rcases List.mem_append.1 he with he | he
    · exact h node List.mem_cons_self parent index e he
    · exact ih (fun n hn => h n (List.mem_cons_of_mem _ hn)) _ e he

/-- All entries of a subtree that nests lie in the text. -/
theorem lies_of_nests {node : OutlineNode} (h : node.Nests text) (parent : Option Nat)
    (index : Nat) : ∀ e ∈ node.flattenFrom parent index, Lies text e := by
  induction h generalizing parent index with
  | @intro node span name hspan hname _ _ _ ih =>
    intro e he
    obtain ⟨_, _, _, range, selection, children⟩ := node
    rw [OutlineNode.flattenFrom] at he
    rcases List.mem_cons.1 he with rfl | he
    · constructor
      · simp [hspan]
      · simp [hname]
    · exact lies_forest ih _ _ e he

/-- Where all entries lie in the text and follow their parents, the declarations are the
entries, with their parents. -/
theorem forall₂_keep {entries : List OutlineEntry} {kept : Nat}
    (hlies : ∀ e ∈ entries, Lies text e)
    (hparents : ∀ x ∈ entries.zipIdx kept, ∀ k, x.1.parent = some k → k < x.2) :
    List.Forall₂ (Lists text) entries
      (keep text entries ((List.range kept).map some) kept) := by
  induction entries generalizing kept with
  | nil => exact .nil
  | cons e rest ih =>
    rw [List.forall_mem_cons] at hlies
    rw [List.zipIdx_cons, List.forall_mem_cons] at hparents
    obtain ⟨⟨hrange, hselection⟩, hrest⟩ := hlies
    obtain ⟨span, hspan⟩ := Option.isSome_iff_exists.1 hrange
    obtain ⟨name, hname⟩ := Option.isSome_iff_exists.1 hselection
    have hmoved : (List.range kept).map some ++ [some kept] =
        (List.range (kept + 1)).map some := by
      rw [List.range_succ, List.map_append]
      rfl
    rw [keep, hspan, hname]
    dsimp only
    rw [hmoved]
    refine .cons ⟨rfl, ?_, hspan, hname⟩ (ih hrest hparents.2)
    cases hparent : e.parent with
    | none => rfl
    | some k =>
      have hk : k < kept := hparents.1 k hparent
      simp [hk]

/-! ### Chains -/

/-- Declarations from the outside to the inside, with their indices: each one is the parent of
the next one, which lies within it, and the first one has the parent `outer`. -/
inductive Inwards : Option Nat → List (Declaration × Nat) → Prop
  | nil {outer : Option Nat} : Inwards outer []
  | cons {outer : Option Nat} {c : Declaration} {index : Nat} {rest : List (Declaration × Nat)}
      (hparent : c.parent = outer) (hwithin : ∀ x ∈ rest, c.span.Covers x.1.span)
      (h : Inwards (some index) rest) : Inwards outer ((c, index) :: rest)

/-- Each declaration of a chain covers those that come after it. -/
theorem Inwards.pairwise {outer : Option Nat} {xs : List (Declaration × Nat)}
    (h : Inwards outer xs) : xs.Pairwise fun x y => x.1.span.Covers y.1.span := by
  induction h with
  | nil => exact .nil
  | cons _ hwithin _ ih => exact .cons hwithin ih

/-- A chain of declarations, read backwards, leads outwards. -/
theorem Inwards.outwards {d : Document} {outer : Option Nat} {xs : List (Declaration × Nat)}
    {way : List Nat} (h : Inwards outer xs) (hxs : ∀ x ∈ xs, d.declarations[x.2]? = some x.1)
    (hway : d.Outwards outer way) :
    d.Outwards ((xs.map (·.2)).getLast?.or outer) ((xs.map (·.2)).reverse ++ way) := by
  induction h generalizing way with
  | nil => exact hway
  | @cons outer c index rest hparent _ _ ih =>
    rw [List.forall_mem_cons] at hxs
    have hindex : d.parent? index = outer := by
      rw [parent?, hxs.1, Option.bind_some, hparent]
    have hrest := ih hxs.2 (.step (hindex ▸ hway))
    have hlast : (((c, index) :: rest).map (·.2)).getLast?.or outer =
        (rest.map (·.2)).getLast?.or (some index) := by
      rw [List.map_cons, List.getLast?_cons]
      cases (rest.map (·.2)).getLast? <;> rfl
    rw [hlast]
    simpa using hrest

/-- The declarations around a span in a list that starts at an index. -/
def aroundFrom (q : Span) (index : Nat) (declarations : List Declaration) :
    List (Declaration × Nat) :=
  (declarations.zipIdx index).filter fun (c, _) => decide (c.span.Covers q)

theorem aroundFrom_append (q : Span) (index : Nat) (xs ys : List Declaration) :
    aroundFrom q index (xs ++ ys) =
      aroundFrom q index xs ++ aroundFrom q (index + xs.length) ys := by
  rw [aroundFrom, List.zipIdx_append, List.filter_append]
  rfl

theorem covers_of_mem_aroundFrom {index : Nat} {declarations : List Declaration}
    {x : Declaration × Nat} (h : x ∈ aroundFrom q index declarations) : x.1.span.Covers q :=
  of_decide_eq_true (List.mem_filter.1 h).2

theorem exists_append_of_forall₂ {R : OutlineEntry → Declaration → Prop}
    {es fs : List OutlineEntry} {declarations : List Declaration}
    (h : List.Forall₂ R (es ++ fs) declarations) :
    ∃ xs ys, declarations = xs ++ ys ∧ List.Forall₂ R es xs ∧ List.Forall₂ R fs ys :=
  have hflip : List.Forall₂ (flip R) declarations (es ++ fs) := h.flip
  ⟨declarations.take es.length, declarations.drop es.length,
    (List.take_append_drop es.length declarations).symm,
    (List.forall₂_take_append _ _ _ hflip).flip, (List.forall₂_drop_append _ _ _ hflip).flip⟩

/-- Wherever the subtree of a node stands in an outline, the declarations in it around a span
are a chain within the node. -/
def Chains (text : Text) (q : Span) (node : OutlineNode) : Prop :=
  ∀ parent index declarations,
    List.Forall₂ (Lists text) (node.flattenFrom parent index) declarations →
      Inwards parent (aroundFrom q index declarations) ∧
        ∀ x ∈ aroundFrom q index declarations, ∃ span,
          text.span? node.range = some span ∧ span.Covers x.1.span

/-- Of nodes that share no byte at most one is around a span, so their subtrees make up one
chain if each of them does. -/
theorem inwards_forest (hq : q.start < q.stop) {nodes : List OutlineNode}
    (hnodes : ∀ node ∈ nodes, Chains text q node)
    (happart : nodes.Pairwise (OutlineNode.Apart text)) {parent : Option Nat} {index : Nat}
    {declarations : List Declaration}
    (h : List.Forall₂ (Lists text) (Outline.flattenFrom parent index nodes) declarations) :
    Inwards parent (aroundFrom q index declarations) ∧
      ∀ x ∈ aroundFrom q index declarations, ∃ node ∈ nodes, ∃ span,
        text.span? node.range = some span ∧ span.Covers x.1.span := by
  induction nodes generalizing index declarations with
  | nil =>
    rw [Outline.flattenFrom] at h
    cases h
    exact ⟨.nil, by simp [aroundFrom]⟩
  | cons node rest ih =>
    obtain ⟨hapart, happart⟩ := List.pairwise_cons.1 happart
    rw [List.forall_mem_cons] at hnodes
    rw [Outline.flattenFrom] at h
    obtain ⟨xs, ys, rfl, hxs, hys⟩ := exists_append_of_forall₂ h
    rw [hxs.length_eq] at hys
    obtain ⟨hnode, hwithin⟩ := hnodes.1 parent index xs hxs
    obtain ⟨hrest, hwithins⟩ := ih hnodes.2 happart hys
    rw [aroundFrom_append]
    have hmem : ∀ x ∈ aroundFrom q index xs ++ aroundFrom q (index + xs.length) ys,
        ∃ n ∈ node :: rest, ∃ span, text.span? n.range = some span ∧ span.Covers x.1.span := by
      intro x hx
      rcases List.mem_append.1 hx with hx | hx
      · exact ⟨node, List.mem_cons_self, hwithin x hx⟩
      · obtain ⟨n, hn, hspan⟩ := hwithins x hx
        exact ⟨n, List.mem_cons_of_mem _ hn, hspan⟩
    refine ⟨?_, hmem⟩
    -- the subtree of the first node is around the span, or one of the others, but not both
    cases hfirst : aroundFrom q index xs with
    | nil => exact hrest
    | cons x _ =>
      cases hothers : aroundFrom q (index + xs.length) ys with
      | nil =>
        rw [List.append_nil, ← hfirst]
        exact hnode
      | cons y _ =>
        have hx : x ∈ aroundFrom q index xs := by simp [hfirst]
        have hy : y ∈ aroundFrom q (index + xs.length) ys := by simp [hothers]
        obtain ⟨s, hs, hsx⟩ := hwithin x hx
        obtain ⟨n, hn, t, ht, hty⟩ := hwithins y hy
        exact absurd (hty.trans (covers_of_mem_aroundFrom hy))
          ((hapart n hn s t hs ht).not_covers hq (hsx.trans (covers_of_mem_aroundFrom hx)))

/-- **The declarations of a subtree around a span are a chain.** -/
theorem chains_of_nests (hq : q.start < q.stop) {node : OutlineNode} (h : node.Nests text) :
    Chains text q node := by
  induction h with
  | @intro node span name hspan hname hwithin happart _ ih =>
    intro parent index declarations h
    obtain ⟨_, _, _, range, selection, children⟩ := node
    rw [OutlineNode.flattenFrom] at h
    cases h with
    | @cons _ c _ rest hc hrest =>
      obtain ⟨hchildren, hwithins⟩ := inwards_forest hq ih happart hrest
      obtain ⟨hentry, hparent, hdeclared, -⟩ := hc
      have hcspan : c.span = span := by
        rw [hentry] at hdeclared
        exact Option.some.inj (hdeclared.symm.trans hspan)
      have hinner : ∀ x ∈ aroundFrom q (index + 1) rest, c.span.Covers x.1.span := by
        intro x hx
        obtain ⟨child, hchild, inner, hinner, hcovers⟩ := hwithins x hx
        rw [hcspan]
        exact (hwithin child hchild inner hinner).trans hcovers
      by_cases hcovers : c.span.Covers q
      · have haround : aroundFrom q index (c :: rest) =
            (c, index) :: aroundFrom q (index + 1) rest := by
          simp [aroundFrom, hcovers]
        rw [haround]
        refine ⟨.cons hparent hinner hchildren, List.forall_mem_cons.2 ⟨?_, fun x hx => ?_⟩⟩
        · exact ⟨span, hspan, hcspan ▸ ⟨Nat.le_refl _, Nat.le_refl _⟩⟩
        · exact ⟨span, hspan, hcspan ▸ hinner x hx⟩
      · -- what is around the span within a child is around it here
        have hnone : aroundFrom q (index + 1) rest = [] := by
          rw [List.eq_nil_iff_forall_not_mem]
          intro x hx
          exact hcovers ((hinner x hx).trans (covers_of_mem_aroundFrom hx))
        have haround : aroundFrom q index (c :: rest) = [] := by
          rw [← hnone]
          simp [aroundFrom, hcovers]
        rw [haround]
        exact ⟨.nil, by simp⟩

/-! ### Documents -/

/-- A forest with a child has an entry with a parent. -/
theorem exists_parent_of_child {node : OutlineNode} (hnode : node ∈ outline)
    (hchild : node.children ≠ []) (parent : Option Nat) (index : Nat) :
    ∃ e ∈ Outline.flattenFrom parent index outline, e.parent.isSome = true := by
  induction outline generalizing index with
  | nil => cases hnode
  | cons first rest ih =>
    rw [Outline.flattenFrom]
    rcases List.mem_cons.1 hnode with rfl | hnode
    · obtain ⟨_, _, _, _, _, children⟩ := node
      obtain ⟨child, others, rfl⟩ := List.exists_cons_of_ne_nil hchild
      obtain ⟨_, _, _, _, _, _⟩ := child
      rw [OutlineNode.flattenFrom, Outline.flattenFrom, OutlineNode.flattenFrom]
      exact ⟨_, List.mem_append_left _ (List.mem_cons_of_mem _ List.mem_cons_self), rfl⟩
    · obtain ⟨e, he, hparent⟩ := ih hnode _
      exact ⟨e, List.mem_append_right _ he, hparent⟩

/-- A forest with a child keeps its own hierarchy. -/
theorem declarations_of_child (p : Path) (text : Text)
    (hchild : ∃ node ∈ outline, node.children ≠ []) :
    (ofOutline p text outline).declarations = keep text outline.flatten [] 0 := by
  obtain ⟨node, hnode, hchild⟩ := hchild
  have hany : (outline.flatten.any fun e => e.parent.isSome) = true :=
    List.any_eq_true.2 (exists_parent_of_child hnode hchild none 0)
  unfold ofOutline
  dsimp only
  rw [if_pos hany]

/-- **The declarations around a span of a document with a hierarchy are a chain.** -/
theorem inwards_around (p : Path) (hnests : outline.Nests text)
    (hchild : ∃ node ∈ outline, node.children ≠ []) (hq : q.start < q.stop) :
    Inwards none ((ofOutline p text outline).around q) := by
  have hkeep : List.Forall₂ (Lists text) outline.flatten (keep text outline.flatten [] 0) := by
    show List.Forall₂ _ _ (keep text outline.flatten ((List.range 0).map some) 0)
    refine forall₂_keep (fun e he => ?_) fun x hx k hk => ?_
    · exact lies_forest (fun node hnode => lies_of_nests (hnests.nodes node hnode)) none 0 e he
    · rcases precede_forest none 0 outline x hx with hnone | ⟨m, hm, hlt⟩
      · rw [hnone] at hk
        cases hk
      · rw [hm] at hk
        obtain rfl := Option.some.inj hk
        exact hlt
  rw [around, declarations_of_child p text hchild]
  exact (inwards_forest hq (fun node hnode => chains_of_nests hq (hnests.nodes node hnode))
    hnests.apart hkeep).1

/-- A document's own hierarchy leads from the smallest declaration around a span through all
declarations around it, from the inside to the outside, and the first method there is the smallest
method around it. -/
theorem exists_outwards_of_inwards {d : Document} (h : Inwards none (d.around q)) :
    ∃ way, d.Outwards (d.covering? q false) way ∧ way.Nodup ∧
      (∀ index, index ∈ way ↔ d.IsAround q index) ∧ way.Pairwise d.IsInside ∧
      way.find? d.isMethod = d.covering? q true := by
  refine ⟨((d.around q).map (·.2)).reverse, ?_, ?_, fun index => ?_, ?_, ?_⟩
  · have hway := h.outwards (fun x hx => (mem_around.1 hx).1) .done
    rwa [Option.or_none, List.append_nil, ← covering?_false_of_pairwise h.pairwise] at hway
  · rw [List.Nodup, List.pairwise_reverse, List.pairwise_map]
    exact pairwise_around.imp Nat.ne_of_gt
  · rw [List.mem_reverse, isAround_iff]
  · rw [List.pairwise_reverse, List.pairwise_map]
    refine (h.pairwise.and pairwise_around).imp_of_mem fun {x y} hx hy hxy => ?_
    exact ⟨y.1, x.1, (mem_around.1 hy).1, (mem_around.1 hx).1, hxy.1, fun _ => hxy.2⟩
  · exact (covering?_true_of_pairwise h.pairwise).symm

end Document

end CallerClosure
