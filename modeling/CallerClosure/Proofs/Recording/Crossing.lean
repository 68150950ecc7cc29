import CallerClosure.Proofs.Program.OpenSpans
import CallerClosure.Proofs.Recording.Answers
import CallerClosure.Proofs.Recording.Containing
import Mathlib

/-!
# The method around a place when spans cross

Declarations and uses may lie across each other. The nodes around a place then need not form a
chain, and the way outwards from the smallest of them passes some of them by.

* `Recording.way` is the way outwards from a node. Each node on it covers those before it, and
  `Recording.mem_way` says which nodes are on it;
* `Recording.Innermost` says what is known of the smallest node around a span;
* `Recording.NestedAround` is what keeps a method on the way: it holds the smallest declaration or
  use around the span, and what starts between the two does not reach over its end.
  `Recording.nestedAround_of_forall` says that this is so if of the method and anything else
  around the span one covers the other;
* `containing_of_nested_method` is the main statement, and `method_passed_by_crossing` the
  example that shows why the method has to be nested.
-/

namespace CallerClosure

open Nesting (Linked IsTower stackAfter)

namespace Recording

variable {r : Recording} {document : Path} {text : Text} {span : Span}

/-! ### The way outwards from a node -/

/-- A node of a document as a span with an index. -/
def indexed (n : RecordedNode × Nat) : IndexedSpan := ⟨n.2, n.1.span⟩

/-- Linked spans of a document are a way outwards. -/
theorem outwards_of_linked {σ : Type} (hd : (document, text) ∈ r.documents)
    {stack : List IndexedSpan} (h : Linked (RecordedNode.parentsIn r.nodes document) stack)
    (s : σ) :
    (r.freeze.program : Program σ Nat).Outwards s (stack.head?.map (·.index))
      (stack.map (·.index)) := by
  induction stack with
  | nil => exact .done
  | cons top below ih =>
    refine .step ?_
    have hparent : (r.freeze.program : Program σ Nat).parent top.index s =
        below.head?.map (·.index) := parent?_freeze hd (h [] top below rfl)
    rw [hparent]
    exact ih (h.of_suffix (List.suffix_cons _ _))

/-- The way outwards from a node that is listed after some others. -/
def way (left : List (RecordedNode × Nat)) (c : RecordedNode × Nat) : List IndexedSpan :=
  stackAfter [] ((left ++ [c]).map indexed)

section Way

variable {left right : List (RecordedNode × Nat)} {c : RecordedNode × Nat}

theorem way_eq_cons (left : List (RecordedNode × Nat)) (c : RecordedNode × Nat) :
    ∃ outer, way left c = indexed c :: outer := by
  rw [way, List.map_append]
  exact ⟨_, Nesting.stackAfter_concat _ _ _⟩

/-- Each node on the way covers those before it. -/
theorem isTower_way (left : List (RecordedNode × Nat)) (c : RecordedNode × Nat) :
    IsTower (way left c) :=
  Nesting.isTower_stackAfter .nil

theorem way_sublist (left : List (RecordedNode × Nat)) (c : RecordedNode × Nat) :
    (way left c).Sublist ((left ++ [c]).map indexed).reverse := by
  have h : (way left c).Sublist (((left ++ [c]).map indexed).reverse ++ []) :=
    Nesting.stackAfter_sublist
  rwa [List.append_nil] at h

/-- The way goes through nodes that are listed before its start. -/
theorem exists_of_mem_way {t : IndexedSpan} (h : t ∈ way left c) :
    ∃ n ∈ left ++ [c], indexed n = t := by
  have hmem := (way_sublist left c).subset h
  rw [List.mem_reverse] at hmem
  exact List.mem_map.1 hmem

/-- A node stays on the way if it covers all that is listed after it. -/
theorem mem_way {outer inner : List (RecordedNode × Nat)} {m : RecordedNode × Nat}
    (hcovers : ∀ n ∈ inner ++ [c], m.1.span.Covers n.1.span) :
    indexed m ∈ way (outer ++ m :: inner) c := by
  have hsplit : (outer ++ m :: inner ++ [c]).map indexed =
      (outer ++ [m]).map indexed ++ (inner ++ [c]).map indexed := by
    simp
  rw [way, hsplit, Nesting.stackAfter_append]
  refine Nesting.mem_stackAfter (isTower_way outer m) ?_ ?_
  · obtain ⟨rest, hrest⟩ := way_eq_cons outer m
    rw [hrest]
    exact List.mem_cons_self
  · intro s hs
    obtain ⟨n, hn, rfl⟩ := List.mem_map.1 hs
    exact hcovers n hn

variable (hsplit : RecordedNode.ofDocument r.nodes document = left ++ c :: right)

include hsplit

/-- The way goes through nodes of the document. -/
theorem exists_node_of_mem_way {t : IndexedSpan} (ht : t ∈ way left c) :
    ∃ v, r.nodes[t.index]? = some v ∧ v.document.Same document ∧ v.span = t.span := by
  obtain ⟨m, hm, rfl⟩ := exists_of_mem_way ht
  have hmem : m ∈ RecordedNode.ofDocument r.nodes document := by
    rw [hsplit]
    simp only [List.mem_append, List.mem_cons, List.not_mem_nil, or_false] at hm ⊢
    exact hm.imp_right .inl
  obtain ⟨hnode, hsame⟩ := RecordedNode.mem_ofDocument.1 hmem
  exact ⟨m.1, hnode, hsame, rfl⟩

/-- It has at most as many nodes as the document. -/
theorem length_way_le_nodesOf : (way left c).length ≤ (r.freeze.nodesOf document).length := by
  have hway := (way_sublist left c).length_le
  show _ ≤ (RecordedNode.ofDocument r.nodes document).length
  rw [hsplit]
  simp only [List.length_reverse, List.length_map, List.length_append, List.length_cons,
    List.length_nil] at hway ⊢
  omega

theorem length_way_le : (way left c).length ≤ r.nodes.length := by
  refine Nat.le_trans (length_way_le_nodesOf hsplit) ?_
  show (RecordedNode.ofDocument r.nodes document).length ≤ _
  rw [RecordedNode.ofDocument, List.length_mergeSort]
  exact Nat.le_trans (List.length_filter_le _ _) (by simp)

/-- **Parents lead along the way.** -/
theorem outwards_way {σ : Type} (ht : textOf? r.documents document = some text) (s : σ) :
    (r.freeze.program : Program σ Nat).Outwards s (some c.2) ((way left c).map (·.index)) := by
  obtain ⟨path, hd, hsame⟩ := exists_of_textOf? ht
  have hspans : (RecordedNode.ofDocument r.nodes document).map indexed =
      (left ++ [c]).map indexed ++ right.map indexed := by
    rw [hsplit]
    simp
  have hlinks : Nesting.parentsFrom [] ((left ++ [c]).map indexed) ⊆
      RecordedNode.parentsIn r.nodes path := by
    have hpass : RecordedNode.parentsIn r.nodes document =
        Nesting.parentsFrom [] ((RecordedNode.ofDocument r.nodes document).map indexed) := rfl
    rw [RecordedNode.parentsIn_congr hsame, hpass, hspans, Nesting.parentsFrom_append]
    exact List.subset_append_left _ _
  have hlinked : Linked (RecordedNode.parentsIn r.nodes path) (way left c) :=
    Nesting.linked_stackAfter (fun _ _ _ h => by simp at h) hlinks
  obtain ⟨outer, houter⟩ := way_eq_cons left c
  have hway := outwards_of_linked hd hlinked s
  rwa [houter] at hway ⊢

end Way

/-! ### The smallest node around a span -/

/-- The nodes of a document, split at the smallest one around a span. A node after it that is
around the span as well is longer. -/
structure Innermost (r : Recording) (document : Path) (span : Span)
    (left : List (RecordedNode × Nat)) (c : RecordedNode × Nat)
    (right : List (RecordedNode × Nat)) : Prop where
  split : RecordedNode.ofDocument r.nodes document = left ++ c :: right
  covers : c.1.span.Covers span
  shortest : ∀ n ∈ left, n.1.span.Covers span → c.1.span.length ≤ n.1.span.length
  longer : ∀ n ∈ right, n.1.span.Covers span → c.1.span.length < n.1.span.length
  smallest : r.freeze.smallestCovering? document span = some c.2

theorem exists_innermost (ht : textOf? r.documents document = some text)
    (hstop : span.stop ≤ text.size) : ∃ left c right, r.Innermost document span left c right := by
  obtain ⟨n, -, hsmallest, -⟩ := exists_covering ht hstop
  obtain ⟨c, hleast, rfl⟩ := Option.map_eq_some_iff.1 hsmallest
  obtain ⟨before, after, hsplit, hbefore, hafter⟩ := split_of_leastLast? hleast
  -- undo the selection of the nodes around the span
  obtain ⟨left, rest, hnodes, hleft, hrest⟩ := List.filter_eq_append_iff.1 hsplit
  obtain ⟨skipped, right, rfl, hskipped, hcovers, hright⟩ := List.filter_eq_cons_iff.1 hrest
  refine ⟨left ++ skipped, c, right, ?_, of_decide_eq_true hcovers, ?_, ?_, hsmallest⟩
  · rw [List.append_assoc]
    exact hnodes
  · intro n hn hspan
    rcases List.mem_append.1 hn with hn | hn
    · apply hbefore
      rw [← hleft]
      exact List.mem_filter.2 ⟨hn, decide_eq_true hspan⟩
    · exact absurd (decide_eq_true hspan) (hskipped n hn)
  · intro n hn hspan
    apply hafter
    rw [← hright]
    exact List.mem_filter.2 ⟨hn, decide_eq_true hspan⟩

/-- A declaration or use is the smallest one around a place: the shortest, and the last of
these. -/
def SmallestAround (r : Recording) (document : Path) (span s : Span) : Prop :=
  s.Covers span ∧ ∀ other ∈ r.spansIn document, other.Covers span →
    s.length < other.length ∨ s.length = other.length ∧ other.start ≤ s.start

instance (r : Recording) (document : Path) (span s : Span) :
    Decidable (r.SmallestAround document span s) :=
  inferInstanceAs (Decidable (_ ∧ ∀ other ∈ r.spansIn document, _))

/-- A span holds the smallest declaration or use around a place, and what starts between the two
does not reach over its end. -/
def NestedAround (r : Recording) (document : Path) (span s : Span) : Prop :=
  ∀ smallest ∈ r.spansIn document, r.SmallestAround document span smallest →
    s.Covers smallest ∧ ∀ other ∈ r.spansIn document,
      s.start < other.start → other.start ≤ smallest.start → other.stop ≤ s.stop

instance (r : Recording) (document : Path) (span s : Span) :
    Decidable (r.NestedAround document span s) :=
  inferInstanceAs (Decidable (∀ smallest ∈ r.spansIn document, _ → _ ∧
    ∀ other ∈ r.spansIn document, _))

/-- It is enough that of the span and any declaration or use around the place one covers the
other. -/
theorem nestedAround_of_forall {s : Span} (hs : s ∈ r.spansIn document)
    (hordered : s.start ≤ s.stop) (hcovers : s.Covers span)
    (h : ∀ other ∈ r.spansIn document, other.Covers span → other.Covers s ∨ s.Covers other) :
    r.NestedAround document span s := by
  intro smallest hmem ⟨hsmallest, hleast⟩
  have hinner := h smallest hmem hsmallest
  have hlength := hleast s hs hcovers
  unfold Span.Covers Span.length at *
  refine ⟨by omega, fun other hother hstart hbetween => ?_⟩
  by_contra hstop
  have hcrossing := h other hother (by omega)
  omega

/-- Every declaration and every use in a document is a node of it. -/
theorem exists_node_of_mem_spansIn {s : Span} (hs : s ∈ r.spansIn document) :
    ∃ n ∈ RecordedNode.ofDocument r.nodes document, n.1.span = s := by
  obtain ⟨v, hv, hsame, rfl⟩ : ∃ v ∈ r.nodes, v.document.Same document ∧ v.span = s := by
    simp only [spansIn, List.mem_append, List.mem_map, List.mem_filter, decide_eq_true_eq] at hs
    rcases hs with ⟨d, ⟨hd, hsame⟩, rfl⟩ | ⟨u, ⟨hu, hsame⟩, rfl⟩
    · refine ⟨⟨d.document, d.span, .declaration d.symbol.id⟩, ?_, hsame, rfl⟩
      exact List.mem_append_left _ (List.mem_append_right _ (List.mem_map_of_mem hd))
    · refine ⟨⟨u.document, u.span, .use u.target⟩, ?_, hsame, rfl⟩
      exact List.mem_append_right _ (List.mem_map_of_mem hu)
  obtain ⟨i, hi⟩ := List.getElem?_of_mem hv
  exact ⟨(v, i), RecordedNode.mem_ofDocument.2 ⟨hi, hsame⟩, rfl⟩

/-- A node covers what is listed after it, starts no later than a third one that it covers, and
does not reach over its end. -/
theorem covers_of_isOutside {m x : RecordedNode × Nat} (hbefore : RecordedNode.isOutside m x = true)
    (hcross : m.1.span.start < x.1.span.start → x.1.span.stop ≤ m.1.span.stop) :
    m.1.span.Covers x.1.span := by
  rw [RecordedNode.isOutside_iff] at hbefore
  unfold Span.Covers
  omega

/-- **A node that holds the smallest one around a span, with nothing between the two that reaches
over its end, is on the way.** -/
theorem Innermost.mem_way {left right : List (RecordedNode × Nat)} {c m : RecordedNode × Nat}
    (h : r.Innermost document span left c right)
    (hm : m ∈ RecordedNode.ofDocument r.nodes document) (hcovers : m.1.span.Covers c.1.span)
    (hcross : ∀ n ∈ RecordedNode.ofDocument r.nodes document,
      m.1.span.start < n.1.span.start → n.1.span.start ≤ c.1.span.start →
        n.1.span.stop ≤ m.1.span.stop) :
    indexed m ∈ way left c := by
  have horder := RecordedNode.pairwise_ofDocument r.nodes document
  rw [h.split] at hm hcross horder
  have hleft := (List.pairwise_append.1 horder).2.2
  rcases List.mem_append.1 hm with hm | hm
  · -- nothing between `m` and the smallest node reaches over the end of `m`
    obtain ⟨outer, inner, rfl⟩ := List.append_of_mem hm
    apply Recording.mem_way
    intro n hn
    have hinner := (List.pairwise_cons.1 (List.pairwise_append.1
      (List.pairwise_append.1 horder).1).2.1).1
    rcases List.mem_append.1 hn with hn | hn
    · have hmem : n ∈ outer ++ m :: inner := by simp [hn]
      have hnc := hleft n hmem c List.mem_cons_self
      rw [RecordedNode.isOutside_iff] at hnc
      exact covers_of_isOutside (hinner n hn) fun hstart =>
        hcross n (List.mem_append_left _ hmem) hstart (by omega)
    · obtain rfl := List.mem_singleton.1 hn
      exact hcovers
  · obtain ⟨outer, houter⟩ := way_eq_cons left c
    rw [houter]
    rcases List.mem_cons.1 hm with rfl | hm
    · exact List.mem_cons_self
    · -- a node after the smallest one is longer, so that it does not cover it
      have hlonger := h.longer m hm (hcovers.trans h.covers)
      have hafter := (List.pairwise_cons.1 (List.pairwise_append.1 horder).2.1).1 m hm
      rw [RecordedNode.isOutside_iff] at hafter
      unfold Span.length at hlonger
      unfold Span.Covers at hcovers
      omega

namespace Innermost

variable {left right : List (RecordedNode × Nat)} {c : RecordedNode × Nat}
  (h : r.Innermost document span left c right)

include h

/-- All nodes on the way lie around the span. -/
theorem mem_around {t : IndexedSpan} (ht : t ∈ way left c) :
    t.index ∈ r.around document span := by
  obtain ⟨v, hnode, hsame, hspan⟩ := exists_node_of_mem_way h.split ht
  refine Recording.mem_around.2 ⟨v, hnode, hsame, ?_⟩
  rw [hspan]
  obtain ⟨outer, houter⟩ := way_eq_cons left c
  have htower := isTower_way left c
  rw [houter] at ht htower
  rcases List.mem_cons.1 ht with rfl | ht
  · exact h.covers
  · exact ((List.pairwise_cons.1 htower).1 t ht).trans h.covers

/-- The declaration around the span is the first method on the way. -/
theorem containing_eq (ht : textOf? r.documents document = some text)
    (hstop : span.stop ≤ text.size) :
    r.freeze.containing ⟨document, span⟩ =
      .ok (((way left c).map (·.index)).findSome? r.freeze.method?) := by
  have htext : r.freeze.text? document = some text := ht
  have hway := outwards_way h.split ht ()
  rw [← h.smallest] at hway
  rw [RecordedProgram.containing, RecordedProgram.checkBounds_eq_ok htext hstop]
  refine congrArg Except.ok (RecordedProgram.enclosingMethod?_of_outwards hway ?_)
  rw [List.length_map]
  exact Nat.le_succ_of_le (length_way_le h.split)

/-- What is found on the way is a method around the span. -/
theorem exists_method (hv : r.Valid) {m : Symbol}
    (hm : ((way left c).map (·.index)).findSome? r.freeze.method? = some m) :
    ∃ i d, r.MethodAround document span i d ∧ d.symbol = m := by
  obtain ⟨n, hn, hmethod⟩ := List.exists_of_findSome?_eq_some hm
  obtain ⟨t, ht, rfl⟩ := List.mem_map.1 hn
  obtain ⟨i, d, hd, -, hdm⟩ := (mem_around_and_method? hv).1 ⟨h.mem_around ht, hmethod⟩
  exact ⟨i, d, hd, hdm⟩

/-- The span of the smallest node is that of the smallest declaration or use, if there is one. -/
theorem smallestAround (hr : r.Regular) (hv : r.Valid)
    (ht : textOf? r.documents document = some text) {s : Span} (hs : s ∈ r.spansIn document)
    (hspan : s.Covers span) :
    c.1.span ∈ r.spansIn document ∧ r.SmallestAround document span c.1.span := by
  have horder := RecordedNode.pairwise_ofDocument r.nodes document
  rw [h.split] at horder
  have hleast : ∀ n ∈ RecordedNode.ofDocument r.nodes document, n.1.span.Covers span →
      c.1.span.length < n.1.span.length ∨
        c.1.span.length = n.1.span.length ∧ n.1.span.start ≤ c.1.span.start := by
    intro n hn hcovers
    rw [h.split] at hn
    rcases List.mem_append.1 hn with hn | hn
    · have hbefore := (List.pairwise_append.1 horder).2.2 n hn c List.mem_cons_self
      have hshortest := h.shortest n hn hcovers
      rw [RecordedNode.isOutside_iff] at hbefore
      omega
    · rcases List.mem_cons.1 hn with rfl | hn
      · exact .inr ⟨rfl, Nat.le_refl _⟩
      · exact .inl (h.longer n hn hcovers)
  refine ⟨?_, h.covers, fun other hother hcovers => ?_⟩
  · -- if the smallest node is the root, `s` is the whole document too
    obtain ⟨n, hn, rfl⟩ := exists_node_of_mem_spansIn hs
    obtain ⟨hnode, hsame⟩ := RecordedNode.mem_ofDocument.1 hn
    have hc : c ∈ RecordedNode.ofDocument r.nodes document := by
      rw [h.split]
      simp
    obtain ⟨hcnode, hcsame⟩ := RecordedNode.mem_ofDocument.1 hc
    have hbounds := ordered_of_mem_nodes hr hv ht (List.mem_of_getElem? hnode) hsame
    rcases root_or_mem_spansIn hr hv ht (List.mem_of_getElem? hcnode) hcsame with
      ⟨-, hroot⟩ | ⟨hmem, -⟩
    · have hlength := hleast n hn hspan
      have hcovers : c.1.span.Covers n.1.span := by
        rw [hroot]
        exact ⟨Nat.zero_le _, hbounds.2⟩
      have hle := hcovers.length_le
      rw [hcovers.eq_of_length_eq hbounds.1 (by omega)]
      exact hs
    · exact hmem
  · obtain ⟨n, hn, rfl⟩ := exists_node_of_mem_spansIn hother
    exact hleast n hn hcovers

/-- What is nested around the span is on the way. -/
theorem mem_way_of_nestedAround (hr : r.Regular) (hv : r.Valid)
    (ht : textOf? r.documents document = some text) {m : RecordedNode × Nat}
    (hm : m ∈ RecordedNode.ofDocument r.nodes document) (hspan : m.1.span ∈ r.spansIn document)
    (hcovers : m.1.span.Covers span) (hnested : r.NestedAround document span m.1.span) :
    indexed m ∈ way left c := by
  obtain ⟨hmem, hsmallest⟩ := h.smallestAround hr hv ht hspan hcovers
  obtain ⟨hinner, hcross⟩ := hnested c.1.span hmem hsmallest
  refine h.mem_way hm hinner fun n hn hstart hbetween => ?_
  obtain ⟨hnode, hsame⟩ := RecordedNode.mem_ofDocument.1 hn
  rcases root_or_mem_spansIn hr hv ht (List.mem_of_getElem? hnode) hsame with
    ⟨-, hroot⟩ | ⟨hother, -⟩
  · rw [hroot] at hstart
    exact absurd hstart (Nat.not_lt_zero _)
  · exact hcross _ hother hstart hbetween

/-- A method that is nested around the span is found, or one inside it is. -/
theorem exists_method_of_nested (hr : r.Regular) (hv : r.Valid)
    (ht : textOf? r.documents document = some text) {i : Nat} {d : RecordedDeclaration}
    (hd : r.MethodAround document span i d) (hnested : r.NestedAround document span d.span) :
    ∃ j e, ((way left c).map (·.index)).findSome? r.freeze.method? = some e.symbol ∧
      r.MethodAround document span j e ∧ d.span.Covers e.span := by
  have hnode := getElem?_declarationNode hd.1
  have hspan : d.span ∈ r.spansIn document := by
    refine List.mem_append_left _ (List.mem_map_of_mem (List.mem_filter.2 ⟨?_, ?_⟩))
    · exact List.mem_of_getElem? hd.1
    · exact decide_eq_true hd.2.1
  have hmem := h.mem_way_of_nestedAround hr hv ht (RecordedNode.mem_ofDocument.2 ⟨hnode, hd.2.1⟩)
    hspan hd.2.2.1 hnested
  obtain ⟨-, hmethod⟩ := (mem_around_and_method? hv).2 ⟨i, d, hd, rfl, rfl⟩
  have hsome : r.freeze.method? (r.declarationNode i) ≠ none := by simp [hmethod]
  obtain ⟨t, ht, m, hm, hfind, hcovers⟩ :=
    Nesting.exists_findSome?_of_mem (isTower_way left c) hmem hsome
  obtain ⟨j, e, he, hj, rfl⟩ := (mem_around_and_method? hv).1 ⟨h.mem_around ht, hm⟩
  -- the span of `e` is the one on the way
  obtain ⟨v, hv', -, hspan⟩ := exists_node_of_mem_way h.split ht
  rw [← hj, getElem?_declarationNode he.1] at hv'
  obtain rfl := Option.some.inj hv'
  refine ⟨j, e, hfind, he, ?_⟩
  show d.span.Covers (⟨e.document, e.span, .declaration e.symbol.id⟩ : RecordedNode).span
  rw [hspan]
  exact hcovers

end Innermost

end Recording

/-! ### The main statement -/

open Recording in
/-- **The method around a place, whatever crosses what.** In a document of a program that passes
its checks, a place has a declaration around it or none. If there is one, it is a method around
the place. If some method around the place is nested there, which is to say that it holds the
smallest declaration or use around the place and nothing that starts between the two reaches over
its end, then there is one, and it lies within that method. -/
theorem containing_of_nested_method {σ : Type} {steps : List RecordingStep} {r : RecordedProgram}
    {document : Path} {text : Text} {span : Span} (hbuild : (ofSteps steps).build = .ok r)
    (htext : r.text? document = some text) (hstop : span.stop ≤ text.size) (s : σ) :
    ∃ answer,
      ((r.program : Program σ Nat).containingDeclaration ⟨document, span⟩).ask s =
        (.ok answer, s) ∧
      (∀ m, answer = some m →
        ∃ i d, (ofSteps steps).MethodAround document span i d ∧ d.symbol = m) ∧
      ∀ i d, (ofSteps steps).MethodAround document span i d →
        (ofSteps steps).NestedAround document span d.span →
        ∃ j e, answer = some e.symbol ∧ (ofSteps steps).MethodAround document span j e ∧
          d.span.Covers e.span := by
  obtain ⟨hvalid, rfl⟩ := build_eq_ok_iff.1 hbuild
  obtain ⟨left, c, right, h⟩ := exists_innermost htext hstop
  exact ⟨_, congrArg (·, s) (h.containing_eq htext hstop), fun m => h.exists_method hvalid,
    fun i d => h.exists_method_of_nested (regular_ofSteps steps) hvalid htext⟩

namespace Recording

/-- A method with two classes in it that lie across each other. -/
def crossingInside : Recording :=
  .ofSteps [.document ⟨"a"⟩ "m[j(k)n]".toList, .declare ⟨"a"⟩ "m" .method ⟨0, 8⟩,
    .declare ⟨"a"⟩ "j" .«class» ⟨1, 5⟩, .declare ⟨"a"⟩ "k" .«class» ⟨4, 7⟩]

/-- A class and a method that lie across each other, the method being shorter. -/
def crossingLonger : Recording :=
  .ofSteps [.document ⟨"a"⟩ "k[m(n])".toList, .declare ⟨"a"⟩ "k" .«class» ⟨0, 6⟩,
    .declare ⟨"a"⟩ "m" .method ⟨2, 7⟩]

/-- A method and a class that lie across each other. -/
def crossing : Recording :=
  .ofSteps [.document ⟨"a"⟩ "m[k(n])".toList, .declare ⟨"a"⟩ "m" .method ⟨0, 6⟩,
    .declare ⟨"a"⟩ "k" .«class» ⟨2, 7⟩]

end Recording

open Recording in
theorem containing_of_nested_method_crossingInside :
    (crossingInside.build = .ok crossingInside.freeze ∧
      crossingInside.freeze.text? ⟨"a"⟩ = some "m[j(k)n]".toList ∧
      ¬ (⟨1, 5⟩ : Span).Nested ⟨4, 7⟩ ∧
      (crossingInside.freeze.program.containingDeclaration ⟨⟨"a"⟩, ⟨4, 5⟩⟩).ask () =
        (.ok (some ⟨"a#0", "m", .method, [.source ⟨"a"⟩ ⟨0, 8⟩ 0]⟩), ())) ∧
    crossingLonger.build = .ok crossingLonger.freeze ∧
      crossingLonger.freeze.text? ⟨"a"⟩ = some "k[m(n])".toList ∧
      (crossingLonger.freeze.program.containingDeclaration ⟨⟨"a"⟩, ⟨4, 5⟩⟩).ask () =
        (.ok (some ⟨"a#2", "m", .method, [.source ⟨"a"⟩ ⟨2, 7⟩ 2]⟩), ()) := by
  have hbuild : crossingInside.build = .ok crossingInside.freeze := rfl
  have htext : crossingInside.freeze.text? ⟨"a"⟩ = some "m[j(k)n]".toList := rfl
  have hstop : (⟨4, 5⟩ : Span).stop ≤ Text.size "m[j(k)n]".toList := by decide
  have hbuild' : crossingLonger.build = .ok crossingLonger.freeze := rfl
  have htext' : crossingLonger.freeze.text? ⟨"a"⟩ = some "k[m(n])".toList := rfl
  have hstop' : (⟨4, 5⟩ : Span).stop ≤ Text.size "k[m(n])".toList := by decide
  refine ⟨⟨hbuild, htext, by decide, ?_⟩, hbuild', htext', ?_⟩
  · obtain ⟨answer, hask, -, hmethod⟩ := containing_of_nested_method hbuild htext hstop ()
    obtain ⟨j, e, rfl, ⟨he, -, -, hlike⟩, -⟩ :=
      hmethod 0 _ ⟨rfl, rfl, by decide, rfl⟩ (by decide +kernel)
    rw [hask]
    match j with
    | 0 =>
      obtain rfl := Option.some.inj he
      rfl
    | 1 =>
      obtain rfl := Option.some.inj he
      cases hlike
    | 2 =>
      obtain rfl := Option.some.inj he
      cases hlike
    | j + 3 => cases he
  · obtain ⟨answer, hask, -, hmethod⟩ := containing_of_nested_method hbuild' htext' hstop' ()
    obtain ⟨j, e, rfl, ⟨he, -, -, hlike⟩, -⟩ :=
      hmethod 1 _ ⟨rfl, rfl, by decide, rfl⟩ (by decide +kernel)
    rw [hask]
    match j with
    | 0 =>
      obtain rfl := Option.some.inj he
      cases hlike
    | 1 =>
      obtain rfl := Option.some.inj he
      rfl
    | j + 2 => cases he

open Recording in
/-- A class across the end of a method is passed by, and the method with it: around the class
there is the document only.

The parent of a node need not be the smallest node around it, either. In a document with a method
at `[1, 6)`, a class at `[2, 8)` and a use at `[4, 5)` the parent of the use is the class, though the
method is shorter: the pass over the nodes has left the method behind when it comes to the use.
`NestedAround` leaves such places out. -/
theorem method_passed_by_crossing :
    ¬ ∀ (steps : List RecordingStep) (r : RecordedProgram) (document : Path) (text : Text)
        (span : Span), (ofSteps steps).build = .ok r → r.text? document = some text →
      span.start ≤ span.stop → span.stop ≤ text.size →
      (∃ i d, (ofSteps steps).MethodAround document span i d) →
      ∃ j e, (r.program.containingDeclaration ⟨document, span⟩).ask () =
          (.ok (some e.symbol), ()) ∧
        (ofSteps steps).MethodAround document span j e := by
  intro h
  have hbuild : Recording.crossing.build = .ok Recording.crossing.freeze := rfl
  have htext : Recording.crossing.freeze.text? ⟨"a"⟩ = some "m[k(n])".toList := rfl
  obtain ⟨j, e, hask, -⟩ := h _ _ ⟨"a"⟩ _ ⟨4, 5⟩ hbuild htext (by decide) (by decide)
    ⟨0, _, rfl, rfl, by decide, rfl⟩
  have hnone : (Recording.crossing.freeze.program.containingDeclaration ⟨⟨"a"⟩, ⟨4, 5⟩⟩).ask () =
      (.ok none, ()) := by
    cbv
  rw [hnone] at hask
  cases hask

end CallerClosure
