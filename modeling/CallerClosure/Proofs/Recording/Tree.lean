import CallerClosure.Proofs.Recording.Nodes
import CallerClosure.Proofs.Resolve.Walk
import Mathlib.Data.List.Induction
import Mathlib.Data.List.Pairwise

/-!
# The syntax tree of a document whose spans nest

When the declarations and uses in a document are nested or disjoint, the nodes around a
place form a chain.

* `Recording.NestsIn` is that condition on a document;
* `Recording.around` lists the nodes around a place from outside to inside, by their
  indices;
* `Recording.getLast?_around` says that the search for the smallest node ends at the inner
  end of this list, and `Recording.outwards_around` that parents lead through all of it;
* `RecordedProgram.IsInside` is the order along the way.
-/

namespace CallerClosure

namespace RecordedProgram

/-- A node of a document that covers a span. -/
def IsAround (r : RecordedProgram) (document : Path) (span : Span) (node : Nat) : Prop :=
  ∃ v, r.nodes[node]? = some v ∧ v.document.Same document ∧ v.span.Covers span

/-- A node that lies inside another one. Of two nodes with one span the use lies inside the
declaration and the declaration inside the document, and of two declarations or two uses the
later one lies inside the earlier one. -/
def IsInside (r : RecordedProgram) (inner outer : Nat) : Prop :=
  ∃ v w, r.nodes[inner]? = some v ∧ r.nodes[outer]? = some w ∧ w.span.Covers v.span ∧
    (v.span = w.span →
      w.role.rank < v.role.rank ∨ w.role.rank = v.role.rank ∧ outer < inner)

end RecordedProgram

namespace Recording

/-- The spans of the declarations and uses in a document. -/
def spansIn (r : Recording) (document : Path) : List Span :=
  (r.declarations.filter fun d => decide (d.document.Same document)).map (·.span) ++
    (r.references.filter fun u => decide (u.document.Same document)).map (·.span)

/-- The declarations and uses in a document have a text of their own, and any two of them are
nested or disjoint. -/
structure NestsIn (r : Recording) (document : Path) : Prop where
  nonempty : ∀ s ∈ r.spansIn document, s.isEmpty = false
  nested : (r.spansIn document).Pairwise Span.Nested

instance (r : Recording) (document : Path) : Decidable (r.NestsIn document) :=
  decidable_of_iff
    ((∀ s ∈ r.spansIn document, s.isEmpty = false) ∧ (r.spansIn document).Pairwise Span.Nested)
    ⟨fun h => ⟨h.1, h.2⟩, fun h => ⟨h.1, h.2⟩⟩

variable {r : Recording} {document : Path} {text : Text} {span : Span}

theorem NestsIn.nested_of_mem (h : r.NestsIn document) {s t : Span}
    (hs : s ∈ r.spansIn document) (ht : t ∈ r.spansIn document) : s.Nested t :=
  h.nested.forall_of_forall (fun s _ => .refl s) hs ht

/-! ### The nodes of a document -/

/-- A node of a document stands for the whole document, or for a declaration or a use. -/
theorem root_or_mem_spansIn (hr : r.Regular) (hv : r.Valid)
    (ht : textOf? r.documents document = some text) {v : RecordedNode} (hmem : v ∈ r.nodes)
    (hsame : v.document.Same document) :
    v.role = .document ∧ v.span = ⟨0, text.size⟩ ∨
      v.span ∈ r.spansIn document ∧ v.span.start ≤ v.span.stop ∧ v.span.stop ≤ text.size := by
  have hbounds : ∀ {path : Path} {s : Span}, path.Same document → Fits r.documents path s →
      s.start ≤ s.stop ∧ s.stop ≤ text.size := by
    rintro path s hpath ⟨whole, fragment, hwhole, hslice⟩
    rw [textOf?_congr hpath, ht] at hwhole
    obtain rfl := Option.some.inj hwhole
    exact Text.bounds_of_slice? hslice
  simp only [nodes, List.mem_append, List.mem_map] at hmem
  rcases hmem with (⟨d, hd, rfl⟩ | ⟨d, hd, rfl⟩) | ⟨u, hu, rfl⟩
  · have htext := textOf?_of_mem hr.distinct hd hsame
    rw [ht] at htext
    obtain rfl := Option.some.inj htext
    exact .inl ⟨rfl, rfl⟩
  · refine .inr ⟨List.mem_append_left _ (List.mem_map.2 ⟨d, ?_, rfl⟩),
      hbounds hsame (hv.declared d hd)⟩
    exact List.mem_filter.2 ⟨hd, decide_eq_true hsame⟩
  · refine .inr ⟨List.mem_append_right _ (List.mem_map.2 ⟨u, ?_, rfl⟩),
      hbounds hsame (hv.referenced u hu)⟩
    exact List.mem_filter.2 ⟨hu, decide_eq_true hsame⟩

theorem ordered_of_mem_nodes (hr : r.Regular) (hv : r.Valid)
    (ht : textOf? r.documents document = some text) {v : RecordedNode} (hmem : v ∈ r.nodes)
    (hsame : v.document.Same document) :
    v.span.start ≤ v.span.stop ∧ v.span.stop ≤ text.size := by
  rcases root_or_mem_spansIn hr hv ht hmem hsame with ⟨-, hspan⟩ | ⟨-, hspan⟩
  · rw [hspan]
    exact ⟨Nat.zero_le _, Nat.le_refl _⟩
  · exact hspan

theorem nested_of_mem_nodes (hr : r.Regular) (hv : r.Valid) (hn : r.NestsIn document)
    (ht : textOf? r.documents document = some text) {v w : RecordedNode} (hmv : v ∈ r.nodes)
    (hmw : w ∈ r.nodes) (hsv : v.document.Same document) (hsw : w.document.Same document) :
    v.span.Nested w.span := by
  have hvb := ordered_of_mem_nodes hr hv ht hmv hsv
  have hwb := ordered_of_mem_nodes hr hv ht hmw hsw
  rcases root_or_mem_spansIn hr hv ht hmv hsv with ⟨-, hspan⟩ | ⟨hvs, -⟩
  · rw [hspan]
    exact .inl ⟨Nat.zero_le _, hwb.2⟩
  · rcases root_or_mem_spansIn hr hv ht hmw hsw with ⟨-, hspan⟩ | ⟨hws, -⟩
    · rw [hspan]
      exact .inr (.inl ⟨Nat.zero_le _, hvb.2⟩)
    · exact hn.nested_of_mem hvs hws

/-- The nodes of a document with a place in it are a forest. -/
theorem forest_ofDocument (hr : r.Regular) (hv : r.Valid) (hn : r.NestsIn document)
    (ht : textOf? r.documents document = some text) (htext : 0 < text.size) :
    Nesting.Forest ((RecordedNode.ofDocument r.nodes document).map fun n => ⟨n.2, n.1.span⟩) := by
  have hnodes : ∀ n ∈ RecordedNode.ofDocument r.nodes document,
      n.1 ∈ r.nodes ∧ n.1.document.Same document := by
    rintro ⟨v, n⟩ hmem
    obtain ⟨hnode, hsame⟩ := RecordedNode.mem_ofDocument.1 hmem
    exact ⟨List.mem_of_getElem? hnode, hsame⟩
  refine ⟨List.pairwise_map.2 ?_, List.pairwise_map.2 ?_, ?_⟩
  · refine (RecordedNode.pairwise_ofDocument r.nodes document).imp fun {a b} hab => ?_
    rw [RecordedNode.isOutside_iff] at hab
    unfold Span.Opens
    dsimp only
    omega
  · refine List.pairwise_of_forall_mem_list fun a ha b hb => ?_
    exact nested_of_mem_nodes hr hv hn ht (hnodes a ha).1 (hnodes b hb).1 (hnodes a ha).2
      (hnodes b hb).2
  · intro s hs
    obtain ⟨a, ha, rfl⟩ := List.mem_map.1 hs
    obtain ⟨hmem, hsame⟩ := hnodes a ha
    rcases root_or_mem_spansIn hr hv ht hmem hsame with ⟨-, hspan⟩ | ⟨hspan, hordered, -⟩
    · rw [hspan]
      exact htext
    · have hne := hn.nonempty _ hspan
      rw [Span.isEmpty, beq_eq_false_iff_ne] at hne
      dsimp only
      omega

/-! ### The nodes around a place -/

/-- The nodes of a document around a span, from outside to inside. -/
def around (r : Recording) (document : Path) (span : Span) : List Nat :=
  ((RecordedNode.ofDocument r.nodes document).filter fun n =>
    decide (n.1.span.Covers span)).map (·.2)

theorem mem_around {n : Nat} :
    n ∈ r.around document span ↔ r.freeze.IsAround document span n := by
  constructor
  · intro h
    obtain ⟨⟨v, n⟩, hmem, rfl⟩ := List.mem_map.1 h
    obtain ⟨hmem, hcovers⟩ := List.mem_filter.1 hmem
    obtain ⟨hnode, hsame⟩ := RecordedNode.mem_ofDocument.1 hmem
    exact ⟨v, hnode, hsame, of_decide_eq_true hcovers⟩
  · rintro ⟨v, hnode, hsame, hcovers⟩
    refine List.mem_map.2 ⟨(v, n), List.mem_filter.2 ⟨?_, decide_eq_true hcovers⟩, rfl⟩
    exact RecordedNode.mem_ofDocument.2 ⟨hnode, hsame⟩

theorem nodup_around (r : Recording) (document : Path) (span : Span) :
    (r.around document span).Nodup :=
  (RecordedNode.nodup_ofDocument r.nodes document).sublist (List.filter_sublist.map _)

/-- The spans of the nodes around a place are the spans around it. -/
theorem around_eq_around (r : Recording) (document : Path) (span : Span) :
    (Nesting.around span
        ((RecordedNode.ofDocument r.nodes document).map fun n => ⟨n.2, n.1.span⟩)).map
      (·.index) = r.around document span := by
  rw [Nesting.around, around, List.filter_map, List.map_map]
  rfl

/-- What it takes to look for the nodes around a place in a document. -/
structure Place (r : Recording) (document : Path) (text : Text) (span : Span) : Prop where
  regular : r.Regular
  valid : r.Valid
  nests : r.NestsIn document
  text_eq : textOf? r.documents document = some text
  nonempty : span.start < span.stop
  within : span.stop ≤ text.size

namespace Place

variable (h : r.Place document text span)
include h

theorem forest :
    Nesting.Forest ((RecordedNode.ofDocument r.nodes document).map fun n => ⟨n.2, n.1.span⟩) :=
  forest_ofDocument h.regular h.valid h.nests h.text_eq
    (Nat.lt_of_lt_of_le (Nat.zero_lt_of_lt h.nonempty) h.within)

/-- Going inwards around a place, every node lies inside those before it. -/
theorem pairwise_around :
    (r.around document span).Pairwise fun outer inner => r.freeze.IsInside inner outer := by
  have hcovers := h.forest.covers_around h.nonempty
  rw [Nesting.around, List.filter_map, List.pairwise_map] at hcovers
  have horder := (RecordedNode.pairwise_ofDocument r.nodes document).filter
    fun n => decide (n.1.span.Covers span)
  have hdistinct := nodup_around r document span
  rw [around, List.Nodup, List.pairwise_map] at hdistinct
  rw [around, List.pairwise_map]
  refine ((hcovers.and horder).and hdistinct).imp_of_mem fun {a b} ha hb hab => ?_
  obtain ⟨⟨hcovers, horder⟩, hne⟩ := hab
  obtain ⟨hva, -⟩ := RecordedNode.mem_ofDocument.1 (List.mem_filter.1 ha).1
  obtain ⟨hvb, -⟩ := RecordedNode.mem_ofDocument.1 (List.mem_filter.1 hb).1
  refine ⟨b.1, a.1, hvb, hva, hcovers, fun heq => ?_⟩
  rw [RecordedNode.isOutside_iff, heq] at horder
  omega

/-- **The smallest node around a place is the innermost one.** -/
theorem getLast?_around :
    (r.around document span).getLast? = r.freeze.smallestCovering? document span := by
  have hcovers := h.forest.covers_around h.nonempty
  rw [Nesting.around, List.filter_map, List.pairwise_map] at hcovers
  rw [around, List.getLast?_map, RecordedProgram.smallestCovering?]
  refine congrArg (Option.map Prod.snd) (leastLast?_eq_getLast? ?_).symm
  exact hcovers.imp fun hab => hab.length_le

/-- The parent of a node around a place is the next one outwards. -/
theorem parent?_of_around {outer inner : List Nat} {n : Nat}
    (hsplit : r.around document span = outer ++ n :: inner) :
    r.freeze.parent? n = outer.getLast? := by
  obtain ⟨path, hd, hsame⟩ := exists_of_textOf? h.text_eq
  rw [← around_eq_around] at hsplit
  obtain ⟨outer, rest, hspans, rfl, hrest⟩ := List.map_eq_append_iff.1 hsplit
  obtain ⟨s, inner, rfl, rfl, rfl⟩ := List.map_eq_cons_iff.1 hrest
  have hparent := Nesting.mem_parents_of_around h.forest h.nonempty hspans
  rw [← List.getLast?_map] at hparent
  refine parent?_freeze hd ?_
  rw [RecordedNode.parentsIn_congr hsame]
  exact hparent

/-- **Parents lead from the innermost node around a place through all others.** -/
theorem outwards_around {σ : Type} (s : σ) :
    (r.freeze.program : Program σ Nat).Outwards s ((r.around document span).getLast?)
      (r.around document span).reverse := by
  -- by induction on the outer part of the list, with what is inside of it left over
  suffices ∀ outer inner, r.around document span = outer ++ inner →
      (r.freeze.program : Program σ Nat).Outwards s outer.getLast? outer.reverse by
    exact this _ [] (List.append_nil _).symm
  intro outer
  induction outer using List.reverseRecOn with
  | nil => exact fun _ _ => .done
  | append_singleton outer n ih =>
    intro inner hsplit
    rw [List.append_assoc] at hsplit
    rw [List.getLast?_concat, List.reverse_concat]
    refine .step ?_
    have hparent : (r.freeze.program : Program σ Nat).parent n s = outer.getLast? :=
      h.parent?_of_around hsplit
    rw [hparent]
    exact ih _ hsplit

/-- A node of a document that the node for the whole of it lies inside of stands for the
document as well. -/
theorem role_eq_document {v w : RecordedNode} {n m : Nat} (hv : r.nodes[n]? = some v)
    (hspan : v.span = ⟨0, text.size⟩) (hrole : v.role = .document) (hw : r.nodes[m]? = some w)
    (hsame : w.document.Same document) (hin : r.freeze.IsInside n m) : w.role = .document := by
  obtain ⟨v', w', hv', hw', hcovers, hrank⟩ := hin
  obtain rfl := Option.some.inj (hv.symm.trans hv')
  obtain rfl := Option.some.inj (hw.symm.trans hw')
  have hbounds := ordered_of_mem_nodes h.regular h.valid h.text_eq (List.mem_of_getElem? hw) hsame
  have heq : v.span = w.span := by
    rcases w with ⟨_, ⟨a, b⟩, _⟩
    rw [hspan] at hcovers ⊢
    obtain ⟨hstart, hstop⟩ := hcovers
    simp only [Span.mk.injEq] at *
    omega
  -- it has the same span, so it would have to be of a lower rank
  have hzero := hrank heq
  rw [hrole] at hzero
  cases hrole' : w.role with
  | document => rfl
  | declaration id => simp [hrole', NodeRole.rank] at hzero
  | use id => simp [hrole', NodeRole.rank] at hzero

/-- **The outermost node around a place is the document.** -/
theorem head?_around :
    ∃ root v, (r.around document span).head? = some root ∧
      r.freeze.nodes[root]? = some v ∧ v.role = .document := by
  obtain ⟨i, path, hroot, hsame⟩ := exists_root h.text_eq
  have hmem : i ∈ r.around document span :=
    mem_around.2 ⟨_, hroot, hsame, Nat.zero_le _, h.within⟩
  have hpair := h.pairwise_around
  cases hlist : r.around document span with
  | nil => simp [hlist] at hmem
  | cons n rest =>
    have hn : n ∈ r.around document span := by
      rw [hlist]
      exact List.mem_cons_self
    obtain ⟨w, hw, hsame', -⟩ := mem_around.1 hn
    rw [hlist] at hmem hpair
    refine ⟨n, w, rfl, hw, ?_⟩
    rcases List.mem_cons.1 hmem with rfl | hmem
    · rw [← Option.some.inj (hroot.symm.trans hw)]
    · have hin := (List.pairwise_cons.1 hpair).1 i hmem
      exact h.role_eq_document hroot rfl rfl hw hsame' hin

end Place

end Recording

end CallerClosure
