import CallerClosure.Proofs.Outline.Containment
import CallerClosure.Server.Answer
import Mathlib.Data.Prod.Lex

/-!
# The declarations of a document are a forest

A parent is known by its index alone, and where it comes from containment it may stand before or
after its child. Yet no way outwards runs in a circle, whatever ranges a server reports.

* `Document.IsForest` says that parents are declarations of the document and that every way
  outwards ends;
* `Document.isForest_of_measure` derives it from a measure that parents make smaller. For the
  hierarchy of a server the measure is the index (`Document.lt_of_parent?_of_keep`), for
  containment it is `Document.outerKey`;
* `Document.forest_of_answer` says so of all answers, and which parents a flat list gets.
-/

namespace CallerClosure

/-- An answer in which no symbol lies below another one. -/
def OutlineAnswer.IsFlat : Option OutlineAnswer → Prop
  | none => True
  | some (.flat _) => True
  | some (.nested symbols) => ∀ s ∈ symbols, s.children = []

theorem NestedSymbol.toNodes_eq_map (symbols : List NestedSymbol) :
    toNodes symbols = symbols.map toNode := by
  induction symbols with
  | nil => rfl
  | cons s rest ih => rw [toNodes, ih, List.map_cons]

/-- A flat answer becomes an outline without children. -/
theorem OutlineAnswer.children_eq_nil {answer : Option OutlineAnswer} (h : IsFlat answer) :
    ∀ node ∈ toOutline answer, node.children = [] := by
  intro node hnode
  match answer, h with
  | none, _ => cases hnode
  | some (.flat symbols), _ =>
    obtain ⟨s, -, rfl⟩ := List.mem_map.1 hnode
    rfl
  | some (.nested symbols), h =>
    rw [toOutline, NestedSymbol.toNodes_eq_map] at hnode
    obtain ⟨⟨name, detail, kind, range, selection, children⟩, hs, rfl⟩ := List.mem_map.1 hnode
    obtain rfl : children = [] := h _ hs
    rfl

namespace Document

variable {d : Document} {p : Path} {text : Text} {outline : Outline} {i j k : Nat}

/-! ### Forests -/

/-- The parents of declarations are declarations, and every way outwards comes to an end. -/
structure IsForest (d : Document) : Prop where
  valid : ∀ i k, d.parent? i = some k → k < d.declarations.length
  /-- A way visits no declaration twice, so it has no more steps than there are declarations. -/
  ends : ∀ i < d.declarations.length, ∃ way, d.Outwards (some i) way ∧ way.Nodup ∧
    way.length ≤ d.declarations.length

/-- **Parents that make a measure smaller are a forest.** -/
theorem isForest_of_measure {α : Type} [Preorder α] [WellFoundedLT α] (measure : Nat → α)
    (hvalid : ∀ i k, d.parent? i = some k → k < d.declarations.length)
    (hlt : ∀ i k, d.parent? i = some k → measure k < measure i) : d.IsForest := by
  refine ⟨hvalid, fun i hi => ?_⟩
  -- the measure of all that comes later on the way is smaller
  have hway : ∃ way, d.Outwards (some i) way ∧ way.Nodup ∧ (∀ k ∈ way, measure k ≤ measure i) ∧
      ∀ k ∈ way, k < d.declarations.length := by
    induction hm : measure i using WellFoundedLT.induction generalizing i with
    | ind m ih =>
      subst hm
      cases hparent : d.parent? i with
      | none => exact ⟨[i], .step (hparent ▸ .done), by simp, by simp, by simpa using hi⟩
      | some k =>
        have hk := hlt i k hparent
        obtain ⟨way, hway, hnodup, hle, hvalid'⟩ := ih _ hk k (hvalid i k hparent) rfl
        refine ⟨i :: way, .step (hparent ▸ hway), List.nodup_cons.2 ⟨fun hmem => ?_, hnodup⟩,
          List.forall_mem_cons.2 ⟨le_refl _, fun j hj => ((hle j hj).trans_lt hk).le⟩,
          List.forall_mem_cons.2 ⟨hi, hvalid'⟩⟩
        exact lt_irrefl _ ((hle i hmem).trans_lt hk)
  obtain ⟨way, hway, hnodup, -, hvalid'⟩ := hway
  exact ⟨way, hway, hnodup, length_le_of_forall_lt hnodup hvalid'⟩

/-! ### Parents from a hierarchy -/

/-- A declaration that is kept has a parent that was kept before it. -/
theorem lt_of_parent_of_keep {entries : List OutlineEntry} {moved : List (Option Nat)}
    {kept : Nat} (hmoved : ∀ n, some n ∈ moved → n < kept) {c : Declaration}
    (hc : (keep text entries moved kept)[i]? = some c) (hk : c.parent = some k) :
    k < kept + i := by
  induction entries generalizing moved kept i with
  | nil => cases hc
  | cons entry rest ih =>
    rw [keep] at hc
    split at hc
    · cases i with
      | zero =>
        obtain rfl := Option.some.inj hc
        obtain ⟨p, -, hp⟩ := Option.bind_eq_some_iff.1 hk
        exact hmoved k (List.mem_of_getElem? (Option.join_eq_some_iff.1 hp))
      | succ i =>
        rw [Nat.add_comm i 1, ← Nat.add_assoc]
        refine ih (fun n hn => ?_) hc
        rcases List.mem_append.1 hn with hn | hn
        · exact Nat.lt_succ_of_lt (hmoved n hn)
        · obtain rfl := Option.some.inj (List.mem_singleton.1 hn)
          exact Nat.lt_succ_self n
    · refine ih (fun n hn => ?_) hc
      rcases List.mem_append.1 hn with hn | hn
      · exact hmoved n hn
      · cases List.mem_singleton.1 hn

/-- In the hierarchy of a server parents come first. -/
theorem lt_of_parent?_of_keep {entries : List OutlineEntry}
    (hd : d.declarations = keep text entries [] 0) (h : d.parent? i = some k) : k < i := by
  obtain ⟨c, hc, hk⟩ := Option.bind_eq_some_iff.1 h
  rw [hd] at hc
  simpa using lt_of_parent_of_keep (by simp) hc hk

/-! ### Parents from containment -/

/-- Longer declarations come first, and of declarations as long as each other earlier ones. -/
def outerKey (d : Document) (index : Nat) : ℕ ×ₗ ℕ :=
  toLex ((d.span? index).elim 0 fun s => d.text.size - s.length, index)

/-- What encloses a declaration comes before it. -/
theorem outerKey_lt (hsize : ∀ c ∈ d.declarations, c.span.stop ≤ d.text.size)
    (h : d.Encloses k i) : d.outerKey k < d.outerKey i := by
  obtain ⟨t, s, ht, hs, hcovers, hlarger⟩ := h
  have hle := hcovers.length_le
  have htext : t.length ≤ d.text.size := by
    obtain ⟨c, hc, rfl⟩ := Option.map_eq_some_iff.1 ht
    exact (Nat.sub_le _ _).trans (hsize c (List.mem_of_getElem? hc))
  rw [outerKey, outerKey, ht, hs, Prod.Lex.toLex_lt_toLex]
  dsimp only [Option.elim_some]
  omega

/-- A declaration encloses another one exactly if that one lies inside it. -/
theorem encloses_iff_isInside (hordered : ∀ c ∈ d.declarations, c.span.start ≤ c.span.stop) :
    d.Encloses k i ↔ d.IsInside i k := by
  refine ⟨Encloses.isInside, ?_⟩
  rintro ⟨c, e, hc, he, hcovers, hlater⟩
  refine ⟨e.span, c.span, by rw [span?, he]; rfl, by rw [span?, hc]; rfl, hcovers, ?_⟩
  rcases Nat.lt_or_eq_of_le hcovers.length_le with hlt | heq
  · exact .inl hlt
  · have hspan := hcovers.eq_of_length_eq (hordered c (List.mem_of_getElem? hc)) heq.symm
    exact .inr (hlater hspan.symm)

theorem lt_length_of_isInside (h : d.IsInside i k) : k < d.declarations.length := by
  obtain ⟨-, e, -, he, -⟩ := h
  exact (List.getElem?_eq_some_iff.1 he).1

/-! ### All documents -/

/-- The declarations of a document have their parents from the hierarchy or from containment. -/
theorem declarations_ofOutline (p : Path) (text : Text) (outline : Outline) :
    (ofOutline p text outline).declarations = keep text outline.flatten [] 0 ∨
      (ofOutline p text outline).declarations = nestBySpan (keep text outline.flatten [] 0) := by
  unfold ofOutline
  dsimp only
  split
  · exact .inl rfl
  · exact .inr rfl

/-- **The declarations of a document are a forest**, whatever its outline. -/
theorem isForest_ofOutline (p : Path) (text : Text) (outline : Outline) :
    (ofOutline p text outline).IsForest := by
  rcases declarations_ofOutline p text outline with hd | hd
  · have hlt := fun i k => lt_of_parent?_of_keep (i := i) (k := k) hd
    refine isForest_of_measure id (fun i k h => (hlt i k h).trans ?_) hlt
    obtain ⟨c, hc, -⟩ := Option.bind_eq_some_iff.1 h
    exact (List.getElem?_eq_some_iff.1 hc).1
  · refine isForest_of_measure (outerKey (ofOutline p text outline)) (fun i k h => ?_)
      fun i k h => ?_
    · exact lt_length_of_isInside (encloses_of_parent? hd h).isInside
    · refine outerKey_lt (fun c hc => ?_) (encloses_of_parent? hd h)
      rw [text_ofOutline]
      exact (ordered_of_mem_ofOutline hc).2

/-- **Whatever a server answers, the declarations are a forest**: each parent is a declaration of
the document, and following parents from any declaration ends within as many steps as there are
declarations. If the answer is flat, the parent of a declaration is the shortest one around it, the
first one of those; there it counts as being around another one with the same span if it has the
smaller index. -/
theorem forest_of_answer {answer : Option OutlineAnswer}
    (hd : d = .ofOutline p text (OutlineAnswer.toOutline answer)) :
    d.IsForest ∧
      (OutlineAnswer.IsFlat answer → ∀ i,
        (∀ k, d.parent? i = some k → d.IsInside i k ∧
          ∀ j, d.IsInside i j → ∀ t u, d.span? k = some t → d.span? j = some u →
            t.length ≤ u.length ∧ (t.length = u.length → k ≤ j)) ∧
        (d.parent? i = none ↔ ∀ j, ¬ d.IsInside i j)) := by
  refine ⟨hd ▸ isForest_ofOutline p text _, fun hflat i => ?_⟩
  have hnest : d.declarations =
      nestBySpan (keep text (OutlineAnswer.toOutline answer).flatten [] 0) :=
    hd ▸ declarations_of_flat p text (OutlineAnswer.children_eq_nil hflat)
  have hordered : ∀ c ∈ d.declarations, c.span.start ≤ c.span.stop := by
    subst hd
    exact fun c hc => (ordered_of_mem_ofOutline hc).1
  refine ⟨fun k hk => ⟨(encloses_of_parent? hnest hk).isInside, fun j hj t u ht hu => ?_⟩,
    fun hnone j hj => ?_, fun h => ?_⟩
  · exact length_le_of_parent? hnest hk ht ((encloses_iff_isInside hordered).2 hj) hu
  · exact not_encloses_of_parent?_eq_none hnest hnone ((encloses_iff_isInside hordered).2 hj)
  · rw [Option.eq_none_iff_forall_ne_some]
    exact fun k hk => h k (encloses_of_parent? hnest hk).isInside

/-- A flat answer about a line of six letters: two declarations that cross, a third one with the
span of the second, an empty one within them all, and one around them all at the end. -/
def crossingAnswer : OutlineAnswer :=
  let uri : Uri := ⟨"file".toList, some [], [], "/ws/m.py".toList, none, none⟩
  .flat [⟨"a", 12, uri, ⟨0, 1⟩, ⟨0, 4⟩⟩, ⟨"b", 12, uri, ⟨0, 0⟩, ⟨0, 3⟩⟩,
    ⟨"c", 12, uri, ⟨0, 3⟩, ⟨0, 0⟩⟩, ⟨"d", 12, uri, ⟨0, 2⟩, ⟨0, 2⟩⟩, ⟨"e", 12, uri, ⟨0, 0⟩, ⟨0, 6⟩⟩]

theorem forest_of_crossingAnswer :
    let d := ofOutline ⟨"/ws/m.py"⟩ "abcdef\n".toList
      (OutlineAnswer.toOutline (some crossingAnswer))
    OutlineAnswer.IsFlat (some crossingAnswer) ∧ d.IsForest ∧
      d.declarations.map (·.span) = [⟨1, 4⟩, ⟨0, 3⟩, ⟨0, 3⟩, ⟨2, 2⟩, ⟨0, 6⟩] ∧
      d.declarations.map (·.parent) = [some 4, some 4, some 1, some 0, none] ∧
      d.IsInside 2 1 ∧ d.IsInside 3 0 ∧ ∀ j, ¬ d.IsInside 4 j := by
  intro d
  obtain ⟨hforest, hflat⟩ := forest_of_answer (d := d) rfl
  have hparents := hflat trivial
  exact ⟨trivial, hforest, by decide, by decide, ((hparents 2).1 1 (by decide)).1,
    ((hparents 3).1 0 (by decide)).1, (hparents 4).2.1 (by decide)⟩

end Document

end CallerClosure
