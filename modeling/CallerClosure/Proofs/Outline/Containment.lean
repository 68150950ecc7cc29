import CallerClosure.Proofs.Outline.Spans
import CallerClosure.Proofs.Outline.Ways
import CallerClosure.Proofs.Text.Lines
import Mathlib.Data.List.Pairwise

/-!
# Documents without a hierarchy

Where a server lists the declarations of a document without a hierarchy, their parents come
from containment: the parent of a declaration is the smallest one around it, and of several
declarations with one span the first one. The smallest declaration around a place, where the
way outwards begins, is the last one with its span.

* `Document.Encloses` says which declarations come into question as a parent;
* `Document.Contained` says that the nearest of them is the parent, and that any two declarations
  are nested or disjoint. `contained_ofOutline` says so of a document;
* `Contained.exists_outwards` says where the way outwards leads: past the declaration where it
  begins, it visits the first one with each span, and passes the others by.
-/

namespace CallerClosure.Document

variable {d : Document} {p : Path} {text : Text} {outline : Outline} {q s t u : Span}
  {i j k : Nat}

/-! ### Candidates for a parent -/

/-- The span of a declaration. -/
def span? (d : Document) (index : Nat) : Option Span :=
  d.declarations[index]?.map (·.span)

/-- A declaration around another one. Of declarations with one span earlier ones enclose later
ones. -/
def Encloses (d : Document) (outer index : Nat) : Prop :=
  ∃ t s, d.span? outer = some t ∧ d.span? index = some s ∧ t.Covers s ∧
    (s.length < t.length ∨ outer < index)

/-- No earlier declaration has the span of a declaration. -/
def IsFirst (d : Document) (index : Nat) : Prop :=
  ∀ j, d.span? j = d.span? index → index ≤ j

/-- The parents of declarations are the nearest ones around them, and any two declarations are
nested or disjoint. -/
structure Contained (d : Document) : Prop where
  ordered : ∀ i s, d.span? i = some s → s.start ≤ s.stop ∧ s.stop ≤ d.text.size
  nested : ∀ i j s t, d.span? i = some s → d.span? j = some t → s.Nested t
  encloses : ∀ i k, d.parent? i = some k → d.Encloses k i
  nearest : ∀ i k t, d.parent? i = some k → d.span? k = some t → ∀ j u, d.Encloses j i →
    d.span? j = some u → t.length ≤ u.length ∧ (t.length = u.length → k ≤ j)
  outermost : ∀ i, d.parent? i = none → ∀ j, ¬ d.Encloses j i

/-- A declaration lies inside those that enclose it. -/
theorem Encloses.isInside (h : d.Encloses k i) : d.IsInside i k := by
  obtain ⟨t, s, ht, hs, hcovers, hlarger⟩ := h
  obtain ⟨e, he, rfl⟩ := Option.map_eq_some_iff.1 ht
  obtain ⟨c, hc, rfl⟩ := Option.map_eq_some_iff.1 hs
  refine ⟨c, e, hc, he, hcovers, fun heq => ?_⟩
  rw [heq] at hlarger
  exact hlarger.resolve_left (Nat.lt_irrefl _)

theorem isAround_iff_span? : d.IsAround q i ↔ ∃ s, d.span? i = some s ∧ s.Covers q := by
  simp [IsAround, span?]

theorem mem_candidates {declarations : List Declaration} {c : Declaration} :
    (c, k) ∈ declarations.zipIdx.filter (fun (d, j) =>
        j != i && decide (d.span.Covers s) &&
          (decide (s.length < d.span.length) || decide (j < i))) ↔
      declarations[k]? = some c ∧ k ≠ i ∧ c.span.Covers s ∧
        (s.length < c.span.length ∨ k < i) := by
  simp [List.mem_zipIdx_iff_getElem?, and_assoc]

section NestBySpan

variable {declarations : List Declaration} (hd : d.declarations = nestBySpan declarations)

include hd

theorem span?_of_nestBySpan (i : Nat) : d.span? i = declarations[i]?.map (·.span) := by
  rw [span?, hd, nestBySpan, List.getElem?_map, List.getElem?_zipIdx]
  cases declarations[i]? <;> simp

theorem parent?_of_nestBySpan (i : Nat) :
    d.parent? i = declarations[i]?.bind fun c => enclosing? declarations i c.span := by
  rw [parent?, hd, nestBySpan, List.getElem?_map, List.getElem?_zipIdx]
  cases declarations[i]? <;> simp

/-- The candidates for the parent of a declaration are those that enclose it. -/
theorem encloses_iff {c : Declaration} (hc : declarations[i]? = some c) :
    d.Encloses k i ↔ ∃ e, declarations[k]? = some e ∧ k ≠ i ∧ e.span.Covers c.span ∧
      (c.span.length < e.span.length ∨ k < i) := by
  rw [Encloses, span?_of_nestBySpan hd, span?_of_nestBySpan hd, hc]
  constructor
  · rintro ⟨t, s, ht, hs, hcovers, hlarger⟩
    obtain ⟨e, he, rfl⟩ := Option.map_eq_some_iff.1 ht
    obtain rfl := Option.some.inj hs
    refine ⟨e, he, ?_, hcovers, hlarger⟩
    rintro rfl
    obtain rfl := Option.some.inj (hc.symm.trans he)
    exact hlarger.elim (Nat.lt_irrefl _) (Nat.lt_irrefl _)
  · rintro ⟨e, he, -, hcovers, hlarger⟩
    exact ⟨e.span, c.span, by rw [he]; rfl, rfl, hcovers, hlarger⟩

/-- A parent comes from the search among the candidates. -/
theorem exists_enclosing?_of_parent? (h : d.parent? i = some k) : ∃ c,
    declarations[i]? = some c ∧ enclosing? declarations i c.span = some k := by
  rw [parent?_of_nestBySpan hd] at h
  exact Option.bind_eq_some_iff.1 h

/-- A parent is a candidate. -/
theorem encloses_of_parent? (h : d.parent? i = some k) : d.Encloses k i := by
  obtain ⟨c, hc, h⟩ := exists_enclosing?_of_parent? hd h
  obtain ⟨⟨e, _⟩, hleast, rfl⟩ := Option.map_eq_some_iff.1 h
  exact (encloses_iff hd hc).2 ⟨e, mem_candidates.1 (mem_of_leastFirst? hleast)⟩

/-- No candidate is shorter than the parent, and none before it is as short. -/
theorem length_le_of_parent? (h : d.parent? i = some k) (ht : d.span? k = some t)
    (hj : d.Encloses j i) (hu : d.span? j = some u) :
    t.length ≤ u.length ∧ (t.length = u.length → k ≤ j) := by
  obtain ⟨c, hc, h⟩ := exists_enclosing?_of_parent? hd h
  obtain ⟨⟨e, _⟩, hleast, rfl⟩ := Option.map_eq_some_iff.1 h
  obtain ⟨he, -⟩ := mem_candidates.1 (mem_of_leastFirst? hleast)
  obtain ⟨f, hf⟩ := (encloses_iff hd hc).1 hj
  rw [span?_of_nestBySpan hd, he] at ht
  rw [span?_of_nestBySpan hd, hf.1] at hu
  obtain rfl := Option.some.inj ht
  obtain rfl := Option.some.inj hu
  have hmem := mem_candidates.2 hf
  exact least_of_leastFirst? ((pairwise_zipIdx declarations).filter _) hleast hmem

/-- Without a parent there is no candidate. -/
theorem not_encloses_of_parent?_eq_none (h : d.parent? i = none) : ¬ d.Encloses j i := by
  intro hj
  obtain ⟨t, s, -, hs, -⟩ := id hj
  rw [span?_of_nestBySpan hd] at hs
  obtain ⟨c, hc, -⟩ := Option.map_eq_some_iff.1 hs
  rw [parent?_of_nestBySpan hd, hc, Option.bind_some, enclosing?, Option.map_eq_none_iff,
    leastFirst?_eq_none_iff] at h
  obtain ⟨f, hf⟩ := (encloses_iff hd hc).1 hj
  have hmem := mem_candidates.2 hf
  rw [h] at hmem
  cases hmem

/-- Declarations that are nested or disjoint and get their parents from containment. -/
theorem contained_of_nestBySpan (hordered : ∀ c ∈ d.declarations, c.span.start ≤ c.span.stop ∧
      c.span.stop ≤ d.text.size)
    (hnested : d.declarations.Pairwise fun c e => c.span.Nested e.span) : d.Contained := by
  constructor
  case ordered =>
    intro i s hs
    obtain ⟨c, hc, rfl⟩ := Option.map_eq_some_iff.1 hs
    exact hordered c (List.mem_of_getElem? hc)
  case nested =>
    intro i j s t hs ht
    obtain ⟨c, hc, rfl⟩ := Option.map_eq_some_iff.1 hs
    obtain ⟨e, he, rfl⟩ := Option.map_eq_some_iff.1 ht
    have : Std.Symm fun c e : Declaration => c.span.Nested e.span := ⟨fun _ _ h => symm h⟩
    by_cases heq : c = e
    · rw [heq]
      exact .refl _
    · exact hnested.forall (List.mem_of_getElem? hc) (List.mem_of_getElem? he) heq
  case encloses => exact fun i k => encloses_of_parent? hd
  case nearest => exact fun i k t h ht j u => length_le_of_parent? hd h ht
  case outermost => exact fun i h j => not_encloses_of_parent?_eq_none hd h

end NestBySpan

/-- In an outline without children the parents come from containment. -/
theorem declarations_of_flat (p : Path) (text : Text) (h : ∀ node ∈ outline, node.children = []) :
    (ofOutline p text outline).declarations = nestBySpan (keep text outline.flatten [] 0) := by
  have hany : ¬ (outline.flatten.any fun e => e.parent.isSome) = true := by
    intro hany
    rw [Outline.flatten, flattenFrom_of_flat h] at hany
    simp at hany
  unfold ofOutline
  dsimp only
  rw [if_neg hany]

/-- The spans of declarations lie in the text, and are not reversed. -/
theorem ordered_of_mem_ofOutline {c : Declaration}
    (hc : c ∈ (ofOutline p text outline).declarations) :
    c.span.start ≤ c.span.stop ∧ c.span.stop ≤ text.size := by
  obtain ⟨-, hstop, hle⟩ := Text.boundaries_of_span? (mem_ofOutline hc).1
  exact ⟨hle, hstop.le_size⟩

theorem contained_ofOutline (h : ∀ node ∈ outline, node.children = [])
    (hnested : (ofOutline p text outline).declarations.Pairwise fun c e => c.span.Nested e.span) :
    (ofOutline p text outline).Contained := by
  refine contained_of_nestBySpan (declarations_of_flat p text h) (fun c hc => ?_) hnested
  rw [text_ofOutline]
  exact ordered_of_mem_ofOutline hc

/-! ### The declarations around a place -/

/-- The smallest declaration around a place is the last one with its span. -/
theorem least_of_covering? (hi : d.covering? q false = some i) :
    ∃ s, d.span? i = some s ∧ s.Covers q ∧ ∀ j t, d.span? j = some t → t.Covers q →
      s.length ≤ t.length ∧ (s.length = t.length → j ≤ i) := by
  rw [covering?_false] at hi
  obtain ⟨⟨c, _⟩, hleast, rfl⟩ := Option.map_eq_some_iff.1 hi
  obtain ⟨hc, hcovers⟩ := mem_around.1 (mem_of_leastLast? hleast)
  refine ⟨c.span, by rw [span?, hc]; rfl, hcovers, fun j t ht htq => ?_⟩
  obtain ⟨e, he, rfl⟩ := Option.map_eq_some_iff.1 ht
  have hmem : (e, j) ∈ d.around q := mem_around.2 ⟨he, htq⟩
  exact least_of_leastLast? pairwise_around hleast hmem

namespace Contained

variable (h : d.Contained) (hq : q.start < q.stop)

include h

/-- A parent is the first declaration with its span. -/
theorem isFirst_parent (hparent : d.parent? i = some k) : d.IsFirst k := by
  intro j hj
  obtain ⟨t, s, ht, hs, hcovers, hlarger⟩ := h.encloses i k hparent
  by_contra hlt
  have hj' : d.Encloses j i := ⟨t, s, hj.trans ht, hs, hcovers, by omega⟩
  exact hlt ((h.nearest i k t hparent ht j t hj' (hj.trans ht)).2 rfl)

/-- What encloses the first declaration with a span has a longer span. -/
theorem length_lt_of_encloses (hfirst : d.IsFirst i) (hk : d.Encloses k i)
    (hs : d.span? i = some s) (ht : d.span? k = some t) : s.length < t.length := by
  obtain ⟨t', s', ht', hs', hcovers, hlarger⟩ := hk
  obtain rfl := Option.some.inj (ht.symm.trans ht')
  obtain rfl := Option.some.inj (hs.symm.trans hs')
  rcases hlarger with hlt | hlt
  · exact hlt
  · refine Nat.lt_of_le_of_ne hcovers.length_le fun heq => ?_
    have hspan : t = s := hcovers.eq_of_length_eq (h.ordered i s hs).1 heq.symm
    have hle := hfirst k (by rw [ht, hs, hspan])
    omega

include hq

/-- Around a place, longer spans cover shorter ones. -/
theorem covers_of_length_le (hs : d.span? i = some s) (ht : d.span? j = some t)
    (hsq : s.Covers q) (htq : t.Covers q) (hl : s.length ≤ t.length) : t.Covers s :=
  (h.nested j i t s ht hs).covers_of_length_le hq htq hsq hl

theorem encloses_of_length_lt (hs : d.span? i = some s) (ht : d.span? k = some t)
    (hsq : s.Covers q) (htq : t.Covers q) (hl : s.length < t.length) : d.Encloses k i :=
  ⟨t, s, ht, hs, h.covers_of_length_le hq hs ht hsq htq (Nat.le_of_lt hl), .inl hl⟩

/-- Around a place, spans of one length are one span. -/
theorem eq_of_length_eq (hs : d.span? i = some s) (ht : d.span? j = some t)
    (hsq : s.Covers q) (htq : t.Covers q) (hl : s.length = t.length) : t = s :=
  (h.covers_of_length_le hq hs ht hsq htq (Nat.le_of_eq hl)).eq_of_length_eq (h.ordered i s hs).1
    hl.symm

/-- **From the first declaration with its span the way outwards visits the first declarations**
with each span that is as long or longer. -/
theorem exists_outwards_of_isFirst (hs : d.span? i = some s) (hsq : s.Covers q)
    (hfirst : d.IsFirst i) :
    ∃ way, d.Outwards (some i) way ∧ way.Nodup ∧ way.Pairwise d.IsInside ∧
      ∀ k, k ∈ way ↔ d.IsFirst k ∧ ∃ t, d.span? k = some t ∧ t.Covers q ∧ s.length ≤ t.length := by
  -- parents are longer, and no span is longer than the text
  induction hn : d.text.size - s.length using Nat.strongRecOn generalizing i s with
  | ind n ih =>
    have hsame : ∀ k t, d.IsFirst k → d.span? k = some t → t.Covers q → s.length = t.length →
        k = i := by
      intro k t hk ht htq hl
      have hspan : d.span? k = d.span? i := by
        rw [hs, ht, h.eq_of_length_eq hq hs ht hsq htq hl]
      exact Nat.le_antisymm (hk i hspan.symm) (hfirst k hspan)
    cases hparent : d.parent? i with
    | none =>
      refine ⟨[i], .step (hparent ▸ .done), by simp, by simp, fun k => ?_⟩
      rw [List.mem_singleton]
      constructor
      · rintro rfl
        exact ⟨hfirst, s, hs, hsq, Nat.le_refl _⟩
      · rintro ⟨hk, t, ht, htq, hl⟩
        rcases Nat.lt_or_eq_of_le hl with hl | hl
        · exact absurd (h.encloses_of_length_lt hq hs ht hsq htq hl) (h.outermost i hparent k)
        · exact hsame k t hk ht htq hl
    | some f =>
      have hf := h.encloses i f hparent
      obtain ⟨u, s', hu, hs', hcovers, -⟩ := id hf
      obtain rfl := Option.some.inj (hs.symm.trans hs')
      have hlt := h.length_lt_of_encloses hfirst hf hs hu
      have hsize := (h.ordered f u hu).2
      have hless : d.text.size - u.length < n := by
        unfold Span.length at *
        omega
      obtain ⟨way, hway, hnodup, hinside, hmem⟩ :=
        ih _ hless hu (hcovers.trans hsq) (h.isFirst_parent hparent) rfl
      refine ⟨i :: way, .step (hparent ▸ hway), List.nodup_cons.2 ⟨fun hi => ?_, hnodup⟩,
        List.pairwise_cons.2 ⟨fun k hk => ?_, hinside⟩, fun k => ?_⟩
      · obtain ⟨-, t, ht, -, hl⟩ := (hmem i).1 hi
        obtain rfl := Option.some.inj (hs.symm.trans ht)
        omega
      · obtain ⟨-, t, ht, htq, hl⟩ := (hmem k).1 hk
        exact (h.encloses_of_length_lt hq hs ht hsq htq (by omega)).isInside
      · rw [List.mem_cons, hmem]
        constructor
        · rintro (rfl | ⟨hk, t, ht, htq, hl⟩)
          · exact ⟨hfirst, s, hs, hsq, Nat.le_refl _⟩
          · exact ⟨hk, t, ht, htq, by omega⟩
        · rintro ⟨hk, t, ht, htq, hl⟩
          rcases Nat.lt_or_eq_of_le hl with hl | hl
          · have hk' := h.encloses_of_length_lt hq hs ht hsq htq hl
            exact .inr ⟨hk, t, ht, htq, (h.nearest i f u hparent hu k t hk' ht).1⟩
          · exact .inl (hsame k t hk ht htq hl)

/-- The parent of a declaration that is not the first one with its span is the first one. -/
theorem exists_parent?_of_not_isFirst (hs : d.span? i = some s) (hsq : s.Covers q)
    (hfirst : ¬ d.IsFirst i) : ∃ f, d.parent? i = some f ∧ d.span? f = some s := by
  obtain ⟨j, hj, hlt⟩ : ∃ j, d.span? j = d.span? i ∧ j < i := by
    unfold IsFirst at hfirst
    simpa only [not_forall, Nat.not_le, exists_prop] using hfirst
  have hencloses : d.Encloses j i :=
    ⟨s, s, hj.trans hs, hs, ⟨Nat.le_refl _, Nat.le_refl _⟩, .inr hlt⟩
  cases hparent : d.parent? i with
  | none => exact absurd hencloses (h.outermost i hparent j)
  | some f =>
    obtain ⟨u, s', hu, hs', hcovers, -⟩ := h.encloses i f hparent
    obtain rfl := Option.some.inj (hs.symm.trans hs')
    have hle := (h.nearest i f u hparent hu j s hencloses (hj.trans hs)).1
    have hspan := h.eq_of_length_eq hq hs hu hsq (hcovers.trans hsq)
      (Nat.le_antisymm hcovers.length_le hle)
    exact ⟨f, rfl, hspan ▸ hu⟩

/-- The smallest declaration around a place lies inside all others. -/
theorem isInside_of_covering? (hi : d.covering? q false = some i) (hk : d.IsAround q k)
    (hne : k ≠ i) : d.IsInside i k := by
  obtain ⟨s, hs, hsq, hleast⟩ := least_of_covering? hi
  obtain ⟨t, ht, htq⟩ := isAround_iff_span?.1 hk
  obtain ⟨hl, hlast⟩ := hleast k t ht htq
  refine Encloses.isInside ⟨t, s, ht, hs, h.covers_of_length_le hq hs ht hsq htq hl, ?_⟩
  rcases Nat.lt_or_eq_of_le hl with hlt | heq
  · exact .inl hlt
  · exact .inr (Nat.lt_of_le_of_ne (hlast heq) hne)

/-- **The way outwards from the smallest declaration around a place** visits it and then the first
declaration with each span around the place, from the inside to the outside. -/
theorem exists_outwards :
    ∃ way, d.Outwards (d.covering? q false) way ∧ way.Nodup ∧ way.Pairwise d.IsInside ∧
      ∀ k, k ∈ way ↔ d.IsAround q k ∧ (d.covering? q false = some k ∨ d.IsFirst k) := by
  cases hstart : d.covering? q false with
  | none =>
    refine ⟨[], .done, .nil, .nil, fun k => ?_⟩
    rw [covering?_false, Option.map_eq_none_iff, leastLast?_eq_none_iff] at hstart
    simp [isAround_iff, hstart]
  | some i =>
    obtain ⟨s, hs, hsq, hleast⟩ := least_of_covering? hstart
    have hvisits : ∀ k, (d.IsFirst k ∧ ∃ t, d.span? k = some t ∧ t.Covers q ∧
        s.length ≤ t.length) ↔ d.IsAround q k ∧ d.IsFirst k := by
      intro k
      rw [isAround_iff_span?]
      constructor
      · rintro ⟨hk, t, ht, htq, -⟩
        exact ⟨⟨t, ht, htq⟩, hk⟩
      · rintro ⟨⟨t, ht, htq⟩, hk⟩
        exact ⟨hk, t, ht, htq, (hleast k t ht htq).1⟩
    have hi : d.IsAround q i := isAround_iff_span?.2 ⟨s, hs, hsq⟩
    by_cases hfirst : d.IsFirst i
    · obtain ⟨way, hway, hnodup, hinside, hmem⟩ := h.exists_outwards_of_isFirst hq hs hsq hfirst
      refine ⟨way, hway, hnodup, hinside, fun k => ?_⟩
      rw [hmem, hvisits]
      constructor
      · rintro ⟨hk, hk'⟩
        exact ⟨hk, .inr hk'⟩
      · rintro ⟨hk, heq | hk'⟩
        · exact ⟨hk, Option.some.inj heq ▸ hfirst⟩
        · exact ⟨hk, hk'⟩
    · obtain ⟨f, hparent, hf⟩ := h.exists_parent?_of_not_isFirst hq hs hsq hfirst
      obtain ⟨way, hway, hnodup, hinside, hmem⟩ :=
        h.exists_outwards_of_isFirst hq hf hsq (h.isFirst_parent hparent)
      refine ⟨i :: way, .step (hparent ▸ hway), List.nodup_cons.2 ⟨fun hmem' => ?_, hnodup⟩,
        List.pairwise_cons.2 ⟨fun k hk => ?_, hinside⟩, fun k => ?_⟩
      · exact hfirst ((hmem i).1 hmem').1
      · obtain ⟨hk, t, ht, htq, -⟩ := (hmem k).1 hk
        refine h.isInside_of_covering? hq hstart (isAround_iff_span?.2 ⟨t, ht, htq⟩) ?_
        rintro rfl
        exact hfirst hk
      · rw [List.mem_cons, hmem, hvisits]
        constructor
        · rintro (rfl | ⟨hk, hk'⟩)
          · exact ⟨hi, .inl rfl⟩
          · exact ⟨hk, .inr hk'⟩
        · rintro ⟨hk, heq | hk'⟩
          · exact .inl (Option.some.inj heq).symm
          · exact .inr ⟨hk, hk'⟩

end Contained

end CallerClosure.Document
