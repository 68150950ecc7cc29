import CallerClosure.Outline.Document
import CallerClosure.Proofs.Program.Nesting
import Mathlib.Data.List.Perm.Subperm

/-!
# Ways outwards through a document

Declarations know their parents, so a way leads outwards from each of them.

* `Document.Outwards` is such a way, `Document.IsInside` the order along it;
* `Document.around` lists the declarations around a span in the order of the outline, and
  `covering?_false` and `covering?_true` find the smallest of them and the smallest method;
* `Document.findSome?_method?` is about the first method on a way.
-/

namespace CallerClosure.Document

/-- The parent of the declaration `index`. -/
def parent? (d : Document) (index : Nat) : Option Nat :=
  d.declarations[index]?.bind (·.parent)

/-- The way outwards from a declaration: each declaration is followed by its parent, and the
last one has no parent. -/
inductive Outwards (d : Document) : Option Nat → List Nat → Prop
  | done : Outwards d none []
  | step {index : Nat} {rest : List Nat} (h : Outwards d (d.parent? index) rest) :
      Outwards d (some index) (index :: rest)

/-- A declaration that covers a span. -/
def IsAround (d : Document) (span : Span) (index : Nat) : Prop :=
  ∃ c, d.declarations[index]? = some c ∧ c.span.Covers span

/-- A declaration that lies inside another one. Of two declarations with one span the later one
lies inside the earlier one. -/
def IsInside (d : Document) (inner outer : Nat) : Prop :=
  ∃ c e, d.declarations[inner]? = some c ∧ d.declarations[outer]? = some e ∧
    e.span.Covers c.span ∧ (c.span = e.span → outer < inner)

/-- Whether a declaration is a method. -/
def isMethod (d : Document) (index : Nat) : Bool :=
  d.declarations[index]?.any (·.entry.kind.isMethodLike)

/-- The symbol of a declaration that is a method. -/
def method? (d : Document) (index : Nat) : Option Symbol :=
  (d.symbol? index).filter Symbol.isMethodLike

/-- The declarations around a span with their indices, in the order of the outline. -/
def around (d : Document) (span : Span) : List (Declaration × Nat) :=
  d.declarations.zipIdx.filter fun (c, _) => decide (c.span.Covers span)

variable {d : Document} {span : Span}

/-! ### Around a span -/

theorem mem_around {c : Declaration × Nat} :
    c ∈ d.around span ↔ d.declarations[c.2]? = some c.1 ∧ c.1.span.Covers span := by
  simp [around, List.mem_zipIdx_iff_getElem?]

theorem isAround_iff {index : Nat} :
    d.IsAround span index ↔ index ∈ (d.around span).map (·.2) := by
  constructor
  · rintro ⟨c, hc, hcovers⟩
    exact List.mem_map.2 ⟨(c, index), mem_around.2 ⟨hc, hcovers⟩, rfl⟩
  · intro h
    obtain ⟨⟨c, _⟩, hc, rfl⟩ := List.mem_map.1 h
    exact ⟨c, mem_around.1 hc⟩

theorem isMethod_of_mem_around {c : Declaration × Nat} (h : c ∈ d.around span) :
    d.isMethod c.2 = c.1.entry.kind.isMethodLike := by
  rw [isMethod, (mem_around.1 h).1]
  rfl

theorem pairwise_around : (d.around span).Pairwise (·.2 < ·.2) :=
  (pairwise_zipIdx d.declarations).filter _

/-- No way is longer than the document. -/
theorem length_le_of_forall_lt {way : List Nat} (hnodup : way.Nodup)
    (hvalid : ∀ index ∈ way, index < d.declarations.length) :
    way.length ≤ d.declarations.length := by
  have hsub : way ⊆ List.range d.declarations.length :=
    fun index hindex => List.mem_range.2 (hvalid index hindex)
  simpa using (hnodup.subperm hsub).length_le

/-- No way around a span is longer than the document. -/
theorem length_le_of_nodup {way : List Nat} (hnodup : way.Nodup)
    (haround : ∀ index ∈ way, d.IsAround span index) : way.length ≤ d.declarations.length := by
  refine length_le_of_forall_lt hnodup fun index hindex => ?_
  obtain ⟨c, hc, -⟩ := haround index hindex
  exact (List.getElem?_eq_some_iff.1 hc).1

/-! ### The smallest declaration -/

theorem covering?_false (d : Document) (span : Span) :
    d.covering? span false =
      (leastLast? (fun (c, _) => c.span.length) (d.around span)).map (·.2) := by
  simp [covering?, around]

theorem covering?_true (d : Document) (span : Span) :
    d.covering? span true =
      (leastLast? (fun (c, _) => c.span.length)
        ((d.around span).filter fun (c, _) => c.entry.kind.isMethodLike)).map (·.2) := by
  simp [covering?, around, List.filter_filter, Bool.and_comm]

theorem isAround_of_covering?_true {index : Nat} (h : d.covering? span true = some index) :
    d.IsAround span index := by
  rw [covering?_true] at h
  obtain ⟨c, hleast, rfl⟩ := Option.map_eq_some_iff.1 h
  have hmem := (List.mem_filter.1 (mem_of_leastLast? hleast)).1
  exact ⟨c.1, mem_around.1 hmem⟩

/-- There is a smallest method around a span if there is any method around it. -/
theorem isSome_covering?_true :
    (d.covering? span true).isSome = true ↔
      ∃ index, d.IsAround span index ∧ d.isMethod index = true := by
  rw [covering?_true, Option.isSome_map, ← Option.ne_none_iff_isSome, Ne, leastLast?_eq_none_iff,
    List.filter_eq_nil_iff]
  constructor
  · intro h
    simp only [not_forall, not_not] at h
    obtain ⟨⟨c, index⟩, hc, hmethod⟩ := h
    exact ⟨index, ⟨c, mem_around.1 hc⟩, (isMethod_of_mem_around hc).trans hmethod⟩
  · rintro ⟨index, ⟨c, hc⟩, hmethod⟩ hnone
    have hmem : (c, index) ∈ d.around span := mem_around.2 hc
    exact hnone (c, index) hmem ((isMethod_of_mem_around hmem).symm.trans hmethod)

/-- Where each declaration around a span covers the next one, the last one is the smallest. -/
theorem covering?_false_of_pairwise
    (h : (d.around span).Pairwise fun x y => x.1.span.Covers y.1.span) :
    d.covering? span false = ((d.around span).map (·.2)).getLast? := by
  rw [covering?_false, leastLast?_eq_getLast? (h.imp Span.Covers.length_le), List.getLast?_map]

/-- Then the last method is the smallest one. -/
theorem covering?_true_of_pairwise
    (h : (d.around span).Pairwise fun x y => x.1.span.Covers y.1.span) :
    d.covering? span true = ((d.around span).map (·.2)).reverse.find? d.isMethod := by
  have hfilter : (d.around span).filter (fun (c, _) => c.entry.kind.isMethodLike) =
      (d.around span).filter (d.isMethod ∘ (·.2)) :=
    List.filter_congr fun c hc => (isMethod_of_mem_around hc).symm
  rw [covering?_true, leastLast?_eq_getLast? ((h.filter _).imp Span.Covers.length_le), hfilter,
    ← List.getLast?_filter, List.filter_map, List.getLast?_map]

/-! ### Methods on a way -/

theorem method?_eq (d : Document) (index : Nat) :
    d.method? index = if d.isMethod index then d.symbol? index else none := by
  unfold method? isMethod symbol?
  cases d.declarations[index]? with
  | none => rfl
  | some c => exact Option.filter_some

theorem isSome_method? (d : Document) (index : Nat) :
    (d.method? index).isSome = d.isMethod index := by
  rw [method?_eq]
  unfold isMethod symbol?
  cases d.declarations[index]? with
  | none => rfl
  | some c => cases hmethod : c.entry.kind.isMethodLike <;> simp [hmethod]

/-- The first method on a way is the symbol of the first declaration there that is a method. -/
theorem findSome?_method? (d : Document) (way : List Nat) :
    way.findSome? d.method? = (way.find? d.isMethod).bind d.symbol? := by
  induction way with
  | nil => rfl
  | cons index rest ih =>
    rw [List.findSome?_cons, List.find?_cons]
    have hsome := isSome_method? d index
    cases hmethod : d.isMethod index with
    | true =>
      obtain ⟨m, hm⟩ := Option.isSome_iff_exists.1 (hsome.trans hmethod)
      rw [hm]
      rw [method?_eq, if_pos hmethod] at hm
      exact hm.symm
    | false =>
      rw [hmethod, Option.isSome_eq_false_iff, Option.isNone_iff_eq_none] at hsome
      rw [hsome]
      exact ih

theorem isSome_findSome?_method? (d : Document) (way : List Nat) :
    (way.findSome? d.method?).isSome = true ↔ ∃ index ∈ way, d.isMethod index = true := by
  rw [List.findSome?_isSome_iff]
  simp only [isSome_method?]

/-- The smallest method around a span has a symbol. -/
theorem isSome_covering?_bind_symbol? (d : Document) (span : Span) :
    ((d.covering? span true).bind d.symbol?).isSome = (d.covering? span true).isSome := by
  cases h : d.covering? span true with
  | none => rfl
  | some index =>
    obtain ⟨c, hc, -⟩ := isAround_of_covering?_true h
    rw [Option.bind_some, symbol?, hc]
    rfl

end CallerClosure.Document
