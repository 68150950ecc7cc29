import CallerClosure.Proofs.Outline.Spans
import Mathlib.Order.Interval.Set.Basic

/-!
# Declarations found by their names

A place in a document names the smallest declaration whose name touches it. Where the name of a
declaration touches no other name, it does not matter how the declarations are nested: the name
alone leads to the declaration.

* `Declaration.touched` is where a name is touched, `Document.NamedApart` says that no other name
  is touched there;
* `Document.named` lists the declarations whose names are touched at a place, among which
  `Document.namedAt?` looks for the smallest;
* `Document.namedAt?_of_namedApart` says what the places in such a name lead to, and
  `Document.exists_touched_offset` that the position a server gives for the start of a name is one
  of them.
-/

namespace CallerClosure

variable {d : Document} {c : Declaration} {text : Text} {i offset : Nat}

/-- The offsets at which the name of a declaration is touched. Its end is one of them. -/
def Declaration.touched (c : Declaration) : Set Nat := Set.Icc c.name.start c.name.stop

namespace Document

/-- The declaration `i` has a name that touches no other name of the document. -/
def NamedApart (d : Document) (i : Nat) (c : Declaration) : Prop :=
  d.declarations[i]? = some c ∧
    ∀ j e, j ≠ i → d.declarations[j]? = some e → ∀ offset ∈ c.touched, offset ∉ e.touched

/-- The declarations whose names are touched at an offset with their indices, in the order of the
outline. -/
def named (d : Document) (offset : Nat) : List (Declaration × Nat) :=
  d.declarations.zipIdx.filter fun (c, _) =>
    decide (c.name.start ≤ offset) && decide (offset ≤ c.name.stop)

theorem mem_named {found : Declaration × Nat} :
    found ∈ d.named offset ↔
      d.declarations[found.2]? = some found.1 ∧ offset ∈ found.1.touched := by
  simp [named, List.mem_zipIdx_iff_getElem?, Declaration.touched]

theorem namedAt?_eq (d : Document) (offset : Nat) :
    d.namedAt? offset =
      (leastFirst? (fun (c, _) => c.span.length) (d.named offset)).map (·.2) :=
  rfl

/-- **Every place in a name that stands apart leads to its declaration.** -/
theorem namedAt?_of_namedApart (h : d.NamedApart i c) (hoffset : offset ∈ c.touched) :
    d.namedAt? offset = some i := by
  obtain ⟨hc, hapart⟩ := h
  have hmem : (c, i) ∈ d.named offset := mem_named.2 ⟨hc, hoffset⟩
  rw [namedAt?_eq]
  cases hleast : leastFirst? _ (d.named offset) with
  | none =>
    rw [leastFirst?_eq_none_iff.1 hleast] at hmem
    cases hmem
  | some found =>
    obtain ⟨hfound, hother⟩ := mem_named.1 (mem_of_leastFirst? hleast)
    rw [Option.map_some]
    by_contra hne
    exact hapart found.2 found.1 (fun heq => hne (congrArg some heq)) hfound offset hoffset hother

/-- The start of the range that a server gives for a name touches the name, even if the range is
reversed. -/
theorem exists_touched_offset (h : Declared text c) :
    ∃ offset, text.offset? c.entry.selection.start = some offset ∧ offset ∈ c.touched := by
  obtain ⟨-, hname⟩ := h
  unfold Text.span? at hname
  split at hname
  · rename_i a b ha hb
    refine ⟨a, ha, ?_⟩
    rw [Declaration.touched, ← Option.some.inj hname, Span.ofBounds]
    split
    · exact ⟨Nat.le_refl a, ‹a ≤ b›⟩
    · exact ⟨Nat.le_of_not_le ‹¬ a ≤ b›, Nat.le_refl a⟩
  · cases hname

end Document

end CallerClosure
