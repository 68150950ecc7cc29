import CallerClosure.Outline.Document

/-!
# The spans of declarations

However a server arranges its outline, the declarations of a document are its entries, with the
spans that their ranges have in the text.

* `Document.mem_keep` says so of the declarations in the order of the outline;
* `Document.mem_ofOutline` says so of the declarations of a document, and `entry_mem_flatten`
  that they come from the entries of its outline;
* `Document.exists_of_symbol?` says where the symbols of a document are declared.
-/

namespace CallerClosure.Document

variable {p : Path} {text : Text} {outline : Outline}

@[simp] theorem path_ofOutline (p : Path) (text : Text) (outline : Outline) :
    (ofOutline p text outline).path = p := by
  unfold ofOutline
  dsimp only
  split <;> rfl

@[simp] theorem text_ofOutline (p : Path) (text : Text) (outline : Outline) :
    (ofOutline p text outline).text = text := by
  unfold ofOutline
  dsimp only
  split <;> rfl

/-- A declaration has the spans of its entry. -/
def Declared (text : Text) (c : Declaration) : Prop :=
  text.span? c.entry.range = some c.span ∧ text.span? c.entry.selection = some c.name

theorem mem_keep {entries : List OutlineEntry} {moved : List (Option Nat)} {kept : Nat}
    {c : Declaration} (h : c ∈ keep text entries moved kept) : Declared text c := by
  induction entries generalizing moved kept with
  | nil => cases h
  | cons entry rest ih =>
    rw [keep] at h
    split at h
    · rename_i span name hspan hname
      rcases List.mem_cons.1 h with rfl | h
      · exact ⟨hspan, hname⟩
      · exact ih h
    · exact ih h

theorem entry_mem_of_mem_keep {entries : List OutlineEntry} {moved : List (Option Nat)}
    {kept : Nat} {c : Declaration} (h : c ∈ keep text entries moved kept) : c.entry ∈ entries := by
  induction entries generalizing moved kept with
  | nil => cases h
  | cons entry rest ih =>
    rw [keep] at h
    split at h
    · rcases List.mem_cons.1 h with rfl | h
      · exact List.mem_cons_self
      · exact List.mem_cons_of_mem _ (ih h)
    · exact List.mem_cons_of_mem _ (ih h)

/-- Nesting changes nothing but the parents. -/
theorem mem_nestBySpan {declarations : List Declaration} {c : Declaration}
    (h : c ∈ nestBySpan declarations) :
    ∃ c' ∈ declarations, c'.entry = c.entry ∧ c'.span = c.span ∧ c'.name = c.name := by
  obtain ⟨⟨c', i⟩, hmem, rfl⟩ := List.mem_map.1 h
  exact ⟨c', (List.mem_zipIdx' hmem).2 ▸ List.getElem_mem _, rfl, rfl, rfl⟩

theorem mem_ofOutline {c : Declaration} (h : c ∈ (ofOutline p text outline).declarations) :
    Declared text c := by
  unfold ofOutline at h
  dsimp only at h
  split at h
  · exact mem_keep h
  · obtain ⟨c', hmem, hentry, hspan, hname⟩ := mem_nestBySpan h
    obtain ⟨hrange, hselection⟩ := mem_keep hmem
    exact ⟨by rw [← hentry, ← hspan, hrange], by rw [← hentry, ← hname, hselection]⟩

/-- The declarations of a document come from the entries of its outline. -/
theorem entry_mem_flatten {c : Declaration} (h : c ∈ (ofOutline p text outline).declarations) :
    c.entry ∈ outline.flatten := by
  unfold ofOutline at h
  dsimp only at h
  split at h
  · exact entry_mem_of_mem_keep h
  · obtain ⟨c', hmem, hentry, -⟩ := mem_nestBySpan h
    exact hentry ▸ entry_mem_of_mem_keep hmem

/-- The entries of nodes without children are these nodes. -/
theorem flattenFrom_of_flat {nodes : List OutlineNode} (h : ∀ node ∈ nodes, node.children = [])
    (parent : Option Nat) (index : Nat) :
    Outline.flattenFrom parent index nodes =
      nodes.map fun node => ⟨node.name, node.kind, node.range, node.selection, parent⟩ := by
  induction nodes generalizing index with
  | nil => rfl
  | cons node rest ih =>
    rw [List.forall_mem_cons] at h
    obtain ⟨_, _, _, _, _, children⟩ := node
    obtain rfl : children = [] := h.1
    rw [Outline.flattenFrom, OutlineNode.flattenFrom, Outline.flattenFrom, ih h.2]
    rfl

/-- A symbol of a document is declared in it, and nowhere else, where one of the ranges of the
outline lies. -/
theorem exists_of_symbol? {d : Document} {index : Nat} {symbol : Symbol}
    (h : d.symbol? index = some symbol) :
    ∃ c ∈ d.declarations, symbol.locations = [.source d.path c.span c.name.start] := by
  obtain ⟨c, hc, rfl⟩ := Option.map_eq_some_iff.1 h
  exact ⟨c, List.mem_of_getElem? hc, rfl⟩

end CallerClosure.Document
