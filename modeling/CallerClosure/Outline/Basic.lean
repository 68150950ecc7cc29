import CallerClosure.Symbol.Basic
import CallerClosure.Text.Position

/-!
# Outlines

An outline is what a language server says about the declarations of a document: a forest of
named nodes, each with the range of the declaration and the range of its name.

`Outline.flatten` lists the nodes of a forest depth first. Each entry knows the index of its
parent, which always precedes it.
-/

namespace CallerClosure

/-- A node of an outline. -/
structure OutlineNode where
  name : String
  kind : SymbolKind
  detail : Option String
  range : Range
  selection : Range
  children : List OutlineNode

/-- An outline: a forest of nodes. -/
abbrev Outline := List OutlineNode

/-- A node without its subtree, as an entry of a flattened outline. -/
structure OutlineEntry where
  name : String
  kind : SymbolKind
  range : Range
  selection : Range
  /-- The index of the entry that this one is a child of. -/
  parent : Option Nat
  deriving DecidableEq

mutual

/-- The entries of a node and its subtree, where the node has the index `index`. -/
def OutlineNode.flattenFrom (parent : Option Nat) (index : Nat) : OutlineNode → List OutlineEntry
  | ⟨name, kind, _, range, selection, children⟩ =>
    ⟨name, kind, range, selection, parent⟩ ::
      Outline.flattenFrom (some index) (index + 1) children

/-- The entries of a forest whose first node has the index `index`. -/
def Outline.flattenFrom (parent : Option Nat) (index : Nat) : List OutlineNode → List OutlineEntry
  | [] => []
  | node :: rest =>
    let entries := node.flattenFrom parent index
    entries ++ Outline.flattenFrom parent (index + entries.length) rest

end

/-- The nodes of an outline, depth first. -/
def Outline.flatten (outline : Outline) : List OutlineEntry :=
  Outline.flattenFrom none 0 outline

/-- A range in a file, as a language server reports it. -/
structure FileRange where
  file : Path
  range : Range
  deriving DecidableEq

end CallerClosure
