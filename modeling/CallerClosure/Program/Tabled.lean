import CallerClosure.Program.Basic

/-!
# Programs given by tables

A `TabledProgram` answers every question from a table. It can answer in ways that no source
code gives rise to: nodes that are their own ancestors, references to places without a
document, texts that no document holds. A question that is in no table has no answer.
-/

namespace CallerClosure

/-- A node of a tabled program. -/
structure TabledNode where
  parent : Option Nat
  referenced : Option SymbolId
  declared : Option SymbolId

/-- The answers of a program, as tables. -/
structure TabledProgram where
  symbols : List Symbol
  nodes : List TabledNode
  /-- The node around a span. -/
  cover : List (ReferenceLocation × Nat)
  /-- The declaration around a span. -/
  containers : List (ReferenceLocation × SymbolId)
  references : List (SymbolId × List ReferenceLocation)
  texts : List (SymbolId × Text)

namespace TabledProgram

/-- The symbol with an identity. -/
def symbol? (t : TabledProgram) (id : SymbolId) : Option Symbol :=
  t.symbols.find? fun s => s.id == id

/-- The first entry of a table under a key. -/
def find? {κ α : Type} [DecidableEq κ] (table : List (κ × α)) (key : κ) : Option α :=
  (table.find? fun entry => decide (entry.1 = key)).map (·.2)

/-- The tabled program as a program. -/
def program {σ : Type} (t : TabledProgram) : Program σ Nat where
  coveringNode document span :=
    pure (find? t.cover ⟨document, span⟩)
  parent node _ := t.nodes[node]?.bind (·.parent)
  referencedSymbol node :=
    pure ((t.nodes[node]?.bind (·.referenced)).bind t.symbol?)
  declaredSymbol node :=
    pure ((t.nodes[node]?.bind (·.declared)).bind t.symbol?)
  findReferences symbol := pure ((find? t.references symbol.id).getD [])
  containingDeclaration location := pure ((find? t.containers location).bind t.symbol?)
  declarationText symbol := pure (find? t.texts symbol.id)

end TabledProgram

end CallerClosure
