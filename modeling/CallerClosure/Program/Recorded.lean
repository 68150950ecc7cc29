import CallerClosure.Program.Basic
import CallerClosure.Program.Recording

/-!
# Asking a recorded program

A recorded program never changes, so it answers the same way in every state of any type.
Nodes are natural numbers.
-/

namespace CallerClosure.RecordedProgram

/-- The symbol with an identity. -/
def symbol? (r : RecordedProgram) (id : SymbolId) : Option Symbol :=
  r.symbols.find? fun s => s.id == id

/-- The text of a document. -/
def text? (r : RecordedProgram) (document : Path) : Option Text :=
  textOf? r.documents document

/-- The nodes of a document with their indices, from outside to inside. -/
def nodesOf (r : RecordedProgram) (document : Path) : List (RecordedNode × Nat) :=
  RecordedNode.ofDocument r.nodes document

/-- The parent of a node. -/
def parent? (r : RecordedProgram) (node : Nat) : Option Nat :=
  (r.parents.find? fun p => p.1 == node).bind (·.2)

/-- The smallest node around a span, the innermost one in case of a tie. -/
def smallestCovering? (r : RecordedProgram) (document : Path) (span : Span) : Option Nat :=
  let around := (r.nodesOf document).filter fun n => decide (n.1.span.Covers span)
  (leastLast? (fun n => n.1.span.length) around).map (·.2)

/-- Check that a span ends within a document of the program. -/
def checkBounds (r : RecordedProgram) (document : Path) (span : Span) :
    Except IndexError Unit :=
  match r.text? document with
  | none => .error (.unknownDocument document)
  | some text =>
    if text.size < span.stop then .error (.invalidSpan document span) else .ok ()

/-- The symbol that a node uses. -/
def used? (r : RecordedProgram) (node : Nat) : Option Symbol :=
  match (r.nodes[node]?).map RecordedNode.role with
  | some (.use id) => r.symbol? id
  | _ => none

/-- The symbol that a node declares. -/
def declared? (r : RecordedProgram) (node : Nat) : Option Symbol :=
  match (r.nodes[node]?).map RecordedNode.role with
  | some (.declaration id) => r.symbol? id
  | _ => none

/-- The first method that is declared on the way outwards from a node, within `limit` steps. -/
def enclosingMethod? (r : RecordedProgram) : Nat → Nat → Option Symbol
  | 0, _ => none
  | limit + 1, node =>
    match (r.declared? node).filter Symbol.isMethodLike with
    | some method => some method
    | none => (r.parent? node).bind (r.enclosingMethod? limit)

/-- The places where a symbol is used. -/
def referencesTo (r : RecordedProgram) (id : SymbolId) : List ReferenceLocation :=
  (r.references.filter fun u => u.target == id).map fun u => ⟨u.document, u.span⟩

/-- The answer to `coveringNode`. -/
def covering (r : RecordedProgram) (document : Path) (span : Span) :
    Except IndexError (Option Nat) :=
  match r.text? document with
  | none => .ok none
  | some _ => (r.checkBounds document span).map fun _ => r.smallestCovering? document span

/-- The answer to `containingDeclaration`. -/
def containing (r : RecordedProgram) (location : ReferenceLocation) :
    Except IndexError (Option Symbol) :=
  (r.checkBounds location.document location.span).map fun _ =>
    (r.smallestCovering? location.document location.span).bind
      (r.enclosingMethod? (r.nodes.length + 1))

/-- The answer to `declarationText`. -/
def declaration (r : RecordedProgram) (symbol : Symbol) : Except IndexError (Option Text) :=
  match symbol.source? with
  | none => .ok none
  | some source =>
    match r.text? source.document with
    | none => .error (.unknownDocument source.document)
    | some text =>
      match text.slice? source.span with
      | none => .error (.invalidSpan source.document source.span)
      | some fragment => .ok (some fragment)

/-- The recorded program as a program. -/
def program {σ : Type} (r : RecordedProgram) : Program σ Nat where
  coveringNode document span := Query.ofReader fun _ => r.covering document span
  parent node _ := r.parent? node
  referencedSymbol node := pure (r.used? node)
  declaredSymbol node := pure (r.declared? node)
  findReferences symbol := pure (r.referencesTo symbol.id)
  containingDeclaration location := Query.ofReader fun _ => r.containing location
  declarationText symbol := Query.ofReader fun _ => r.declaration symbol

end CallerClosure.RecordedProgram
