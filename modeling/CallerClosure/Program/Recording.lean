import CallerClosure.Least
import CallerClosure.Program.Nesting
import CallerClosure.Symbol.Basic

/-!
# Recording a program

A program can be recorded ahead of time: its documents, the symbols they declare, the
symbols that exist in metadata only, and the places where symbols are used.

* `Recording` collects these in order. Adding a document again replaces its text;
* `Recording.build` checks the recording and gives a `RecordedProgram`, or the first fault:
  declarations are checked first, then metadata, then references;
* the syntax tree of a document comes from how its spans nest. Nodes are listed from outside
  to inside: by start, then the longer first, then documents before declarations before
  uses, then in order of recording.
-/

namespace CallerClosure

/-- A declaration as it is recorded. -/
structure RecordedDeclaration where
  document : Path
  span : Span
  symbol : Symbol
  deriving DecidableEq

/-- A use of a symbol as it is recorded. -/
structure RecordedReference where
  document : Path
  span : Span
  target : SymbolId
  deriving DecidableEq

/-- What has been recorded of a program. -/
structure Recording where
  documents : List (Path × Text)
  declarations : List RecordedDeclaration
  metadata : List Symbol
  references : List RecordedReference

/-- Why a recording is not a program. -/
inductive BuildError
  /-- A span lies in a document that was never added. -/
  | missingDocument (document : Path)
  /-- A span does not cut its document at character boundaries. -/
  | spanOutOfBounds (document : Path) (span : Span)
  /-- Two symbols have one identity. -/
  | duplicateSymbol (id : SymbolId)
  /-- A symbol is used but not declared. -/
  | unknownTarget (id : SymbolId)
  deriving DecidableEq

/-- The wording of a fault. -/
def BuildError.message : BuildError → String
  | missingDocument document => s!"document {document.text} was never added"
  | spanOutOfBounds document span => s!"span {span.display} does not fit document {document.text}"
  | duplicateSymbol id => s!"symbol {id} is declared twice"
  | unknownTarget id => s!"reference targets unknown symbol {id}"

/-- The text of a document in a list of documents. -/
def textOf? (documents : List (Path × Text)) (document : Path) : Option Text :=
  (documents.find? fun d => decide (d.1.Same document)).map (·.2)

namespace Recording

/-- The recording of nothing. -/
def empty : Recording := ⟨[], [], [], []⟩

/-- Documents with one more, or with the text of one replaced. -/
def putDocument (path : Path) (text : Text) : List (Path × Text) → List (Path × Text)
  | [] => [(path, text)]
  | (p, t) :: rest =>
    if p.Same path then (p, text) :: rest else (p, t) :: putDocument path text rest

/-- Add a document. -/
def document (r : Recording) (path : Path) (text : Text) : Recording :=
  { r with documents := putDocument path text r.documents }

/-- The identity of a symbol that is declared at an offset of a document. The path is a text, and
is shown as it is written. -/
def sourceId (document : Path) (start : Nat) : SymbolId := s!"{document.text}#{start}"

/-- The identity of a symbol of a metadata container. -/
def metadataId (container name : String) : SymbolId := s!"{container}::{name}"

/-- Declare a symbol whose whole declaration is `span`. -/
def declare (r : Recording) (document : Path) (name : String) (kind : SymbolKind)
    (span : Span) : Recording :=
  let symbol : Symbol :=
    ⟨sourceId document span.start, name, kind, [.source document span span.start]⟩
  { r with declarations := r.declarations ++ [⟨document, span, symbol⟩] }

/-- Declare a symbol that exists in metadata only. -/
def declareInMetadata (r : Recording) (name : String) (kind : SymbolKind)
    (container : String) : Recording :=
  let symbol : Symbol := ⟨metadataId container name, name, kind, [.metadata container]⟩
  { r with metadata := r.metadata ++ [symbol] }

/-- Record a use of a symbol. -/
def reference (r : Recording) (document : Path) (target : SymbolId) (span : Span) : Recording :=
  { r with references := r.references ++ [⟨document, span, target⟩] }

end Recording

/-- What a node of a recorded syntax tree stands for. -/
inductive NodeRole
  | document
  | declaration (id : SymbolId)
  | use (id : SymbolId)
  deriving DecidableEq

/-- The rank of a role among nodes with one span, from outside to inside. -/
def NodeRole.rank : NodeRole → Nat
  | document => 0
  | declaration _ => 1
  | use _ => 2

/-- A node of a recorded syntax tree. -/
structure RecordedNode where
  document : Path
  span : Span
  role : NodeRole
  deriving DecidableEq

/-- A checked recording with its syntax trees. Nodes are named by their index in `nodes`. -/
structure RecordedProgram where
  documents : List (Path × Text)
  symbols : List Symbol
  references : List RecordedReference
  nodes : List RecordedNode
  /-- Each node with its parent. -/
  parents : List (Nat × Option Nat)

namespace RecordedNode

/-- Whether a node comes before another one or is the same, from outside to inside. -/
def isOutside (a b : RecordedNode × Nat) : Bool :=
  ((Ord.compare a.1.span.start b.1.span.start).then
    ((Ord.compare b.1.span.stop a.1.span.stop).then
      ((Ord.compare a.1.role.rank b.1.role.rank).then (Ord.compare a.2 b.2)))).isLE

/-- The nodes of a document with their indices, from outside to inside. -/
def ofDocument (nodes : List RecordedNode) (document : Path) : List (RecordedNode × Nat) :=
  (nodes.zipIdx.filter fun n => decide (n.1.document.Same document)).mergeSort isOutside

/-- The parents of the nodes of a document. -/
def parentsIn (nodes : List RecordedNode) (document : Path) : List (Nat × Option Nat) :=
  Nesting.parents ((ofDocument nodes document).map fun n => ⟨n.2, n.1.span⟩)

end RecordedNode

namespace Recording

/-- Check that a span cuts a document that was added at character boundaries. -/
def checkSpan (documents : List (Path × Text)) (document : Path) (span : Span) :
    Except BuildError Unit :=
  match textOf? documents document with
  | none => .error (.missingDocument document)
  | some text =>
    if (text.slice? span).isSome then .ok () else .error (.spanOutOfBounds document span)

/-- Check declarations in order; `seen` holds the identities before them. -/
def checkDeclarations (documents : List (Path × Text)) (seen : List SymbolId) :
    List RecordedDeclaration → Except BuildError Unit
  | [] => .ok ()
  | d :: rest =>
    match checkSpan documents d.document d.span with
    | .error e => .error e
    | .ok () =>
      if d.symbol.id ∈ seen then .error (.duplicateSymbol d.symbol.id)
      else checkDeclarations documents (d.symbol.id :: seen) rest

/-- Check metadata symbols in order; `seen` holds the identities before them. -/
def checkMetadata (seen : List SymbolId) : List Symbol → Except BuildError Unit
  | [] => .ok ()
  | s :: rest =>
    if s.id ∈ seen then .error (.duplicateSymbol s.id) else checkMetadata (s.id :: seen) rest

/-- Check references in order against the declared identities. -/
def checkReferences (documents : List (Path × Text)) (declared : List SymbolId) :
    List RecordedReference → Except BuildError Unit
  | [] => .ok ()
  | r :: rest =>
    match checkSpan documents r.document r.span with
    | .error e => .error e
    | .ok () =>
      if r.target ∈ declared then checkReferences documents declared rest
      else .error (.unknownTarget r.target)

/-- The symbols of a recording: those with a source, then those in metadata. -/
def symbols (r : Recording) : List Symbol :=
  r.declarations.map (·.symbol) ++ r.metadata

/-- The nodes of a recording: documents, then declarations, then uses. -/
def nodes (r : Recording) : List RecordedNode :=
  r.documents.map (fun d => ⟨d.1, ⟨0, d.2.size⟩, .document⟩) ++
    r.declarations.map (fun d => ⟨d.document, d.span, .declaration d.symbol.id⟩) ++
    r.references.map (fun u => ⟨u.document, u.span, .use u.target⟩)

/-- The program of a recording, without checks. -/
def freeze (r : Recording) : RecordedProgram where
  documents := r.documents
  symbols := r.symbols
  references := r.references
  nodes := r.nodes
  parents := r.documents.flatMap fun d => RecordedNode.parentsIn r.nodes d.1

/-- The program of a recording, or its first fault. -/
def build (r : Recording) : Except BuildError RecordedProgram :=
  match checkDeclarations r.documents [] r.declarations with
  | .error e => .error e
  | .ok () =>
    match checkMetadata (r.declarations.map (·.symbol.id)) r.metadata with
    | .error e => .error e
    | .ok () =>
      match checkReferences r.documents (r.symbols.map (·.id)) r.references with
      | .error e => .error e
      | .ok () => .ok r.freeze

end Recording

end CallerClosure
