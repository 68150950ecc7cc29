import CallerClosure.Path

/-!
# Symbols and where they are declared

A symbol carries an identity, a name, a kind and the locations of its declarations. Two
symbols are the same symbol when their identities agree, whatever else they carry.

* `SymbolKind.IsMethodLike` holds of the kinds that take part in resolution and closures;
* `Symbol.source?` is the first location that lies in a document;
* `ReferenceLocation` is a place where a symbol is used.
-/

namespace CallerClosure

/-- The identity of a declared symbol. -/
abbrev SymbolId := String

/-- The kind of a symbol. -/
inductive SymbolKind
  | method
  | function
  | constructor
  | operator
  | property
  | field
  | «variable»
  | constant
  | «class»
  | struct
  | enum
  | interface
  | module
  | other
  deriving DecidableEq

namespace SymbolKind

/-- Every kind, in order of declaration. -/
def all : List SymbolKind :=
  [.method, .function, .constructor, .operator, .property, .field, .«variable», .constant,
    .«class», .struct, .enum, .interface, .module, .other]

/-- The name of a kind. -/
def name : SymbolKind → String
  | method => "method"
  | function => "function"
  | constructor => "constructor"
  | operator => "operator"
  | property => "property"
  | field => "field"
  | «variable» => "variable"
  | constant => "constant"
  | «class» => "class"
  | struct => "struct"
  | enum => "enum"
  | interface => "interface"
  | module => "module"
  | other => "other"

/-- The kind with a name. -/
def ofName? (text : String) : Option SymbolKind :=
  all.find? fun k => k.name == text

/-- Whether a kind can be called like a method. -/
def isMethodLike : SymbolKind → Bool
  | method | function | constructor | operator => true
  | _ => false

theorem ofName?_name (k : SymbolKind) : ofName? k.name = some k := by
  cases k <;> rfl

end SymbolKind

/-- Where a symbol is declared. -/
inductive SymbolLocation
  /-- In a document: the whole declaration and the offset of the declared name. -/
  | source (document : Path) (span : Span) (nameOffset : Nat)
  /-- In prebuilt metadata, which has no text. -/
  | metadata (container : String)
  deriving DecidableEq

/-- Whether a location lies in a document. -/
def SymbolLocation.isInSource : SymbolLocation → Bool
  | source .. => true
  | metadata _ => false

/-- A declared symbol. -/
structure Symbol where
  id : SymbolId
  name : String
  kind : SymbolKind
  locations : List SymbolLocation
  deriving DecidableEq

/-- A declaration in a document. -/
structure SourceLocation where
  document : Path
  span : Span
  nameOffset : Nat
  deriving DecidableEq

namespace Symbol

/-- Whether two symbols are the same symbol. -/
def Same (s t : Symbol) : Prop := s.id = t.id

instance (s t : Symbol) : Decidable (s.Same t) :=
  inferInstanceAs (Decidable (s.id = t.id))

/-- Whether a symbol can be called like a method. -/
def isMethodLike (s : Symbol) : Bool := s.kind.isMethodLike

/-- The first location that lies in a document. -/
def firstSource? : List SymbolLocation → Option SourceLocation
  | [] => none
  | .source document span nameOffset :: _ => some ⟨document, span, nameOffset⟩
  | .metadata _ :: rest => firstSource? rest

/-- The first declaration of a symbol that lies in a document. -/
def source? (s : Symbol) : Option SourceLocation := firstSource? s.locations

/-- The first metadata container of a list of locations. -/
def firstContainer? : List SymbolLocation → Option String
  | [] => none
  | .metadata container :: _ => some container
  | .source .. :: rest => firstContainer? rest

/-- The text that shows a symbol to a reader. -/
def display (s : Symbol) : String := s!"{s.kind.name} {s.name} ({s.id})"

end Symbol

/-- A place where a symbol is used. -/
structure ReferenceLocation where
  document : Path
  span : Span
  deriving DecidableEq

/-- The text `path@start..stop`. -/
def ReferenceLocation.display (r : ReferenceLocation) : String :=
  s!"{r.document.text}@{r.span.display}"

end CallerClosure
