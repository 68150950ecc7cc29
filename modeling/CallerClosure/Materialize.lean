import CallerClosure.Program.Basic
import CallerClosure.Symbol.Set

/-!
# One document from a set of symbols

Every member with a declaration in a document contributes the text of that declaration,
unchanged, then a newline if it lacks one, then an empty line. Other members are skipped.

* `FragmentOrder` says in which order the fragments are written;
* `SymbolSet.ordered` lists the members in that order;
* `Program.materialize` asks for each text and joins them.
-/

namespace CallerClosure

/-- The order of the fragments of a document. -/
inductive FragmentOrder
  /-- By document, offset and identity; members without a source come last. -/
  | declaration
  /-- As the members were found. -/
  | discovery
  deriving DecidableEq

namespace FragmentOrder

/-- The order that holds where none is asked for. -/
def standard : FragmentOrder := declaration

/-- The name of an order. -/
def name : FragmentOrder → String
  | declaration => "declaration"
  | discovery => "discovery"

/-- The order with a name in lower case. -/
def ofName? (text : String) : Option FragmentOrder :=
  if text = "declaration" then some declaration
  else if text = "discovery" then some discovery
  else none

theorem ofName?_name (o : FragmentOrder) : ofName? o.name = some o := by
  cases o <;> rfl

end FragmentOrder

namespace Symbol

/-- Symbols in order of declaration: by document, offset and identity, those without a
source after those with one. -/
def compareDeclarations (a b : Symbol) : Ordering :=
  match a.source?, b.source? with
  | some s, some t =>
    ((s.document.compare t.document).then (Ord.compare s.span.start t.span.start)).then
      (compareOfLessAndEq a.id b.id)
  | some _, none => .lt
  | none, some _ => .gt
  | none, none => compareOfLessAndEq a.id b.id

end Symbol

/-- The members of a set in an order. -/
def SymbolSet.ordered (s : SymbolSet) : FragmentOrder → List Symbol
  | .declaration => s.toList.mergeSort fun a b => (a.compareDeclarations b).isLE
  | .discovery => s.toList

/-- A document made of fragments. -/
structure Materialized where
  text : Text
  /-- The number of fragments. -/
  fragments : Nat
  /-- The members without a fragment, in order. -/
  skipped : List SymbolId
  deriving DecidableEq

namespace Materialized

/-- A fragment with the newlines that end it. -/
def closed (fragment : Text) : Text :=
  if fragment.getLast? = some '\n' then fragment ++ ['\n'] else fragment ++ ['\n', '\n']

/-- The empty document. -/
def empty : Materialized := ⟨[], 0, []⟩

/-- A fragment in front of a document. -/
def addFragment (fragment : Text) (m : Materialized) : Materialized :=
  { m with text := closed fragment ++ m.text, fragments := m.fragments + 1 }

/-- A skipped member in front of a document. -/
def addSkipped (id : SymbolId) (m : Materialized) : Materialized :=
  { m with skipped := id :: m.skipped }

end Materialized

namespace Program

variable {σ ν : Type}

/-- The text of a member; nothing if it has no declaration in a document. -/
def fragment (p : Program σ ν) (symbol : Symbol) : Query σ (Option Text) :=
  match symbol.source? with
  | none => pure none
  | some _ => p.declarationText symbol

/-- The document of a list of symbols. -/
def materializeList (p : Program σ ν) : List Symbol → Query σ Materialized
  | [] => pure .empty
  | symbol :: rest => do
    let fragment ← p.fragment symbol
    let document ← p.materializeList rest
    match fragment with
    | none => pure (document.addSkipped symbol.id)
    | some text => pure (document.addFragment text)

/-- The document of a set of symbols. -/
def materialize (p : Program σ ν) (set : SymbolSet) (order : FragmentOrder) :
    Query σ Materialized :=
  p.materializeList (set.ordered order)

end Program

end CallerClosure
