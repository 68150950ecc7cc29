import CallerClosure.Least
import CallerClosure.Outline.Basic

/-!
# Documents with an outline

A document joins the text of a file with the declarations that a language server reports
for it, in byte offsets.

* `Document.ofOutline` drops the entries whose ranges do not lie in the text. A forest that
  has any child keeps its own hierarchy; a flat list gets one from containment of spans;
* `Document.covering?` is the smallest declaration around a span;
* `Document.namedAt?` is the declaration whose name touches an offset;
* `Document.symbol?` is the symbol that a declaration stands for.
-/

namespace CallerClosure

/-- A declaration of a document. -/
structure Declaration where
  entry : OutlineEntry
  /-- The whole declaration. -/
  span : Span
  /-- The declared name. -/
  name : Span
  /-- The index of the enclosing declaration. -/
  parent : Option Nat
  deriving DecidableEq

/-- A text with its declarations. -/
structure Document where
  path : Path
  text : Text
  declarations : List Declaration

namespace Document

/-- The declarations of the entries whose ranges lie in the text. `moved` holds, for each
entry so far, its index among the `kept` declarations before this one. -/
def keep (text : Text) : List OutlineEntry → List (Option Nat) → Nat → List Declaration
  | [], _, _ => []
  | entry :: rest, moved, kept =>
    match text.span? entry.range, text.span? entry.selection with
    | some span, some name =>
      ⟨entry, span, name, entry.parent.bind fun p => (moved[p]?).join⟩ ::
        keep text rest (moved ++ [some kept]) (kept + 1)
    | _, _ => keep text rest (moved ++ [none]) kept

/-- The entries whose ranges do not lie in the text. -/
def misplaced (text : Text) (outline : Outline) : List OutlineEntry :=
  outline.flatten.filter fun e =>
    (text.span? e.range).isNone || (text.span? e.selection).isNone

/-- The index of the smallest declaration around the declaration `index`. Of equal spans,
earlier declarations enclose later ones. -/
def enclosing? (declarations : List Declaration) (index : Nat) (span : Span) : Option Nat :=
  let around := declarations.zipIdx.filter fun (d, j) =>
    j != index && decide (d.span.Covers span) &&
      (decide (span.length < d.span.length) || decide (j < index))
  (leastFirst? (fun (d, _) => d.span.length) around).map (·.2)

/-- Declarations with the parents that containment gives them. -/
def nestBySpan (declarations : List Declaration) : List Declaration :=
  declarations.zipIdx.map fun (d, i) => { d with parent := enclosing? declarations i d.span }

/-- The document of a text and its outline. -/
def ofOutline (path : Path) (text : Text) (outline : Outline) : Document :=
  let entries := outline.flatten
  let declarations := keep text entries [] 0
  if entries.any fun e => e.parent.isSome then ⟨path, text, declarations⟩
  else ⟨path, text, nestBySpan declarations⟩

/-- Whether a span ends within the text. -/
def containsSpan (d : Document) (span : Span) : Bool := decide (span.stop ≤ d.text.size)

/-- The index of the smallest declaration around a span, the last one in case of a tie.
With `methodsOnly`, other declarations do not count. -/
def covering? (d : Document) (span : Span) (methodsOnly : Bool) : Option Nat :=
  let around := d.declarations.zipIdx.filter fun (c, _) =>
    decide (c.span.Covers span) && (!methodsOnly || c.entry.kind.isMethodLike)
  (leastLast? (fun (c, _) => c.span.length) around).map (·.2)

/-- The index of the smallest declaration whose name touches an offset, the first one in
case of a tie. -/
def namedAt? (d : Document) (offset : Nat) : Option Nat :=
  let named := d.declarations.zipIdx.filter fun (c, _) =>
    decide (c.name.start ≤ offset) && decide (offset ≤ c.name.stop)
  (leastFirst? (fun (c, _) => c.span.length) named).map (·.2)

/-- The identity of a declaration: its document and where the server puts its name. -/
def identity (path : Path) (d : Declaration) : SymbolId :=
  s!"{path.text}#{d.entry.selection.start.line}:{d.entry.selection.start.character}"

/-- The symbol of the declaration `index`. -/
def symbol? (d : Document) (index : Nat) : Option Symbol :=
  d.declarations[index]?.map fun c =>
    { id := identity d.path c
      name := c.entry.name
      kind := c.entry.kind
      locations := [.source d.path c.span c.name.start] }

end Document

end CallerClosure
