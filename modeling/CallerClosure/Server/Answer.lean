import CallerClosure.Outline.Codec
import CallerClosure.Uri.File

/-!
# Answers of a language server

The two shapes of an outline, the shapes of a definition, and lists of places, as the
language server protocol writes them.

* `OutlineAnswer` is a flat list of named places or a forest of nodes, tried in that order;
* `PlaceAnswer` is one place, a list of places or a list of links, tried in that order;
* `toOutline` and `toPlaces` bring them into the form that the library works with;
* `Place.toFileRange` shows the file of a place.
-/

namespace CallerClosure

open Json (Decoder)

/-- A range in the document of a URI. -/
structure Place where
  uri : Uri
  range : Range

/-- A symbol of a flat answer. -/
structure NamedPlace where
  name : String
  kind : Int
  place : Place

/-- A symbol of a nested answer. -/
structure NestedSymbol where
  name : String
  detail : Option String
  kind : Int
  range : Range
  selection : Range
  children : List NestedSymbol

/-- An answer to the question for an outline. -/
inductive OutlineAnswer
  | flat (symbols : List NamedPlace)
  | nested (symbols : List NestedSymbol)

/-- The target of a link. -/
structure PlaceLink where
  uri : Uri
  range : Range
  selection : Range

/-- An answer to the question for a definition. -/
inductive PlaceAnswer
  | one (place : Place)
  | many (places : List Place)
  | linked (links : List PlaceLink)

/-- The kind that the protocol gives a number to. -/
def SymbolKind.ofCode (code : Int) : SymbolKind :=
  if code = 2 ∨ code = 3 ∨ code = 4 then .module
  else if code = 5 then .«class»
  else if code = 6 then .method
  else if code = 7 then .property
  else if code = 8 then .field
  else if code = 9 then .constructor
  else if code = 10 then .enum
  else if code = 11 then .interface
  else if code = 12 then .function
  else if code = 13 then .«variable»
  else if code = 14 then .constant
  else if code = 23 then .struct
  else if code = 25 then .operator
  else .other

/-- A place with the path of its file, as it is shown. -/
def Place.toFileRange (p : Place) : FileRange := ⟨p.uri.filePath, p.range⟩

/-- The node of a symbol of a flat answer. The start of the declaration stands for its name. -/
def NamedPlace.toNode (s : NamedPlace) : OutlineNode :=
  { name := s.name
    kind := .ofCode s.kind
    detail := none
    range := s.place.range
    selection := ⟨s.place.range.start, s.place.range.start⟩
    children := [] }

mutual

/-- The node of a symbol of a nested answer. -/
def NestedSymbol.toNode : NestedSymbol → OutlineNode
  | ⟨name, detail, kind, range, selection, children⟩ =>
    ⟨name, .ofCode kind, detail, range, selection, NestedSymbol.toNodes children⟩

/-- The nodes of the symbols of a nested answer. -/
def NestedSymbol.toNodes : List NestedSymbol → List OutlineNode
  | [] => []
  | s :: rest => s.toNode :: NestedSymbol.toNodes rest

end

/-- The outline of an answer; no answer is an empty outline. -/
def OutlineAnswer.toOutline : Option OutlineAnswer → Outline
  | none => []
  | some (.flat symbols) => symbols.map NamedPlace.toNode
  | some (.nested symbols) => NestedSymbol.toNodes symbols

/-- The places of an answer. A link stands for the name that it leads to. -/
def PlaceAnswer.toPlaces : Option PlaceAnswer → List Place
  | none => []
  | some (.one place) => [place]
  | some (.many places) => places
  | some (.linked links) => links.map fun l => ⟨l.uri, l.selection⟩

namespace Uri

/-- A URI from JSON. -/
def ofJson : Decoder Uri
  | .str s =>
    match parse s with
    | .ok u => .ok u
    | .error e => .error (.malformed e.message s)
  | j => .error (.wrongType j.describe "a string representing an URL")

end Uri

namespace Place

/-- A place from JSON. -/
def ofJson : Decoder Place := fun j =>
  (Decoder.pair "Location" "uri" Uri.ofJson "range" Range.ofJson j).map
    fun parts => ⟨parts.1, parts.2⟩

/-- A list of places from JSON; `null` is an empty one. -/
def listOfJson : Decoder (List Place) := fun j =>
  (Decoder.optional (Decoder.list ofJson) j).map (·.getD [])

end Place

namespace NamedPlace

/-- A symbol of a flat answer from JSON. -/
def ofJson : Decoder NamedPlace := fun j => do
  let record ← Decoder.fields "SymbolInformation"
    ["name", "kind", "tags", "deprecated", "location", "containerName"] j
  let name ← Decoder.required "name" Decoder.string record
  let kind ← Decoder.required "kind" Decoder.signed32 record
  let _ ← Decoder.absentable "tags" (Decoder.list Decoder.signed32) record
  let _ ← Decoder.absentable "deprecated" Decoder.boolean record
  let place ← Decoder.required "location" Place.ofJson record
  let _ ← Decoder.absentable "containerName" Decoder.string record
  pure ⟨name, kind, place⟩

end NamedPlace

namespace NestedSymbol

/-- A symbol of a nested answer from JSON, with at most `depth` levels of symbols. -/
def ofJsonWithin : Nat → Decoder NestedSymbol
  | 0, j => .error (.wrongType j.describe "struct DocumentSymbol")
  | depth + 1, j => do
    let record ← Decoder.fields "DocumentSymbol"
      ["name", "detail", "kind", "tags", "deprecated", "range", "selectionRange", "children"] j
    let name ← Decoder.required "name" Decoder.string record
    let detail ← Decoder.absentable "detail" Decoder.string record
    let kind ← Decoder.required "kind" Decoder.signed32 record
    let _ ← Decoder.absentable "tags" (Decoder.list Decoder.signed32) record
    let _ ← Decoder.absentable "deprecated" Decoder.boolean record
    let range ← Decoder.required "range" Range.ofJson record
    let selection ← Decoder.required "selectionRange" Range.ofJson record
    let children ← Decoder.absentable "children" (Decoder.list (ofJsonWithin depth)) record
    pure ⟨name, detail, kind, range, selection, children.getD []⟩

/-- A symbol of a nested answer from JSON. -/
def ofJson : Decoder NestedSymbol := fun j => ofJsonWithin j.nesting j

end NestedSymbol

namespace OutlineAnswer

/-- An answer to the question for an outline, from JSON. -/
def ofJson : Decoder OutlineAnswer := fun j =>
  match Decoder.list NamedPlace.ofJson j with
  | .ok symbols => .ok (.flat symbols)
  | .error _ =>
    match Decoder.list NestedSymbol.ofJson j with
    | .ok symbols => .ok (.nested symbols)
    | .error _ => .error (.noVariant "DocumentSymbolResponse")

end OutlineAnswer

namespace PlaceLink

/-- A link from JSON. -/
def ofJson : Decoder PlaceLink := fun j => do
  let record ← Decoder.fields "LocationLink"
    ["originSelectionRange", "targetUri", "targetRange", "targetSelectionRange"] j
  let _ ← Decoder.absentable "originSelectionRange" Range.ofJson record
  let uri ← Decoder.required "targetUri" Uri.ofJson record
  let range ← Decoder.required "targetRange" Range.ofJson record
  let selection ← Decoder.required "targetSelectionRange" Range.ofJson record
  pure ⟨uri, range, selection⟩

end PlaceLink

namespace PlaceAnswer

/-- An answer to the question for a definition, from JSON. -/
def ofJson : Decoder PlaceAnswer := fun j =>
  match Place.ofJson j with
  | .ok place => .ok (.one place)
  | .error _ =>
    match Decoder.list Place.ofJson j with
    | .ok places => .ok (.many places)
    | .error _ =>
      match Decoder.list PlaceLink.ofJson j with
      | .ok links => .ok (.linked links)
      | .error _ => .error (.noVariant "GotoDefinitionResponse")

end PlaceAnswer

end CallerClosure
