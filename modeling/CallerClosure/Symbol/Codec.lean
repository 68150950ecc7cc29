import CallerClosure.Json.Decode
import CallerClosure.Symbol.Basic

/-!
# The JSON form of symbols

Encoders are total; decoders accept what the encoders write and, as everywhere, records
written as arrays. A location carries its variant in the field `where`, which comes first in
an array.
-/

namespace CallerClosure

open Json (Decoder)

namespace Path

/-- A path as JSON. -/
def toJson (p : Path) : Json := .str p.text

/-- A path from JSON. -/
def ofJson : Decoder Path := fun j => (Decoder.string j).map Path.mk

end Path

namespace Span

/-- A span as JSON. -/
def toJson (s : Span) : Json := .obj [("start", .nat s.start), ("end", .nat s.stop)]

/-- A span from JSON; its bounds stay as they are written. -/
def ofJson : Decoder Span := fun j =>
  (Decoder.pair "Span" "start" Decoder.offset "end" Decoder.offset j).map
    fun bounds => ⟨bounds.1, bounds.2⟩

end Span

namespace SymbolKind

/-- A kind as JSON. -/
def toJson (k : SymbolKind) : Json := .str k.name

/-- A kind from JSON. -/
def ofJson : Decoder SymbolKind := fun j => do
  let name ← Decoder.variantName j
  match ofName? name with
  | some k => .ok k
  | none => .error (.unknownVariant name)

end SymbolKind

namespace SymbolLocation

/-- A location as JSON. -/
def toJson : SymbolLocation → Json
  | source document span nameOffset =>
    .obj [("where", .str "source"), ("document", document.toJson), ("span", span.toJson),
      ("name_offset", .nat nameOffset)]
  | metadata container => .obj [("where", .str "metadata"), ("container", .str container)]

/-- The content of a location after its tag, as a record or as the rest of an array. -/
def ofContent (tag : String) (content : Json) : Except DecodeError SymbolLocation :=
  match tag with
  | "source" => do
    let record ← Decoder.fields "Source" ["document", "span", "name_offset"] content
    let document ← Decoder.required "document" Path.ofJson record
    let span ← Decoder.required "span" Span.ofJson record
    let nameOffset ← Decoder.required "name_offset" Decoder.offset record
    pure (.source document span nameOffset)
  | "metadata" => do
    let record ← Decoder.fields "Metadata" ["container"] content
    let container ← Decoder.required "container" Decoder.string record
    pure (.metadata container)
  | _ => .error (.unknownVariant tag)

/-- A location from JSON. -/
def ofJson : Decoder SymbolLocation
  | .obj fs =>
    match Json.lastField? "where" fs with
    | some tag => do ofContent (← Decoder.string tag) (.obj fs)
    | none => .error (.missingField "where")
  | .arr (tag :: rest) => do ofContent (← Decoder.string tag) (.arr rest)
  | .arr [] => .error (.missingField "where")
  | j => .error (.wrongType j.describe "a location")

end SymbolLocation

namespace Symbol

/-- A symbol as JSON. -/
def toJson (s : Symbol) : Json :=
  .obj [("id", .str s.id), ("name", .str s.name), ("kind", s.kind.toJson),
    ("locations", .ofList SymbolLocation.toJson s.locations)]

/-- A symbol from JSON. -/
def ofJson : Decoder Symbol := fun j => do
  let record ← Decoder.fields "Symbol" ["id", "name", "kind", "locations"] j
  let id ← Decoder.required "id" Decoder.string record
  let name ← Decoder.required "name" Decoder.string record
  let kind ← Decoder.required "kind" SymbolKind.ofJson record
  let locations ← Decoder.required "locations" (Decoder.list SymbolLocation.ofJson) record
  pure ⟨id, name, kind, locations⟩

end Symbol

namespace ReferenceLocation

/-- A reference location as JSON. -/
def toJson (r : ReferenceLocation) : Json :=
  .obj [("document", r.document.toJson), ("span", r.span.toJson)]

/-- A reference location from JSON. -/
def ofJson : Decoder ReferenceLocation := fun j =>
  (Decoder.pair "ReferenceLocation" "document" Path.ofJson "span" Span.ofJson j).map
    fun parts => ⟨parts.1, parts.2⟩

end ReferenceLocation

end CallerClosure
