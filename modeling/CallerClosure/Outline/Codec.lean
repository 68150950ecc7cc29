import CallerClosure.Outline.Basic
import CallerClosure.Symbol.Codec

/-!
# The JSON form of outlines

Positions, ranges, outline nodes and file ranges as JSON. Children are decoded to the depth
of the value, which no child reaches.
-/

namespace CallerClosure

open Json (Decoder)

namespace Position

/-- A position as JSON. -/
def toJson (p : Position) : Json :=
  .obj [("line", .nat p.line), ("character", .nat p.character)]

/-- A position from JSON. -/
def ofJson : Decoder Position := fun j =>
  (Decoder.pair "Position" "line" Decoder.unsigned32 "character" Decoder.unsigned32 j).map
    fun parts => ⟨parts.1, parts.2⟩

end Position

namespace Range

/-- A range as JSON. -/
def toJson (r : Range) : Json :=
  .obj [("start", r.start.toJson), ("end", r.stop.toJson)]

/-- A range from JSON. -/
def ofJson : Decoder Range := fun j =>
  (Decoder.pair "Range" "start" Position.ofJson "end" Position.ofJson j).map
    fun parts => ⟨parts.1, parts.2⟩

end Range

mutual

/-- An outline node as JSON. -/
def OutlineNode.toJson : OutlineNode → Json
  | ⟨name, kind, detail, range, selection, children⟩ =>
    .obj [("name", .str name), ("kind", kind.toJson), ("detail", .ofOption .str detail),
      ("range", range.toJson), ("selection_range", selection.toJson),
      ("children", .arr (Outline.toItems children))]

/-- The nodes of an outline as JSON values. -/
def Outline.toItems : List OutlineNode → List Json
  | [] => []
  | node :: rest => node.toJson :: Outline.toItems rest

end

namespace OutlineNode

/-- An outline node from JSON, with at most `depth` levels of nodes. -/
def ofJsonWithin : Nat → Decoder OutlineNode
  | 0, j => .error (.wrongType j.describe "struct OutlineNode")
  | depth + 1, j => do
    let record ← Decoder.fields "OutlineNode"
      ["name", "kind", "detail", "range", "selection_range", "children"] j
    let name ← Decoder.required "name" Decoder.string record
    let kind ← Decoder.required "kind" SymbolKind.ofJson record
    let detail ← Decoder.absentable "detail" Decoder.string record
    let range ← Decoder.required "range" Range.ofJson record
    let selection ← Decoder.required "selection_range" Range.ofJson record
    let children ← Decoder.required "children" (Decoder.list (ofJsonWithin depth)) record
    pure ⟨name, kind, detail, range, selection, children⟩

/-- An outline node from JSON. -/
def ofJson : Decoder OutlineNode := fun j => ofJsonWithin j.nesting j

end OutlineNode

namespace FileRange

/-- A file range as JSON. -/
def toJson (r : FileRange) : Json :=
  .obj [("file", r.file.toJson), ("range", r.range.toJson)]

/-- A file range from JSON. -/
def ofJson : Decoder FileRange := fun j =>
  (Decoder.pair "FileRange" "file" Path.ofJson "range" Range.ofJson j).map
    fun parts => ⟨parts.1, parts.2⟩

end FileRange

end CallerClosure
