import CallerClosure.Json.Printer
import CallerClosure.Symbol.Set

/-!
# Listings of callers

A listing has a row for every member of a closure: its name, its kind, the file it is
declared in and the line of its name. It is shown as a table or as JSON.
-/

namespace CallerClosure

/-- A row of a listing. -/
structure CallerRow where
  name : String
  kind : String
  file : String
  /-- The line of the name, counted from one, if it is known. -/
  line : Option Nat
  deriving DecidableEq

namespace CallerRow

/-- The row of a symbol. Files are shown relative to `root` if they lie under it. -/
def ofSymbol (root : Path) (lineOf : Path → Nat → Option Nat) (s : Symbol) : CallerRow :=
  match s.source? with
  | some source =>
    { name := s.name
      kind := s.kind.name
      file := ((source.document.under? root).getD source.document).text
      line := lineOf source.document source.nameOffset }
  | none =>
    { name := s.name
      kind := s.kind.name
      file := match Symbol.firstContainer? s.locations with
        | some container => s!"<metadata: {container}>"
        | none => ""
      line := none }

/-- A row as JSON. -/
def toJson (r : CallerRow) : Json :=
  .obj [("name", .str r.name), ("kind", .str r.kind), ("file", .str r.file),
    ("line", .ofOption .nat r.line)]

end CallerRow

namespace Listing

/-- The rows of a set of symbols, in order of discovery. -/
def rows (set : SymbolSet) (root : Path) (lineOf : Path → Nat → Option Nat) :
    List CallerRow :=
  set.toList.map (CallerRow.ofSymbol root lineOf)

/-- A text filled up with blanks to a width in characters. -/
def padded (width : Nat) (s : String) : String :=
  s ++ String.ofList (List.replicate (width - s.toList.length) ' ')

/-- A text that is cut at its end to a width in characters. -/
def cutEnd (width : Nat) (s : String) : String :=
  let cs := s.toList
  if cs.length ≤ width then s else String.ofList (cs.take (width - 3)) ++ "..."

/-- A text that is cut at its start to a width in characters. -/
def cutStart (width : Nat) (s : String) : String :=
  let cs := s.toList
  if cs.length ≤ width then s else "..." ++ String.ofList (cs.drop (cs.length - width + 3))

/-- A line of the table. -/
def tableLine (name kind file line : String) : String :=
  padded 40 name ++ " " ++ padded 12 kind ++ " " ++ padded 50 file ++ " " ++ line ++ "\n"

/-- The line of a row. -/
def rowLine (r : CallerRow) : String :=
  tableLine (cutEnd 40 r.name) (cutEnd 12 r.kind) (cutStart 50 r.file)
    ((r.line.map toString).getD "")

/-- The rows as a table. -/
def table (rows : List CallerRow) : String :=
  "\n" ++ tableLine "NAME" "KIND" "FILE" "LINE" ++
    String.ofList (List.replicate 110 '-') ++ "\n" ++
    String.join (rows.map rowLine) ++ s!"\nFound {rows.length} symbols\n"

/-- The text of a listing. -/
def render (asJson : Bool) (rows : List CallerRow) : String :=
  if asJson then (Json.ofList CallerRow.toJson rows).pretty ++ "\n" else table rows

end Listing

end CallerClosure
