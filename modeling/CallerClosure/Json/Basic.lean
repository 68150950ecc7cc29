import CallerClosure.Json.Double

/-!
# JSON values

Objects keep their fields in order and may repeat a name; looking a name up finds the last
field that has it. Numbers that are no integers are kept to double precision.
-/

namespace CallerClosure

/-- A JSON value. -/
inductive Json
  | null
  | bool (value : Bool)
  | int (value : Int)
  | real (negative : Bool) (size : Double)
  | str (text : String)
  | arr (items : List Json)
  | obj (fields : List (String × Json))

namespace Json

/-- A natural number as a JSON value. -/
def nat (n : Nat) : Json := .int n

/-- The value of an optional part, `null` if it is absent. -/
def ofOption {α : Type} (encode : α → Json) : Option α → Json
  | none => .null
  | some a => encode a

/-- A list of values as a JSON array. -/
def ofList {α : Type} (encode : α → Json) (items : List α) : Json :=
  .arr (items.map encode)

/-- The last field of a name in a list of fields. -/
def lastField? (name : String) : List (String × Json) → Option Json
  | [] => none
  | (key, value) :: rest =>
    match lastField? name rest with
    | some later => some later
    | none => if key = name then some value else none

/-- The field of an object. -/
def field? : Json → String → Option Json
  | .obj fields, name => lastField? name fields
  | _, _ => none

/-- The field of an object, `null` if it is absent. -/
def fieldD (j : Json) (name : String) : Json := (j.field? name).getD .null

/-- Whether a value is `null`. -/
def isNull : Json → Bool
  | .null => true
  | _ => false

mutual

/-- How deep arrays and objects are nested in a value. -/
def nesting : Json → Nat
  | .arr items => nestingOfItems items + 1
  | .obj fields => nestingOfFields fields + 1
  | _ => 0

/-- The deepest nesting in a list of values. -/
def nestingOfItems : List Json → Nat
  | [] => 0
  | j :: rest => if nestingOfItems rest ≤ nesting j then nesting j else nestingOfItems rest

/-- The deepest nesting in a list of fields. -/
def nestingOfFields : List (String × Json) → Nat
  | [] => 0
  | (_, j) :: rest =>
    if nestingOfFields rest ≤ nesting j then nesting j else nestingOfFields rest

end

/-- The deepest nesting that can be read. -/
def deepest : Nat := 127

end Json

end CallerClosure
