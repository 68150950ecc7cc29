import CallerClosure.Json.Printer
import CallerClosure.Text.Quoted

/-!
# Decoding JSON values

A decoder takes a JSON value to a value of the domain or says why it cannot.

* A record is an object, whose unknown fields are ignored, or an array of all its fields in
  order of declaration.
* A number has to be an integer of the right width; `1.0` is none.
* An optional field may be absent or `null`.

`DecodeError.message` words the causes.
-/

namespace CallerClosure

/-- Why a JSON value does not decode. -/
inductive DecodeError
  /-- The value has another type than the one expected. -/
  | wrongType (found : String) (expected : String)
  /-- The value has the right type but is not admissible. -/
  | wrongValue (found : String) (expected : String)
  /-- An array has too few or too many items. -/
  | wrongLength (found : Nat) (expected : String)
  /-- A record lacks a field. -/
  | missingField (name : String)
  /-- No variant of an enumeration has this name. -/
  | unknownVariant (name : String)
  /-- A text is no value of the kind that it should spell. -/
  | malformed (reason : String) (text : String)
  /-- The value has none of the shapes of a union. -/
  | noVariant (union : String)

namespace DecodeError

/-- The wording of a cause. -/
def message : DecodeError → String
  | wrongType found expected => s!"invalid type: {found}, expected {expected}"
  | wrongValue found expected => s!"invalid value: {found}, expected {expected}"
  | wrongLength found expected => s!"invalid length {found}, expected {expected}"
  | missingField name => s!"missing field `{name}`"
  | unknownVariant name => s!"unknown variant `{name}`"
  | malformed reason text => s!"{reason}: {String.ofList (Text.quoted text.toList)}"
  | noVariant union => s!"data did not match any variant of untagged enum {union}"

end DecodeError

namespace Json

/-- A decoder for a type. -/
abbrev Decoder (α : Type) := Json → Except DecodeError α

/-- What an error message calls a value. -/
def describe : Json → String
  | .null => "null"
  | .bool b => s!"boolean `{b}`"
  | .int n => s!"integer `{n}`"
  | .real negative x => s!"floating point `{String.ofList (x.text negative)}`"
  | .str s => s!"string {String.ofList (Text.quoted s.toList)}"
  | .arr _ => "sequence"
  | .obj _ => "map"

namespace Decoder

/-- Any text. -/
def string : Decoder String
  | .str s => .ok s
  | j => .error (.wrongType j.describe "a string")

/-- Nothing: only `null`. -/
def nothing : Decoder Unit
  | .null => .ok ()
  | j => .error (.wrongType j.describe "unit")

/-- A truth value. -/
def boolean : Decoder Bool
  | .bool b => .ok b
  | j => .error (.wrongType j.describe "a boolean")

/-- An integer between two bounds; `type` names its width. -/
def integer (type : String) (low high : Int) : Decoder Int
  | .int n =>
    if low ≤ n ∧ n ≤ high then .ok n else .error (.wrongValue (describe (.int n)) type)
  | j => .error (.wrongType j.describe type)

/-- An unsigned 32-bit number. -/
def unsigned32 : Decoder Nat := fun j =>
  (integer "u32" 0 4294967295 j).map Int.toNat

/-- A signed 32-bit number. -/
def signed32 : Decoder Int :=
  integer "i32" (-2147483648) 2147483647

/-- An offset: an unsigned 64-bit number. -/
def offset : Decoder Nat := fun j =>
  (integer "u64" 0 18446744073709551615 j).map Int.toNat

/-- A value that may be `null`. -/
def optional {α : Type} (decode : Decoder α) : Decoder (Option α)
  | .null => .ok none
  | j => (decode j).map some

/-- Each item of a list. -/
def items {α : Type} (decode : Decoder α) : List Json → Except DecodeError (List α)
  | [] => .ok []
  | j :: rest =>
    match decode j with
    | .error e => .error e
    | .ok a =>
      match items decode rest with
      | .error e => .error e
      | .ok as => .ok (a :: as)

/-- An array. -/
def list {α : Type} (decode : Decoder α) : Decoder (List α)
  | .arr js => items decode js
  | j => .error (.wrongType j.describe "a sequence")

/-- The fields of a record by name, for a record called `type` with the fields `names`. -/
def fields (type : String) (names : List String) : Json → Except DecodeError (String → Option Json)
  | .obj fs => .ok fun name => lastField? name fs
  | .arr js =>
    if js.length = names.length then .ok fun name => lastField? name (names.zip js)
    else if js.length < names.length then
      .error (.wrongLength js.length s!"struct {type} with {names.length} elements")
    else .error (.wrongLength js.length "fewer elements in array")
  | j => .error (.wrongType j.describe s!"struct {type}")

/-- A field that a record has to have. -/
def required {α : Type} (name : String) (decode : Decoder α) (record : String → Option Json) :
    Except DecodeError α :=
  match record name with
  | some j => decode j
  | none => .error (.missingField name)

/-- A field that a record may lack. -/
def absentable {α : Type} (name : String) (decode : Decoder α)
    (record : String → Option Json) : Except DecodeError (Option α) :=
  match record name with
  | some j => optional decode j
  | none => .ok none

/-- A record of two fields. The fields of an object are read in the order of their names,
those of an array as they stand, and only then is a field missed. -/
def pair {α β : Type} (type : String) (nameA : String) (a : Decoder α) (nameB : String)
    (b : Decoder β) : Decoder (α × β)
  | .obj fs =>
    match (lastField? nameA fs).map a, (lastField? nameB fs).map b with
    | some (.ok x), some (.ok y) => .ok (x, y)
    | some (.error e), some (.error f) => .error (if nameA < nameB then e else f)
    | some (.error e), _ => .error e
    | _, some (.error f) => .error f
    | none, _ => .error (.missingField nameA)
    | _, none => .error (.missingField nameB)
  | .arr [] => .error (.wrongLength 0 s!"struct {type} with 2 elements")
  | .arr [x] =>
    match a x with
    | .error e => .error e
    | .ok _ => .error (.wrongLength 1 s!"struct {type} with 2 elements")
  | .arr (x :: y :: more) =>
    match a x with
    | .error e => .error e
    | .ok x =>
      match b y with
      | .error e => .error e
      | .ok y =>
        if more.isEmpty then .ok (x, y)
        else .error (.wrongLength (more.length + 2) "fewer elements in array")
  | j => .error (.wrongType j.describe s!"struct {type}")

/-- The name of a plain variant, written as a text or as the only field of an object whose
value is `null`. -/
def variantName : Decoder String
  | .str s => .ok s
  | .obj [(name, .null)] => .ok name
  | .obj [(_, j)] => .error (.wrongType j.describe "unit")
  | j => .error (.wrongType j.describe "string or map")

end Decoder

end Json

end CallerClosure
