import CallerClosure.Json.Reader

/-!
# Values that were sent in writing

A value that was written and read again is the same but for its numbers of double precision:
reading rounds in several steps, so it need not find the number that was written.
`Json.carried` is what arrives.
-/

namespace CallerClosure.Json

/-- The number that is read where a double was written. A text that cannot be read stands for
the double itself. -/
def carriedNumber (negative : Bool) (x : Double) : Json :=
  (number? (x.text negative)).getD (.real negative x)

mutual

/-- What is read where a value was written. -/
def carried : Json → Json
  | .real negative x => carriedNumber negative x
  | .arr items => .arr (carriedItems items)
  | .obj fields => .obj (carriedFields fields)
  | j => j

/-- What is read where the items of an array were written. -/
def carriedItems : List Json → List Json
  | [] => []
  | j :: rest => carried j :: carriedItems rest

/-- What is read where the fields of an object were written. -/
def carriedFields : List (String × Json) → List (String × Json)
  | [] => []
  | (name, j) :: rest => (name, carried j) :: carriedFields rest

end

end CallerClosure.Json
