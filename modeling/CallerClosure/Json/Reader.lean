import CallerClosure.Json.Basic

/-!
# Reading JSON

`Json.parse?` reads one value that fills the whole text. Every call of the reader is bounded
by the number of characters that are left, so the bound is never reached.
-/

namespace CallerClosure.Json

/-- Whether a character is blank between the parts of a value. -/
def isBlank (c : Char) : Bool := c == ' ' || c == '\n' || c == '\r' || c == '\t'

/-- The value of a hexadecimal digit. -/
def hexValue? (c : Char) : Option Nat :=
  if '0' ≤ c ∧ c ≤ '9' then some (c.toNat - 48)
  else if 'a' ≤ c ∧ c ≤ 'f' then some (c.toNat - 87)
  else if 'A' ≤ c ∧ c ≤ 'F' then some (c.toNat - 55)
  else none

/-- The code unit that four hexadecimal digits spell. -/
def unit? : Text → Option (Nat × Text)
  | a :: b :: c :: d :: rest => do
    let a ← hexValue? a
    let b ← hexValue? b
    let c ← hexValue? c
    let d ← hexValue? d
    pure (((a * 16 + b) * 16 + c) * 16 + d, rest)
  | _ => none

/-- The character after the `\u` of an escape; a high surrogate takes its low one along. -/
def escapedUnit? (t : Text) : Option (Char × Text) :=
  match unit? t with
  | none => none
  | some (u, rest) =>
    if 0xD800 ≤ u ∧ u ≤ 0xDBFF then
      match rest with
      | '\\' :: 'u' :: more =>
        match unit? more with
        | none => none
        | some (v, rest) =>
          if 0xDC00 ≤ v ∧ v ≤ 0xDFFF then
            some (Char.ofNat (0x10000 + (u - 0xD800) * 1024 + (v - 0xDC00)), rest)
          else none
      | _ => none
    else if 0xDC00 ≤ u ∧ u ≤ 0xDFFF then none
    else some (Char.ofNat u, rest)

/-- The character that a one-letter escape stands for. -/
def shortEscape? : Char → Option Char
  | '"' => some '"'
  | '\\' => some '\\'
  | '/' => some '/'
  | 'b' => some '\x08'
  | 'f' => some '\x0c'
  | 'n' => some '\n'
  | 'r' => some '\r'
  | 't' => some '\t'
  | _ => none

/-- The rest of a string after its opening quote; `acc` holds what was read, reversed. -/
def readString : Nat → Text → Text → Option (String × Text)
  | 0, _, _ => none
  | _ + 1, [], _ => none
  | bound + 1, c :: rest, acc =>
    if c = '"' then some (String.ofList acc.reverse, rest)
    else if c = '\\' then
      match rest with
      | [] => none
      | 'u' :: digits =>
        match escapedUnit? digits with
        | none => none
        | some (d, rest) => readString bound rest (d :: acc)
      | e :: rest =>
        match shortEscape? e with
        | none => none
        | some d => readString bound rest (d :: acc)
    else if c.toNat < 32 then none
    else readString bound rest (c :: acc)

/-- Whether a character can stand in a number. -/
def isNumeric (c : Char) : Bool :=
  c.isDigit || c == '-' || c == '+' || c == '.' || c == 'e' || c == 'E'

/-- The number that digits spell. -/
def decimal (digits : Text) : Nat := digits.foldl (fun n c => n * 10 + (c.toNat - 48)) 0

/-- The number that digits without a useless zero in front spell. -/
def naturalOf? (digits : Text) : Option Nat :=
  match digits with
  | [] => none
  | ['0'] => some 0
  | '0' :: _ => none
  | _ =>
    if digits.all Char.isDigit then some (decimal digits) else none

/-- The number that digits spell, if there are any and nothing else. -/
def digits? (t : Text) : Option Nat :=
  if !t.isEmpty && t.all Char.isDigit then some (decimal t) else none

/-- The exponent after a letter `e`. -/
def exponent? : Text → Option Int
  | '+' :: t => (digits? t).map Int.ofNat
  | '-' :: t => (digits? t).map fun n => -Int.ofNat n
  | t => (digits? t).map Int.ofNat

/-- The digits of a fraction, if there is one, and the text after it. -/
def fraction? : Text → Option (Text × Text)
  | '.' :: t =>
    let digits := t.takeWhile Char.isDigit
    if digits.isEmpty then none else some (digits, t.dropWhile Char.isDigit)
  | t => some ([], t)

/-- A decimal number with one more digit in the place below the others, if the integer stays
within 64 bits. -/
def withDigit? (d : Decimal) (c : Char) : Option Decimal :=
  let n := d.digits * 10 + (c.toNat - 48)
  if n ≤ 18446744073709551615 then some ⟨n, d.exponent⟩ else none

/-- A decimal number followed by digits in front of the point. From the first digit on that
does not fit in they only count as places. -/
def withWhole (d : Decimal) : Text → Decimal
  | [] => d
  | c :: rest =>
    match withDigit? d c with
    | some e => withWhole e rest
    | none => ⟨d.digits, d.exponent + (rest.length + 1)⟩

/-- A decimal number followed by digits behind the point. From the first digit on that does
not fit in they are left out. -/
def withFraction (d : Decimal) : Text → Decimal
  | [] => d
  | c :: rest =>
    match withDigit? d c with
    | some e => withFraction ⟨e.digits, e.exponent - 1⟩ rest
    | none => d

/-- The decimal number that digits and an optional fraction and exponent spell. -/
def decimal? (digits rest : Text) : Option Decimal :=
  match fraction? rest with
  | none => none
  | some (fraction, rest) =>
    let exponent :=
      match rest with
      | [] => some 0
      | 'e' :: t => exponent? t
      | 'E' :: t => exponent? t
      | _ => none
    let d := withFraction (withWhole ⟨0, 0⟩ digits) fraction
    exponent.map fun e => ⟨d.digits, d.exponent + e⟩

/-- The number that a text spells. Integers of 64 bits other than `-0` are kept as integers. -/
def number? (t : Text) : Option Json :=
  let negative := t.head? == some '-'
  let body := if negative then t.drop 1 else t
  let digits := body.takeWhile Char.isDigit
  let rest := body.dropWhile Char.isDigit
  match naturalOf? digits with
  | none => none
  | some n =>
    if rest.isEmpty && !negative && decide (n ≤ 18446744073709551615) then some (.int n)
    else if rest.isEmpty && negative && decide (0 < n) && decide (n ≤ 9223372036854775808) then
      some (.int (-(n : Int)))
    else ((decimal? digits rest).bind Decimal.read?).map (.real negative)

mutual

/-- A value and the text after it. -/
def readValue : Nat → Text → Option (Json × Text)
  | 0, _ => none
  | bound + 1, t =>
    match t.dropWhile isBlank with
    | [] => none
    | '[' :: rest =>
      match rest.dropWhile isBlank with
      | ']' :: after => some (.arr [], after)
      | rest => (readItems bound rest []).map fun r => (.arr r.1, r.2)
    | '\x7b' :: rest =>
      match rest.dropWhile isBlank with
      | '\x7d' :: after => some (.obj [], after)
      | rest => (readFields bound rest []).map fun r => (.obj r.1, r.2)
    | '"' :: rest => (readString bound rest []).map fun r => (.str r.1, r.2)
    | 'n' :: 'u' :: 'l' :: 'l' :: rest => some (.null, rest)
    | 't' :: 'r' :: 'u' :: 'e' :: rest => some (.bool true, rest)
    | 'f' :: 'a' :: 'l' :: 's' :: 'e' :: rest => some (.bool false, rest)
    | t => (number? (t.takeWhile isNumeric)).map fun n => (n, t.dropWhile isNumeric)

/-- The items of an array up to its bracket; `acc` holds those read, reversed. -/
def readItems : Nat → Text → List Json → Option (List Json × Text)
  | 0, _, _ => none
  | bound + 1, t, acc =>
    match readValue bound t with
    | none => none
    | some (j, rest) =>
      match rest.dropWhile isBlank with
      | ',' :: rest => readItems bound rest (j :: acc)
      | ']' :: rest => some ((j :: acc).reverse, rest)
      | _ => none

/-- The fields of an object up to its brace; `acc` holds those read, reversed. -/
def readFields : Nat → Text → List (String × Json) → Option (List (String × Json) × Text)
  | 0, _, _ => none
  | bound + 1, t, acc =>
    match t.dropWhile isBlank with
    | '"' :: rest =>
      match readString bound rest [] with
      | none => none
      | some (key, rest) =>
        match rest.dropWhile isBlank with
        | ':' :: rest =>
          match readValue bound rest with
          | none => none
          | some (j, rest) =>
            match rest.dropWhile isBlank with
            | ',' :: rest => readFields bound rest ((key, j) :: acc)
            | '\x7d' :: rest => some (((key, j) :: acc).reverse, rest)
            | _ => none
        | _ => none
    | _ => none

end

/-- The value that a text spells. -/
def parse? (s : String) : Option Json :=
  let t := s.toList
  match readValue (t.length + 1) t with
  | some (j, rest) => if rest.all isBlank then some j else none
  | none => none

end CallerClosure.Json
