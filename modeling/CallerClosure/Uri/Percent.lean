import CallerClosure.Text.Utf8

/-!
# Percent encoding

Characters that may not stand in a part of a URI are written as their UTF-8 bytes, each as
`%` and two hexadecimal digits. Which characters these are depends on the part; controls and
everything beyond ASCII always belong to them.
-/

namespace CallerClosure.Percent

/-- Whether a character is a control or lies beyond ASCII. -/
def isControl (c : Char) : Bool := decide (c.toNat < 32) || decide (126 < c.toNat)

/-- What is encoded in a fragment. -/
def inFragment (c : Char) : Bool := isControl c || [' ', '"', '<', '>', '\x60'].contains c

/-- What is encoded in a query. -/
def inQuery (c : Char) : Bool := isControl c || [' ', '"', '#', '<', '>'].contains c

/-- What is encoded in the query of a special scheme. -/
def inSpecialQuery (c : Char) : Bool := inQuery c || c == '\''

/-- What is encoded in a path. -/
def inPath (c : Char) : Bool := inFragment c || ['#', '?', '\x7b', '\x7d'].contains c

/-- What is encoded in a user name or password. -/
def inUserInfo (c : Char) : Bool :=
  inPath c || ['/', ':', ';', '=', '@', '[', '\\', ']', '^', '|'].contains c

/-- What is encoded in a component of a file path. -/
def inFileName (c : Char) : Bool := inPath c || ['/', '%', '\\'].contains c

/-- An upper-case hexadecimal digit. -/
def hexDigit (n : Nat) : Char :=
  if n < 10 then Char.ofNat (48 + n) else Char.ofNat (55 + n)

/-- A byte as `%` and two digits. -/
def escapeByte (b : UInt8) : Text :=
  ['%', hexDigit (b.toNat / 16), hexDigit (b.toNat % 16)]

/-- A text with the characters of a class encoded. -/
def encode (encoded : Char → Bool) (t : Text) : Text :=
  t.flatMap fun c => if encoded c then (Utf8.encodeChar c).flatMap escapeByte else [c]

/-- The value of a hexadecimal digit. -/
def hexValue? (c : Char) : Option Nat :=
  if c.isDigit then some (c.toNat - 48)
  else if 'a' ≤ c ∧ c ≤ 'f' then some (c.toNat - 87)
  else if 'A' ≤ c ∧ c ≤ 'F' then some (c.toNat - 55)
  else none

/-- The bytes of a text after decoding; `skip` characters belong to the escape before. -/
def decodeFrom : Nat → Text → List UInt8
  | _, [] => []
  | skip + 1, _ :: rest => decodeFrom skip rest
  | 0, c :: rest =>
    match c, rest with
    | '%', a :: b :: _ =>
      match hexValue? a, hexValue? b with
      | some x, some y => (x * 16 + y).toUInt8 :: decodeFrom 2 rest
      | _, _ => Utf8.encodeChar c ++ decodeFrom 0 rest
    | _, _ => Utf8.encodeChar c ++ decodeFrom 0 rest

/-- The bytes that a text stands for; a `%` without two digits stands for itself. -/
def decode (t : Text) : List UInt8 := decodeFrom 0 t

end CallerClosure.Percent
