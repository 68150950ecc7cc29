import CallerClosure.Json.Basic

/-!
# Printing JSON

* `Json.compact` writes a value on one line, in ASCII: other characters are escaped by their
  UTF-16 code units;
* `Json.pretty` indents by two spaces and escapes only what has to be escaped.
-/

namespace CallerClosure.Json

/-- A hexadecimal digit. -/
def hexDigit (n : Nat) : Char :=
  if n < 10 then Char.ofNat (48 + n) else Char.ofNat (87 + n)

/-- The escape of one UTF-16 code unit. -/
def unitEscape (u : Nat) : Text :=
  ['\\', 'u', hexDigit (u / 4096 % 16), hexDigit (u / 256 % 16), hexDigit (u / 16 % 16),
    hexDigit (u % 16)]

/-- How a character stands inside quotes. With `ascii`, characters beyond ASCII are escaped
too. -/
def escapeChar (ascii : Bool) (c : Char) : Text :=
  if c = '"' then ['\\', '"']
  else if c = '\\' then ['\\', '\\']
  else if c = '\n' then ['\\', 'n']
  else if c = '\r' then ['\\', 'r']
  else if c = '\t' then ['\\', 't']
  else if c.toNat = 8 then ['\\', 'b']
  else if c.toNat = 12 then ['\\', 'f']
  else if c.toNat < 32 then unitEscape c.toNat
  else if ascii ∧ 127 ≤ c.toNat then
    if c.toNat ≤ 0xFFFF then unitEscape c.toNat
    else
      let v := c.toNat - 0x10000
      unitEscape (0xD800 + v / 1024) ++ unitEscape (0xDC00 + v % 1024)
  else [c]

/-- A text in quotes. -/
def quote (ascii : Bool) (s : String) : Text :=
  '"' :: (s.toList.flatMap (escapeChar ascii) ++ ['"'])

/-- The text of an atom; `null` for arrays and objects, which have printers of their own. -/
def atom (ascii : Bool) : Json → Text
  | .bool true => "true".toList
  | .bool false => "false".toList
  | .int n => (toString n).toList
  | .real negative x => x.text negative
  | .str s => quote ascii s
  | _ => "null".toList

mutual

/-- The characters of a value on one line. -/
def compactText : Json → Text
  | .arr items => '[' :: (compactItems items ++ [']'])
  | .obj fields => '\x7b' :: (compactFields fields ++ ['\x7d'])
  | .null => atom true .null
  | .bool b => atom true (.bool b)
  | .int n => atom true (.int n)
  | .real negative x => atom true (.real negative x)
  | .str s => atom true (.str s)

/-- The items of an array, with commas between them. -/
def compactItems : List Json → Text
  | [] => []
  | [j] => compactText j
  | j :: rest => compactText j ++ ',' :: compactItems rest

/-- The fields of an object, with commas between them. -/
def compactFields : List (String × Json) → Text
  | [] => []
  | [(k, j)] => quote true k ++ ':' :: compactText j
  | (k, j) :: rest => quote true k ++ ':' :: (compactText j ++ ',' :: compactFields rest)

end

/-- A value on one line, in ASCII. -/
def compact (j : Json) : String := String.ofList (compactText j)

/-- A new line, indented to a depth. -/
def newLine (indent : Nat) : Text := '\n' :: List.replicate (2 * indent) ' '

mutual

/-- The characters of an indented value. -/
def prettyText (indent : Nat) : Json → Text
  | .arr [] => ['[', ']']
  | .arr items => '[' :: (prettyItems (indent + 1) items ++ newLine indent ++ [']'])
  | .obj [] => ['\x7b', '\x7d']
  | .obj fields => '\x7b' :: (prettyFields (indent + 1) fields ++ newLine indent ++ ['\x7d'])
  | .null => atom false .null
  | .bool b => atom false (.bool b)
  | .int n => atom false (.int n)
  | .real negative x => atom false (.real negative x)
  | .str s => atom false (.str s)

/-- The items of an indented array. -/
def prettyItems (indent : Nat) : List Json → Text
  | [] => []
  | [j] => newLine indent ++ prettyText indent j
  | j :: rest => newLine indent ++ prettyText indent j ++ ',' :: prettyItems indent rest

/-- The fields of an indented object. -/
def prettyFields (indent : Nat) : List (String × Json) → Text
  | [] => []
  | [(k, j)] => newLine indent ++ quote false k ++ [':', ' '] ++ prettyText indent j
  | (k, j) :: rest =>
    newLine indent ++ quote false k ++ [':', ' '] ++ prettyText indent j ++
      ',' :: prettyFields indent rest

end

/-- A value indented by two spaces. -/
def pretty (j : Json) : String := String.ofList (prettyText 0 j)

end CallerClosure.Json
