import CallerClosure.Text.QuotedTable

/-!
# Quoted texts

`Text.quoted` writes a text between double quotes so that each of its characters can be told:
quotes and backslashes are escaped, and so is all that has no picture of its own.
-/

namespace CallerClosure.Text

/-- Whether a quoted text spells a character by its number. -/
def isSpelt (c : Char) : Bool :=
  if c.toNat < 127 then decide (c.toNat < 32) else Quoted.spelt.contains c

/-- A character inside quotes. -/
def quotedChar (c : Char) : Text :=
  if c = '"' then ['\\', '"']
  else if c = '\\' then ['\\', '\\']
  else if c = '\n' then ['\\', 'n']
  else if c = '\r' then ['\\', 'r']
  else if c = '\t' then ['\\', 't']
  else if c.toNat = 0 then ['\\', '0']
  else if isSpelt c then '\\' :: 'u' :: '\x7b' :: (Nat.toDigits 16 c.toNat ++ ['\x7d'])
  else [c]

/-- A text between quotes. -/
def quoted (t : Text) : Text := '"' :: (t.flatMap quotedChar ++ ['"'])

end CallerClosure.Text
