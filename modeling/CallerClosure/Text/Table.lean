import CallerClosure.Text.Basic

/-!
# Tables of characters

A table is written as words in hexadecimal, separated by blanks. The word `41-5a` stands for a
range of characters, `5f` for a single one, and a value follows an equals sign: `41-5a=61`.
Several values are joined by `+`.

* `Table.ofText` reads a table;
* `Table.find?` is the entry of a character, `Table.contains` tells whether there is one.
-/

namespace CallerClosure

/-- What a table says about a range of characters. -/
structure TableEntry where
  first : Nat
  last : Nat
  values : List Nat

/-- A table of characters. -/
abbrev Table := List TableEntry

namespace Table

/-- The value of a lower-case hexadecimal digit. -/
def digit (c : Char) : Nat := if c.isDigit then c.toNat - 48 else c.toNat - 87

/-- The number that hexadecimal digits spell. -/
def number (t : Text) : Nat := t.foldl (fun n c => n * 16 + digit c) 0

/-- The entry that a word spells. -/
def entry (word : Text) : TableEntry :=
  let range := word.takeWhile (· ≠ '=')
  let values := (word.dropWhile (· ≠ '=')).drop 1
  let first := range.takeWhile (· ≠ '-')
  let last := (range.dropWhile (· ≠ '-')).drop 1
  { first := number first
    last := number (if last.isEmpty then first else last)
    values := if values.isEmpty then [] else (Text.splitOn '+' values).map number }

/-- The words of a text, in order. -/
def words (t : Text) : List Text :=
  let close (done : List Text) (word : Text) : List Text :=
    if word.isEmpty then done else word.reverse :: done
  let (done, word) := t.foldl (fun (done, word) c =>
    if c = ' ' ∨ c = '\n' then (close done word, []) else (done, c :: word)) ([], [])
  (close done word).reverse

/-- The table that a text spells. -/
def ofText (s : String) : Table := (words s.toList).map entry

/-- The entry of a character. -/
def find? (t : Table) (c : Char) : Option TableEntry :=
  List.find? (fun e => decide (e.first ≤ c.toNat) && decide (c.toNat ≤ e.last)) t

/-- Whether a table has an entry for a character. -/
def contains (t : Table) (c : Char) : Bool := (t.find? c).isSome

end Table

end CallerClosure
