import CallerClosure.Text.CaseTable

/-!
# Lower case

`Text.lowercase` puts a text into lower case by the Unicode rules: one character at a time,
but for two characters. `İ` becomes an `i` with a dot above, and a capital sigma becomes a
final one at the end of a word.
-/

namespace CallerClosure.Text

/-- Whether a number lies in one of a list of ranges. -/
def inRanges (ranges : List (Nat × Nat)) (n : Nat) : Bool :=
  ranges.any fun r => decide (r.1 ≤ n) && decide (n ≤ r.2)

/-- The lower-case form of a character that has a simple one, else the character. -/
def lowerChar (c : Char) : Char :=
  let n := c.toNat
  match Case.lowerRuns.find? fun r =>
      decide (r.first ≤ n) && decide (n ≤ r.last) && (n - r.first) % r.step == 0 with
  | some r => Char.ofNat (r.lower + (n - r.first))
  | none => c

/-- Whether the first character that does not get looked through has a case. -/
def startsCased (t : Text) : Bool :=
  match t.dropWhile fun c => inRanges Case.ignorable c.toNat with
  | [] => false
  | c :: _ => inRanges Case.cased c.toNat

/-- The lower-case form of a text that comes after `front`, which is reversed. -/
def lowercaseAfter (front : Text) : Text → Text
  | [] => []
  | c :: rest =>
    let low :=
      if c = 'Σ' then
        if startsCased front && !startsCased rest then ['ς'] else ['σ']
      else if c = 'İ' then ['i', '\u0307']
      else [lowerChar c]
    low ++ lowercaseAfter (c :: front) rest

/-- The lower-case form of a text. -/
def lowercase (t : Text) : Text := lowercaseAfter [] t

end CallerClosure.Text
