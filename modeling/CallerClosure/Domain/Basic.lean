import CallerClosure.Domain.Label
import CallerClosure.Domain.Mapping
import CallerClosure.Domain.Punycode

/-!
# Domains

`Domain.toAscii?` brings a domain into ASCII. The domain is mapped and cut into labels at its
dots, labels that are written in Punycode are read, all labels are checked, and those with
characters beyond ASCII are written in Punycode.
-/

namespace CallerClosure.Domain

/-- Whether a text is ASCII. -/
def isAscii (t : Text) : Bool := t.all fun c => decide (c.toNat < 128)

/-- The characters of ASCII that no domain holds. -/
def isForbidden (c : Char) : Bool :=
  decide (c.toNat ≤ 32) || c.toNat == 127 ||
    ['#', '%', '/', ':', '<', '>', '?', '@', '[', '\\', ']', '^', '|'].contains c

/-- What a label in Punycode starts with. -/
def punycodeMark : Text := ['x', 'n', '-', '-']

/-- The label that a mapped label in Punycode spells. -/
def decodedLabel? (label : Text) : Option Text :=
  let spelt := label.drop punycodeMark.length
  if label.getLast? = some '-' ∨ !isAscii spelt ∨ 2000 < spelt.length then none
  else (Punycode.decode? spelt).filter isMapped

/-- Whether a label beyond ASCII keeps to the rules for a single label. -/
def isRegular (label : Text) : Bool :=
  !(Label.startsWithMark label) && Label.joinersFit [] label && decide (label.length ≤ 1000)

/-- The label that a mapped label stands for, if it is a regular one. -/
def label? (label : Text) : Option Text :=
  if punycodeMark.isPrefixOf label then (decodedLabel? label).filter isRegular
  else if isAscii label then some label
  else if isRegular label then some label
  else none

/-- A label in ASCII. -/
def asciiLabel (label : Text) : Text :=
  if isAscii label then label else punycodeMark ++ Punycode.encode label

/-- A domain in ASCII. -/
def toAscii? (domain : Text) : Option Text := do
  let mapped ← mapped? domain
  let labels ← (Text.splitOn '.' mapped).mapM label?
  if mapped.any isForbidden then none
  else if labels.any (·.any Label.isRightward) && !labels.all Label.directionFits then none
  else pure (['.'].intercalate (labels.map asciiLabel))

end CallerClosure.Domain
