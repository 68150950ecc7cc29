import CallerClosure.Domain.MappingTable
import CallerClosure.Text.Composition

/-!
# Mapped domains

Before a domain is looked at, each character is replaced by those that it stands for, in lower
case, and the whole is composed. `Domain.mapped?` does so, and refuses a domain with a character
that stands for nothing.
-/

namespace CallerClosure.Domain

/-- The characters that an entry puts for a character. -/
def replacement (entry : TableEntry) (c : Char) : Text :=
  match entry.values with
  | [first] => [Char.ofNat (first + (c.toNat - entry.first))]
  | values => values.map Char.ofNat

/-- What a character stands for in a domain. -/
def mappedChar? (c : Char) : Option Text :=
  if c.toNat < 128 then some [c.toLower]
  else if ignored.contains c then some []
  else if refused.contains c then none
  else
    match replaced.find? c with
    | some entry => some (replacement entry c)
    | none => some [c]

/-- What a domain stands for. -/
def mapped? (domain : Text) : Option Text :=
  (domain.mapM mappedChar?).map fun pieces => Text.composed pieces.flatten

/-- Whether a text stands for itself. -/
def isMapped (t : Text) : Bool :=
  t.all (fun c => decide (mappedChar? c = some [c])) && t.composed == t

end CallerClosure.Domain
