import CallerClosure.Domain.LabelTable
import CallerClosure.Text.Composition

/-!
# The rules for labels

A label is a piece of a domain between dots. These rules keep labels from being mistaken for
others when they are shown:

* no label starts with a mark;
* the two joiners stand only where they have an effect (`Label.joinersFit`);
* in a domain with letters that are written from right to left, each label has one direction
  (`Label.directionFits`).
-/

namespace CallerClosure.Label

/-- Whether a label starts with a mark. -/
def startsWithMark (label : Text) : Bool :=
  (label.head?.map Domain.marks.contains).getD false

/-! ### Joiners -/

/-- Whether a text comes to a character of a kind, with nothing but transparent ones before. -/
def reaches (kind : Char → Bool) : Text → Bool
  | [] => false
  | c :: rest => kind c || (Domain.joiningTransparent.contains c && reaches kind rest)

/-- Whether a letter joins the one that comes after it. -/
def joinsNext (c : Char) : Bool :=
  Domain.joiningLeft.contains c || Domain.joiningBoth.contains c

/-- Whether a letter joins the one that comes before it. -/
def joinsPrevious (c : Char) : Bool :=
  Domain.joiningRight.contains c || Domain.joiningBoth.contains c

/-- Whether a character may stand between two texts, of which the first is reversed. A joiner
stands after a virama, and the one that keeps letters apart also between letters that would
join. -/
def fits (before : Text) (c : Char) (after : Text) : Bool :=
  if c = '\u200C' ∨ c = '\u200D' then
    (before.head?.map fun p => Composition.classOf p == 9).getD false ||
      (c == '\u200C' && reaches joinsNext before && reaches joinsPrevious after)
  else true

/-- Whether all characters of a label fit that comes after `before`, which is reversed. -/
def joinersFit (before : Text) : Text → Bool
  | [] => true
  | c :: rest => fits before c rest && joinersFit (c :: before) rest

/-! ### Directions -/

/-- The direction of a character. -/
inductive Direction
  | left
  | right
  | arabicNumber
  | europeanNumber
  | undirected
  | mark
  deriving DecidableEq

/-- The direction of a character. -/
def directionOf (c : Char) : Direction :=
  if Domain.rightToLeft.contains c then .right
  else if Domain.arabicNumbers.contains c then .arabicNumber
  else if Domain.europeanNumbers.contains c then .europeanNumber
  else if Domain.undirected.contains c then .undirected
  else if Domain.directionMarks.contains c then .mark
  else .left

/-- Whether a character makes a domain one that is written from right to left. -/
def isRightward (c : Char) : Bool :=
  match directionOf c with
  | .right => true
  | .arabicNumber => true
  | _ => false

/-- Whether a label has one direction: that of its first character, which the others keep, and
a letter or digit at its end. -/
def directionFits (label : Text) : Bool :=
  match label.map directionOf with
  | [] => true
  | first :: others =>
    match first, others.reverse.dropWhile (· == .mark) with
    | .left, [] => true
    | .right, [] => true
    | .left, last :: middle =>
      (last == .left || last == .europeanNumber) &&
        middle.all fun d => d != .right && d != .arabicNumber
    | .right, last :: middle =>
      (last == .right || last == .europeanNumber || last == .arabicNumber) &&
        middle.all (· != .left) &&
        !((last :: middle).contains .europeanNumber && (last :: middle).contains .arabicNumber)
    | _, _ => false

end CallerClosure.Label
