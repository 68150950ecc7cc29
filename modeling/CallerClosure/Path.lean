import CallerClosure.Text.Basic

/-!
# Paths

A path is kept as it was written and compared by its components, so `a//b`, `a/./b` and
`a/b/` name the same document as `a/b`. A leading `.` counts as a component of its own and
`..` is never resolved. A path is a text: a file whose name is none has no path here.

* `Path.components` reads the components off the text;
* `Path.compare` orders paths by their components, a path before its extensions;
* `Path.under?` is the rest of a path below a directory, still as it was written;
* `Path.join`, `Path.extension?` and `Path.anchored` are the usual operations on names.
-/

namespace CallerClosure

/-- A path, with the text it was written as. -/
structure Path where
  text : String
  deriving DecidableEq

namespace Path

/-- A step of a path. -/
inductive Component
  | root
  | here
  | up
  | name (text : String)
  deriving DecidableEq

namespace Component

/-- The rank of a kind of component: the root first, names last. -/
def rank : Component → Nat
  | root => 0
  | here => 1
  | up => 2
  | name _ => 3

/-- The text of a named component. -/
def label : Component → String
  | name text => text
  | _ => ""

/-- Components are ordered by rank, names among themselves by their text. -/
def compare (a b : Component) : Ordering :=
  (Ord.compare a.rank b.rank).then (compareOfLessAndEq a.label b.label)

end Component

/-- The pieces of a text between its slashes; there is always at least one. -/
def segments : Text → List Text
  | [] => [[]]
  | c :: t =>
    if c = '/' then [] :: segments t
    else
      match segments t with
      | [] => [[c]]
      | s :: rest => (c :: s) :: rest

/-- The component that a piece stands for, unless it is empty or a dot. -/
def Component.ofSegment? : Text → Option Component
  | [] => none
  | ['.'] => none
  | ['.', '.'] => some .up
  | s => some (.name (String.ofList s))

/-- The components of a path. -/
def components (p : Path) : List Component :=
  match segments p.text.toList with
  | [] => []
  | first :: rest =>
    let inner := rest.filterMap Component.ofSegment?
    match first with
    | [] => if rest.isEmpty then [] else .root :: inner
    | ['.'] => .here :: inner
    | _ => (Component.ofSegment? first).toList ++ inner

/-- The lexicographic order on lists of components. -/
def compareComponents : List Component → List Component → Ordering
  | [], [] => .eq
  | [], _ :: _ => .lt
  | _ :: _, [] => .gt
  | a :: as, b :: bs => (a.compare b).then (compareComponents as bs)

/-- Paths are ordered by their components. -/
def compare (p q : Path) : Ordering :=
  compareComponents p.components q.components

/-- Whether two paths have the same components. -/
def Same (p q : Path) : Prop := p.components = q.components

instance (p q : Path) : Decidable (p.Same q) :=
  inferInstanceAs (Decidable (p.components = q.components))

theorem same_congr {p q : Path} (h : p.Same q) (r : Path) : r.Same p ↔ r.Same q :=
  ⟨fun hp => hp.trans h, fun hq => hq.trans h.symm⟩

/-- Whether a path starts at the root. -/
def isAbsolute (p : Path) : Bool :=
  p.text.toList.head? == some '/'

/-- The last component, if it is a name. -/
def fileName? (p : Path) : Option String :=
  match p.components.getLast? with
  | some (.name text) => some text
  | _ => none

/-- What follows the last dot of a file name that has something before that dot. -/
def extension? (p : Path) : Option String :=
  match p.fileName? with
  | none => none
  | some name =>
    let reversed := name.toList.reverse
    let tail := reversed.takeWhile (· ≠ '.')
    match reversed.dropWhile (· ≠ '.') with
    | [] => none
    | [_] => none
    | _ :: _ => some (String.ofList tail.reverse)

/-- The path `q` read from the directory `p`. -/
def join (p q : Path) : Path :=
  if q.isAbsolute then q
  else if p.text.isEmpty || p.text.toList.getLast? == some '/' then ⟨p.text ++ q.text⟩
  else ⟨p.text ++ "/" ++ q.text⟩

/-- Whether a path lies at or below a directory, component by component. -/
def IsUnder (p dir : Path) : Prop := dir.components <+: p.components

instance (p dir : Path) : Decidable (p.IsUnder dir) :=
  inferInstanceAs (Decidable (_ <+: _))

/-- Whether a piece of a path adds nothing after its first component. -/
def isTrivial (s : Text) : Bool := s == [] || s == ['.']

/-- The pieces that are left when the first `count` components are taken off, the pieces
between them included. -/
def dropSegments : Nat → List Text → List Text
  | 0, rest => rest
  | _ + 1, [] => []
  | count + 1, s :: rest =>
    if isTrivial s then dropSegments (count + 1) rest else dropSegments count rest

/-- A list of pieces without the trivial ones at its end. -/
def trimTrailing (pieces : List Text) : List Text :=
  (pieces.reverse.dropWhile isTrivial).reverse

/-- A path spelled by its pieces. -/
def ofSegments (pieces : List Text) : Path :=
  ⟨String.ofList (['/'].intercalate pieces)⟩

/-- The spelling of a path without the trivial pieces at its end. A leading slash or dot is
a component and stays. -/
def trimmed (p : Path) : Path :=
  match segments p.text.toList with
  | [] => p
  | first :: rest =>
    match trimTrailing rest with
    | [] => if first.isEmpty && !rest.isEmpty then ⟨"/"⟩ else ofSegments [first]
    | kept => ofSegments (first :: kept)

/-- The rest of a path below `dir`, as it was written; nothing if it lies elsewhere. -/
def under? (p dir : Path) : Option Path :=
  if p.IsUnder dir then
    match dir.components.length, segments p.text.toList with
    | 0, _ => some p.trimmed
    | _ + 1, [] => some p
    | count + 1, first :: rest =>
      let after := if isTrivial first then dropSegments count rest
        else dropSegments (count + 1) (first :: rest)
      some (ofSegments (trimTrailing (after.dropWhile isTrivial)))
  else none

/-- The path `p` read from the directory `dir`, with the dots and doubled slashes of `p`
taken out. Exactly two leading slashes stay, and so does a slash at the end. -/
def anchored (dir p : Path) : Path :=
  if p.text.isEmpty then p
  else
    let cs := p.text.toList
    let base : Path :=
      if !p.isAbsolute then dir
      else if ['/', '/'].isPrefixOf cs && !(['/', '/', '/'].isPrefixOf cs) then ⟨"//"⟩
      else ⟨"/"⟩
    let names := (segments cs).filter fun s => !isTrivial s
    let full := names.foldl (fun q s => q.join ⟨String.ofList s⟩) base
    if cs.getLast? == some '/' then full.join ⟨""⟩ else full

end Path

end CallerClosure
