import CallerClosure.Uri.Percent

/-!
# The segments of a URI path

A path is read segment by segment onto a text that starts with a slash. A dot adds nothing and
two dots take the last segment away, whether the dots are encoded or not. A segment that starts
with a drive letter is never taken away, and in a file path a drive letter right after the
first slash ends with a colon.

* `BuiltPath.add` takes one segment, `BuiltPath.read` all of them;
* `BuiltPath.text` is the path that comes out, `BuiltPath.fileText` the one of a file.
-/

namespace CallerClosure

/-- Whether a character is dropped from within a URI. -/
def Uri.isDropped (c : Char) : Bool := c == '\t' || c == '\n' || c == '\r'

namespace Segments

/-- A segment with its dots decoded, to compare it with `.` and `..`. -/
def plainDots : Text → Text
  | '%' :: '2' :: 'e' :: rest => '.' :: plainDots rest
  | '%' :: '2' :: 'E' :: rest => '.' :: plainDots rest
  | c :: rest => c :: plainDots rest
  | [] => []

/-- Whether a segment is a dot. -/
def isDot (s : Text) : Bool := plainDots s == ['.']

/-- Whether a segment is two dots. -/
def isDoubleDot (s : Text) : Bool := plainDots s == ['.', '.']

/-- The letter of a segment that is a letter and a colon or a bar. -/
def driveLetter? : Text → Option Char
  | [a, b] => if a.isAlpha && (b == ':' || b == '|') then some a else none
  | _ => none

/-- Whether a segment is a drive letter, or one followed by a backslash. -/
def startsWithDrive : Text → Bool
  | a :: b :: rest =>
    a.isAlpha && (b == ':' || b == '|') && (rest.isEmpty || rest.head? == some '\\')
  | _ => false

/-- The rest of a segment after a drive letter with a colon, if a dropped character stands
between them. Such a drive letter makes up a segment of its own. -/
def afterDrive? (s : Text) : Option (Char × Text) :=
  match s.dropWhile Uri.isDropped with
  | [] => none
  | a :: s =>
    match s.dropWhile Uri.isDropped with
    | ':' :: s =>
      let rest := s.filter fun c => !Uri.isDropped c
      if a.isAlpha && (s.head?.map Uri.isDropped).getD false && !rest.isEmpty then some (a, rest)
      else none
    | _ => none

end Segments

/-- A path as far as it has been read. -/
structure BuiltPath where
  /-- The text of the path, reversed. -/
  reversed : Text
  /-- Whether it is a file path that starts with a drive letter. -/
  hasDrive : Bool

namespace BuiltPath

/-- The path that is a slash. -/
def root : BuiltPath := ⟨['/'], false⟩

/-- The path without any text. -/
def empty : BuiltPath := ⟨[], false⟩

/-- A path without its last segment. The root and drive letters stay. -/
def parent (p : BuiltPath) : BuiltPath :=
  match p.reversed with
  | '/' :: before =>
    let last := (before.takeWhile (· ≠ '/')).reverse
    if before.contains '/' && !Segments.startsWithDrive last then
      { p with reversed := before.dropWhile (· ≠ '/') }
    else p
  | _ => p

/-- A path with a text behind it. -/
def append (p : BuiltPath) (t : Text) : BuiltPath := { p with reversed := t.reverse ++ p.reversed }

/-- Take one segment, as it is written. A slash may follow it. -/
def add (isFile : Bool) (p : BuiltPath) (written : Text) (slash : Text) : BuiltPath :=
  let encode := Percent.encode Percent.inPath
  let s := encode (written.filter fun c => !Uri.isDropped c)
  let isFirst := isFile && p.reversed == ['/']
  if Segments.isDoubleDot s then p.parent
  else if Segments.isDot s then p
  else
    match Segments.driveLetter? s, Segments.afterDrive? written with
    | some a, _ =>
      if isFirst then { p.append (a :: ':' :: slash) with hasDrive := true }
      else p.append (s ++ slash)
    | none, some (a, rest) =>
      if isFirst then p.append (a :: ':' :: '/' :: (encode rest ++ slash))
      else p.append (s ++ slash)
    | none, none => p.append (s ++ slash)

/-- Take segments in order, with slashes between them. -/
def read (isFile : Bool) : BuiltPath → List Text → BuiltPath
  | p, [] => p
  | p, [s] => p.add isFile s []
  | p, s :: rest => read isFile (p.add isFile s ['/']) rest

/-- The text of a path. -/
def text (p : BuiltPath) : Text := p.reversed.reverse

/-- The text of a file path: it starts with a single slash. -/
def fileText (p : BuiltPath) : Text := '/' :: p.text.dropWhile (· == '/')

end BuiltPath

end CallerClosure
