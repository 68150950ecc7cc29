import CallerClosure.Files.Error
import CallerClosure.Path
import CallerClosure.Text.Utf8

/-!
# Trees of files

A file tree holds directories, files and symbolic links under their absolute names, each
name being the list of its steps from the root. Paths are looked up in it by the usual rules:
links are followed, every step but the last one has to be a directory, and so has the last
one if a slash or a dot follows it. A path that does not start with a slash is read from a
given directory.

* `FileTree.canonicalize` is the path of a file without links and dots;
* `FileTree.readText` reads a file, `FileTree.write` writes one.
-/

namespace CallerClosure

/-- What a name stands for. -/
inductive FileEntry
  | directory
  | file (content : List UInt8)
  | link (target : String)

/-- A tree of files, as a list of names. The root is a directory without being listed. -/
structure FileTree where
  entries : List (List String × FileEntry)

namespace FileTree

/-- The tree that holds nothing. -/
def empty : FileTree := ⟨[]⟩

/-- What a name stands for. -/
def entry? (t : FileTree) (name : List String) : Option FileEntry :=
  if name.isEmpty then some .directory
  else (t.entries.find? (·.1 == name)).map (·.2)

/-- The tree without a name. -/
def remove (t : FileTree) (name : List String) : FileTree :=
  ⟨t.entries.filter (·.1 != name)⟩

/-- The tree with a name that stands for something. -/
def put (t : FileTree) (name : List String) (e : FileEntry) : FileTree :=
  ⟨(t.remove name).entries ++ [(name, e)]⟩

/-- The tree in which a name and all names above it are directories, where nothing else
stands. -/
def makeDirectories (t : FileTree) : List String → List String → FileTree
  | _, [] => t
  | above, step :: rest =>
    let name := above ++ [step]
    let t := if (t.entry? name).isSome then t else t.put name .directory
    makeDirectories t name rest

/-- How far a look-up has come. -/
inductive Progress
  /-- It ends at this name. -/
  | done (name : List String)
  /-- A link leads on from this directory, and these pieces come after it. -/
  | link (directory : List String) (target : String) (rest : List Text)

/-- The longest name of a step, in bytes. -/
def longestName : Nat := 255

/-- The longest path, in bytes. -/
def longestPath : Nat := 4095

/-- Where the look-up of a path starts that is read from a directory. -/
def startOf (directory : List String) (p : Path) : List String :=
  if p.isAbsolute then [] else directory

/-- Follow the pieces of a path from a name up to the first link. -/
def advance (t : FileTree) (name : List String) : List Text → Except FileError Progress
  | [] => .ok (.done name)
  | piece :: rest =>
    match t.entry? name with
    | some .directory =>
      if Path.isTrivial piece then t.advance name rest
      else if piece = ['.', '.'] then t.advance name.dropLast rest
      else if longestName < Text.size piece then .error .nameTooLong
      else
        let next := name ++ [String.ofList piece]
        match t.entry? next with
        | none => .error .notFound
        | some (.link target) => .ok (.link name target rest)
        | some _ => t.advance next rest
    | _ => .error .notADirectory

/-- The name that the pieces of a path lead to, over at most `links` links, and how many links
could still be followed. -/
def follow (t : FileTree) : Nat → List String → List Text → Except FileError (List String × Nat)
  | links, name, pieces =>
    match t.advance name pieces with
    | .error e => .error e
    | .ok (.done name) => .ok (name, links)
    | .ok (.link directory target rest) =>
      match links with
      | 0 => .error .tooManyLinks
      | links + 1 =>
        if target.isEmpty then .error .notFound
        else t.follow links (startOf directory ⟨target⟩) (Path.segments target.toList ++ rest)

/-- The largest number of links that a look-up follows. -/
def mostLinks : Nat := 40

/-- Refuse paths that no file can have. -/
def checkText (p : Path) : Except FileError Unit :=
  if p.text.toList.contains '\x00' then .error .nulInName
  else if p.text.isEmpty then .error .notFound
  else .ok ()

/-- Refuse paths that are too long to be looked up at once. -/
def checkPath (p : Path) : Except FileError Unit := do
  checkText p
  if longestPath < Text.size p.text.toList then throw .nameTooLong

/-- The name of an existing file from its path, which is read from a directory. -/
def resolve (t : FileTree) (directory : List String) (p : Path) :
    Except FileError (List String) := do
  checkPath p
  return (← t.follow mostLinks (startOf directory p) (Path.segments p.text.toList)).1

/-- A name as a path. -/
def pathOf (name : List String) : Path :=
  if name.isEmpty then ⟨"/"⟩ else ⟨String.join (name.map fun step => "/" ++ step)⟩

/-- The steps of a path that has neither links nor dots. -/
def nameOf (p : Path) : List String :=
  p.components.filterMap fun
    | .name step => some step
    | _ => none

/-- The path of an existing file without links and dots. It is found step by step, however long
the path is. -/
def canonicalize (t : FileTree) (directory : List String) (p : Path) : Except FileError Path := do
  checkText p
  let (name, _) ← t.follow mostLinks (startOf directory p) (Path.segments p.text.toList)
  return pathOf name

/-- The content of a file. -/
def read (t : FileTree) (directory : List String) (p : Path) :
    Except FileError (List UInt8) := do
  match t.entry? (← t.resolve directory p) with
  | some (.file content) => .ok content
  | some .directory => .error .isADirectory
  | _ => .error .notFound

/-- The text of a file. -/
def readText (t : FileTree) (directory : List String) (p : Path) : Except FileError Text := do
  match Utf8.decode? (← t.read directory p) with
  | some text => .ok text
  | none => .error .notText

/-- The name of an existing directory. -/
def resolveDirectory (t : FileTree) (directory : List String) (p : Path) :
    Except FileError (List String) := do
  let name ← t.resolve directory p
  match t.entry? name with
  | some .directory => .ok name
  | _ => .error .notADirectory

/-- The name that a file would be written under: the directory has to exist, the file does
not. What a slash follows would be a directory. A file that is a link is written where it leads
to, after at most `turns` turns of this kind and `links` links in all. -/
def target (t : FileTree) (turns links : Nat) (start : List String) (pieces : List Text) :
    Except FileError (List String) := do
  let kept := (pieces.reverse.dropWhile (·.isEmpty)).reverse
  let (directory, links) ← t.follow links start kept.dropLast
  let piece := kept.getLastD []
  match t.entry? directory with
  | some .directory =>
    if kept.length ≠ pieces.length || Path.isTrivial piece || piece == ['.', '.'] then
      .error .isADirectory
    else if longestName < Text.size piece then .error .nameTooLong
    else
      let name := directory ++ [String.ofList piece]
      match t.entry? name, links, turns with
      | some .directory, _, _ => .error .isADirectory
      | some (.link target), links + 1, turns + 1 =>
        t.target turns links (startOf directory ⟨target⟩) (Path.segments target.toList)
      | some (.link _), _, _ => .error .tooManyLinks
      | _, _, _ => .ok name
  | _ => .error .notADirectory
termination_by turns

/-- The tree after a file was written. -/
def write (t : FileTree) (directory : List String) (p : Path) (text : Text) :
    Except FileError FileTree := do
  checkPath p
  let name ← t.target mostLinks mostLinks (startOf directory p) (Path.segments p.text.toList)
  pure (t.put name (.file (Utf8.encode text)))

end FileTree

end CallerClosure
