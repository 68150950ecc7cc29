import CallerClosure.Path
import CallerClosure.Uri.Basic

/-!
# URIs of files

* `Uri.ofFile?` is the URI of an absolute path, `Uri.ofDirectory?` the same with a slash at
  its end;
* `Uri.filePath?` is the path that a URI names: the decoded path of a URI of this host, or
  else the path of the URI as it stands. A decoded path need not be a text;
* `Uri.filePath` is that path as it is shown.
-/

namespace CallerClosure.Uri

/-- The text of a component of a path. -/
def componentText : Path.Component → Text
  | .root => []
  | .here => ['.']
  | .up => ['.', '.']
  | .name text => text.toList

/-- The URI of an absolute path. -/
def ofFile? (p : Path) : Option String :=
  if p.isAbsolute then
    let names := (p.components.drop 1).map fun c =>
      '/' :: Percent.encode Percent.inFileName (componentText c)
    let path := if names.isEmpty then ['/'] else names.flatten
    some (String.ofList ("file://".toList ++ path))
  else none

/-- The URI of an absolute path that names a directory. -/
def ofDirectory? (p : Path) : Option String :=
  (ofFile? p).map fun uri => if uri.toList.getLast? == some '/' then uri else uri ++ "/"

/-- A decoded path; a drive letter at its end is followed by a slash. -/
def closeDrive (bytes : List UInt8) : List UInt8 :=
  match bytes.reverse with
  | last :: letter :: _ :: _ =>
    if (Char.ofNat letter.toNat).isAlpha && (last == 58 || last == 124) then bytes ++ [47]
    else bytes
  | _ => bytes

/-- The bytes of the path that a URI names. -/
def pathBytes (u : Uri) : List UInt8 :=
  if u.path.head? = some '/' ∧ (u.host = [] ∨ u.host = "localhost".toList) then
    closeDrive (Percent.decode u.path)
  else Utf8.encode u.path

/-- The path that a URI names, with `U+FFFD` for what is no text. -/
def filePath (u : Uri) : Path := ⟨String.ofList (Utf8.decodeLossy u.pathBytes)⟩

/-- The path that a URI names, if it is a text. -/
def filePath? (u : Uri) : Option Path :=
  (Utf8.decode? u.pathBytes).map fun t => ⟨String.ofList t⟩

end CallerClosure.Uri
