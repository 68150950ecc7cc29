import CallerClosure.Uri.Host
import CallerClosure.Uri.Segments

/-!
# URIs

A `Uri` is an absolute URI in its normal form: the scheme in lower case, the path resolved,
every part encoded. `Uri.parse` reads one in the lenient way of the URL standard, with
backslashes for slashes in special schemes and without blanks around it; `Uri.text` writes it.
-/

namespace CallerClosure

/-- An absolute URI. -/
structure Uri where
  scheme : Text
  /-- What stands between the two slashes and the path, if there are two slashes. -/
  authority : Option Text
  /-- The host within the authority. -/
  host : Text
  path : Text
  query : Option Text
  fragment : Option Text

namespace Uri

/-- The kinds of schemes that are read in different ways. -/
inductive SchemeKind
  | file
  | special
  | other
  deriving DecidableEq

/-- The special schemes, each with the number that its servers listen on by default. -/
def defaultNumbers : List (String × Nat) :=
  [("http", 80), ("https", 443), ("ws", 80), ("wss", 443), ("ftp", 21)]

/-- The kind of a scheme. -/
def kindOf (scheme : Text) : SchemeKind :=
  if scheme = "file".toList then .file
  else if (defaultNumbers.find? (·.1.toList == scheme)).isSome then .special
  else .other

/-- Whether a character separates the path of a URI from what comes before it. -/
def isSlash (kind : SchemeKind) (c : Char) : Bool := c == '/' || (c == '\\' && kind != .other)

/-- Whether a character ends the path of a URI. -/
def isPathEnd (c : Char) : Bool := c == '?' || c == '#'

/-- The scheme of a URI and what follows its colon. -/
def scheme? (t : Text) : Option (Text × Text) :=
  match t with
  | [] => none
  | first :: _ =>
    if !first.isAlpha then none
    else
      let isSchemeChar (c : Char) : Bool := c.isAlphanum || c == '+' || c == '-' || c == '.'
      match t.dropWhile isSchemeChar with
      | ':' :: rest => some ((t.takeWhile isSchemeChar).map Char.toLower, rest)
      | _ => none

/-- A text without the characters that are dropped from within a URI. -/
def withoutDropped (t : Text) : Text := t.filter fun c => !isDropped c

/-- Read a path onto the beginning of one. -/
def readPath (kind : SchemeKind) (start : BuiltPath) (t : Text) : BuiltPath :=
  let slashes := t.map fun c => if isSlash kind c then '/' else c
  start.read (kind == .file) (Text.splitOn '/' slashes)

/-- The query and the fragment that follow a path. -/
def queryAndFragment (kind : SchemeKind) (t : Text) : Option Text × Option Text :=
  let encodeQuery := Percent.encode
    (if kind = .other then Percent.inQuery else Percent.inSpecialQuery)
  let (front, back) := (t.takeWhile (· ≠ '#'), t.dropWhile (· ≠ '#'))
  (match front with
    | '?' :: q => some (encodeQuery q)
    | _ => none,
    match back with
    | '#' :: f => some (Percent.encode Percent.inFragment f)
    | _ => none)

/-- A URI from its parts and the text after its path. -/
def assemble (kind : SchemeKind) (scheme : Text) (authority : Option Text) (host path : Text)
    (rest : Text) : Uri :=
  let (query, fragment) := queryAndFragment kind (withoutDropped rest)
  ⟨scheme, authority, host, path, query, fragment⟩

/-- The characters up to the query or fragment, and the rest. -/
def cutPath (t : Text) : Text × Text :=
  (t.takeWhile fun c => !isPathEnd c, t.dropWhile fun c => !isPathEnd c)

/-- The host of a file URI; the local one is not written. -/
def fileHost (t : Text) : Except UriError Text :=
  if t.isEmpty then .ok []
  else do
    let host ← Host.parse t
    pure (if host = "localhost".toList then [] else host)

/-- A file URI from its host and the text from its path on, which goes on from `start`. A drive
letter takes the place of the host. -/
def fileOn (host : Text) (start : BuiltPath) (t : Text) : Uri :=
  let (path, rest) := cutPath t
  let built := readPath .file start path
  let host := if built.hasDrive then [] else host
  assemble .file "file".toList (some host) host built.fileText rest

/-- What follows a host, without the slash that the path starts with. -/
def behindHost (t : Text) : Text :=
  match t with
  | [] => []
  | c :: rest => if isPathEnd c then t else rest

/-- A file URI from what follows its two slashes. -/
def parseFileHost (t : Text) : Except UriError Uri := do
  let isEnd (c : Char) : Bool := isSlash .file c || isPathEnd c
  let hostText := withoutDropped (t.takeWhile fun c => !isEnd c)
  let after := t.dropWhile fun c => !isEnd c
  if (Segments.driveLetter? hostText).isSome then pure (fileOn [] .root t)
  else
    let host ← fileHost hostText
    if host.isEmpty then pure (fileOn [] .root after)
    else pure (fileOn host .root (behindHost after))

/-- A file URI from what follows its colon. -/
def parseFile (t : Text) : Except UriError Uri :=
  match t.dropWhile isDropped with
  | [] => .ok (fileOn [] .root t)
  | a :: more =>
    if isSlash .file a then
      match more.dropWhile isDropped with
      | [] => .ok (fileOn [] .empty t)
      | b :: rest => if isSlash .file b then parseFileHost rest else .ok (fileOn [] .empty t)
    else .ok (fileOn [] .root t)

/-- The user name and password in front of the last `@` of an authority, encoded, and the
rest of the authority. -/
def userInfo (authority : Text) : Text × Text :=
  if authority.contains '@' then
    let back := (authority.reverse.takeWhile (· ≠ '@')).reverse
    let front := (authority.reverse.dropWhile (· ≠ '@')).reverse.dropLast
    let name := front.takeWhile (· ≠ ':')
    let password := (front.dropWhile (· ≠ ':')).drop 1
    let encode := Percent.encode Percent.inUserInfo
    let shown :=
      if password.isEmpty then
        if name.isEmpty then [] else encode name ++ ['@']
      else encode name ++ ':' :: (encode password ++ ['@'])
    (shown, back)
  else ([], authority)

/-- The host of an authority without user information, and the rest from the first colon
outside brackets on. -/
def splitNumber : Bool → Text → Text × Text
  | _, [] => ([], [])
  | inBrackets, c :: rest =>
    if c = ':' ∧ !inBrackets then ([], c :: rest)
    else
      let inside := if c = '[' then true else if c = ']' then false else inBrackets
      let (host, number) := splitNumber inside rest
      (c :: host, number)

/-- The number of an authority with its colon, as it is written: without leading zeros, and
nothing at all for the default number of the scheme. -/
def numberText (scheme digits : Text) : Except UriError Text :=
  if digits.isEmpty then .ok []
  else
    let n := digits.foldl (fun n c => n * 10 + (c.toNat - 48)) 0
    if 65535 < n then .error .invalidPort
    else if (defaultNumbers.find? (·.1.toList == scheme)).map (·.2) = some n then .ok []
    else .ok (':' :: (toString n).toList)

/-- The digits that follow the colon of an authority, and the text after them: nothing, or a
path that starts with a backslash. -/
def splitDigits (number : Text) : Except UriError (Text × Text) :=
  let digits := (number.drop 1).takeWhile Char.isDigit
  let rest := (number.drop 1).dropWhile Char.isDigit
  if rest.isEmpty || rest.head? == some '\\' then .ok (digits, rest) else .error .invalidPort

/-- Whether an authority has to name a host: in a special scheme, and wherever a number, user
information or an `@` in front of a path asks for one. -/
def needsHost (kind : SchemeKind) (authority user number after : Text) : Bool :=
  kind == .special || !number.isEmpty || !user.isEmpty ||
    (authority == ['@'] && !after.isEmpty)

/-- A URI with an authority, from what follows its two slashes. -/
def parseAuthority (kind : SchemeKind) (scheme t : Text) : Except UriError Uri := do
  let isEnd (c : Char) : Bool := isSlash kind c || isPathEnd c
  let authority := t.takeWhile fun c => !isEnd c
  let after := t.dropWhile fun c => !isEnd c
  let (user, rest) := userInfo authority
  let (hostText, number) := splitNumber false rest
  if hostText.isEmpty && needsHost kind authority user number after then throw .emptyHost
  let host ← if kind = .special then Host.parse hostText else Host.parseOpaque hostText
  let (digits, beyond) ← splitDigits number
  let number ← numberText scheme digits
  let (path, tail) := cutPath (beyond ++ after)
  let below := if (path.head?.map (isSlash kind)).getD false then path.drop 1 else path
  let resolved :=
    if kind = .other && path.isEmpty then [] else (readPath kind .root below).text
  pure (assemble kind scheme (some (user ++ host ++ number)) host resolved tail)

/-- A URI whose scheme is not special, from what follows its colon. -/
def parseOther (scheme : Text) : Text → Except UriError Uri
  | '/' :: '/' :: rest => parseAuthority .other scheme rest
  | '/' :: rest =>
    let (path, tail) := cutPath rest
    .ok (assemble .other scheme none [] (readPath .other .root path).text tail)
  | t =>
    let (path, tail) := cutPath t
    .ok (assemble .other scheme none [] (Percent.encode Percent.isControl path) tail)

/-- Whether a character is dropped from both ends of a URI. -/
def isTrimmed (c : Char) : Bool := decide (c.toNat ≤ 32)

/-- The URI that a text spells. -/
def parse (s : String) : Except UriError Uri :=
  let written := ((s.toList.dropWhile isTrimmed).reverse.dropWhile isTrimmed).reverse
  match scheme? (withoutDropped written) with
  | none => .error .relativeWithoutBase
  | some (scheme, rest) =>
    match kindOf scheme with
    | .file => parseFile ((written.dropWhile (· ≠ ':')).drop 1)
    | .special => parseAuthority .special scheme (rest.dropWhile (isSlash .special))
    | .other => parseOther scheme rest

/-- The text of a URI. -/
def text (u : Uri) : String :=
  let hierarchy :=
    match u.authority with
    | some a => '/' :: '/' :: a
    | none => if ['/', '/'].isPrefixOf u.path then ['/', '.'] else []
  let query := match u.query with
    | some q => '?' :: q
    | none => []
  let fragment := match u.fragment with
    | some f => '#' :: f
    | none => []
  String.ofList (u.scheme ++ ':' :: (hierarchy ++ u.path ++ query ++ fragment))

end Uri

end CallerClosure
