import CallerClosure.Outline.Document
import CallerClosure.Program.Basic
import CallerClosure.Server.Client

/-!
# Sessions with a language server

A session asks a language server about the files of a workspace, and is a program in the
sense of the library.

* Only files under the workspace root with a known language are loaded. Any other file has
  no declarations, which is no error;
* a file is read, announced and outlined when it is first needed, and kept from then on.
  That it cannot be loaded is remembered too, but a failure is not;
* the node of a selection is the token at its start; around it lie the declarations of the
  outline.
-/

namespace CallerClosure

/-- A session in a world of type `ω`. -/
structure Session (ω : Type) where
  /-- The workspace root, without links and dots. -/
  root : Path
  /-- The files that were looked at, with their documents if they have been loaded. -/
  documents : List (Path × Option Document)
  world : ω

/-- A node of the syntax that a session knows about. -/
inductive SessionNode
  /-- The token at an offset, and the declaration around it. -/
  | token (document : Path) (offset : Nat) (parent : Option Nat)
  /-- A declaration of a document. -/
  | declaration (document : Path) (index : Nat)
  deriving DecidableEq

/-- Why a session does not start. -/
inductive StartError
  /-- The workspace root does not exist. -/
  | invalidRoot (root : Path)
  /-- The workspace root has no URI. -/
  | relativeRoot (root : Path)
  /-- The server cannot be run. -/
  | launch (command : String) (cause : FileError)
  | server (cause : ServerError)

/-- The wording of a start error. -/
def StartError.message : StartError → String
  | invalidRoot root => s!"Invalid workspace root {root.text}"
  | relativeRoot root => s!"Workspace root is not absolute: {root.text}"
  | launch command cause => s!"Failed to start '{command}': {cause.message}"
  | server cause => cause.message

namespace Session

variable {ω : Type}

/-- Start the server of a configuration. -/
def start (env : Environment ω) (config : ServerConfig) (w : ω) :
    Except StartError (Session ω) × ω :=
  match env.canonicalize config.root w with
  | .error _ => (.error (.invalidRoot config.root), w)
  | .ok root =>
    match Uri.ofDirectory? root with
    | none => (.error (.relativeRoot root), w)
    | some uri =>
      match env.launch { config with root } w with
      | (.error e, w) => (.error (.launch config.command e), w)
      | (.ok (), w) =>
        match (env.greet uri config.options).hold w with
        | (.error e, w) => (.error (.server e), w)
        | (.ok (), w) => (.ok ⟨root, [], w⟩, w)

/-- Shut the server down. -/
def close (env : Environment ω) (s : Session ω) : Except ServerError Unit × ω :=
  env.shutdown.hold s.world

/-- The absolute form of a path: without links and dots if the file exists. -/
def absolute (env : Environment ω) (s : Session ω) (p : Path) : Path :=
  let joined := if p.isAbsolute then p else s.root.join p
  match env.canonicalize joined s.world with
  | .ok canonical => canonical
  | .error _ => joined

/-- What is known of a file. -/
def lookup (documents : List (Path × Option Document)) (p : Path) :
    Option (Option Document) :=
  (documents.find? fun d => decide (d.1.Same p)).map (·.2)

/-- The document of a file that has been loaded. -/
def loaded? (s : Session ω) (p : Path) : Option Document := (lookup s.documents p).join

/-- The line of an offset in a loaded document, counted from one. -/
def lineOf (s : Session ω) (p : Path) (offset : Nat) : Option Nat :=
  (s.loaded? p).map fun d => (d.text.position offset).line + 1

/-- A conversation with the server of a session, as a question. -/
def converse {α : Type} (c : Conversation ω α) : Query (Session ω) α :=
  Query.ofFunction fun s =>
    let r := c.hold s.world
    (r.1.mapError fun e => .server e.message, { s with world := r.2 })

/-- Make remarks. -/
def remark (env : Environment ω) (remarks : List Remark) : Query (Session ω) Unit :=
  Query.ofFunction fun s =>
    (.ok (), { s with world := remarks.foldl (fun w r => env.remark r w) s.world })

/-- The text of a file; nothing if it does not exist. -/
def readText (env : Environment ω) (p : Path) : Query (Session ω) (Option Text) :=
  Query.ofFunction fun s =>
    let r := env.readText p s.world
    (match r.1 with
      | .ok text => .ok (some text)
      | .error .notFound => .ok none
      | .error e => .error (.io e.message),
      { s with world := r.2 })

/-- Announce a file and ask for its outline. -/
def announce (env : Environment ω) (p : Path) (language : Language) (text : Text) :
    Query (Session ω) Document :=
  match Uri.ofFile? p with
  | none => throw (.unavailable s!"not an absolute path: {p.text}")
  | some uri => do
    converse (env.openDocument uri (language.idFor p) text)
    let outline ← converse (env.outline uri)
    remark env (.opened p outline.length ::
      (Document.misplaced text outline).map fun e => .dropped e.name p)
    pure (Document.ofOutline p text outline)

/-- Open a file for the first time. -/
def openFile (env : Environment ω) (root p : Path) : Query (Session ω) (Option Document) :=
  match Language.ofPath? p with
  | none => do
    remark env [.unknownLanguage p]
    pure none
  | some language =>
    if p.IsUnder root then do
      match ← readText env p with
      | none => pure none
      | some text => some <$> announce env p language text
    else do
      remark env [.outside p]
      pure none

/-- Remember what was found out about a file. -/
def remember (p : Path) (d : Option Document) : Query (Session ω) Unit :=
  Query.ofFunction fun s => (.ok (), { s with documents := s.documents ++ [(p, d)] })

/-- The document of a file, which is opened if need be. -/
def load (env : Environment ω) (p : Path) : Query (Session ω) (Option Document) := do
  let s ← (get : Query (Session ω) (Session ω))
  let p := s.absolute env p
  match lookup s.documents p with
  | some known => pure known
  | none =>
    let d ← openFile env s.root p
    remember p d
    pure d

/-- Why a file whose name is no text cannot even be looked for. -/
def namelessFailure? : FileError → Option FileError
  | .notADirectory => some .notADirectory
  | .nameTooLong => some .nameTooLong
  | .tooManyLinks => some .tooManyLinks
  | .nulInName => some .nulInName
  | _ => none

/-- Look whether a file whose name is no text and is shown as `p` is missing, as it should be.
That a name above it is no directory is a failure. -/
def seekNameless (env : Environment ω) (p : Path) : Query (Session ω) Unit :=
  Query.ofFunction fun s =>
    let r := env.seek p s.world
    (match r.1 with
      | .ok () => .ok ()
      | .error e =>
        match namelessFailure? e with
        | some e => .error (.io e.message)
        | none => .ok (),
      { s with world := r.2 })

/-- Look for a file whose name is no text and is shown as `p`. -/
def lookForNameless (env : Environment ω) (p : Path) :
    Query (Session ω) (Option Document) := do
  let s ← (get : Query (Session ω) (Session ω))
  match Language.ofPath? p with
  | none => do
    remark env [.unknownLanguage p]
    pure none
  | some _ =>
    if p.IsUnder s.root then do
      seekNameless env p
      pure none
    else do
      remark env [.outside p]
      pure none

/-- The document of the file of a place. -/
def loadPlace (env : Environment ω) (place : Place) : Query (Session ω) (Option Document) :=
  match place.uri.filePath? with
  | some p => load env p
  | none => lookForNameless env place.uri.filePath

/-- Fail if a span does not end within a document. -/
def checkSpan (d : Document) (span : Span) : Query (Session ω) Unit :=
  if d.containsSpan span then pure () else throw (.invalidSpan d.path span)

/-- The node around a selection. -/
def coveringNode (env : Environment ω) (p : Path) (span : Span) :
    Query (Session ω) (Option SessionNode) := do
  match ← load env p with
  | none => pure none
  | some d =>
    checkSpan d span
    pure (some (.token d.path span.start (d.covering? span false)))

/-- The node around a node. -/
def parent (node : SessionNode) (s : Session ω) : Option SessionNode :=
  match node with
  | .token document _ parent => parent.map (.declaration document)
  | .declaration document index =>
    (((s.loaded? document).bind fun d => d.declarations[index]?).bind (·.parent)).map
      (.declaration document)

/-- The URI of a document that has been loaded. -/
def uriOf (d : Document) : String := (Uri.ofFile? d.path).getD ""

/-- The first symbol that one of the places names. -/
def firstNamed (env : Environment ω) : List Place → Query (Session ω) (Option Symbol)
  | [] => pure none
  | target :: rest => do
    match ← loadPlace env target with
    | none => firstNamed env rest
    | some d =>
      match (d.text.offset? target.range.start).bind d.namedAt? with
      | none => firstNamed env rest
      | some index => pure (d.symbol? index)

/-- The symbol that the token of a node refers to. -/
def referencedSymbol (env : Environment ω) : SessionNode → Query (Session ω) (Option Symbol)
  | .declaration .. => pure none
  | .token document offset _ => do
    match ← load env document with
    | none => pure none
    | some d =>
      let targets ← converse (env.definition (uriOf d) (d.text.position offset))
      firstNamed env targets

/-- The symbol of a declaration. -/
def declaredSymbol : SessionNode → Query (Session ω) (Option Symbol)
  | .token .. => pure none
  | .declaration document index =>
    Query.ofReader fun s => .ok ((s.loaded? document).bind fun d => d.symbol? index)

/-- The places that lie in documents which can be loaded. -/
def locate (env : Environment ω) : List Place → Query (Session ω) (List ReferenceLocation)
  | [] => pure []
  | place :: rest => do
    match ← loadPlace env place with
    | none => do
      remark env [.passedOver place.uri.filePath]
      locate env rest
    | some d =>
      match d.text.span? place.range with
      | none => do
        remark env [.misplaced place.range d.path]
        locate env rest
      | some span => do
        let locations ← locate env rest
        pure (⟨d.path, span⟩ :: locations)

/-- The places where a symbol is used. -/
def findReferences (env : Environment ω) (symbol : Symbol) :
    Query (Session ω) (List ReferenceLocation) :=
  match symbol.source? with
  | none => pure []
  | some source => do
    match ← load env source.document with
    | none => pure []
    | some d =>
      let places ← converse
        (env.references (uriOf d) (d.text.position source.nameOffset) false)
      locate env places

/-- The method around a place. -/
def containingDeclaration (env : Environment ω) (location : ReferenceLocation) :
    Query (Session ω) (Option Symbol) := do
  match ← load env location.document with
  | none => pure none
  | some d =>
    checkSpan d location.span
    pure ((d.covering? location.span true).bind d.symbol?)

/-- The whole lines of a declaration. -/
def declarationText (env : Environment ω) (symbol : Symbol) :
    Query (Session ω) (Option Text) :=
  match symbol.source? with
  | none => pure none
  | some source => do
    match ← load env source.document with
    | none => pure none
    | some d =>
      checkSpan d source.span
      pure (d.text.slice? (d.text.wholeLines source.span))

/-- The session as a program. -/
def program (env : Environment ω) : Program (Session ω) SessionNode where
  coveringNode := coveringNode env
  parent := parent
  referencedSymbol := referencedSymbol env
  declaredSymbol := declaredSymbol
  findReferences := findReferences env
  containingDeclaration := containingDeclaration env
  declarationText := declarationText env

end Session

end CallerClosure
