import CallerClosure.CommandLine.Listing
import CallerClosure.CommandLine.Narration
import CallerClosure.CommandLine.Parser
import CallerClosure.Server.Session

/-!
# Carrying out a command

A `Terminal ω` is what a command can reach besides files and servers: an output, a channel
for messages with a log among them, and files to write.

A command reads the file, finds the selection in it, starts the server of the file's
language, and then extracts from the session or lists the callers. The first of these that
fails ends the command. The server is shut down in the end, and it does not matter whether
it likes that. What goes on is told in the log.
-/

namespace CallerClosure

/-- What a command can reach in a world of type `ω`. -/
structure Terminal (ω : Type) extends Environment ω where
  workingDirectory : Path
  writeText : Path → Text → ω → Except FileError Unit × ω
  /-- Write to the output. -/
  print : Text → ω → ω
  /-- Write a line of messages. -/
  report : String → ω → ω
  /-- Write a line of the log. -/
  log : LogLine → ω → ω

/-- Why a command was not carried out. -/
inductive CommandError
  /-- The file to extract from cannot be read. -/
  | unreadable (file : Path)
  | io (cause : FileError)
  | selection (cause : SelectionError)
  /-- No language is known for the file. -/
  | unsupported (file : Path)
  | start (cause : StartError)
  | closure (cause : ClosureError)

/-- The wording of a command error. -/
def CommandError.message : CommandError → String
  | unreadable file => s!"Failed to read {file.text}"
  | io cause => cause.message
  | selection cause => cause.message
  | unsupported file => s!"Unsupported file type: {file.text}"
  | start cause => cause.message
  | closure cause => cause.message

/-- How a command that was carried out has ended. -/
inductive CommandResult
  | extracted (outcome : Outcome)
  | listed

/-- The exit code of a command. -/
def CommandResult.exitCode : Except CommandError CommandResult → Nat
  | .ok (.extracted outcome) => if outcome.isFailure then 1 else 0
  | .ok .listed => 0
  | .error _ => 1

namespace Terminal

variable {ω : Type}

/-- Tell something, perhaps about an extraction. -/
def tell (t : Terminal ω) (scope : Option LogScope) (event : CommandEvent) (w : ω) : ω :=
  t.log ⟨scope, event.entry⟩ w

/-- Tell something about a session. -/
def tellOf (t : Terminal ω) (scope : Option LogScope) (event : CommandEvent)
    (s : Session ω) : Session ω :=
  { s with world := t.tell scope event s.world }

/-- A sink that writes documents to the output or to a file, and failures as messages. -/
def sink (t : Terminal ω) (output : Option Path) : Sink (Session ω) where
  deliver text s :=
    match output with
    | none => (.ok (), { s with world := t.print text s.world })
    | some path =>
      let r := t.writeText path text s.world
      (r.1.mapError fun e => .io e.message, { s with world := r.2 })
  reportFailure message s := { s with world := t.report (failureLine message) s.world }

/-- The surroundings of a session that is told about. -/
def surroundings (t : Terminal ω) (scope : Option LogScope) : Environment ω :=
  { t.toEnvironment with
    launch := fun config w => t.launch config (t.tell scope (.launching config) w)
    remark := fun remark w => t.log ⟨scope, remark.entry⟩ w }

/-- The session as a program that is told about while a selection is extracted from it. -/
def narrated (t : Terminal ω) (scope : Option LogScope) (selection : Span) :
    Program (Narration (Session ω)) SessionNode :=
  Narration.program (t.tellOf scope) selection (Session.program (t.surroundings scope))

/-- The selection of an invocation in the text of its file. -/
def select (t : Terminal ω) (invocation : Invocation) (w : ω) :
    Except CommandError Span × ω :=
  match t.readText invocation.file w with
  | (.error e, w) =>
    (.error (match invocation.task with
      | .extract .. => .unreadable invocation.file
      | .callers _ => .io e), w)
  | (.ok text, w) => ((invocation.selection.span text).mapError .selection, w)

/-- A session for the file of an invocation. -/
def openSession (t : Terminal ω) (invocation : Invocation) (w : ω) :
    Except CommandError (Session ω) × ω :=
  match invocation.server.config? invocation.file with
  | none => (.error (.unsupported invocation.file), w)
  | some config =>
    let r := Session.start (t.surroundings none) config
      (t.tell none (.openingSession config) w)
    (r.1.mapError .start, r.2)

/-- What an invocation asks of a session, within a bound on steps. -/
def extractionRequest (t : Terminal ω) (invocation : Invocation) (limit : Nat) (span : Span)
    (s : Session ω) : Request (Narration (Session ω)) where
  document := s.absolute t.toEnvironment (t.workingDirectory.anchored invocation.file)
  span := span
  order := match invocation.task with
    | .extract order _ => order
    | .callers _ => .standard
  cancelled _ := false
  limit := limit

/-- Shut down the server of a session. -/
def closeSession (t : Terminal ω) (s : Session ω) : ω :=
  match s.close t.toEnvironment with
  | (.ok (), w) => w
  | (.error e, w) => t.tell none (.uncleanShutdown e.message) w

/-- Tell why there is nothing to extract. -/
def tellNothing (t : Terminal ω) (scope : Option LogScope)
    (request : Request (Narration (Session ω))) (n : Narration (Session ω)) : Session ω :=
  if request.span.isEmpty then t.tellOf scope .emptySelection n.state
  else if n.isPart then
    t.tellOf scope (.unresolved request.span request.document) n.state
  else n.state

/-- The session after an extraction, with what there is to tell and to acknowledge. -/
def conclude (t : Terminal ω) (scope : Option LogScope)
    (request : Request (Narration (Session ω))) (n : Narration (Session ω)) :
    Outcome → Session ω
  | .noSelection => t.tellNothing scope request n
  | .noMethod => t.tellOf scope .noMethod (t.tellNothing scope request n)
  | outcome =>
    match outcome.acknowledgement? with
    | some line => { n.state with world := t.report line n.state.world }
    | none => n.state

/-- Extract, and acknowledge a delivery. -/
def extract (t : Terminal ω) (output : Option Path)
    (request : Request (Narration (Session ω))) (s : Session ω) : Outcome × ω :=
  let scope : Option LogScope := some ⟨request.document, request.span⟩
  let sink := Narration.sink (t.tellOf scope) (t.sink output)
  let r := (t.narrated scope request.span).extract sink request (.start s)
  (r.1, t.closeSession (t.conclude scope request r.2 r.1))

/-- List the callers. -/
def list (t : Terminal ω) (json : Bool) (request : Request (Narration (Session ω)))
    (s : Session ω) : Except CommandError Unit × ω :=
  match ((t.narrated none request.span).collectCallers request).ask (.start s) with
  | (.error e, n) => (.error (.closure e), t.closeSession n.state)
  | (.ok none, n) => (.ok (), t.closeSession (t.tellNothing none request n))
  | (.ok (some closure), n) =>
    let s := t.tellOf none (.closureComplete closure.set.size closure.stats) n.state
    let rows := Listing.rows closure.set s.root s.lineOf
    (.ok (), t.print (Listing.render json rows).toList (t.closeSession s))

/-- Carry out a command, within a bound on the steps of each walk and traversal. -/
def run (t : Terminal ω) (limit : Nat) (invocation : Invocation) (w : ω) :
    Except CommandError CommandResult × ω :=
  match t.select invocation w with
  | (.error e, w) => (.error e, w)
  | (.ok span, w) =>
    match t.openSession invocation w with
    | (.error e, w) => (.error e, w)
    | (.ok s, _) =>
      let request := t.extractionRequest invocation limit span s
      match invocation.task with
      | .extract _ output =>
        let r := t.extract output request s
        (.ok (.extracted r.1), r.2)
      | .callers json =>
        let r := t.list json request s
        (r.1.map fun _ => .listed, r.2)

end Terminal

end CallerClosure
