import CallerClosure.CommandLine.Invocation
import CallerClosure.Extract
import CallerClosure.Log

/-!
# Telling about a command

What a command does is told in a log as it goes on. A program does not know that it is told
about: what there is to tell follows from the questions that it is asked and from its answers.

* `CommandEvent` is what there is to tell;
* `Narration.program` is a program that is told about, `Narration.sink` a sink that is.
-/

namespace CallerClosure

/-- Something that a command does or finds. -/
inductive CommandEvent
  /-- A server is about to be looked for. -/
  | openingSession (config : ServerConfig)
  /-- A server is about to be run. -/
  | launching (config : ServerConfig)
  /-- Nothing is selected. -/
  | emptySelection
  /-- The document of the selection is not part of the program. -/
  | notPart (document : Path)
  /-- The selection is about a method. -/
  | resolved (selection : Span) (method : Symbol)
  /-- The selection is about no method. -/
  | unresolved (selection : Span) (document : Path)
  /-- There is nothing to extract, because the selection is about no method. -/
  | noMethod
  /-- The callers of a method are about to be looked for. -/
  | buildingClosure (seed : Symbol)
  /-- The uses of a member were listed. -/
  | listed (member : Symbol) (references : Nat)
  /-- There is no declaration around a use. -/
  | uncalled (location : ReferenceLocation)
  /-- A new member was found. -/
  | discovered (caller : Symbol)
  /-- The closure holds so many members. -/
  | closureComplete (members : Nat) (stats : ClosureStats)
  /-- A member has no text. -/
  | textless (member : Symbol)
  /-- A document of so many fragments and bytes was written, without the skipped members. -/
  | materialized (fragments bytes skipped : Nat)
  /-- A document of so many members and bytes was delivered. -/
  | delivered (members bytes : Nat)
  | extractionFailed (message : String)
  /-- The server did not shut down as it should. -/
  | uncleanShutdown (message : String)

/-- What is told as a log entry. -/
def CommandEvent.entry : CommandEvent → LogEntry
  | openingSession config =>
    ⟨.info, "depclip_cli::commands::session",
      s!"Starting {config.command} in {config.root.text} for {config.language.display}"⟩
  | launching config =>
    ⟨.info, "depclip_core::lsp::client",
      s!"Starting {config.command} for {config.language.display}"⟩
  | emptySelection => ⟨.debug, "depclip_core::pipeline", "Empty selection"⟩
  | notPart document =>
    ⟨.debug, "depclip_core::pipeline", s!"{document.text} is not part of the program"⟩
  | resolved selection method =>
    ⟨.debug, "depclip_core::resolve",
      s!"Resolved selection {selection.display} to {method.display}"⟩
  | unresolved selection document =>
    ⟨.debug, "depclip_core::resolve",
      s!"No method-like symbol encloses {selection.display} in {document.text}"⟩
  | noMethod => ⟨.debug, "depclip_core::pipeline", "No method under the selection"⟩
  | buildingClosure seed =>
    ⟨.info, "depclip_core::closure", s!"Building caller closure for {seed.display}"⟩
  | listed member references =>
    ⟨.debug, "depclip_core::closure", s!"{member.name} has {references} references"⟩
  | uncalled location =>
    ⟨.debug, "depclip_core::closure",
      s!"Reference at {location.display} has no enclosing method"⟩
  | discovered caller =>
    ⟨.debug, "depclip_core::closure", s!"Discovered caller {caller.display}"⟩
  | closureComplete members stats =>
    ⟨.info, "depclip_core::closure",
      s!"Closure complete: {members} symbols, {stats.expanded} expansions, " ++
        s!"{stats.references} references ({stats.unresolved} unresolved)"⟩
  | textless member =>
    ⟨.debug, "depclip_core::materialize",
      s!"Skipping {member.display}: declaration text unavailable"⟩
  | materialized fragments bytes skipped =>
    ⟨.info, "depclip_core::materialize",
      s!"Materialized {fragments} fragments ({bytes} bytes, {skipped} skipped)"⟩
  | delivered members bytes =>
    ⟨.info, "depclip_core::pipeline", s!"Delivered {members} symbols ({bytes} bytes)"⟩
  | extractionFailed message =>
    ⟨.warning, "depclip_core::pipeline", s!"Extraction failed: {message}"⟩
  | uncleanShutdown message =>
    ⟨.debug, "depclip_cli::commands::session",
      s!"Language server did not shut down cleanly: {message}"⟩

/-- The state of a program that is told about. -/
structure Narration (σ : Type) where
  state : σ
  /-- Whether the selected document was found to be part of the program. -/
  isPart : Bool
  /-- How far the traversal has come, if it has begun. -/
  frontier : Option Frontier
  /-- The number of members whose text was found. -/
  fragments : Nat
  /-- The number of members whose text was not found. -/
  skipped : Nat

namespace Narration

variable {σ ν : Type}

/-- The state before anything is told. -/
def start (state : σ) : Narration σ := ⟨state, false, none, 0, 0⟩

/-- Put back the state of the program. -/
def update (state : σ) (n : Narration σ) : Narration σ := { n with state }

/-- Tell something. -/
def tell (narrate : CommandEvent → σ → σ) (event : CommandEvent) (n : Narration σ) :
    Narration σ :=
  { n with state := narrate event n.state }

/-- The selected document is part of the program, or it is not. -/
def cover (narrate : CommandEvent → σ → σ) (document : Path) (node : Option ν)
    (n : Narration σ) : Narration σ :=
  match node with
  | none => n.tell narrate (.notPart document)
  | some _ => { n with isPart := true }

/-- The uses of a member are about to be listed. The first such member is the method that was
selected. -/
def beginMember (narrate : CommandEvent → σ → σ) (selection : Span) (member : Symbol)
    (n : Narration σ) : Narration σ :=
  match n.frontier with
  | some _ => n
  | none =>
    let n := n.tell narrate (.resolved selection member)
    let n := n.tell narrate (.buildingClosure member)
    { n with frontier := some (.start member) }

/-- The uses of a member were listed. -/
def endMember (narrate : CommandEvent → σ → σ) (member : Symbol)
    (references : List ReferenceLocation) (n : Narration σ) : Narration σ :=
  let n := n.tell narrate (.listed member references.length)
  { n with frontier := n.frontier.map fun f => f.expand f.queue.tail references.length }

/-- The declaration around a use was looked for. -/
def visit (narrate : CommandEvent → σ → σ) (location : ReferenceLocation)
    (container : Option Symbol) (n : Narration σ) : Narration σ :=
  match n.frontier with
  | none => n
  | some f =>
    let visited := f.visit container
    let n := { n with frontier := some visited }
    match container with
    | none => n.tell narrate (.uncalled location)
    | some caller =>
      if f.set.size < visited.set.size then n.tell narrate (.discovered caller) else n

/-- The text of a member is about to be looked for. The first one means that the closure is
complete. -/
def beginText (narrate : CommandEvent → σ → σ) (n : Narration σ) : Narration σ :=
  match n.frontier with
  | none => n
  | some f =>
    if n.fragments + n.skipped = 0 then
      n.tell narrate (.closureComplete f.set.size f.stats)
    else n

/-- The text of a member was looked for. -/
def endText (narrate : CommandEvent → σ → σ) (member : Symbol) (text : Option Text)
    (n : Narration σ) : Narration σ :=
  match text with
  | none => { n.tell narrate (.textless member) with skipped := n.skipped + 1 }
  | some _ => { n with fragments := n.fragments + 1 }

/-- A step that tells something. -/
def note (f : Narration σ → Narration σ) : Query (Narration σ) Unit :=
  Query.ofFunction fun n => (.ok (), f n)

/-- A program that is told about while a selection is extracted from it. -/
def program (narrate : CommandEvent → σ → σ) (selection : Span) (p : Program σ ν) :
    Program (Narration σ) ν :=
  let q := p.within state update
  { q with
    coveringNode := fun document span => do
      let node ← q.coveringNode document span
      note (cover narrate document node)
      pure node
    findReferences := fun member => do
      note (beginMember narrate selection member)
      let references ← q.findReferences member
      note (endMember narrate member references)
      pure references
    containingDeclaration := fun location => do
      let container ← q.containingDeclaration location
      note (visit narrate location container)
      pure container
    declarationText := fun member => do
      note (beginText narrate)
      let text ← q.declarationText member
      note (endText narrate member text)
      pure text }

/-- A sink that is told about. -/
def sink (narrate : CommandEvent → σ → σ) (inner : Sink σ) : Sink (Narration σ) where
  deliver text n :=
    let n := n.tell narrate (.materialized n.fragments text.size n.skipped)
    let r := inner.deliver text n.state
    let n := n.update r.2
    match r.1 with
    | .error e => (.error e, n)
    | .ok () =>
      let members := (n.frontier.map fun f => f.set.size).getD 0
      (.ok (), n.tell narrate (.delivered members text.size))
  reportFailure message n :=
    let n := n.tell narrate (.extractionFailed message)
    n.update (inner.reportFailure message n.state)

end Narration

end CallerClosure
