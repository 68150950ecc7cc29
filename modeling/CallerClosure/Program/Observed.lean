import CallerClosure.Program.Basic

/-!
# Watching a program at work

An observed program keeps a list of the calls that were made to it. Calls can be made to
fail, and each call can cancel the traversal that makes it, by a rule that sees all calls up
to this one. Looking up the parent of a node is no call.
-/

namespace CallerClosure

/-- A call to a program. -/
inductive Call
  | coveringNode (document : Path) (span : Span)
  | referencedSymbol
  | declaredSymbol
  | findReferences (id : SymbolId)
  | containingDeclaration (location : ReferenceLocation)
  | declarationText (id : SymbolId)
  deriving DecidableEq

namespace Call

/-- The name of the question that is asked. -/
def question : Call → String
  | coveringNode .. => "covering_node"
  | referencedSymbol => "referenced_symbol"
  | declaredSymbol => "declared_symbol"
  | findReferences _ => "find_references"
  | containingDeclaration _ => "containing_declaration"
  | declarationText _ => "declaration_text"

/-- What the question is about. -/
def subject : Call → String
  | coveringNode document span => (ReferenceLocation.mk document span).display
  | referencedSymbol => ""
  | declaredSymbol => ""
  | findReferences id => id
  | containingDeclaration location => location.display
  | declarationText id => id

/-- A call as a line of a trace. -/
def display (c : Call) : String := s!"{c.question} {c.subject}"

end Call

/-- A rule for disturbing a program. It sees the calls before this one, and this one. -/
structure Interference where
  /-- The error that takes the place of an answer. -/
  failure : List Call → Call → Option IndexError
  /-- Whether the call cancels the traversal, before anything else happens. -/
  cancels : List Call → Call → Bool

/-- No interference. -/
def Interference.none : Interference := ⟨fun _ _ => .none, fun _ _ => false⟩

/-- A state with the calls that led to it. -/
structure Observed (σ : Type) where
  inner : σ
  calls : List Call
  cancelled : Bool

namespace Observed

variable {σ α ν : Type}

/-- The state before the first call. -/
def start (inner : σ) (cancelled : Bool) : Observed σ := ⟨inner, [], cancelled⟩

/-- A question that is recorded as a call, and perhaps disturbed. -/
def observe (rule : Interference) (call : Call) (q : Query σ α) : Query (Observed σ) α :=
  Query.ofFunction fun s =>
    let noted : Observed σ :=
      ⟨s.inner, s.calls ++ [call], s.cancelled || rule.cancels s.calls call⟩
    match rule.failure s.calls call with
    | some e => (.error e, noted)
    | none =>
      let r := q.ask s.inner
      (r.1, { noted with inner := r.2 })

/-- The program under observation. -/
def program (rule : Interference) (p : Program σ ν) : Program (Observed σ) ν where
  coveringNode document span :=
    observe rule (.coveringNode document span) (p.coveringNode document span)
  parent node s := p.parent node s.inner
  referencedSymbol node := observe rule .referencedSymbol (p.referencedSymbol node)
  declaredSymbol node := observe rule .declaredSymbol (p.declaredSymbol node)
  findReferences symbol := observe rule (.findReferences symbol.id) (p.findReferences symbol)
  containingDeclaration location :=
    observe rule (.containingDeclaration location) (p.containingDeclaration location)
  declarationText symbol :=
    observe rule (.declarationText symbol.id) (p.declarationText symbol)

end Observed

end CallerClosure
