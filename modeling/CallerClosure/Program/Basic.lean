import CallerClosure.Symbol.Basic

/-!
# Programs that can be asked about their symbols

A `Program σ ν` answers questions about source code. It has a state of type `σ`, which every
question may change, and hands out syntax nodes of type `ν`.

* A question ends in an answer or in an `IndexError`, and in a new state either way;
* `Query σ α` is the type of a question with answers in `α`;
* the parent of a node is looked up without changing the state and cannot fail.
-/

namespace CallerClosure

/-- Why a program does not answer. -/
inductive IndexError
  /-- The index cannot be used at all. -/
  | unavailable (reason : String)
  /-- The program does not have this document. -/
  | unknownDocument (document : Path)
  /-- The span does not fit the document. -/
  | invalidSpan (document : Path) (span : Span)
  /-- A file could not be read. -/
  | io (reason : String)
  /-- The language server refused or stopped. -/
  | server (reason : String)
  deriving DecidableEq

/-- The wording of an index error. -/
def IndexError.message : IndexError → String
  | unavailable reason => s!"index unavailable: {reason}"
  | unknownDocument document => s!"unknown document: {document.text}"
  | invalidSpan document span => s!"span {span.display} is out of bounds for {document.text}"
  | io reason => s!"I/O error: {reason}"
  | server reason => s!"language server error: {reason}"

/-- A question to a program in a state of type `σ`. -/
abbrev Query (σ α : Type) := ExceptT IndexError (StateM σ) α

namespace Query

variable {σ α β : Type}

/-- The result of a question, and the state after it. -/
def ask (q : Query σ α) (s : σ) : Except IndexError α × σ := q.run.run s

/-- The question with a given effect. -/
def ofFunction (f : σ → Except IndexError α × σ) : Query σ α := ExceptT.mk f

/-- The question that reads the state. -/
def ofReader (f : σ → Except IndexError α) : Query σ α := ofFunction fun s => (f s, s)

/-- A question about a part of a larger state. -/
def within {τ : Type} (get : τ → σ) (put : σ → τ → τ) (q : Query σ α) : Query τ α :=
  ofFunction fun t =>
    let r := q.ask (get t)
    (r.1, put r.2 t)

@[simp] theorem ask_pure (a : α) (s : σ) : (pure a : Query σ α).ask s = (.ok a, s) := rfl

@[simp] theorem ask_throw (e : IndexError) (s : σ) :
    (throw e : Query σ α).ask s = (.error e, s) := rfl

@[simp] theorem ask_ofFunction (f : σ → Except IndexError α × σ) (s : σ) :
    (ofFunction f).ask s = f s := rfl

@[simp] theorem ask_ofReader (f : σ → Except IndexError α) (s : σ) :
    (ofReader f).ask s = (f s, s) := rfl

/-- A question that goes on after another one sees its answer and the state after it; after
an error nothing more is asked. -/
theorem ask_bind (q : Query σ α) (k : α → Query σ β) (s : σ) :
    (q >>= k).ask s =
      match q.ask s with
      | (.ok a, t) => (k a).ask t
      | (.error e, t) => (.error e, t) := by
  change (match q.ask s with
    | (r, t) => ExceptT.bindCont k r t) = _
  rcases q.ask s with ⟨_ | _, _⟩ <;> rfl

theorem ask_bind_of_ok {q : Query σ α} {k : α → Query σ β} {s t : σ} {a : α}
    (h : q.ask s = (.ok a, t)) : (q >>= k).ask s = (k a).ask t := by
  rw [ask_bind, h]

/-- An answer to two questions in a row comes from answers to both. -/
theorem exists_of_ask_bind {q : Query σ α} {k : α → Query σ β} {s u : σ} {b : β}
    (h : (q >>= k).ask s = (.ok b, u)) :
    ∃ a t, q.ask s = (.ok a, t) ∧ (k a).ask t = (.ok b, u) := by
  rw [ask_bind] at h
  rcases hq : q.ask s with ⟨e | a, t⟩
  · rw [hq] at h
    cases h
  · exact ⟨a, t, rfl, by rwa [hq] at h⟩

end Query

/-- The questions that can be put to a program. -/
structure Program (σ ν : Type) where
  /-- The smallest node around a span; none if the document is not part of the program. -/
  coveringNode : Path → Span → Query σ (Option ν)
  /-- The node around a node. -/
  parent : ν → σ → Option ν
  /-- The symbol that is used at a node. -/
  referencedSymbol : ν → Query σ (Option Symbol)
  /-- The symbol that a node declares. -/
  declaredSymbol : ν → Query σ (Option Symbol)
  /-- Every place where a symbol is used. -/
  findReferences : Symbol → Query σ (List ReferenceLocation)
  /-- The declaration around a place. -/
  containingDeclaration : ReferenceLocation → Query σ (Option Symbol)
  /-- The text of the first declaration of a symbol that lies in a document. -/
  declarationText : Symbol → Query σ (Option Text)

/-- The program seen from a larger state, of which its own state is a part. -/
def Program.within {σ τ ν : Type} (get : τ → σ) (put : σ → τ → τ) (p : Program σ ν) :
    Program τ ν where
  coveringNode document span := (p.coveringNode document span).within get put
  parent node t := p.parent node (get t)
  referencedSymbol node := (p.referencedSymbol node).within get put
  declaredSymbol node := (p.declaredSymbol node).within get put
  findReferences symbol := (p.findReferences symbol).within get put
  containingDeclaration location := (p.containingDeclaration location).within get put
  declarationText symbol := (p.declarationText symbol).within get put

end CallerClosure
