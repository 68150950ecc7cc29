import CallerClosure.Proofs.Closure.CallGraph
import CallerClosure.Proofs.Program.Simulation

/-!
# Transcripts

A transcript is kept by a program and a sink together: every question that the program was
asked, with all that it was about, and everything that the sink was told. While it is kept,
questions can be made to fail by their number.

* `Question` is a question as data, and `Question.topic` what kind of thing it asks about;
* `Program.transcribed` is a program that keeps a transcript, and `Faults` says which of its
  questions fail;
* `Transcript.Keeps` says that a transcript changes nothing but itself. The lemmas after it go
  through the stages of an extraction, each of which asks about one topic only;
* `Program.extractTranscribed` is an extraction with a transcript, and
  `Transcript.exists_extractTranscribed` says that it goes as one without.
-/

namespace CallerClosure

variable {σ τ ν α β ε : Type}

/-! ### One step after another -/

/-- A step that goes on after another one, unless that one fails. -/
def andThen (f : τ → Except ε α × τ) (k : α → τ → Except ε β × τ) (t : τ) : Except ε β × τ :=
  match f t with
  | (.ok a, u) => k a u
  | (.error e, u) => (.error e, u)

theorem andThen_of_ok {f : τ → Except ε α × τ} {t u : τ} {a : α} (h : f t = (.ok a, u))
    (k : α → τ → Except ε β × τ) : andThen f k t = k a u := by
  rw [andThen, h]

theorem andThen_of_error {f : τ → Except ε α × τ} {t u : τ} {e : ε} (h : f t = (.error e, u))
    (k : α → τ → Except ε β × τ) : andThen f k t = (.error e, u) := by
  rw [andThen, h]

theorem Query.ask_bind_eq (q : Query τ α) (k : α → Query τ β) :
    (q >>= k).ask = andThen q.ask fun a => (k a).ask := by
  funext t
  rw [ask_bind, andThen]
  rcases q.ask t with ⟨_ | _, _⟩ <;> rfl

theorem Traversal.ask_bind_eq (t : Traversal τ α) (k : α → Traversal τ β) :
    (t >>= k).ask = andThen t.ask fun a => (k a).ask := by
  funext s
  rw [ask_bind, andThen]
  rcases t.ask s with ⟨_ | _, _⟩ <;> rfl

/-! ### Questions as data -/

/-- A question to a program, with everything that it is about. -/
inductive Question (ν : Type)
  | coveringNode (document : Path) (span : Span)
  | referencedSymbol (node : ν)
  | declaredSymbol (node : ν)
  | findReferences (symbol : Symbol)
  | containingDeclaration (location : ReferenceLocation)
  | declarationText (symbol : Symbol)

/-- The things that a program can be asked about. -/
inductive Topic
  /-- Resolving a selection asks about nodes. -/
  | nodes
  /-- Building a closure asks about references. -/
  | references
  /-- Writing a document asks about texts. -/
  | texts
  deriving DecidableEq

/-- What a question asks about. -/
def Question.topic : Question ν → Topic
  | coveringNode .. => .nodes
  | referencedSymbol _ => .nodes
  | declaredSymbol _ => .nodes
  | findReferences _ => .references
  | containingDeclaration _ => .references
  | declarationText _ => .texts

/-- The errors that take the place of answers, by the number of the question. The first
question has number one. -/
def Faults := Nat → Option IndexError

namespace Faults

/-- No question fails. -/
def none : Faults := fun _ => .none

/-- The question with a number fails. -/
def single (k : Nat) (e : IndexError) : Faults := fun n => if n = k then some e else .none

end Faults

/-- A state with all that was asked and told on the way to it. -/
structure Transcript (σ ν : Type) where
  inner : σ
  asked : List (Question ν)
  told : Record

namespace Transcript

/-- The transcript before the first question. -/
def start (s : σ) : Transcript σ ν := ⟨s, [], .empty⟩

/-- A question that is written down, and that may fail. -/
def write (faults : Faults) (question : Question ν) (q : Query σ α) :
    Query (Transcript σ ν) α :=
  Query.ofFunction fun t =>
    let asked := t.asked ++ [question]
    match faults asked.length with
    | some e => (.error e, { t with asked })
    | none =>
      let r := q.ask t.inner
      (r.1, { t with inner := r.2, asked })

theorem ask_write (faults : Faults) (question : Question ν) (q : Query σ α)
    (t : Transcript σ ν) :
    (write faults question q).ask t =
      match faults (t.asked.length + 1) with
      | some e => (.error e, ⟨t.inner, t.asked ++ [question], t.told⟩)
      | none => ((q.ask t.inner).1, ⟨(q.ask t.inner).2, t.asked ++ [question], t.told⟩) := by
  have hlength : (t.asked ++ [question]).length = t.asked.length + 1 := by simp
  rw [← hlength]
  rfl

/-- A sink that keeps a transcript. -/
def sink (sink : Sink σ) : Sink (Transcript σ ν) where
  deliver text t :=
    let r := sink.deliver text t.inner
    (r.1, { t with
      inner := r.2
      told := { t.told with deliveries := t.told.deliveries ++ [text] } })
  reportFailure message t :=
    { t with
      inner := sink.reportFailure message t.inner
      told := { t.told with failures := t.told.failures ++ [message] } }

/-- Whether some number of questions was asked. -/
def reaches (k : Nat) (t : Transcript σ ν) : Bool := decide (k ≤ t.asked.length)

end Transcript

/-- A program that keeps a transcript. -/
def Program.transcribed (p : Program σ ν) (faults : Faults) : Program (Transcript σ ν) ν where
  coveringNode document span :=
    Transcript.write faults (.coveringNode document span) (p.coveringNode document span)
  parent node t := p.parent node t.inner
  referencedSymbol node :=
    Transcript.write faults (.referencedSymbol node) (p.referencedSymbol node)
  declaredSymbol node :=
    Transcript.write faults (.declaredSymbol node) (p.declaredSymbol node)
  findReferences symbol :=
    Transcript.write faults (.findReferences symbol) (p.findReferences symbol)
  containingDeclaration location :=
    Transcript.write faults (.containingDeclaration location) (p.containingDeclaration location)
  declarationText symbol :=
    Transcript.write faults (.declarationText symbol) (p.declarationText symbol)

/-! ### Keeping a transcript changes nothing -/

namespace Transcript

/-- The second function does what the first one does. It writes down more questions, all of
them about some topics. -/
def Keeps (topics : Topic → Prop) (f : σ → Except ε α × σ)
    (g : Transcript σ ν → Except ε α × Transcript σ ν) : Prop :=
  ∀ t, ∃ more : List (Question ν), (∀ question ∈ more, topics question.topic) ∧
    g t = ((f t.inner).1, ⟨(f t.inner).2, t.asked ++ more, t.told⟩)

variable {topics : Topic → Prop}

theorem Keeps.of_start {f : σ → Except ε α × σ}
    {g : Transcript σ ν → Except ε α × Transcript σ ν} (h : Keeps topics f g) (s : σ) :
    ∃ asked, (∀ question ∈ asked, topics question.topic) ∧
      g (.start s) = ((f s).1, ⟨(f s).2, asked, .empty⟩) :=
  h (.start s)

theorem Keeps.of_eq {f : σ → Except ε α × σ}
    {g : Transcript σ ν → Except ε α × Transcript σ ν} (h : Keeps topics f g)
    (t : Transcript σ ν) {r : Except ε α} {u : σ} (hf : f t.inner = (r, u)) :
    ∃ more, (∀ question ∈ more, topics question.topic) ∧
      g t = (r, ⟨u, t.asked ++ more, t.told⟩) := by
  obtain ⟨more, hmore, hg⟩ := h t
  rw [hf] at hg
  exact ⟨more, hmore, hg⟩

theorem keeps_of_still (f : σ → Except ε α) :
    Keeps (ν := ν) topics (fun s => (f s, s)) (fun t => (f t.inner, t)) :=
  fun t => ⟨[], by simp, by simp⟩

theorem Keeps.andThen {f : σ → Except ε α × σ} {g : Transcript σ ν → Except ε α × Transcript σ ν}
    {k : α → σ → Except ε β × σ} {l : α → Transcript σ ν → Except ε β × Transcript σ ν}
    (hf : Keeps topics f g) (hk : ∀ a, Keeps topics (k a) (l a)) :
    Keeps topics (andThen f k) (andThen g l) := by
  intro t
  obtain ⟨more, hmore, hg⟩ := hf t
  rcases hft : f t.inner with ⟨e | a, s⟩
  · rw [hft] at hg
    exact ⟨more, hmore, by rw [andThen_of_error hft, andThen_of_error hg]⟩
  · rw [hft] at hg
    obtain ⟨rest, hrest, hl⟩ := hk a ⟨s, t.asked ++ more, t.told⟩
    refine ⟨more ++ rest, fun question hq => ?_, ?_⟩
    · exact (List.mem_append.1 hq).elim (hmore question) (hrest question)
    · rw [andThen_of_ok hft, andThen_of_ok hg, hl, List.append_assoc]

theorem keeps_write {question : Question ν} (h : topics question.topic) (q : Query σ α) :
    Keeps topics q.ask (write .none question q).ask :=
  fun t => ⟨[question], by simpa using h, rfl⟩

/-- Comparing a program with the same one that keeps a transcript. -/
def simulation (σ ν : Type) (topics : Topic → Prop) : Simulation σ (Transcript σ ν) where
  query q r := Keeps topics q.ask r.ask
  traversal t u := Keeps topics t.ask u.ask
  query_pure a := keeps_of_still fun _ => .ok a
  query_bind hq hk := by
    rw [Query.ask_bind_eq, Query.ask_bind_eq]
    exact hq.andThen hk
  traversal_pure a := keeps_of_still fun _ => .ok a
  traversal_throw e := keeps_of_still fun _ => .error e
  traversal_bind ht hk := by
    rw [Traversal.ask_bind_eq, Traversal.ask_bind_eq]
    exact ht.andThen hk
  traversal_ofQuery := by
    intro α q r hq t
    obtain ⟨more, hmore, hr⟩ := hq t
    exact ⟨more, hmore, by rw [Traversal.ask_ofQuery, Traversal.ask_ofQuery, hr]⟩

/-- A question of a traversal that is not cancelled. -/
theorem ask_checked_never (question : Question ν) (q : Query σ α) (t : Transcript σ ν) :
    (Traversal.checked never (write .none question q)).ask t =
      ((q.ask t.inner).1.mapError .index,
        ⟨(q.ask t.inner).2, t.asked ++ [question], t.told⟩) :=
  Traversal.ask_bind_of_ok (Traversal.ask_checkpoint_never t)

variable (p : Program σ ν) (topics : Topic → Prop)

theorem nodesSimulated (h : topics .nodes) :
    p.NodesSimulated (simulation σ ν topics) (p.transcribed .none) where
  coveringNode _ _ := keeps_write h _
  parentNow node := keeps_of_still fun s => .ok (p.parent node s)
  referencedSymbol _ := keeps_write h _
  declaredSymbol _ := keeps_write h _

theorem referencesSimulated (h : topics .references) :
    p.ReferencesSimulated (simulation σ ν topics) (p.transcribed .none) where
  findReferences _ := keeps_write h _
  containingDeclaration _ := keeps_write h _

theorem textsSimulated (h : topics .texts) :
    p.TextsSimulated (simulation σ ν topics) (p.transcribed .none) where
  declarationText _ := keeps_write h _

theorem keeps_checkpoint (cancelled : σ → Bool) :
    (simulation σ ν topics).traversal (Traversal.checkpoint cancelled)
      (Traversal.checkpoint fun t => cancelled t.inner) :=
  keeps_of_still fun s => if cancelled s then .error ClosureError.cancelled else .ok ()

/-- Building a closure asks about references. -/
theorem keeps_buildClosure (cancelled : σ → Bool) (limit : Nat) (seed : Symbol) :
    Keeps (ν := ν) (· = .references) (p.buildClosure limit cancelled seed).ask
      ((p.transcribed .none).buildClosure limit (fun t => cancelled t.inner) seed).ask :=
  (referencesSimulated p (· = .references) rfl).buildClosure (keeps_checkpoint _ cancelled)
    limit seed

/-- Writing a document asks about texts. -/
theorem keeps_materialize (set : SymbolSet) (order : FragmentOrder) :
    Keeps (ν := ν) (· = .texts) (p.materialize set order).ask
      ((p.transcribed .none).materialize set order).ask :=
  (textsSimulated p (· = .texts) rfl).materialize set order

theorem simulated_transcribed :
    p.Simulated (simulation σ ν fun _ => True) (p.transcribed .none) :=
  ⟨nodesSimulated p _ trivial, referencesSimulated p _ trivial, textsSimulated p _ trivial⟩

variable [DecidableEq ν]

/-- Resolving a selection asks about nodes. -/
theorem keeps_findSeed (request : Request σ) (cancelled : Transcript σ ν → Bool) :
    Keeps (· = .nodes) (p.findSeed request).ask
      ((p.transcribed .none).findSeed (request.cancelledBy cancelled)).ask :=
  (nodesSimulated p (· = .nodes) rfl).findSeed request cancelled

/-- The same request to a program that keeps a transcript. -/
def request (request : Request σ) : Request (Transcript σ ν) :=
  request.cancelledBy fun t => request.cancelled t.inner

/-- Preparing a document goes with a transcript as without one. -/
theorem keeps_prepare (r : Request σ) :
    Keeps (fun _ => True) (p.prepare r).ask ((p.transcribed .none).prepare (request r)).ask :=
  (simulated_transcribed p).prepare r (keeps_checkpoint _ r.cancelled)

/-- Collecting callers goes with a transcript as without one. -/
theorem keeps_collectCallers (r : Request σ) :
    Keeps (fun _ => True) (p.collectCallers r).ask
      ((p.transcribed .none).collectCallers (request r)).ask :=
  (simulated_transcribed p).collectCallers r (keeps_checkpoint _ r.cancelled)

end Transcript

/-! ### Extracting with a transcript -/

section Extract

variable [DecidableEq ν]

/-- An extraction that starts with an empty transcript. -/
def Program.extractTranscribed (p : Program σ ν) (faults : Faults) (sink : Sink σ)
    (request : Request (Transcript σ ν)) (s : σ) : Outcome × Transcript σ ν :=
  (p.transcribed faults).extract (Transcript.sink sink) request (.start s)

/-- **An extraction goes with a transcript as without one.** What it asks, it asks while the
document is prepared. -/
theorem Transcript.exists_extractTranscribed (p : Program σ ν) (k : Sink σ) (r : Request σ)
    (s : σ) :
    ∃ asked told,
      ((p.transcribed .none).prepare (request r)).ask (.start s) =
        (((p.prepare r).ask s).1, ⟨((p.prepare r).ask s).2, asked, .empty⟩) ∧
      p.extractTranscribed .none k (request r) s =
        ((p.extract k r s).1, ⟨(p.extract k r s).2, asked, told⟩) := by
  obtain ⟨asked, -, hprepare⟩ := (keeps_prepare p r).of_start s
  unfold Program.extractTranscribed Program.extract
  rw [hprepare]
  rcases (p.prepare r).ask s with ⟨e | prepared, u⟩
  · exact ⟨asked, _, rfl, rfl⟩
  cases prepared with
  | noSelection => exact ⟨asked, _, rfl, rfl⟩
  | noMethod => exact ⟨asked, _, rfl, rfl⟩
  | ready text delivery =>
    dsimp only [sink]
    rcases k.deliver text u with ⟨e | _, v⟩
    · exact ⟨asked, _, rfl, rfl⟩
    · exact ⟨asked, _, rfl, rfl⟩

end Extract

end CallerClosure
