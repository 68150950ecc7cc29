import CallerClosure.Proofs.Extract.Stages
import CallerClosure.Proofs.Materialize.Order
import CallerClosure.Proofs.Recording.Answers
import Mathlib

/-!
# Extracting from a recorded program

The stages of an extraction fit together: what the checks of a recording promise is enough
for all that is asked later on.

* `RecordedProgram.document` is the document of a list of symbols;
* `RecordedProgram.Callers` is what the members of a closure are: the symbols to which a chain
  of callers leads;
* `extract_recorded` is the main statement.
-/

namespace CallerClosure

namespace RecordedProgram

/-- The declarations of symbols, each with the newlines that end it. -/
def document (r : RecordedProgram) (members : List Symbol) : Text :=
  (members.filterMap r.slice?).flatMap Materialized.closed

/-- What a delivery says about a seed and the members of its closure. -/
def delivery (r : RecordedProgram) (seed : Symbol) (members : List Symbol) : Delivery where
  seed := seed
  symbols := members.length
  fragments := (members.filterMap r.slice?).length
  bytes := (r.document members).size

/-- The members of the closure of a seed, each of them once: the symbols at the end of a
chain in which each symbol is around a recorded use of the one before. -/
structure Callers (r : RecordedProgram) (seed : Symbol) (members : List Symbol) : Prop where
  nodup : members.Nodup
  mem_iff : ∀ m, m ∈ members ↔ Relation.ReflTransGen r.CalledFrom seed m
  /-- Every member with a source has a text. -/
  isSome_slice? : ∀ m ∈ members, (r.slice? m).isSome = m.source?.isSome

end RecordedProgram

namespace Recording

variable {r : Recording} {document : Path} {text : Text}

/-- A chain of callers stays among the symbols of a recording. -/
theorem mem_symbols_of_chain (hv : r.Valid) {seed m : Symbol} (hseed : seed ∈ r.symbols)
    (h : Relation.ReflTransGen r.freeze.CalledFrom seed m) : m ∈ r.symbols := by
  induction h with
  | refl => exact hseed
  | tail _ hc =>
    obtain ⟨u, -, -, hcontaining⟩ := hc
    obtain ⟨d, hd, rfl⟩ := exists_declaration_of_containing hv hcontaining
    exact List.mem_append_left _ (List.mem_map_of_mem hd)

/-- What a run of the call graph reaches in the end are the callers of its seed. -/
theorem callers_of_reached (hr : r.Regular) (hv : r.Valid) {seed : Symbol}
    (hseed : seed ∈ r.symbols) {done : List Symbol} {f : Frontier}
    (h : r.freeze.callGraph.Reached seed done f) (hq : f.queue = []) :
    r.freeze.Callers seed f.set.toList := by
  have hchained := h.chained
  rw [RecordedProgram.isCaller_eq] at hchained
  have hsymbols : ∀ m ∈ f.set.toList, m ∈ r.symbols :=
    fun m hm => mem_symbols_of_chain hv hseed (hchained m hm)
  refine ⟨h.nodup.of_map, fun m => ⟨hchained m, fun hm => ?_⟩,
    fun m hm => isSome_slice? hr hv (hsymbols m hm)⟩
  -- the closure has a member with the identity of `m`, and no two symbols share one
  have hchain := hm
  rw [← RecordedProgram.isCaller_eq] at hchain
  have hid : m.id ∈ f.set.ids := (h.isLeast hq).1.mem_of_chain hchain
  obtain ⟨x, hx, hxm⟩ := SymbolSet.mem_ids.1 hid
  rw [← List.inj_on_of_nodup_map hv.nodup (hsymbols x hx) (mem_symbols_of_chain hv hseed hm) hxm]
  exact hx

/-- **The closure of a symbol of a recording are its callers.** -/
theorem exists_buildClosure (σ : Type) (hr : r.Regular) (hv : r.Valid)
    (ht : textOf? r.documents document = some text) {seed : Symbol} (hseed : seed ∈ r.symbols) :
    ∃ closure : Closure, closure.set.ids.Nodup ∧ r.freeze.Callers seed closure.set.toList ∧
      ∀ limit, r.nodes.length ≤ limit → ∀ s : σ,
        (r.freeze.program.buildClosure limit never seed).ask s = (.ok closure, s) := by
  have hfollows : (r.freeze.program : Program σ Nat).Follows r.freeze.callGraph := follows_freeze hv
  obtain ⟨done, f, hreached, hq, hbuild⟩ :=
    hfollows.exists_reached (closed_declaredIds hv seed.id) (Finset.finite_toSet _)
  refine ⟨f.closure, hreached.nodup, callers_of_reached hr hv hseed hreached hq,
    fun limit hlimit s => ?_⟩
  have hnever : (Simulation.still σ).traversal (Traversal.checkpoint never)
    (Traversal.checkpoint never) := fun _ => rfl
  have hstill := r.freeze.simulated.buildClosure hnever limit seed s
  exact Prod.ext (hbuild limit ((ncard_declaredIds_le ht seed.id).trans hlimit) s)
    (congrArg Prod.snd hstill :)

/-- The document of the members of a set. -/
theorem ask_materialize {σ : Type} (hr : r.Regular) (hv : r.Valid) {set : SymbolSet}
    (hset : ∀ m ∈ set.toList, m ∈ r.symbols) (order : FragmentOrder) (s : σ) :
    ∃ document : Materialized,
      ((r.freeze.program : Program σ Nat).materialize set order).ask s = (.ok document, s) ∧
      document.text = r.freeze.document (set.ordered order) ∧
      document.fragments = ((set.ordered order).filterMap r.freeze.slice?).length := by
  have hfragments : ∀ m ∈ set.ordered order,
      ((r.freeze.program : Program σ Nat).fragment m).ask s = (.ok (r.freeze.slice? m), s) :=
    fun m hm => ask_fragment hr hv (hset m ((set.perm_ordered order).mem_iff.1 hm)) s
  exact ⟨_, Program.ask_materializeList hfragments, rfl, rfl⟩

end Recording

/-- Callers stay callers in another order. -/
theorem RecordedProgram.Callers.perm {r : RecordedProgram} {seed : Symbol} {xs ys : List Symbol}
    (h : r.Callers seed xs) (hp : ys.Perm xs) : r.Callers seed ys where
  nodup := hp.nodup_iff.2 h.nodup
  mem_iff m := hp.mem_iff.trans (h.mem_iff m)
  isSome_slice? m hm := h.isSome_slice? m (hp.mem_iff.1 hm)

/-- **Extracting from a recorded program.** A recording that passes its checks leaves no way to
fail: a selection with text in it, in a document of the program, resolves to a method or to
none. With a method the sink gets one document: the declarations of the callers of that method,
word for word and in the order that was asked for. -/
theorem extract_recorded {σ : Type} {steps : List RecordingStep} {r : RecordedProgram}
    (hbuild : (Recording.ofSteps steps).build = .ok r) (sink : Sink σ)
    (haccepts : ∀ text s, (sink.deliver text s).1 = .ok ()) (request : Request σ) {text : Text}
    (htext : r.text? request.document = some text) (hspan : request.span.isEmpty = false)
    (hstop : request.span.stop ≤ text.size) (hcancelled : ∀ s, request.cancelled s = false)
    (hlimit : r.nodes.length ≤ request.limit) (s : σ) :
    ∃ found, (∀ limit, r.nodes.length ≤ limit →
        (r.program.resolveMethod limit request.document request.span).ask s = (.ok found, s)) ∧
      (found = none → r.program.extract sink request s = (.noMethod, s)) ∧
      ∀ seed, found = some seed → ∃ (closure : Closure) (members : List Symbol),
        (r.program.buildClosure request.limit request.cancelled seed).ask s = (.ok closure, s) ∧
        r.program.extract sink request s =
          (.delivered (r.delivery seed members), (sink.deliver (r.document members) s).2) ∧
        r.Callers seed members ∧
        (request.order = .discovery → members = closure.set.toList) ∧
        (request.order = .declaration → members.Perm closure.set.toList ∧
          members.Pairwise fun a b => a.compareDeclarations b = .lt) := by
  obtain ⟨hvalid, rfl⟩ := Recording.build_eq_ok_iff.1 hbuild
  have hregular := Recording.regular_ofSteps steps
  obtain ⟨found, hfound, hresolve⟩ := Recording.exists_resolveMethod σ htext hspan hstop
  obtain ⟨node, -, -, hcovering⟩ := Recording.exists_covering htext hstop
  have hseed := Program.ask_findSeed hspan (congrArg (·, s) hcovering) (hresolve _ hlimit s)
  have hnever : request.cancelled = never := funext hcancelled
  refine ⟨found, fun limit hl => hresolve limit hl s, ?_, ?_⟩
  · rintro rfl
    have hprepare : ((Recording.ofSteps steps).freeze.program.prepare request).ask s =
        (.ok .noMethod, s) := by
      rw [Program.prepare, Traversal.ask_bind_of_ok (Traversal.ask_ofQuery_eq_ok.2 hseed)]
      rfl
    rw [Program.extract, hprepare]
  · rintro seed rfl
    -- the seed is a symbol of the recording, so its callers and their texts are
    obtain ⟨closure, hnodup, hcallers, hclosure⟩ :=
      Recording.exists_buildClosure σ hregular hvalid htext (hfound seed rfl)
    have hsymbols : ∀ m ∈ closure.set.toList, m ∈ (Recording.ofSteps steps).symbols :=
      fun m hm =>
        Recording.mem_symbols_of_chain hvalid (hfound seed rfl) ((hcallers.mem_iff m).1 hm)
    obtain ⟨document, hmaterialize, hdocument, hcount⟩ :=
      Recording.ask_materialize hregular hvalid hsymbols request.order s
    have hperm := closure.set.perm_ordered request.order
    have hbuildClosure := hclosure request.limit hlimit s
    rw [← hnever] at hbuildClosure
    have hprepare := Program.ask_prepare hseed hbuildClosure (hcancelled s) hmaterialize
    refine ⟨closure, closure.set.ordered request.order, hbuildClosure, ?_, hcallers.perm hperm,
      fun horder => ?_, fun horder => ⟨hperm, ?_⟩⟩
    · have hsize : closure.set.size = (closure.set.ordered request.order).length :=
        hperm.length_eq.symm
      rw [Program.extract_of_ready hprepare (haccepts _ _), hsize, hcount, hdocument]
      rfl
    · rw [horder]
      rfl
    · rw [horder]
      exact SymbolSet.pairwise_ordered hnodup

/-- A method that calls itself and is called by another one. -/
def Recording.calledTwice : Recording :=
  .ofSteps [.document ⟨"a"⟩ "f(){f()}\ng(){f()}".toList, .declare ⟨"a"⟩ "f" .method ⟨0, 8⟩,
    .declare ⟨"a"⟩ "g" .method ⟨9, 17⟩, .reference ⟨"a"⟩ "a#0" ⟨4, 5⟩,
    .reference ⟨"a"⟩ "a#0" ⟨13, 14⟩]

theorem extract_recorded_calledTwice :
    ∃ closure members,
      Recording.calledTwice.build = .ok Recording.calledTwice.freeze ∧
      (Recording.calledTwice.freeze.program.buildClosure 5 never
        ⟨"a#0", "f", .method, [.source ⟨"a"⟩ ⟨0, 8⟩ 0]⟩).ask Record.empty =
          (.ok closure, Record.empty) ∧
      Recording.calledTwice.freeze.program.extract (Record.sink none)
          ⟨⟨"a"⟩, ⟨0, 1⟩, .declaration, never, 5⟩ Record.empty =
        (.delivered ⟨⟨"a#0", "f", .method, [.source ⟨"a"⟩ ⟨0, 8⟩ 0]⟩, 2, 2, 20⟩,
          ⟨["f(){f()}\n\ng(){f()}\n\n".toList], []⟩) ∧
      Recording.calledTwice.freeze.document members = "f(){f()}\n\ng(){f()}\n\n".toList ∧
      ⟨"a#9", "g", .method, [.source ⟨"a"⟩ ⟨9, 17⟩ 9]⟩ ∈ members := by
  have hbuild : Recording.calledTwice.build = .ok Recording.calledTwice.freeze := rfl
  have htext : Recording.calledTwice.freeze.text? ⟨"a"⟩ = some "f(){f()}\ng(){f()}".toList := rfl
  obtain ⟨found, hfound, -, hdelivered⟩ :=
    extract_recorded hbuild (Record.sink none) (fun _ _ => rfl)
      ⟨⟨"a"⟩, ⟨0, 1⟩, .declaration, never, 5⟩ htext rfl (by decide) (fun _ => rfl) (by decide)
      Record.empty
  have hseed : (Recording.calledTwice.freeze.program.resolveMethod 5 ⟨"a"⟩ ⟨0, 1⟩).ask
      Record.empty =
        (.ok (some ⟨"a#0", "f", .method, [.source ⟨"a"⟩ ⟨0, 8⟩ 0]⟩), Record.empty) := by
    cbv
  have hsome := (hfound 5 (by decide)).symm.trans hseed
  obtain ⟨closure, members, hclosure, hextract, hcallers, -, -⟩ :=
    hdelivered _ (Except.ok.inj (congrArg Prod.fst hsome))
  have hdelivers : Recording.calledTwice.freeze.program.extract (Record.sink none)
      ⟨⟨"a"⟩, ⟨0, 1⟩, .declaration, never, 5⟩ Record.empty =
        (.delivered ⟨⟨"a#0", "f", .method, [.source ⟨"a"⟩ ⟨0, 8⟩ 0]⟩, 2, 2, 20⟩,
          ⟨["f(){f()}\n\ng(){f()}\n\n".toList], []⟩) := by
    cbv
  have hrecord := (Prod.mk.inj (hextract.symm.trans hdelivers)).2
  have hdocument := (List.cons.inj (Record.mk.inj hrecord).1).1
  refine ⟨closure, members, hbuild, hclosure, hdelivers, hdocument,
    (hcallers.mem_iff _).2 (.single ?_)⟩
  refine ⟨⟨⟨"a"⟩, ⟨13, 14⟩, "a#0"⟩, by decide, rfl, ?_⟩
  cbv

example : Recording.calledTwice.freeze.program.extract (Record.sink none)
      ⟨⟨"a"⟩, ⟨0, 1⟩, .discovery, never, 5⟩ .empty =
    (.delivered ⟨⟨"a#0", "f", .method, [.source ⟨"a"⟩ ⟨0, 8⟩ 0]⟩, 2, 2, 20⟩,
      ⟨["f(){f()}\n\ng(){f()}\n\n".toList], []⟩) := by
  cbv

end CallerClosure
