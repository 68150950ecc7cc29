import CallerClosure.Proofs.Outline.Naming
import CallerClosure.Proofs.Session.Surroundings
import CallerClosure.Proofs.Text.Places

/-!
# What a definition leads to

Asked what a token refers to, a session takes the places that the server names one after the other,
until one of them touches the name of a declaration.

* `Session.ComesTo` says of some places that one of them is the first whose file can be loaded and
  has the line on which the place starts;
* `Session.ask_firstNamed` is the run over such places;
* `Session.referencedSymbol_of_namedApart` says that the name of a declaration leads to this
  declaration, if it touches no other name.
-/

namespace CallerClosure

open Relation (ReflTransGen)

namespace Session

variable {ω : Type} {env : Environment ω} {s t u : Session ω} {targets : List Place}
  {place : Place} {d : Document} {c : Declaration} {i offset : Nat}

/-- Of some places, looked at one after the other, `place` is the first one whose file can be loaded
and has the line on which the place starts. No file fails to load with an error on the way. -/
inductive ComesTo (env : Environment ω) (place : Place) (d : Document) :
    Session ω → List Place → Prop
  | here {s t : Session ω} {rest : List Place}
      (hload : (loadPlace env place).ask s = (.ok (some d), t))
      (hline : place.range.start.line ≤ d.text.newlines) : ComesTo env place d s (place :: rest)
  /-- A place whose file cannot be loaded is passed over -/
  | missing {s t : Session ω} {other : Place} {rest : List Place}
      (hload : (loadPlace env other).ask s = (.ok none, t)) (h : ComesTo env place d t rest) :
      ComesTo env place d s (other :: rest)
  /-- and so is a place that starts after the last line. -/
  | beyond {s t : Session ω} {other : Place} {rest : List Place} {e : Document}
      (hload : (loadPlace env other).ask s = (.ok (some e), t))
      (hline : e.text.newlines < other.range.start.line) (h : ComesTo env place d t rest) :
      ComesTo env place d s (other :: rest)

/-- The document of the place that is come to is held from then on. -/
theorem ComesTo.exists_knows (h : ComesTo env place d s targets) :
    ∃ t, ReflTransGen (Step env) s t ∧ t.Knows d := by
  induction h with
  | here hload hline =>
    obtain ⟨hsteps, hholds⟩ := (meets_loadPlace env place _).answer hload
    exact ⟨_, hsteps, hholds d rfl⟩
  | missing hload h ih =>
    obtain ⟨t, hsteps, hknows⟩ := ih
    exact ⟨t, ((meets_loadPlace env _ _).answer hload).1.trans hsteps, hknows⟩
  | beyond hload hline h ih =>
    obtain ⟨t, hsteps, hknows⟩ := ih
    exact ⟨t, ((meets_loadPlace env _ _).answer hload).1.trans hsteps, hknows⟩

/-- The place that is come to names its declaration, and those before it name none. -/
theorem ask_firstNamed (h : ComesTo env place d s targets)
    (hoffset : d.text.offset? place.range.start = some offset)
    (hnamed : d.namedAt? offset = some i) :
    ∃ t, (firstNamed env targets).ask s = (.ok (d.symbol? i), t) := by
  induction h with
  | @here s t rest hload hline =>
    refine ⟨t, ?_⟩
    rw [firstNamed, Query.ask_bind_of_ok hload]
    dsimp only
    rw [hoffset, Option.bind_some, hnamed]
    rfl
  | missing hload h ih =>
    rw [firstNamed, Query.ask_bind_of_ok hload]
    exact ih
  | beyond hload hline h ih =>
    rw [firstNamed, Query.ask_bind_of_ok hload]
    dsimp only
    rw [Text.offset?_eq_none_iff.2 hline]
    exact ih

/-- A document that a session holds has the spans that the server says. -/
theorem declared_of_knows (hs : Sourced env s) (hd : s.Knows d)
    (hc : d.declarations[i]? = some c) : Document.Declared d.text c := by
  obtain ⟨p, hp⟩ := hd
  obtain ⟨text, outline, -, -, rfl⟩ := hs p d hp
  rw [Document.text_ofOutline]
  exact Document.mem_ofOutline (List.mem_of_getElem? hc)

/-- **The name of a declaration leads to it**, whatever a session was asked before, if no other
name of its document is touched where this one is. In a document that is held, every offset from
the start to the end of the name leads to the declaration, and so does the start of the range that
the server gives for the name. So if the server answers that a token is defined in some places, and
the first of them that can be looked up is the range of such a name, then the token refers to the
symbol of that declaration. -/
theorem referencedSymbol_of_namedApart {config : ServerConfig} {w v : ω}
    (hstart : start env config w = (.ok s, v)) (history : List (Question SessionNode))
    (hafter : (program env).after s history = t) :
    (∀ d i c, t.Knows d → d.NamedApart i c →
      (∀ offset ∈ c.touched, d.namedAt? offset = some i) ∧
        ∃ offset ∈ c.touched, d.text.offset? c.entry.selection.start = some offset) ∧
    ∀ document offset parent d u targets x place e i c,
      (load env document).ask t = (.ok (some d), u) →
      (converse (env.definition (uriOf d) (d.text.position offset))).ask u = (.ok targets, x) →
      ComesTo env place e x targets → e.NamedApart i c → place.range = c.entry.selection →
        ∃ symbol y, e.symbol? i = some symbol ∧
          (referencedSymbol env (.token document offset parent)).ask t =
            (.ok (some symbol), y) := by
  subst hafter
  have hs : Sourced env s := sourced_of_start hstart
  have hsteps := (names env).toMoves.after s history
  constructor
  · intro d i c hd h
    obtain ⟨offset, hoffset, htouched⟩ :=
      Document.exists_touched_offset (declared_of_knows (sourced_of_steps hs hsteps) hd h.1)
    exact ⟨fun offset => Document.namedAt?_of_namedApart h, offset, htouched, hoffset⟩
  · intro document offset parent d u targets x place e i c hload hanswer hcomes h hrange
    obtain ⟨hu, hd⟩ := (meets_load env document _).answer hload
    have hx : Step env u x := by
      have hstep : Step env u _ := .definition u (hd d rfl) (d.text.position offset)
      rwa [hanswer] at hstep
    obtain ⟨y, hy, he⟩ := hcomes.exists_knows
    have hsourced := sourced_of_steps hs (((hsteps.trans hu).tail hx).trans hy)
    obtain ⟨start, hstart, htouched⟩ :=
      Document.exists_touched_offset (declared_of_knows hsourced he h.1)
    rw [← hrange] at hstart
    obtain ⟨z, hz⟩ := ask_firstNamed hcomes hstart (Document.namedAt?_of_namedApart h htouched)
    have hsymbol : e.symbol? i = some _ := congrArg (Option.map _) h.1
    refine ⟨_, z, hsymbol, ?_⟩
    rw [referencedSymbol, Query.ask_bind_of_ok hload]
    dsimp only
    rw [Query.ask_bind_of_ok hanswer, hz, hsymbol]

end Session

/-! ### A roundabout answer -/

/-- A place in a file. -/
def Place.inFile (path : String) (range : Range) : Place :=
  ⟨⟨"file".toList, some [], [], path.toList, none, none⟩, range⟩

/-- How a server writes it. -/
def Json.inFile (path : String) (range : Range) : Json :=
  .obj [("uri", .str s!"file://{path}"), ("range", range.toJson)]

/-- A server that knows a function and another one in it with the same range, and gives the name of
the first one the wrong way round. Asked for a definition, it names a file outside the workspace, a
line that does not exist, and at last that function. -/
def Replies.roundabout : Replies :=
  let symbol (selection : Range) : Json :=
    .obj [("name", .str "f"), ("kind", .nat 12), ("range", (⟨⟨0, 0⟩, ⟨1, 5⟩⟩ : Range).toJson),
      ("selectionRange", selection.toJson)]
  .constant (.arr [symbol ⟨⟨0, 5⟩, ⟨0, 4⟩⟩, symbol ⟨⟨1, 2⟩, ⟨1, 3⟩⟩])
    (.arr [.inFile "/n.py" ⟨⟨0, 0⟩, ⟨0, 1⟩⟩, .inFile "/ws/m.py" ⟨⟨9, 0⟩, ⟨9, 1⟩⟩,
      .inFile "/ws/m.py" ⟨⟨0, 5⟩, ⟨0, 4⟩⟩])
    .null

/-- The surroundings with such a server. -/
def Environment.roundabout : Environment Unit := .fixed (FileTree.selfCall.disk []) .roundabout

/-- The function as this server gives it. -/
def Declaration.roundabout : Declaration :=
  ⟨⟨"f", .function, ⟨⟨0, 0⟩, ⟨1, 5⟩⟩, ⟨⟨0, 5⟩, ⟨0, 4⟩⟩, none⟩, ⟨0, 14⟩, ⟨4, 5⟩, none⟩

/-- Its document. -/
def Document.roundabout : Document :=
  ⟨⟨"/ws/m.py"⟩, "def f():\n  f()\n".toList,
    [.roundabout, ⟨⟨"f", .function, ⟨⟨0, 0⟩, ⟨1, 5⟩⟩, ⟨⟨1, 2⟩, ⟨1, 3⟩⟩, none⟩, ⟨0, 14⟩, ⟨11, 12⟩,
      some 0⟩]⟩

theorem Document.namedApart_roundabout : Document.roundabout.NamedApart 0 .roundabout := by
  refine ⟨rfl, fun j e hne he offset hfirst hsecond => ?_⟩
  obtain rfl : j = 1 := by
    have hlt : j < 2 := (List.getElem?_eq_some_iff.1 he).1
    omega
  obtain rfl := Option.some.inj he
  have hle : offset ≤ 5 := hfirst.2
  have hge : 11 ≤ offset := hsecond.1
  omega

namespace Session

/-- The session there, once it holds the document. -/
def roundabout : Session Unit := ⟨⟨"/ws"⟩, [(⟨"/ws/m.py"⟩, some .roundabout)], ()⟩

/-- The same session, once it has looked at the file outside as well. -/
def roundaboutLater : Session Unit :=
  { roundabout with documents := roundabout.documents ++ [(⟨"/n.py"⟩, none)] }

/-- The third place is the first one that can be looked up. -/
theorem comesTo_roundabout :
    ComesTo .roundabout (.inFile "/ws/m.py" ⟨⟨0, 5⟩, ⟨0, 4⟩⟩) .roundabout roundabout
      [.inFile "/n.py" ⟨⟨0, 0⟩, ⟨0, 1⟩⟩, .inFile "/ws/m.py" ⟨⟨9, 0⟩, ⟨9, 1⟩⟩,
        .inFile "/ws/m.py" ⟨⟨0, 5⟩, ⟨0, 4⟩⟩] := by
  have houtside : (loadPlace .roundabout (.inFile "/n.py" ⟨⟨0, 0⟩, ⟨0, 1⟩⟩)).ask roundabout =
      (.ok none, roundaboutLater) := rfl
  have hinside (range : Range) : (loadPlace .roundabout (.inFile "/ws/m.py" range)).ask
      roundaboutLater = (.ok (some .roundabout), roundaboutLater) := rfl
  exact .missing houtside (.beyond (hinside _) (by decide) (.here (hinside _) (by decide)))

theorem referencedSymbol_of_namedApart_roundabout :
    start .roundabout (.standard .python ⟨"/ws"⟩) () = (.ok selfCall, ()) ∧
      (program .roundabout).after selfCall [.coveringNode ⟨"/ws/m.py"⟩ ⟨0, 1⟩] = roundabout ∧
      Document.roundabout.namedAt? 4 = some 0 ∧
      ∃ symbol t, Document.roundabout.symbol? 0 = some symbol ∧
        (referencedSymbol .roundabout (.token ⟨"/ws/m.py"⟩ 11 none)).ask roundabout =
          (.ok (some symbol), t) := by
  have hstart : start .roundabout (.standard .python ⟨"/ws"⟩) () = (.ok selfCall, ()) :=
    start_ws canonical_selfCall _ _ _
  have hafter : (program .roundabout).after selfCall [.coveringNode ⟨"/ws/m.py"⟩ ⟨0, 1⟩] =
      roundabout := rfl
  have hapart := Document.namedApart_roundabout
  obtain ⟨hnamed, hrefers⟩ := referencedSymbol_of_namedApart hstart _ hafter
  obtain ⟨hall, -⟩ := hnamed .roundabout 0 .roundabout ⟨_, List.mem_singleton.2 rfl⟩ hapart
  refine ⟨hstart, hafter, hall 4 ⟨by decide, by decide⟩, ?_⟩
  have hanswer : (converse (Environment.roundabout.definition (uriOf .roundabout)
      (Document.roundabout.text.position 11))).ask roundabout =
      (.ok [.inFile "/n.py" ⟨⟨0, 0⟩, ⟨0, 1⟩⟩, .inFile "/ws/m.py" ⟨⟨9, 0⟩, ⟨9, 1⟩⟩,
        .inFile "/ws/m.py" ⟨⟨0, 5⟩, ⟨0, 4⟩⟩], roundabout) := rfl
  exact hrefers _ _ none _ _ _ _ _ _ 0 _ rfl hanswer comesTo_roundabout hapart rfl

end Session

end CallerClosure
