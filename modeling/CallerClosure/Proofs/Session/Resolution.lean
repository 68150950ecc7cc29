import CallerClosure.Proofs.Outline.Containment
import CallerClosure.Proofs.Outline.Hierarchy
import CallerClosure.Proofs.Resolve.Walk
import CallerClosure.Proofs.Session.SelfConsistency

/-!
# Two ways to the method around a selection

A session finds the method around a place in two ways: resolution walks outwards from the token
where the place starts, and the container of a use is the smallest method around it.

* `Session.Filed` is the invariant that the walk counts on: a document is found again under its
  own path;
* `Session.ask_resolveMethod` and `Session.ask_containing` say what both ways come to;
* `Session.resolveMethod_of_hierarchy`: with a hierarchy both give the same method;
* `Session.resolveMethod_of_containment`: without one they give a method at the same places, as
  long as every declaration but the smallest is the first one with its span.
  `Session.not_resolveMethod_of_containment` shows that this cannot be left out.
-/

namespace CallerClosure

namespace Session

open Relation (ReflTransGen)

variable {ω : Type} {env : Environment ω} {s t u : Session ω} {d : Document} {p : Path}
  {q : Span}

/-! ### Documents under their own paths -/

/-- Every document is remembered under its own path, and no file twice. -/
structure Filed (s : Session ω) : Prop where
  path : ∀ p d, (p, some d) ∈ s.documents → d.path = p
  distinct : s.documents.Pairwise fun a b => ¬ a.1.Same b.1

theorem Step.filed (hs : Filed s) (h : Step env s t) : Filed t := by
  refine ⟨?_, h.distinct hs.distinct⟩
  obtain ⟨-, hsame | ⟨q, found, -, hopen, hmore⟩⟩ := h.grows
  · rw [hsame]
    exact hs.path
  · rw [hmore]
    intro p d hp
    rcases List.mem_append.1 hp with hp | hp
    · exact hs.path p d hp
    · obtain ⟨rfl, rfl⟩ := Prod.mk.inj (List.mem_singleton.1 hp)
      obtain ⟨-, text, outline, -, -, rfl⟩ := opening_of_openFile hopen
      exact Document.path_ofOutline _ text outline

theorem filed_of_steps (hs : Filed s) (h : ReflTransGen (Step env) s t) : Filed t := by
  induction h with
  | refl => exact hs
  | tail _ hstep ih => exact hstep.filed ih

/-- Documents stay where they are, whatever a session is asked. -/
theorem filed_of_start {config : ServerConfig} {w v : ω} (h : start env config w = (.ok s, v))
    (history : List (Question SessionNode)) : Filed ((program env).after s history) := by
  have hempty : s.documents = [] := (of_start h).2.1
  have hs : Filed s := ⟨by simp [hempty], by simp [hempty]⟩
  exact filed_of_steps hs ((names env).toMoves.after s history)

/-- A document that is held is found under its own path. -/
theorem loaded?_of_knows (hs : Filed s) (hd : s.Knows d) : s.loaded? d.path = some d := by
  obtain ⟨p, hp⟩ := hd
  rw [hs.path p d hp, loaded?, lookup_of_mem hs.distinct hp]
  rfl

/-! ### The walk -/

theorem ask_methodAt_declaration (h : s.loaded? p = some d) (index : Nat) :
    ((program env).methodAt (.declaration p index)).ask s = (.ok (d.method? index), s) := by
  have hused : ((program env).referencedSymbol (.declaration p index)).ask s = (.ok none, s) := rfl
  have hdeclared : ((program env).declaredSymbol (.declaration p index)).ask s =
      (.ok (d.symbol? index), s) := by
    show (declaredSymbol (.declaration p index)).ask s = _
    rw [declaredSymbol, Query.ask_ofReader, h]
    rfl
  rw [Program.methodAt, Query.ask_bind_of_ok hused]
  dsimp only [Option.filter_none]
  rw [Query.ask_bind_of_ok hdeclared]
  rfl

/-- The way outwards in a document is one in a session that holds the document. -/
theorem outwards_of_document (h : s.loaded? p = some d) {start : Option Nat} {way : List Nat}
    (hway : d.Outwards start way) :
    (program env).Outwards s (start.map (.declaration p)) (way.map (.declaration p)) := by
  induction hway with
  | done => exact .done
  | @step index rest _ ih =>
    refine .step ?_
    have hparent : (program env).parent (.declaration p index) s =
        (d.parent? index).map (.declaration p) := by
      show parent (.declaration p index) s = _
      rw [parent, h]
      rfl
    rw [hparent]
    exact ih

/-- Asked in this state about a span of a file, which is loaded as the given document, the server
names no method at the start of the span. -/
def NamesNoMethod (env : Environment ω) (s : Session ω) (p : Path) (q : Span) (d : Document) :
    Prop :=
  ∃ t u used, (load env p).ask s = (.ok (some d), t) ∧
    (referencedSymbol env (.token d.path q.start (d.covering? q false))).ask t = (.ok used, u) ∧
    used.filter Symbol.isMethodLike = none

/-- A server that knows no definition there names no method. -/
theorem namesNoMethod_of_none (hload : ((load env p).ask s).1 = .ok (some d))
    (hused : ((referencedSymbol env (.token d.path q.start (d.covering? q false))).ask
      ((load env p).ask s).2).1 = .ok none) : NamesNoMethod env s p q d :=
  ⟨_, _, none, Prod.ext hload rfl, Prod.ext hused rfl, rfl⟩

/-- What the node of a declaration stands for in a document. -/
def methodOf (d : Document) : SessionNode → Option Symbol
  | .token .. => none
  | .declaration _ index => d.method? index

/-- From a declaration of a document that is held, a walk finds the first method on the way
outwards. -/
theorem ask_walk_declaration (h : s.loaded? p = some d) {index : Nat} {way : List Nat}
    (hway : d.Outwards (some index) way) (hnodup : way.Nodup) {seen : List SessionNode}
    (hseen : ∀ i ∈ way, SessionNode.declaration p i ∉ seen) {limit : Nat}
    (hlimit : way.length ≤ limit) :
    ((program env).walk limit seen (.declaration p index)).ask s =
      (.ok (way.findSome? d.method?), s) := by
  have hmethods : (way.map (SessionNode.declaration p)).findSome? (methodOf d) =
      way.findSome? d.method? := by
    rw [List.findSome?_map]
    rfl
  rw [← hmethods]
  refine Program.ask_walk_of_outwards (outwards_of_document h hway) ?_ ?_ ?_ ?_
  · intro node hnode
    obtain ⟨i, -, rfl⟩ := List.mem_map.1 hnode
    exact ask_methodAt_declaration h i
  · exact hnodup.map fun _ _ hij => (SessionNode.declaration.inj hij).2
  · intro node hnode
    obtain ⟨i, hi, rfl⟩ := List.mem_map.1 hnode
    exact hseen i hi
  · rwa [List.length_map]

theorem ask_bind_checkSpan {α : Type} (d : Document) (q : Span) (k : Unit → Query (Session ω) α)
    (s : Session ω) :
    (checkSpan d q >>= k).ask s =
      if d.containsSpan q then (k ()).ask s else (.error (.invalidSpan d.path q), s) := by
  rw [checkSpan]
  split <;> rfl

/-- **Resolution gives the first method on the way outwards**, where the server names none. -/
theorem ask_resolveMethod (hs : Filed s) (hq : q.start < q.stop)
    (hnames : NamesNoMethod env s p q d) {way : List Nat}
    (hway : d.Outwards (d.covering? q false) way) (hnodup : way.Nodup) {limit : Nat}
    (hlimit : way.length < limit) :
    (((program env).resolveMethod limit p q).ask s).1 =
      if d.containsSpan q then .ok (way.findSome? d.method?)
      else .error (.invalidSpan d.path q) := by
  obtain ⟨t, u, used, hload, hused, hnone⟩ := hnames
  have hmeets := (meets_load env p s).answer hload
  have hsteps : ReflTransGen (Step env) t u := by
    have h := (meets_referencedSymbol env (.token d.path q.start (d.covering? q false)) t).1
    rwa [hused] at h
  have hloaded : u.loaded? d.path = some d :=
    loaded?_of_knows (filed_of_steps hs (hmeets.1.trans hsteps))
      (knows_of_steps (hmeets.2 d rfl) hsteps)
  have hne : ¬ q.isEmpty = true := by simp [Span.isEmpty, Nat.ne_of_lt hq]
  have hcovering : ((program env).coveringNode p q).ask s = if d.containsSpan q then
      (.ok (some (.token d.path q.start (d.covering? q false))), t)
      else (.error (.invalidSpan d.path q), t) := by
    show (coveringNode env p q).ask s = _
    rw [coveringNode, Query.ask_bind_of_ok hload]
    exact ask_bind_checkSpan d q _ t
  have htoken : ((program env).methodAt
      (.token d.path q.start (d.covering? q false))).ask t = (.ok none, u) := by
    have hreferenced : ((program env).referencedSymbol
        (.token d.path q.start (d.covering? q false))).ask t = (.ok used, u) := hused
    rw [Program.methodAt, Query.ask_bind_of_ok hreferenced, hnone]
    rfl
  rw [Program.resolveMethod, if_neg hne]
  by_cases hspan : d.containsSpan q = true
  · rw [if_pos hspan] at hcovering ⊢
    obtain ⟨limit, rfl⟩ : ∃ k, limit = k + 1 := Nat.exists_eq_succ_of_ne_zero (by omega)
    rw [Query.ask_bind_of_ok hcovering]
    dsimp only
    rw [Program.walk, if_neg (by simp), Query.ask_bind_of_ok htoken]
    dsimp only
    rw [Query.ask_bind_of_ok (Program.ask_parentNow _ _ _)]
    -- the walk goes on at the smallest declaration, if there is one
    cases hstart : d.covering? q false with
    | none =>
      rw [hstart] at hway
      cases hway
      rfl
    | some index =>
      rw [hstart] at hway
      refine congrArg Prod.fst
        (ask_walk_declaration hloaded hway hnodup (fun i _ => ?_) (Nat.le_of_lt_succ hlimit))
      simp
  · rw [if_neg hspan] at hcovering ⊢
    rw [Query.ask_bind, hcovering]

/-- **The container of a place is the smallest method around it.** -/
theorem ask_containing (hload : (load env p).ask s = (.ok (some d), t)) :
    ((containingDeclaration env ⟨p, q⟩).ask s).1 =
      if d.containsSpan q then .ok ((d.covering? q true).bind d.symbol?)
      else .error (.invalidSpan d.path q) := by
  rw [containingDeclaration, Query.ask_bind_of_ok hload]
  dsimp only
  rw [ask_bind_checkSpan]
  split <;> rfl

/-! ### Both ways together -/

/-- What two ways to the method around a span of a document come to in every session that holds
it: resolution, where the server names no method at the start of the span, and the search for
the container, whenever it is made. -/
def Compares (d : Document) (q : Span)
    (compare : Except IndexError (Option Symbol) → Except IndexError (Option Symbol) → Prop) :
    Prop :=
  ∀ (ω : Type) (env : Environment ω) (config : ServerConfig) (w v : ω) (s : Session ω),
    start env config w = (.ok s, v) → ∀ history p,
      NamesNoMethod env ((program env).after s history) p q d →
        ∀ limit, d.declarations.length < limit → ∀ later p' t',
          (load env p').ask later = (.ok (some d), t') →
            compare (((program env).resolveMethod limit p q).ask ((program env).after s history)).1
              ((containingDeclaration env ⟨p', q⟩).ask later).1

/-- Both ways fail alike, so it is enough to look at the first method on the way outwards and the
smallest method around the span. -/
theorem compares_of_outwards
    {compare : Except IndexError (Option Symbol) → Except IndexError (Option Symbol) → Prop}
    (hq : q.start < q.stop) {way : List Nat} (hway : d.Outwards (d.covering? q false) way)
    (hnodup : way.Nodup) (haround : ∀ index ∈ way, d.IsAround q index)
    (hfound : compare (.ok (way.findSome? d.method?)) (.ok ((d.covering? q true).bind d.symbol?)))
    (hfailed : ∀ e, compare (.error e) (.error e)) : Compares d q compare := by
  intro ω env config w v s hstart history p hnames limit hlimit later p' t' hload
  have hlength := Document.length_le_of_nodup hnodup haround
  rw [ask_resolveMethod (filed_of_start hstart history) hq hnames hway hnodup
    (Nat.lt_of_le_of_lt hlength hlimit), ask_containing hload]
  split
  · exact hfound
  · exact hfailed _

end Session

/-! ### An assignment -/

/-- A workspace with a single assignment. -/
def FileTree.assignment : FileTree :=
  ⟨[(["ws"], .directory), (["ws", "m.py"], .file (Utf8.encode "f = g(x)\n".toList))]⟩

/-- Surroundings with this workspace and a server that knows its outline and nothing else. -/
def Environment.assignment (outline : Json) : Environment Unit :=
  .fixed (FileTree.assignment.disk []) (.constant outline .null .null)

/-- The file of this workspace with an outline. -/
def Document.assignment (outline : Outline) : Document :=
  .ofOutline ⟨"/ws/m.py"⟩ "f = g(x)\n".toList outline

/-- The function `f`, within the variable `f` that has the same range. -/
def Outline.assignment : Outline :=
  [⟨"f", .«variable», none, ⟨⟨0, 0⟩, ⟨0, 8⟩⟩, ⟨⟨0, 0⟩, ⟨0, 1⟩⟩,
    [⟨"f", .function, none, ⟨⟨0, 0⟩, ⟨0, 8⟩⟩, ⟨⟨0, 4⟩, ⟨0, 5⟩⟩, []⟩]⟩]

/-- How a server says so. -/
def Json.assignment : Json :=
  .arr [.obj [("name", .str "f"), ("kind", .nat 13),
    ("range", (⟨⟨0, 0⟩, ⟨0, 8⟩⟩ : Range).toJson),
    ("selectionRange", (⟨⟨0, 0⟩, ⟨0, 1⟩⟩ : Range).toJson),
    ("children", .arr [.obj [("name", .str "f"), ("kind", .nat 12),
      ("range", (⟨⟨0, 0⟩, ⟨0, 8⟩⟩ : Range).toJson),
      ("selectionRange", (⟨⟨0, 4⟩, ⟨0, 5⟩⟩ : Range).toJson)]])]]

/-- A declaration in an outline without a hierarchy. -/
def OutlineNode.leaf (name : String) (kind : SymbolKind) (range : Range) : OutlineNode :=
  ⟨name, kind, none, range, ⟨range.start, range.start⟩, []⟩

/-- How a server says so, for the file of the assignment. -/
def Json.leaf (name : String) (code : Nat) (range : Range) : Json :=
  .obj [("name", .str name), ("kind", .nat code),
    ("location", .obj [("uri", .str "file:///ws/m.py"), ("range", range.toJson)])]

/-- The variable `f` and the function `f`, without a hierarchy. -/
def Outline.twice : Outline :=
  [.leaf "f" .«variable» ⟨⟨0, 0⟩, ⟨0, 8⟩⟩, .leaf "f" .function ⟨⟨0, 0⟩, ⟨0, 8⟩⟩]

/-- How a server says so. -/
def Json.twice : Json :=
  .arr [.leaf "f" 13 ⟨⟨0, 0⟩, ⟨0, 8⟩⟩, .leaf "f" 12 ⟨⟨0, 0⟩, ⟨0, 8⟩⟩]

/-- Both of them, and a variable `x` within. -/
def Outline.around : Outline := twice ++ [.leaf "x" .«variable» ⟨⟨0, 6⟩, ⟨0, 7⟩⟩]

/-- How a server says so. -/
def Json.around : Json :=
  .arr [.leaf "f" 13 ⟨⟨0, 0⟩, ⟨0, 8⟩⟩, .leaf "f" 12 ⟨⟨0, 0⟩, ⟨0, 8⟩⟩,
    .leaf "x" 13 ⟨⟨0, 6⟩, ⟨0, 7⟩⟩]

/-- The function `f` as a session names it without a hierarchy. -/
def Symbol.assignment : Symbol :=
  ⟨"/ws/m.py#0:0", "f", .function, [.source ⟨"/ws/m.py"⟩ ⟨0, 8⟩ 0]⟩

namespace Session

theorem start_assignment (outline : Json) :
    start (.assignment outline) (.standard .python ⟨"/ws"⟩) () = (.ok .selfCall, ()) :=
  start_ws (by decide +kernel) _ _ _

/-! ### Resolution and containers -/

variable {d : Document} {q : Span} {path : Path} {text : Text} {outline : Outline}

/-- **With a hierarchy, the way outwards from the smallest declaration around a span goes through
all declarations around it**, once each and from the inside to the outside, and the first method
on it is the smallest one. So resolution gives the container of the span, where the server names
no method. -/
theorem resolveMethod_of_hierarchy (hd : d = .ofOutline path text outline)
    (hnests : outline.Nests text) (hchild : ∃ node ∈ outline, node.children ≠ [])
    (hq : q.start < q.stop) :
    (∃ way, d.Outwards (d.covering? q false) way ∧ way.Nodup ∧
      (∀ index, index ∈ way ↔ d.IsAround q index) ∧ way.Pairwise d.IsInside ∧
      way.find? d.isMethod = d.covering? q true) ∧
    Compares d q (· = ·) := by
  subst hd
  obtain ⟨way, hway, hnodup, haround, hinside, hfind⟩ :=
    Document.exists_outwards_of_inwards (Document.inwards_around path hnests hchild hq)
  refine ⟨⟨way, hway, hnodup, haround, hinside, hfind⟩, ?_⟩
  refine compares_of_outwards hq hway hnodup (fun index => (haround index).1) ?_ fun _ => rfl
  rw [Document.findSome?_method?, hfind]

theorem nests_assignment : Outline.assignment.Nests "f = g(x)\n".toList where
  nodes := by
    intro node hnode
    obtain rfl := List.mem_singleton.1 hnode
    refine .intro (show _ = some ⟨0, 8⟩ from rfl) (show _ = some ⟨0, 1⟩ from rfl) ?_
      (.cons (by simp) .nil) ?_
    · intro child hchild inner hinner
      obtain rfl := List.mem_singleton.1 hchild
      obtain rfl := Option.some.inj (hinner.symm.trans (show _ = some ⟨0, 8⟩ from rfl))
      decide
    · intro child hchild
      obtain rfl := List.mem_singleton.1 hchild
      exact .intro (show _ = some ⟨0, 8⟩ from rfl) (show _ = some ⟨4, 5⟩ from rfl) (by simp) .nil
        (by simp)
  apart := .cons (by simp) .nil

theorem resolveMethod_of_hierarchy_assignment :
    Outline.assignment.Nests "f = g(x)\n".toList ∧
      (∃ node ∈ Outline.assignment, node.children ≠ []) ∧
      NamesNoMethod (.assignment .assignment) selfCall ⟨"/ws/m.py"⟩ ⟨6, 7⟩
        (.assignment .assignment) ∧
      (∃ way, (Document.assignment .assignment).Outwards (some 1) way ∧
        way.find? (Document.assignment .assignment).isMethod = some 1) ∧
      (((program (.assignment .assignment)).resolveMethod 3 ⟨"/ws/m.py"⟩ ⟨6, 7⟩).ask selfCall).1 =
        .ok (some ⟨"/ws/m.py#0:4", "f", .function, [.source ⟨"/ws/m.py"⟩ ⟨0, 8⟩ 4]⟩) := by
  have hchild : ∃ node ∈ Outline.assignment, node.children ≠ [] :=
    ⟨_, List.mem_singleton.2 rfl, by simp⟩
  have hnames : NamesNoMethod (.assignment .assignment) selfCall ⟨"/ws/m.py"⟩ ⟨6, 7⟩
      (.assignment .assignment) := by
    exact namesNoMethod_of_none rfl (by decide +kernel)
  obtain ⟨⟨way, hway, -, -, -, hfind⟩, hcompare⟩ := resolveMethod_of_hierarchy (q := ⟨6, 7⟩)
    (d := .assignment .assignment) rfl nests_assignment hchild (by decide)
  have hcovering : (Document.assignment .assignment).covering? ⟨6, 7⟩ false = some 1 := by
    decide +kernel
  have hmethod : (Document.assignment .assignment).covering? ⟨6, 7⟩ true = some 1 := by
    decide +kernel
  rw [hcovering] at hway
  rw [hmethod] at hfind
  obtain ⟨t, _, _, hload, -⟩ := id hnames
  refine ⟨nests_assignment, hchild, hnames, ⟨way, hway, hfind⟩, ?_⟩
  have hsame := hcompare Unit _ _ () () _ (start_assignment _) [] _ hnames 3 (by decide +kernel)
    _ _ _ hload
  refine hsame.trans ?_
  decide +kernel

/-- A method was found. -/
def IsFound (answer : Except IndexError (Option Symbol)) : Prop := ∃ m, answer = .ok (some m)

theorem isFound_ok {found : Option Symbol} : IsFound (.ok found) ↔ found.isSome = true := by
  simp [IsFound, Option.isSome_iff_exists]

/-- **Without a hierarchy, the way outwards from the smallest declaration around a span goes
through that one and the first declaration with each span around it**, once each and from the
inside to the outside. So if these are all declarations around the span, resolution finds a method
where the container is one. -/
theorem resolveMethod_of_containment (hd : d = .ofOutline path text outline)
    (hflat : ∀ node ∈ outline, node.children = [])
    (hnested : d.declarations.Pairwise fun c e => c.span.Nested e.span) (hq : q.start < q.stop) :
    ∃ way, d.Outwards (d.covering? q false) way ∧ way.Nodup ∧ way.Pairwise d.IsInside ∧
      (∀ index, index ∈ way ↔
        d.IsAround q index ∧ (d.covering? q false = some index ∨ d.IsFirst index)) ∧
      ((∀ index, d.IsAround q index → d.covering? q false = some index ∨ d.IsFirst index) →
        (∀ index, index ∈ way ↔ d.IsAround q index) ∧
        ((∃ index ∈ way, d.isMethod index = true) ↔ (d.covering? q true).isSome = true) ∧
        Compares d q fun resolved container => IsFound resolved ↔ IsFound container) := by
  subst hd
  obtain ⟨way, hway, hnodup, hinside, hmem⟩ :=
    (Document.contained_ofOutline hflat hnested).exists_outwards hq
  refine ⟨way, hway, hnodup, hinside, hmem, fun hall => ?_⟩
  have haround : ∀ index, index ∈ way ↔
      (Document.ofOutline path text outline).IsAround q index := by
    intro index
    rw [hmem]
    exact ⟨And.left, fun h => ⟨h, hall index h⟩⟩
  have hmethod : (∃ index ∈ way, (Document.ofOutline path text outline).isMethod index = true) ↔
      ((Document.ofOutline path text outline).covering? q true).isSome = true := by
    simp only [haround]
    exact Document.isSome_covering?_true.symm
  refine ⟨haround, hmethod, ?_⟩
  refine compares_of_outwards hq hway hnodup (fun index => (haround index).1) ?_ fun _ => .rfl
  rw [isFound_ok, isFound_ok, Document.isSome_findSome?_method?,
    Document.isSome_covering?_bind_symbol?]
  exact hmethod

theorem resolveMethod_of_containment_twice :
    (Document.assignment .twice).declarations.Pairwise (fun c e => c.span.Nested e.span) ∧
      NamesNoMethod (.assignment .twice) selfCall ⟨"/ws/m.py"⟩ ⟨6, 7⟩ (.assignment .twice) ∧
      (∃ way, (Document.assignment .twice).Outwards (some 1) way ∧
        ∀ index, index ∈ way ↔ (Document.assignment .twice).IsAround ⟨6, 7⟩ index) ∧
      IsFound (((program (.assignment .twice)).resolveMethod 3 ⟨"/ws/m.py"⟩ ⟨6, 7⟩).ask
        selfCall).1 := by
  have hflat : ∀ node ∈ Outline.twice, node.children = [] := by
    simp [Outline.twice, OutlineNode.leaf]
  have hnested : (Document.assignment .twice).declarations.Pairwise
      (fun c e => c.span.Nested e.span) := by decide +kernel
  have hnames : NamesNoMethod (.assignment .twice) selfCall ⟨"/ws/m.py"⟩ ⟨6, 7⟩
      (.assignment .twice) := by
    exact namesNoMethod_of_none rfl (by decide +kernel)
  have hcovering : (Document.assignment .twice).covering? ⟨6, 7⟩ false = some 1 := by
    decide +kernel
  have hlength : (Document.assignment .twice).declarations.length = 2 := by decide +kernel
  have hall : ∀ index, (Document.assignment .twice).IsAround ⟨6, 7⟩ index →
      (Document.assignment .twice).covering? ⟨6, 7⟩ false = some index ∨
        (Document.assignment .twice).IsFirst index := by
    rintro index ⟨c, hc, -⟩
    have hlt := (List.getElem?_eq_some_iff.1 hc).1
    rcases index with _ | _ | index
    · exact .inr fun j _ => Nat.zero_le j
    · exact .inl hcovering
    · omega
  obtain ⟨way, hway, -, -, -, hagree⟩ := resolveMethod_of_containment (q := ⟨6, 7⟩)
    (d := .assignment .twice) rfl hflat hnested (by decide)
  obtain ⟨haround, -, hcompare⟩ := hagree hall
  rw [hcovering] at hway
  obtain ⟨t, _, _, hload, -⟩ := id hnames
  refine ⟨hnested, hnames, ⟨way, hway, haround⟩, ?_⟩
  refine (hcompare Unit _ _ () () _ (start_assignment _) [] _ hnames 3 (by rw [hlength]; decide)
    _ _ _ hload).2 ⟨.assignment, ?_⟩
  decide +kernel

/-- **A declaration may be passed by**: from the argument of the assignment the way outwards leads
to the variable, but not to the function of the same range. So resolution finds no method where the
container is one. -/
theorem not_resolveMethod_of_containment :
    (∀ node ∈ Outline.around, node.children = []) ∧
      Document.misplaced "f = g(x)\n".toList .around = [] ∧
      (Document.assignment .around).declarations.Pairwise (fun c e => c.span.Nested e.span) ∧
      NamesNoMethod (.assignment .around) selfCall ⟨"/ws/m.py"⟩ ⟨6, 7⟩ (.assignment .around) ∧
      (Document.assignment .around).Outwards
        ((Document.assignment .around).covering? ⟨6, 7⟩ false) [2, 0] ∧
      (Document.assignment .around).IsAround ⟨6, 7⟩ 1 ∧
      (Document.assignment .around).covering? ⟨6, 7⟩ true = some 1 ∧
      (((program (.assignment .around)).resolveMethod 4 ⟨"/ws/m.py"⟩ ⟨6, 7⟩).ask selfCall).1 =
        .ok none ∧
      ((containingDeclaration (.assignment .around) ⟨⟨"/ws/m.py"⟩, ⟨6, 7⟩⟩).ask selfCall).1 =
        .ok (some .assignment) := by
  have hcovering : (Document.assignment .around).covering? ⟨6, 7⟩ false = some 2 := by
    decide +kernel
  have hinner : (Document.assignment .around).parent? 2 = some 0 := by decide +kernel
  have houter : (Document.assignment .around).parent? 0 = none := by decide +kernel
  have hmethod : (Document.assignment .around).covering? ⟨6, 7⟩ true = some 1 := by
    decide +kernel
  refine ⟨?_, by decide +kernel, by decide +kernel, ?_, ?_, ?_, hmethod, ?_, ?_⟩
  · simp [Outline.around, Outline.twice, OutlineNode.leaf]
  · exact namesNoMethod_of_none rfl (by decide +kernel)
  · rw [hcovering]
    refine .step ?_
    rw [hinner]
    refine .step ?_
    rw [houter]
    exact .done
  · exact Document.isAround_of_covering?_true hmethod
  · decide +kernel
  · decide +kernel

end Session

end CallerClosure
