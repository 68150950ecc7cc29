import CallerClosure.Proofs.Materialize.Fragments
import CallerClosure.Proofs.Program.Transcript
import Mathlib.Data.List.ReduceOption

/-!
# What a document is made of

A document is made of the texts that a program gives for the members of a set, and nothing is lost
of them or added but the newlines between them.

* `Program.Gives` says which texts a program gives for a list of symbols, as it is asked for one
  after the other. A symbol that is declared in no document is not asked about;
* `Materialized.IsMadeOf` says what the document of some texts is;
* `Gives.ask_materializeList` and `Gives.ask_materializeList_of_error` are the two ways in which a
  list of symbols gets its document or none, and `exists_gives` says that there is no other;
* `Program.materialize_exact` puts this together for the members of a set, and says what was asked
  on the way.
-/

namespace CallerClosure

variable {σ ν : Type}

namespace Materialized

/-- The document of a list of symbols that have some texts: the texts one after the other, each
with a newline unless it ends with one, and then one more newline. Symbols without a text are
skipped. -/
structure IsMadeOf (document : Materialized) (symbols : List Symbol)
    (texts : List (Option Text)) : Prop where
  aligned : texts.length = symbols.length
  text : document.text = texts.reduceOption.flatMap fun fragment =>
    fragment ++ (if fragment.getLast? = some '\n' then [] else ['\n']) ++ ['\n']
  fragments : document.fragments = texts.reduceOption.length
  skipped : document.skipped =
    ((symbols.zip texts).filter fun entry => entry.2.isNone).map fun entry => entry.1.id

variable {document : Materialized} {symbol : Symbol} {symbols : List Symbol}
  {texts : List (Option Text)}

theorem closed_eq (fragment : Text) :
    closed fragment =
      fragment ++ (if fragment.getLast? = some '\n' then [] else ['\n']) ++ ['\n'] := by
  unfold closed
  split <;> simp

theorem isMadeOf_empty : empty.IsMadeOf [] [] := ⟨rfl, rfl, rfl, rfl⟩

namespace IsMadeOf

theorem addSkipped (h : document.IsMadeOf symbols texts) :
    (document.addSkipped symbol.id).IsMadeOf (symbol :: symbols) (none :: texts) where
  aligned := congrArg (· + 1) h.aligned
  text := h.text
  fragments := h.fragments
  skipped := congrArg (symbol.id :: ·) h.skipped

theorem addFragment (h : document.IsMadeOf symbols texts) (text : Text) :
    (document.addFragment text).IsMadeOf (symbol :: symbols) (some text :: texts) where
  aligned := congrArg (· + 1) h.aligned
  text := by
    rw [List.reduceOption_cons_of_some, List.flatMap_cons, ← h.text, ← closed_eq]
    rfl
  fragments := congrArg (· + 1) h.fragments
  skipped := h.skipped

/-- There is only one document of some texts. -/
theorem unique {other : Materialized} (h : document.IsMadeOf symbols texts)
    (h' : other.IsMadeOf symbols texts) : other = document := by
  obtain ⟨text, fragments, skipped⟩ := other
  rw [Materialized.mk.injEq]
  exact ⟨h'.text.trans h.text.symm, h'.fragments.trans h.fragments.symm,
    h'.skipped.trans h.skipped.symm⟩

/-- Every text is found in the document as it was given. -/
theorem isInfix (h : document.IsMadeOf symbols texts) {fragment : Text}
    (hfragment : some fragment ∈ texts) : fragment <:+: document.text := by
  obtain ⟨before, after, hsplit⟩ :=
    List.append_of_mem (List.reduceOption_mem_iff.2 hfragment)
  rw [h.text, hsplit, List.flatMap_append, List.flatMap_cons, List.append_assoc, List.append_assoc]
  exact List.infix_append' _ _ _

end IsMadeOf

end Materialized

namespace Program

variable {p : Program σ ν} {symbol : Symbol} {symbols done rest : List Symbol}
  {texts : List (Option Text)} {s t u : σ} {e : IndexError}

/-- The texts that a program gives for a list of symbols, from one state to another. It is asked
for the symbols that are declared in a document, in their order. The others have no text. -/
inductive Gives (p : Program σ ν) : σ → List Symbol → List (Option Text) → σ → Prop
  | nil (s : σ) : Gives p s [] [] s
  | passed {symbol : Symbol} {rest : List Symbol} {texts : List (Option Text)} {s u : σ}
      (nowhere : symbol.source? = none) (later : Gives p s rest texts u) :
      Gives p s (symbol :: rest) (none :: texts) u
  | asked {symbol : Symbol} {rest : List Symbol} {text : Option Text}
      {texts : List (Option Text)} {s t u : σ} (declared : symbol.source? ≠ none)
      (answer : (p.declarationText symbol).ask s = (.ok text, t))
      (later : Gives p t rest texts u) : Gives p s (symbol :: rest) (text :: texts) u

/-- The questions for the texts of symbols: one for each that is declared in a document. -/
def textQuestions (symbols : List Symbol) : List (Question ν) :=
  (symbols.filter fun symbol => symbol.source?.isSome).map .declarationText

theorem textQuestions_cons_of_none (h : symbol.source? = none) (rest : List Symbol) :
    textQuestions (ν := ν) (symbol :: rest) = textQuestions rest := by
  simp [textQuestions, h]

theorem textQuestions_cons_of_ne_none (h : symbol.source? ≠ none) (rest : List Symbol) :
    textQuestions (ν := ν) (symbol :: rest) = .declarationText symbol :: textQuestions rest := by
  simp [textQuestions, Option.isSome_iff_ne_none.2 h]

theorem textQuestions_append (symbols rest : List Symbol) :
    textQuestions (ν := ν) (symbols ++ rest) = textQuestions symbols ++ textQuestions rest := by
  simp [textQuestions]

/-- The text of a symbol goes in front of the document of the rest. -/
theorem exists_ask_materializeList_cons {text : Option Text} {document : Materialized}
    (htext : (p.fragment symbol).ask s = (.ok text, t))
    (hdocument : (p.materializeList rest).ask t = (.ok document, u))
    (hmade : document.IsMadeOf rest texts) :
    ∃ m, (p.materializeList (symbol :: rest)).ask s = (.ok m, u) ∧
      m.IsMadeOf (symbol :: rest) (text :: texts) := by
  rw [materializeList, Query.ask_bind_of_ok htext, Query.ask_bind_of_ok hdocument]
  cases text with
  | none => exact ⟨_, rfl, hmade.addSkipped⟩
  | some text => exact ⟨_, rfl, hmade.addFragment text⟩

/-- A symbol that fails ends the document. -/
theorem ask_materializeList_cons_of_error (h : (p.fragment symbol).ask s = (.error e, t)) :
    (p.materializeList (symbol :: rest)).ask s = (.error e, t) := by
  rw [materializeList, Query.ask_bind, h]

/-- A document that fails after the first symbol has failed. -/
theorem ask_materializeList_cons_of_later_error {text : Option Text}
    (htext : (p.fragment symbol).ask s = (.ok text, t))
    (hlater : (p.materializeList rest).ask t = (.error e, u)) :
    (p.materializeList (symbol :: rest)).ask s = (.error e, u) := by
  rw [materializeList, Query.ask_bind_of_ok htext, Query.ask_bind, hlater]

/-- A transcript has the question for a text, however it is answered. -/
theorem ask_declarationText_transcribed {t : Transcript σ ν}
    {answer : Except IndexError (Option Text)}
    (h : (p.declarationText symbol).ask t.inner = (answer, u)) :
    ((p.transcribed .none).declarationText symbol).ask t =
      (answer, ⟨u, t.asked ++ [.declarationText symbol], t.told⟩) := by
  simp [transcribed, Transcript.ask_write, Faults.none, h]

namespace Gives

/-- Symbols with texts have a document, which is made of them. -/
theorem ask_materializeList (h : p.Gives s symbols texts u) :
    ∃ document, (p.materializeList symbols).ask s = (.ok document, u) ∧
      document.IsMadeOf symbols texts := by
  induction h with
  | nil s => exact ⟨.empty, rfl, Materialized.isMadeOf_empty⟩
  | passed nowhere _ ih =>
    obtain ⟨document, hdocument, hmade⟩ := ih
    exact exists_ask_materializeList_cons (by rw [fragment_of_none nowhere, Query.ask_pure])
      hdocument hmade
  | asked declared answer _ ih =>
    obtain ⟨document, hdocument, hmade⟩ := ih
    exact exists_ask_materializeList_cons (by rw [fragment_of_ne_none declared, answer])
      hdocument hmade

/-- The first symbol whose text is refused leaves the list without a document. -/
theorem ask_materializeList_of_error (h : p.Gives s done texts t)
    (hdeclared : symbol.source? ≠ none)
    (hrefused : (p.declarationText symbol).ask t = (.error e, u)) (rest : List Symbol) :
    (p.materializeList (done ++ symbol :: rest)).ask s = (.error e, u) := by
  induction h with
  | nil s =>
    exact ask_materializeList_cons_of_error (by rw [fragment_of_ne_none hdeclared, hrefused])
  | passed nowhere _ ih =>
    exact ask_materializeList_cons_of_later_error
      (by rw [fragment_of_none nowhere, Query.ask_pure]) (ih hrefused)
  | asked declared answer _ ih =>
    exact ask_materializeList_cons_of_later_error
      (by rw [fragment_of_ne_none declared, answer]) (ih hrefused)

/-- A transcript has the questions for these texts. -/
theorem transcribed {t : Transcript σ ν} (h : p.Gives t.inner symbols texts u) :
    (p.transcribed .none).Gives t symbols texts
      ⟨u, t.asked ++ textQuestions symbols, t.told⟩ := by
  generalize hs : t.inner = s at h
  induction h generalizing t with
  | nil s =>
    subst hs
    simpa [textQuestions] using Gives.nil (p := p.transcribed .none) t
  | passed nowhere _ ih =>
    rw [textQuestions_cons_of_none nowhere]
    exact .passed nowhere (ih hs)
  | @asked symbol rest text texts s v u declared answer _ ih =>
    subst hs
    rw [textQuestions_cons_of_ne_none declared, List.append_cons]
    exact .asked declared (ask_declarationText_transcribed answer) (ih rfl)

end Gives

/-- A program gives texts for all symbols, or up to the first one for which it refuses. -/
theorem exists_gives (p : Program σ ν) (symbols : List Symbol) (s : σ) :
    (∃ texts u, p.Gives s symbols texts u) ∨
      ∃ done symbol rest texts t e u, symbols = done ++ symbol :: rest ∧ p.Gives s done texts t ∧
        symbol.source? ≠ none ∧ (p.declarationText symbol).ask t = (.error e, u) := by
  induction symbols generalizing s with
  | nil => exact .inl ⟨[], s, .nil s⟩
  | cons symbol rest ih =>
    by_cases hdeclared : symbol.source? = none
    · rcases ih s with ⟨texts, u, hgives⟩ | ⟨done, m, more, texts, t, e, u, rfl, hgives, hrefused⟩
      · exact .inl ⟨_, u, .passed hdeclared hgives⟩
      · exact .inr ⟨symbol :: done, m, more, _, t, e, u, rfl, .passed hdeclared hgives, hrefused⟩
    · rcases hanswer : (p.declarationText symbol).ask s with ⟨e | text, v⟩
      · exact .inr ⟨[], symbol, rest, [], s, e, v, rfl, .nil s, hdeclared, hanswer⟩
      · rcases ih v with ⟨texts, u, hgives⟩ |
          ⟨done, m, more, texts, t, e, u, rfl, hgives, hrefused⟩
        · exact .inl ⟨_, u, .asked hdeclared hanswer hgives⟩
        · exact .inr ⟨symbol :: done, m, more, _, t, e, u, rfl,
            .asked hdeclared hanswer hgives, hrefused⟩

/-- **A document loses no text and invents none.** Either the program gives a text or none for
each member that is declared in a document, and the document is made of these texts; or it refuses
one of them, and is asked no more. -/
theorem materialize_exact (p : Program σ ν) (set : SymbolSet) (order : FragmentOrder) (s : σ) :
    (∃ texts document u, p.Gives s (set.ordered order) texts u ∧
      (p.materialize set order).ask s = (.ok document, u) ∧
      ((p.transcribed .none).materialize set order).ask (.start s) =
        (.ok document, ⟨u, textQuestions (set.ordered order), .empty⟩) ∧
      document.IsMadeOf (set.ordered order) texts ∧
      document.fragments + document.skipped.length = set.size ∧
      ∀ fragment, some fragment ∈ texts → fragment <:+: document.text) ∨
    ∃ done symbol rest texts t e u, set.ordered order = done ++ symbol :: rest ∧
      p.Gives s done texts t ∧ symbol.source? ≠ none ∧
      (p.declarationText symbol).ask t = (.error e, u) ∧
      (p.materialize set order).ask s = (.error e, u) ∧
      ((p.transcribed .none).materialize set order).ask (.start s) =
        (.error e, ⟨u, textQuestions (done ++ [symbol]), .empty⟩) := by
  rcases exists_gives p (set.ordered order) s with
    ⟨texts, u, hgives⟩ | ⟨done, symbol, rest, texts, t, e, u, hsplit, hgives, hdeclared, hrefused⟩
  · left
    obtain ⟨document, hdocument, hmade⟩ := hgives.ask_materializeList
    have htranscript := hgives.transcribed (t := .start s)
    obtain ⟨other, hother, hsame⟩ := htranscript.ask_materializeList
    obtain rfl := hmade.unique hsame
    have hsize := (set.perm_ordered order).length_eq
    exact ⟨texts, other, u, hgives, hdocument, hother, hmade,
      (length_materializeList hdocument).trans hsize, fun fragment => hmade.isInfix⟩
  · right
    have htranscript := hgives.transcribed (t := .start s)
    have hasked := ask_declarationText_transcribed (t := ⟨t, textQuestions done, .empty⟩) hrefused
    have hquestions : textQuestions (ν := ν) (done ++ [symbol]) =
        textQuestions done ++ [.declarationText symbol] := by
      rw [textQuestions_append, textQuestions_cons_of_ne_none hdeclared]
      rfl
    refine ⟨done, symbol, rest, texts, t, e, u, hsplit, hgives, hdeclared, hrefused, ?_, ?_⟩
    · rw [materialize, hsplit]
      exact hgives.ask_materializeList_of_error hdeclared hrefused rest
    · rw [materialize, hsplit, hquestions]
      exact htranscript.ask_materializeList_of_error hdeclared hasked rest

end Program

end CallerClosure
