import CallerClosure.Materialize

/-!
# The fragments of a document

* `SymbolSet.perm_ordered`: putting a set in order loses no member;
* `Program.length_materializeList`: every symbol is a fragment of the document or skipped;
* `Program.exists_ask_materializeList`: there is a document if no question fails;
* `Program.ask_materializeList`: when the texts of all symbols are known, so is the document.
-/

namespace CallerClosure

theorem SymbolSet.perm_ordered (s : SymbolSet) (order : FragmentOrder) :
    (s.ordered order).Perm s.toList := by
  cases order with
  | declaration => exact List.mergeSort_perm _ _
  | discovery => exact .refl _

namespace Program

variable {σ ν : Type} {p : Program σ ν} {symbol : Symbol}

theorem fragment_of_none (h : symbol.source? = none) : p.fragment symbol = pure none := by
  rw [fragment, h]

theorem fragment_of_ne_none (h : symbol.source? ≠ none) :
    p.fragment symbol = p.declarationText symbol := by
  obtain ⟨source, hsource⟩ := Option.ne_none_iff_exists'.1 h
  rw [fragment, hsource]

/-- The documents of a symbol and of the rest make the document of a list. -/
theorem exists_of_ask_materializeList_cons {rest : List Symbol} {s u : σ} {m : Materialized}
    (h : (p.materializeList (symbol :: rest)).ask s = (.ok m, u)) :
    ∃ fragment t document, (p.fragment symbol).ask s = (.ok fragment, t) ∧
      (p.materializeList rest).ask t = (.ok document, u) ∧
      m = match fragment with
        | none => document.addSkipped symbol.id
        | some text => document.addFragment text := by
  obtain ⟨fragment, t, hf, h⟩ := Query.exists_of_ask_bind h
  obtain ⟨document, v, hd, h⟩ := Query.exists_of_ask_bind h
  cases fragment with
  | none =>
    cases h
    exact ⟨none, t, document, hf, hd, rfl⟩
  | some text =>
    cases h
    exact ⟨some text, t, document, hf, hd, rfl⟩

theorem length_materializeList {symbols : List Symbol} {s u : σ} {m : Materialized}
    (h : (p.materializeList symbols).ask s = (.ok m, u)) :
    m.fragments + m.skipped.length = symbols.length := by
  induction symbols generalizing s m with
  | nil =>
    cases h
    rfl
  | cons symbol rest ih =>
    obtain ⟨fragment, t, document, -, hd, rfl⟩ := exists_of_ask_materializeList_cons h
    have hlength := ih hd
    cases fragment with
    | none => simp only [Materialized.addSkipped, List.length_cons]; omega
    | some text => simp only [Materialized.addFragment, List.length_cons]; omega

/-- Where every question has an answer, every list has a document. -/
theorem exists_ask_materializeList
    (h : ∀ symbol s, ∃ text, ((p.declarationText symbol).ask s).1 = .ok text)
    (symbols : List Symbol) (s : σ) :
    ∃ m, ((p.materializeList symbols).ask s).1 = .ok m := by
  have hfragment : ∀ symbol s, ∃ text, ((p.fragment symbol).ask s).1 = .ok text := by
    intro symbol s
    by_cases hsource : symbol.source? = none
    · exact ⟨none, by rw [fragment_of_none hsource, Query.ask_pure]⟩
    · rw [fragment_of_ne_none hsource]
      exact h symbol s
  induction symbols generalizing s with
  | nil => exact ⟨.empty, rfl⟩
  | cons symbol rest ih =>
    obtain ⟨text, htext⟩ := hfragment symbol s
    obtain ⟨document, hdocument⟩ := ih ((p.fragment symbol).ask s).2
    rw [materializeList, Query.ask_bind_of_ok (Prod.ext htext rfl),
      Query.ask_bind_of_ok (Prod.ext hdocument rfl)]
    cases text with
    | none => exact ⟨_, rfl⟩
    | some text => exact ⟨_, rfl⟩

/-- The document of symbols whose texts are known: the texts one after the other, each with
the newlines that end it. -/
theorem ask_materializeList {text? : Symbol → Option Text} {symbols : List Symbol} {s : σ}
    (h : ∀ m ∈ symbols, (p.fragment m).ask s = (.ok (text? m), s)) :
    (p.materializeList symbols).ask s =
      (.ok { text := (symbols.filterMap text?).flatMap Materialized.closed
             fragments := (symbols.filterMap text?).length
             skipped := (symbols.filter fun m => (text? m).isNone).map (·.id) }, s) := by
  induction symbols with
  | nil => rfl
  | cons m rest ih =>
    rw [materializeList, Query.ask_bind_of_ok (h m List.mem_cons_self),
      Query.ask_bind_of_ok (ih fun x hx => h x (List.mem_cons_of_mem _ hx))]
    cases htext : text? m with
    | none => simp [htext, Materialized.addSkipped]
    | some text => simp [htext, Materialized.addFragment]

end Program

end CallerClosure
