import CallerClosure.Files.Tree
import Mathlib.Data.List.Basic

/-!
# Looking up paths in a tree of files

* `FileTree.Stands` holds of the names that a look-up can end at: every name above is a
  directory, and the name itself is no link. `stands_of_follow` says that a look-up ends at such
  a name;
* `canonicalize_pathOf` says that the path of such a name leads back to the name, so that
  `canonicalize_canonicalize` a path without links and dots stays as it is;
* `pathOf_injective` says that different names have paths with different components;
* `readText_ne_notFound` says that a file which can be read in one spelling of its path is not
  missing in another one.
-/

namespace CallerClosure

/-! ### Pieces of paths -/

namespace Path

theorem segments_ne_nil (t : Text) : segments t ≠ [] := by
  cases t with
  | nil => simp [segments]
  | cons c t =>
    rw [segments]
    split
    · simp
    · split <;> simp

theorem segments_cons_slash (t : Text) : segments ('/' :: t) = [] :: segments t := by
  rw [segments, if_pos rfl]

theorem segments_cons {c : Char} (hc : c ≠ '/') (t : Text) :
    segments (c :: t) = (c :: (segments t).headD []) :: (segments t).tail := by
  rw [segments, if_neg hc]
  cases h : segments t with
  | nil => exact absurd h (segments_ne_nil t)
  | cons s rest => rfl

theorem segments_append {s : Text} (hs : '/' ∉ s) (t : Text) :
    segments (s ++ t) = (s ++ (segments t).headD []) :: (segments t).tail := by
  induction s with
  | nil =>
    cases h : segments t with
    | nil => exact absurd h (segments_ne_nil t)
    | cons s rest => exact h
  | cons c s ih =>
    have hc : c ≠ '/' := (List.ne_of_not_mem_cons hs).symm
    rw [List.cons_append, segments_cons hc, ih (List.not_mem_of_not_mem_cons hs)]
    rfl

/-- Pieces with a slash in front of each one are found again. -/
theorem segments_flatMap {pieces : List Text} (h : ∀ piece ∈ pieces, '/' ∉ piece) :
    segments (pieces.flatMap fun piece => '/' :: piece) = [] :: pieces := by
  induction pieces with
  | nil => rfl
  | cons piece rest ih =>
    obtain ⟨hpiece, hrest⟩ := List.forall_mem_cons.1 h
    rw [List.flatMap_cons, List.cons_append, segments_cons_slash, segments_append hpiece,
      ih hrest]
    simp

/-- A piece of a path has no slash, and no character that the path does not have. -/
theorem mem_segments {t s : Text} (h : s ∈ segments t) : '/' ∉ s ∧ s ⊆ t := by
  induction t generalizing s with
  | nil =>
    obtain rfl := List.mem_singleton.1 h
    simp
  | cons c t ih =>
    by_cases hc : c = '/'
    · subst hc
      rw [segments_cons_slash] at h
      rcases List.mem_cons.1 h with rfl | h
      · simp
      · exact (ih h).imp_right fun hs => List.subset_cons_of_subset _ hs
    · rw [segments_cons hc] at h
      obtain ⟨head, rest, hsegments⟩ := List.exists_cons_of_ne_nil (segments_ne_nil t)
      rw [hsegments] at h ih
      rcases List.mem_cons.1 h with rfl | h
      · obtain ⟨hslash, hsubset⟩ := ih List.mem_cons_self
        exact ⟨List.not_mem_cons_of_ne_of_not_mem (Ne.symm hc) hslash,
          List.cons_subset_cons _ hsubset⟩
      · exact (ih (List.mem_cons_of_mem _ h)).imp_right fun hs =>
          List.subset_cons_of_subset _ hs

end Path

namespace FileTree

variable {t : FileTree} {directory name : List String} {p : Path}

/-! ### Names -/

/-- A step that a path can lead to. -/
structure IsStep (step : String) : Prop where
  slash : '/' ∉ step.toList
  nul : '\x00' ∉ step.toList
  solid : Path.isTrivial step.toList = false
  up : step.toList ≠ ['.', '.']
  size : Text.size step.toList ≤ longestName

/-- A name that a look-up can end at. -/
structure Stands (t : FileTree) (name : List String) : Prop where
  steps : ∀ step ∈ name, IsStep step
  /-- Every name above is a directory. -/
  above : ∀ n, n <+: name → n ≠ name → t.entry? n = some .directory
  /-- The name exists, and is no link. -/
  plain : ∃ e, t.entry? name = some e ∧ ∀ target, e ≠ .link target

theorem stands_nil (t : FileTree) : t.Stands [] where
  steps := by simp
  above n hn hne := absurd (List.prefix_nil.1 hn) hne
  plain := ⟨.directory, rfl, by simp⟩

theorem stands_startOf (h : t.Stands directory) (p : Path) : t.Stands (startOf directory p) := by
  unfold startOf
  split
  · exact stands_nil t
  · exact h

/-- The name above stands too. -/
theorem Stands.dropLast (h : t.Stands name) : t.Stands name.dropLast := by
  have habove := List.dropLast_prefix name
  refine ⟨fun step hstep => h.steps step (habove.subset hstep), fun n hn hne => ?_, ?_⟩
  · refine h.above n (hn.trans habove) ?_
    rintro rfl
    exact hne (hn.eq_of_length_le habove.length_le)
  · by_cases hnil : name.dropLast = name
    · rw [hnil]
      exact h.plain
    · exact ⟨_, h.above _ habove hnil, by simp⟩

/-- A step below a directory stands, if it exists and is no link. -/
theorem Stands.snoc (h : t.Stands name) (hdirectory : t.entry? name = some .directory)
    {step : String} (hstep : IsStep step) {e : FileEntry}
    (he : t.entry? (name ++ [step]) = some e) (hplain : ∀ target, e ≠ .link target) :
    t.Stands (name ++ [step]) := by
  refine ⟨?_, fun n hn hne => ?_, e, he, hplain⟩
  · intro s hs
    rcases List.mem_append.1 hs with hs | hs
    · exact h.steps s hs
    · obtain rfl := List.mem_singleton.1 hs
      exact hstep
  · rcases List.prefix_concat_iff.1 hn with rfl | hn
    · exact absurd rfl hne
    · by_cases heq : n = name
      · rw [heq, hdirectory]
      · exact h.above n hn heq

/-- The links of a tree lead to texts without a NUL. -/
def LinksClean (t : FileTree) : Prop :=
  ∀ name target, t.entry? name = some (.link target) → '\x00' ∉ target.toList

/-- Only what is listed in a tree can be a link. -/
theorem linksClean_of_entries
    (h : ∀ entry ∈ t.entries, ∀ target, entry.2 = .link target → '\x00' ∉ target.toList) :
    t.LinksClean := by
  intro name target hentry
  unfold entry? at hentry
  split at hentry
  · cases hentry
  · obtain ⟨entry, hfind, hlink⟩ := Option.map_eq_some_iff.1 hentry
    exact h entry (List.mem_of_find?_eq_some hfind) target hlink

/-- Pieces that can come from a path. -/
def Pieces (pieces : List Text) : Prop := ∀ piece ∈ pieces, '/' ∉ piece ∧ '\x00' ∉ piece

theorem pieces_segments {text : Text} (h : '\x00' ∉ text) : Pieces (Path.segments text) :=
  fun _ hpiece => ⟨(Path.mem_segments hpiece).1, fun hnul => h ((Path.mem_segments hpiece).2 hnul)⟩

/-- A piece that is looked up below a directory is a step. -/
theorem isStep_of_piece {piece : Text} (h : '/' ∉ piece ∧ '\x00' ∉ piece)
    (hsolid : ¬ Path.isTrivial piece = true) (hup : piece ≠ ['.', '.'])
    (hsize : ¬ longestName < Text.size piece) : IsStep (String.ofList piece) := by
  constructor <;> rw [String.toList_ofList]
  · exact h.1
  · exact h.2
  · simpa using hsolid
  · exact hup
  · omega

/-! ### Following a path -/

section Advance

variable {piece : Text} {rest : List Text}

theorem advance_of_trivial (h : t.entry? name = some .directory)
    (hpiece : Path.isTrivial piece = true) :
    t.advance name (piece :: rest) = t.advance name rest := by
  rw [advance, h]
  exact if_pos hpiece

theorem advance_up (h : t.entry? name = some .directory) :
    t.advance name (['.', '.'] :: rest) = t.advance name.dropLast rest := by
  rw [advance, h]
  rfl

/-- A piece that is no dot leads to the step below, or to a link there, or nowhere. -/
theorem advance_of_solid (h : t.entry? name = some .directory)
    (hpiece : ¬ Path.isTrivial piece = true) (hup : piece ≠ ['.', '.']) :
    t.advance name (piece :: rest) =
      if longestName < Text.size piece then .error .nameTooLong
      else
        match t.entry? (name ++ [String.ofList piece]) with
        | none => .error .notFound
        | some (.link target) => .ok (.link name target rest)
        | some _ => t.advance (name ++ [String.ofList piece]) rest := by
  rw [advance, h]
  exact (if_neg hpiece).trans (if_neg hup)

theorem advance_of_not_directory (h : t.entry? name ≠ some .directory) :
    t.advance name (piece :: rest) = .error .notADirectory := by
  rw [advance]
  split
  · rename_i hdirectory
    exact absurd hdirectory h
  · rfl

end Advance

/-- What a look-up comes to from a name that stands: another one, or a link from one. -/
theorem stands_of_advance {pieces : List Text} (hname : t.Stands name) (hpieces : Pieces pieces) :
    (∀ n, t.advance name pieces = .ok (.done n) → t.Stands n) ∧
    ∀ n target rest, t.advance name pieces = .ok (.link n target rest) →
      t.Stands n ∧ Pieces rest ∧ ∃ link, t.entry? link = some (.link target) := by
  induction pieces generalizing name with
  | nil =>
    rw [advance]
    exact ⟨by rintro n ⟨⟩; exact hname, by rintro _ _ _ ⟨⟩⟩
  | cons piece rest ih =>
    obtain ⟨hpiece, hrest⟩ := List.forall_mem_cons.1 hpieces
    by_cases hdirectory : t.entry? name = some .directory
    · by_cases htrivial : Path.isTrivial piece = true
      · rw [advance_of_trivial hdirectory htrivial]
        exact ih hname hrest
      by_cases hup : piece = ['.', '.']
      · rw [hup, advance_up hdirectory]
        exact ih hname.dropLast hrest
      rw [advance_of_solid hdirectory htrivial hup]
      split
      · exact ⟨by rintro _ ⟨⟩, by rintro _ _ _ ⟨⟩⟩
      · rename_i hshort
        have hstep := isStep_of_piece hpiece htrivial hup hshort
        split
        · exact ⟨by rintro _ ⟨⟩, by rintro _ _ _ ⟨⟩⟩
        · rename_i target hlink
          refine ⟨by rintro _ ⟨⟩, ?_⟩
          rintro _ _ _ ⟨⟩
          exact ⟨hname, hrest, _, hlink⟩
        · rename_i e hplain he
          exact ih (hname.snoc hdirectory hstep he fun target heq => hplain target heq) hrest
    · rw [advance_of_not_directory hdirectory]
      exact ⟨by rintro _ ⟨⟩, by rintro _ _ _ ⟨⟩⟩

/-! The ways in which a look-up goes on over links. -/

section Follow

variable {links : Nat} {pieces : List Text}

theorem follow_of_done {n : List String} (h : t.advance name pieces = .ok (.done n)) :
    t.follow links name pieces = .ok (n, links) := by
  rw [follow.eq_def]
  dsimp only
  rw [h]

theorem follow_of_error {e : FileError} (h : t.advance name pieces = .error e) :
    t.follow links name pieces = .error e := by
  rw [follow.eq_def]
  dsimp only
  rw [h]

theorem follow_of_link {target : String} {rest : List Text}
    (h : t.advance name pieces = .ok (.link directory target rest)) :
    t.follow (links + 1) name pieces =
      if target.isEmpty then .error .notFound
      else t.follow links (startOf directory ⟨target⟩) (Path.segments target.toList ++ rest) := by
  rw [follow.eq_def]
  dsimp only
  rw [h]

theorem follow_zero_of_link {target : String} {rest : List Text}
    (h : t.advance name pieces = .ok (.link directory target rest)) :
    t.follow 0 name pieces = .error .tooManyLinks := by
  rw [follow.eq_def]
  dsimp only
  rw [h]

end Follow

/-- A look-up from a name that stands ends at a name that stands. -/
theorem stands_of_follow (hclean : t.LinksClean) {links rest : Nat} {pieces : List Text}
    {n : List String} (hname : t.Stands name) (hpieces : Pieces pieces)
    (h : t.follow links name pieces = .ok (n, rest)) : t.Stands n := by
  induction links generalizing name pieces with
  | zero =>
    rcases hadvance : t.advance name pieces with e | ⟨m | ⟨directory, target, more⟩⟩
    · rw [follow_of_error hadvance] at h
      cases h
    · rw [follow_of_done hadvance] at h
      cases h
      exact (stands_of_advance hname hpieces).1 _ hadvance
    · rw [follow_zero_of_link hadvance] at h
      cases h
  | succ links ih =>
    rcases hadvance : t.advance name pieces with e | ⟨m | ⟨directory, target, more⟩⟩
    · rw [follow_of_error hadvance] at h
      cases h
    · rw [follow_of_done hadvance] at h
      cases h
      exact (stands_of_advance hname hpieces).1 _ hadvance
    · rw [follow_of_link hadvance] at h
      obtain ⟨hdirectory, hmore, link, hlink⟩ :=
        (stands_of_advance hname hpieces).2 _ _ _ hadvance
      split at h
      · cases h
      · refine ih (stands_startOf hdirectory _) ?_ h
        intro piece hpiece
        rcases List.mem_append.1 hpiece with hpiece | hpiece
        · exact pieces_segments (hclean link target hlink) piece hpiece
        · exact hmore piece hpiece

/-- The steps of a name that stands lead to it. -/
theorem advance_of_stands {steps : List String} (h : t.Stands (name ++ steps)) :
    t.advance name (steps.map String.toList) = .ok (.done (name ++ steps)) := by
  induction steps generalizing name with
  | nil =>
    rw [List.map_nil, advance, List.append_nil]
  | cons step rest ih =>
    have happend : name ++ step :: rest = (name ++ [step]) ++ rest := by simp
    have hdirectory : t.entry? name = some .directory :=
      h.above name (List.prefix_append _ _) (by simp)
    have hstep : IsStep step := h.steps step (by simp)
    rw [happend] at h ⊢
    have hsize := hstep.size
    rw [← ih h, List.map_cons, advance_of_solid hdirectory (by simp [hstep.solid]) hstep.up,
      if_neg (by omega), String.ofList_toList]
    obtain ⟨e, he, hplain⟩ : ∃ e, t.entry? (name ++ [step]) = some e ∧
        ∀ target, e ≠ .link target := by
      by_cases hrest : rest = []
      · rw [hrest, List.append_nil] at h
        exact h.plain
      · exact ⟨_, h.above _ (List.prefix_append _ _) (by simpa using hrest), by simp⟩
    rw [he]
    cases e with
    | directory => rfl
    | file content => rfl
    | link target => exact absurd rfl (hplain target)

/-! ### Paths of names -/

theorem toList_pathOf (h : name ≠ []) :
    (pathOf name).text.toList = (name.map String.toList).flatMap fun piece => '/' :: piece := by
  rw [pathOf, if_neg (by simpa using h)]
  simp [String.toList_join, List.flatMap_map]

theorem segments_pathOf (h : ∀ step ∈ name, IsStep step) :
    Path.segments (pathOf name).text.toList =
      if name = [] then [[], []] else [] :: name.map String.toList := by
  by_cases hnil : name = []
  · rw [hnil]
    rfl
  · rw [if_neg hnil, toList_pathOf hnil, Path.segments_flatMap]
    intro piece hpiece
    obtain ⟨step, hstep, rfl⟩ := List.mem_map.1 hpiece
    exact (h step hstep).slash

theorem ofSegment?_of_isStep {step : String} (h : IsStep step) :
    Path.Component.ofSegment? step.toList = some (.name step) := by
  have hsolid := h.solid
  have hup := h.up
  rw [Path.Component.ofSegment?.eq_def]
  split
  · simp [Path.isTrivial, *] at hsolid
  · simp [Path.isTrivial, *] at hsolid
  · exact absurd ‹_› hup
  · rw [String.ofList_toList]

/-- The components of the path of a name are its steps. -/
theorem components_pathOf (h : ∀ step ∈ name, IsStep step) :
    (pathOf name).components = .root :: name.map .name := by
  have hsteps : (name.map String.toList).filterMap Path.Component.ofSegment? =
      name.map .name := by
    rw [List.filterMap_map, ← List.filterMap_eq_map]
    exact List.filterMap_congr fun step hstep => ofSegment?_of_isStep (h step hstep)
  rw [Path.components, segments_pathOf h]
  by_cases hnil : name = []
  · subst hnil
    rfl
  · rw [if_neg hnil]
    dsimp only
    rw [if_neg (by simpa using hnil), hsteps]

/-- Names whose paths have the same components are the same. -/
theorem pathOf_injective {n : List String} (hname : ∀ step ∈ name, IsStep step)
    (hn : ∀ step ∈ n, IsStep step) (h : (pathOf name).Same (pathOf n)) : name = n := by
  rw [Path.Same, components_pathOf hname, components_pathOf hn] at h
  exact List.map_injective_iff.2 (fun _ _ => Path.Component.name.inj) (List.cons.inj h).2

/-! ### Paths without links and dots -/

theorem checkText_eq_ok_iff :
    checkText p = .ok () ↔ '\x00' ∉ p.text.toList ∧ p.text.toList ≠ [] := by
  unfold checkText
  by_cases hnul : '\x00' ∈ p.text.toList
  · rw [if_pos (by simpa using hnul)]
    simp [hnul]
  · rw [if_neg (by simpa using hnul)]
    by_cases hempty : p.text.isEmpty = true
    · rw [if_pos hempty]
      simp [String.isEmpty_iff.1 hempty]
    · rw [if_neg hempty]
      exact ⟨fun _ => ⟨hnul, fun h => hempty (by simpa using h)⟩, fun _ => rfl⟩

theorem canonicalize_eq_ok_iff {c : Path} :
    t.canonicalize directory p = .ok c ↔ checkText p = .ok () ∧
      ∃ n links, t.follow mostLinks (startOf directory p) (Path.segments p.text.toList) =
        .ok (n, links) ∧ c = pathOf n := by
  unfold canonicalize
  rcases checkText p with e | _
  · exact ⟨by rintro ⟨⟩, by rintro ⟨⟨⟩, _⟩⟩
  rcases t.follow mostLinks (startOf directory p) (Path.segments p.text.toList) with e | ⟨n, links⟩
  · exact ⟨by rintro ⟨⟩, by rintro ⟨-, _, _, ⟨⟩, _⟩⟩
  · exact ⟨by rintro ⟨⟩; exact ⟨rfl, n, links, rfl, rfl⟩, by rintro ⟨-, _, _, ⟨⟩, rfl⟩; rfl⟩

/-- The path of a name that stands leads to that name. -/
theorem canonicalize_pathOf (h : t.Stands name) (directory : List String) :
    t.canonicalize directory (pathOf name) = .ok (pathOf name) := by
  have hroot : t.entry? [] = some .directory := rfl
  refine canonicalize_eq_ok_iff.2 ⟨checkText_eq_ok_iff.2 ?_, name, mostLinks, ?_, rfl⟩
  · by_cases hnil : name = []
    · subst hnil
      decide
    · rw [toList_pathOf hnil]
      refine ⟨fun hnul => ?_, fun hempty => ?_⟩
      · obtain ⟨piece, hpiece, hmem⟩ := List.mem_flatMap.1 hnul
        obtain ⟨step, hstep, rfl⟩ := List.mem_map.1 hpiece
        rcases List.mem_cons.1 hmem with hslash | hmem
        · exact absurd hslash (by decide)
        · exact (h.steps step hstep).nul hmem
      · obtain ⟨step, hstep⟩ := List.exists_mem_of_ne_nil _ hnil
        have := List.flatMap_eq_nil_iff.1 hempty _ (List.mem_map_of_mem hstep)
        cases this
  · have habsolute : startOf directory (pathOf name) = [] := by
      by_cases hnil : name = []
      · subst hnil
        rfl
      · obtain ⟨step, rest, rfl⟩ := List.exists_cons_of_ne_nil hnil
        rw [startOf, Path.isAbsolute, toList_pathOf hnil]
        rfl
    refine follow_of_done ?_
    rw [habsolute, segments_pathOf h.steps]
    by_cases hnil : name = []
    · subst hnil
      rfl
    · rw [if_neg hnil, advance_of_trivial hroot rfl]
      have happend : t.Stands ([] ++ name) := h
      exact advance_of_stands happend

/-- What a path without links and dots leads to stands. -/
theorem stands_of_canonicalize (hclean : t.LinksClean) (hdirectory : t.Stands directory) {c : Path}
    (h : t.canonicalize directory p = .ok c) : ∃ n, t.Stands n ∧ c = pathOf n := by
  obtain ⟨htext, n, links, hfollow, rfl⟩ := canonicalize_eq_ok_iff.1 h
  exact ⟨n, stands_of_follow hclean (stands_startOf hdirectory p)
    (pieces_segments (checkText_eq_ok_iff.1 htext).1) hfollow, rfl⟩

/-- **A path without links and dots stays as it is.** -/
theorem canonicalize_canonicalize (hclean : t.LinksClean) (hdirectory : t.Stands directory)
    {c : Path} (h : t.canonicalize directory p = .ok c) : t.canonicalize directory c = .ok c := by
  obtain ⟨n, hn, rfl⟩ := stands_of_canonicalize hclean hdirectory h
  exact canonicalize_pathOf hn directory

/-- Paths without links and dots that have the same components are the same. -/
theorem eq_of_canonicalize (hclean : t.LinksClean) (hdirectory : t.Stands directory)
    {q c d : Path} (hp : t.canonicalize directory p = .ok c)
    (hq : t.canonicalize directory q = .ok d) (h : c.Same d) : c = d := by
  obtain ⟨n, hn, rfl⟩ := stands_of_canonicalize hclean hdirectory hp
  obtain ⟨m, hm, rfl⟩ := stands_of_canonicalize hclean hdirectory hq
  rw [pathOf_injective hn.steps hm.steps h]

/-! ### Spellings of a path -/

/-- The pieces of a path that lead somewhere. -/
def solid (pieces : List Text) : List Text := pieces.filter fun piece => !Path.isTrivial piece

/-- Doubled slashes and dots do not change where a look-up leads. It can only fail because of
them, where a name is no directory. -/
theorem advance_solid (t : FileTree) (name : List String) (pieces : List Text) :
    t.advance name pieces = .error .notADirectory ∨
      t.advance name (solid pieces) = match t.advance name pieces with
        | .ok (.link n target rest) => .ok (.link n target (solid rest))
        | r => r := by
  induction pieces generalizing name with
  | nil => exact .inr rfl
  | cons piece rest ih =>
    by_cases hdirectory : t.entry? name = some .directory
    swap
    · exact .inl (advance_of_not_directory hdirectory)
    by_cases htrivial : Path.isTrivial piece = true
    · have hsolid : solid (piece :: rest) = solid rest := by simp [solid, htrivial]
      rw [advance_of_trivial hdirectory htrivial, hsolid]
      exact ih name
    have hsolid : solid (piece :: rest) = piece :: solid rest := by simp [solid, htrivial]
    rw [hsolid]
    by_cases hup : piece = ['.', '.']
    · rw [hup, advance_up hdirectory, advance_up hdirectory]
      exact ih name.dropLast
    rw [advance_of_solid hdirectory htrivial hup, advance_of_solid hdirectory htrivial hup]
    split
    · exact .inr rfl
    · cases t.entry? (name ++ [String.ofList piece]) with
      | none => exact .inr rfl
      | some e =>
        cases e with
        | directory => exact ih _
        | file content => exact ih _
        | link target => exact .inr rfl

/-- Two spellings of a path lead to the same name or link, or one of them leads through a name
that is no directory. -/
theorem advance_of_solid_eq {pieces pieces' : List Text} (h : solid pieces = solid pieces')
    (name : List String) :
    t.advance name pieces' = .error .notADirectory ∨
      (∀ n, t.advance name pieces = .ok (.done n) → t.advance name pieces' = .ok (.done n)) ∧
      ∀ n target rest, t.advance name pieces = .ok (.link n target rest) →
        ∃ rest', t.advance name pieces' = .ok (.link n target rest') ∧
          solid rest = solid rest' := by
  rcases t.advance_solid name pieces' with hfail | hsolid'
  · exact .inl hfail
  right
  rcases t.advance_solid name pieces with hfail | hsolid
  · rw [hfail]
    exact ⟨by rintro _ ⟨⟩, by rintro _ _ _ ⟨⟩⟩
  rw [← h, hsolid] at hsolid'
  constructor
  · intro n hn
    rw [hn] at hsolid'
    rcases hadvance : t.advance name pieces' with e | ⟨n' | ⟨n', target', rest'⟩⟩ <;>
      rw [hadvance] at hsolid' <;> cases hsolid'
    rfl
  · intro n target rest hn
    rw [hn] at hsolid'
    rcases hadvance : t.advance name pieces' with e | ⟨n' | ⟨n', target', rest'⟩⟩ <;>
      rw [hadvance] at hsolid' <;> dsimp only at hsolid'
    · cases hsolid'
    · cases hsolid'
    · obtain ⟨rfl, rfl, hrest⟩ := Progress.link.inj (Except.ok.inj hsolid')
      exact ⟨rest', rfl, hrest⟩

theorem follow_of_solid_eq {links : Nat} {pieces pieces' : List Text}
    (h : solid pieces = solid pieces') {end_ : List String × Nat}
    (hfollow : t.follow links name pieces = .ok end_) :
    t.follow links name pieces' = .ok end_ ∨
      t.follow links name pieces' = .error .notADirectory := by
  induction links generalizing name pieces pieces' with
  | zero =>
    rcases t.advance_of_solid_eq h name with hfail | ⟨hdone, -⟩
    · exact .inr (follow_of_error hfail)
    rcases hadvance : t.advance name pieces with e | ⟨n | ⟨directory, target, rest⟩⟩
    · rw [follow_of_error hadvance] at hfollow
      cases hfollow
    · rw [follow_of_done hadvance] at hfollow
      exact .inl (by rw [follow_of_done (hdone n hadvance), hfollow])
    · rw [follow_zero_of_link hadvance] at hfollow
      cases hfollow
  | succ links ih =>
    rcases t.advance_of_solid_eq h name with hfail | ⟨hdone, hlink⟩
    · exact .inr (follow_of_error hfail)
    rcases hadvance : t.advance name pieces with e | ⟨n | ⟨directory, target, rest⟩⟩
    · rw [follow_of_error hadvance] at hfollow
      cases hfollow
    · rw [follow_of_done hadvance] at hfollow
      exact .inl (by rw [follow_of_done (hdone n hadvance), hfollow])
    · obtain ⟨rest', hadvance', hrest⟩ := hlink _ _ _ hadvance
      rw [follow_of_link hadvance] at hfollow
      rw [follow_of_link hadvance']
      split at hfollow
      · cases hfollow
      · rename_i hempty
        rw [if_neg hempty]
        exact ih (by simp only [solid, List.filter_append] at hrest ⊢; rw [hrest]) hfollow

/-- The piece of a path that a component comes from. -/
def piece? : Path.Component → Option Text
  | .root => none
  | .here => none
  | .up => some ['.', '.']
  | .name step => some step.toList

theorem piece?_ofSegment? (piece : Text) :
    (Path.Component.ofSegment? piece).bind piece? =
      if Path.isTrivial piece = true then none else some piece := by
  rw [Path.Component.ofSegment?.eq_def]
  split
  · rfl
  · rfl
  · rfl
  · rename_i hempty hdot hup
    rw [if_neg (by simpa [Path.isTrivial] using ⟨hempty, hdot⟩)]
    simp [piece?]

theorem filterMap_piece? (pieces : List Text) :
    (pieces.filterMap Path.Component.ofSegment?).filterMap piece? = solid pieces := by
  rw [List.filterMap_filterMap]
  induction pieces with
  | nil => rfl
  | cons piece rest ih =>
    rw [List.filterMap_cons, piece?_ofSegment?, ih, solid, solid, List.filter_cons]
    by_cases htrivial : Path.isTrivial piece = true <;> simp [htrivial]

theorem solid_cons_of_trivial {piece : Text} (h : Path.isTrivial piece = true)
    (rest : List Text) : solid (piece :: rest) = solid rest := by
  rw [solid, List.filter_cons_of_neg (by simp [h]), solid]

theorem ofSegment?_ne_root (piece : Text) : Path.Component.ofSegment? piece ≠ some .root := by
  rw [Path.Component.ofSegment?.eq_def]
  split <;> simp

theorem components_of_segments {first : Text} {rest : List Text}
    (h : Path.segments p.text.toList = first :: rest) :
    p.components =
      if first = [] then
        if rest = [] then [] else .root :: rest.filterMap Path.Component.ofSegment?
      else if first = ['.'] then .here :: rest.filterMap Path.Component.ofSegment?
      else (first :: rest).filterMap Path.Component.ofSegment? := by
  rw [Path.components, h]
  dsimp only
  split
  · simp
  · simp
  · rename_i hnil hdot
    rw [if_neg hnil, if_neg hdot, List.filterMap_cons]
    cases Path.Component.ofSegment? first <;> rfl

theorem isAbsolute_iff_of_segments {first : Text} {rest : List Text}
    (h : Path.segments p.text.toList = first :: rest) :
    p.isAbsolute = true ↔ first = [] ∧ rest ≠ [] := by
  rw [Path.isAbsolute]
  revert h
  rcases p.text.toList with _ | ⟨c, text⟩
  · intro h
    obtain ⟨rfl, rfl⟩ := List.cons.inj h
    simp
  · by_cases hc : c = '/'
    · subst hc
      rw [Path.segments_cons_slash]
      intro h
      obtain ⟨rfl, rfl⟩ := List.cons.inj h
      simpa using Path.segments_ne_nil text
    · rw [Path.segments_cons hc]
      intro h
      obtain ⟨rfl, rfl⟩ := List.cons.inj h
      simpa using hc

/-- Only the empty path has no components. -/
theorem components_eq_nil_iff : p.components = [] ↔ p.text.toList = [] := by
  obtain ⟨first, rest, hsegments⟩ :=
    List.exists_cons_of_ne_nil (Path.segments_ne_nil p.text.toList)
  constructor
  · intro h
    have hroot : first = [] ∧ rest = [] := by
      rw [components_of_segments hsegments] at h
      split at h
      · rename_i hfirst
        split at h
        · exact ⟨hfirst, ‹_›⟩
        · cases h
      · split at h
        · cases h
        · rename_i hnil hdot
          have hpiece := piece?_ofSegment? first
          rw [if_neg (by simpa [Path.isTrivial] using ⟨hnil, hdot⟩),
            List.filterMap_eq_nil_iff.1 h first List.mem_cons_self] at hpiece
          cases hpiece
    rw [hroot.1, hroot.2] at hsegments
    by_contra hne
    obtain ⟨c, text, htext⟩ := List.exists_cons_of_ne_nil hne
    rw [htext] at hsegments
    by_cases hc : c = '/'
    · rw [hc, Path.segments_cons_slash] at hsegments
      exact Path.segments_ne_nil text (List.cons.inj hsegments).2
    · rw [Path.segments_cons hc] at hsegments
      cases hsegments
  · intro h
    rw [h] at hsegments
    obtain ⟨rfl, rfl⟩ := List.cons.inj hsegments
    rw [components_of_segments (by rw [h]; rfl)]
    rfl

/-- The components of a path tell where its look-up starts and which pieces lead somewhere. -/
theorem solid_segments (p : Path) :
    solid (Path.segments p.text.toList) = p.components.filterMap piece? ∧
      (p.isAbsolute = true ↔ p.components.head? = some .root) := by
  obtain ⟨first, rest, hsegments⟩ :=
    List.exists_cons_of_ne_nil (Path.segments_ne_nil p.text.toList)
  have habsolute := isAbsolute_iff_of_segments hsegments
  rw [habsolute, hsegments, components_of_segments hsegments]
  by_cases hnil : first = []
  · subst hnil
    rw [if_pos rfl, solid_cons_of_trivial rfl]
    by_cases hrest : rest = []
    · subst hrest
      simp [solid]
    · rw [if_neg hrest, List.filterMap_cons_none rfl, filterMap_piece?]
      simp [hrest]
  rw [if_neg hnil]
  by_cases hdot : first = ['.']
  · subst hdot
    rw [if_pos rfl, solid_cons_of_trivial rfl, List.filterMap_cons_none rfl, filterMap_piece?]
    simp
  · rw [if_neg hdot, filterMap_piece?]
    obtain ⟨component, hcomponent⟩ : ∃ component,
        Path.Component.ofSegment? first = some component := by
      rw [Path.Component.ofSegment?.eq_def]
      split <;> simp_all
    have hroot : component ≠ .root := fun h =>
      ofSegment?_ne_root first (by rw [hcomponent, h])
    rw [List.filterMap_cons_some hcomponent]
    simp [hnil, hroot]

/-- Of the paths that no file can have only the empty one counts as missing. -/
theorem checkPath_empty :
    (checkPath p = .error .notFound → p.text.toList = []) ∧
      (checkPath p = .ok () → p.text.toList ≠ []) := by
  by_cases htext : checkText p = .ok ()
  · obtain ⟨-, hne⟩ := checkText_eq_ok_iff.1 htext
    refine ⟨fun h => ?_, fun _ => hne⟩
    rw [checkPath, htext] at h
    simp only [bind, Except.bind] at h
    split at h <;> cases h
  · have hpath : ∃ e, checkPath p = .error e ∧ checkText p = .error e := by
      rw [checkPath]
      rcases hcheck : checkText p with e | _
      · exact ⟨e, rfl, rfl⟩
      · exact absurd hcheck htext
    obtain ⟨e, he, htext⟩ := hpath
    rw [he]
    refine ⟨?_, by rintro ⟨⟩⟩
    rintro ⟨⟩
    unfold checkText at htext
    split at htext
    · cases htext
    · split at htext
      · rename_i hempty
        simpa using hempty
      · cases htext

/-- A look-up comes to a name if the path is no nonsense and leads there. -/
theorem resolve_eq_ok_iff {n : List String} :
    t.resolve directory p = .ok n ↔ checkPath p = .ok () ∧ ∃ links,
      t.follow mostLinks (startOf directory p) (Path.segments p.text.toList) = .ok (n, links) := by
  unfold resolve
  rcases checkPath p with e | _
  · exact ⟨by rintro ⟨⟩, by rintro ⟨⟨⟩, _⟩⟩
  rcases t.follow mostLinks (startOf directory p) (Path.segments p.text.toList) with e | ⟨m, links⟩
  · exact ⟨by rintro ⟨⟩, by rintro ⟨-, _, ⟨⟩⟩⟩
  · exact ⟨by rintro ⟨⟩; exact ⟨rfl, links, rfl⟩, by rintro ⟨-, _, ⟨⟩⟩; rfl⟩

theorem checkText_of_checkPath (h : checkPath p = .ok ()) : checkText p = .ok () := by
  unfold checkPath at h
  rcases hcheck : checkText p with e | _
  · rw [hcheck] at h
    cases h
  · rfl

/-- A path that can be looked up can be freed of links and dots. -/
theorem exists_of_resolve {n : List String} (h : t.resolve directory p = .ok n) :
    ∃ c, t.canonicalize directory p = .ok c := by
  obtain ⟨hcheck, links, hfollow⟩ := resolve_eq_ok_iff.1 h
  exact ⟨pathOf n, canonicalize_eq_ok_iff.2
    ⟨checkText_of_checkPath hcheck, n, links, hfollow, rfl⟩⟩

/-- A file that can be read is looked up, and is a file. -/
theorem exists_of_readText {text : Text} (h : t.readText directory p = .ok text) :
    ∃ n content, t.resolve directory p = .ok n ∧ t.entry? n = some (.file content) := by
  unfold readText read at h
  rcases hresolve : t.resolve directory p with e | n
  · rw [hresolve] at h
    cases h
  rw [hresolve] at h
  simp only [bind, Except.bind] at h
  rcases hentry : t.entry? n with _ | ⟨_ | content | target⟩ <;> rw [hentry] at h
  · cases h
  · cases h
  · exact ⟨n, content, rfl, hentry⟩
  · cases h

/-- **A file that can be read in one spelling of its path is not missing in another one.** -/
theorem readText_ne_notFound {q : Path} {text : Text} (h : p.Same q)
    (hread : t.readText directory p = .ok text) : t.readText directory q ≠ .error .notFound := by
  intro hmissing
  obtain ⟨n, content, hresolve, hentry⟩ := exists_of_readText hread
  obtain ⟨hcheck, links, hfollow⟩ := resolve_eq_ok_iff.1 hresolve
  have hstart : startOf directory q = startOf directory p := by
    have habsolute : q.isAbsolute = p.isAbsolute :=
      Bool.eq_iff_iff.2 (by rw [(solid_segments q).2, (solid_segments p).2, h])
    rw [startOf, startOf, habsolute]
  have hsolid : solid (Path.segments p.text.toList) = solid (Path.segments q.text.toList) := by
    rw [(solid_segments p).1, (solid_segments q).1, h]
  have hne : q.text.toList ≠ [] := fun hempty => checkPath_empty.2 hcheck
    (components_eq_nil_iff.1 (Eq.trans h (components_eq_nil_iff.2 hempty)))
  unfold readText read resolve at hmissing
  rcases hq : checkPath q with e | _ <;> rw [hq] at hmissing
  · cases hmissing
    exact hne (checkPath_empty.1 hq)
  rcases follow_of_solid_eq hsolid hfollow with hq | hq <;> rw [hstart, hq] at hmissing
  · simp only [bind, Except.bind, pure, Except.pure] at hmissing
    rw [hentry] at hmissing
    dsimp only at hmissing
    split at hmissing <;> cases hmissing
  · cases hmissing

end FileTree

end CallerClosure
