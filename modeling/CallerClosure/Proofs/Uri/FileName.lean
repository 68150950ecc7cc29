import CallerClosure.Proofs.Files.Lookup
import CallerClosure.Proofs.Text.Utf8
import CallerClosure.Uri.File
import Mathlib.Data.List.TakeWhile
import Mathlib.Tactic.SplitIfs

/-!
# The URI of a file tells the file

* `Percent.decode_encode` says that encoding leaves the bytes of a text as they are;
* `Uri.IsPlain` holds of the characters that reading a path leaves alone, and
  `BuiltPath.read_of_settled` says that segments made of them are read as they stand;
* `Uri.parse_ofFile?` says that the URI of a file is in normal form already, and
  `Uri.same_of_ofFile?` that files with the same URI have paths with the same components.
-/

namespace CallerClosure

/-! ### Encoded texts -/

namespace Percent

theorem hexValue?_hexDigit : ∀ n < 16, hexValue? (hexDigit n) = some n := by decide

theorem decode_escapeByte (b : UInt8) (t : Text) :
    decodeFrom 0 (escapeByte b ++ t) = b :: decodeFrom 0 t := by
  have hb := b.toNat_lt
  have hhigh := hexValue?_hexDigit (b.toNat / 16) (by omega)
  have hlow := hexValue?_hexDigit (b.toNat % 16) (by omega)
  have hvalue : (b.toNat / 16 * 16 + b.toNat % 16).toUInt8 = b := by
    rw [Nat.div_add_mod']
    exact UInt8.ofNat_toNat
  simp only [escapeByte, List.cons_append, List.nil_append, decodeFrom, hhigh, hlow, hvalue]

theorem decode_escapeBytes (bs : List UInt8) (t : Text) :
    decodeFrom 0 (bs.flatMap escapeByte ++ t) = bs ++ decodeFrom 0 t := by
  induction bs with
  | nil => rfl
  | cons b bs ih =>
    rw [List.flatMap_cons, List.append_assoc, decode_escapeByte, ih]
    rfl

theorem decode_cons {c : Char} (hc : c ≠ '%') (t : Text) :
    decodeFrom 0 (c :: t) = Utf8.encodeChar c ++ decodeFrom 0 t := by
  rw [decodeFrom]
  exact fun _ _ _ h => absurd h hc

section Encode

variable {encoded : Char → Bool}

theorem encode_cons (encoded : Char → Bool) (c : Char) (t : Text) :
    encode encoded (c :: t) =
      (if encoded c then (Utf8.encodeChar c).flatMap escapeByte else [c]) ++ encode encoded t :=
  rfl

/-- An encoded text stands for the bytes of the text, if percent signs are encoded too. -/
theorem decode_encode (h : encoded '%' = true) (t : Text) :
    decode (encode encoded t) = Utf8.encode t := by
  rw [decode]
  induction t with
  | nil => rfl
  | cons c t ih =>
    rw [encode_cons]
    split
    · rw [decode_escapeBytes, ih]
      rfl
    · rename_i hc
      have hpercent : c ≠ '%' := by
        rintro rfl
        exact hc h
      rw [List.singleton_append, decode_cons hpercent, ih]
      rfl

theorem encode_injective (h : encoded '%' = true) : Function.Injective (encode encoded) := by
  intro t u htu
  apply Utf8.encode_injective
  rw [← decode_encode h, htu, decode_encode h]

/-- Where nothing has to be encoded, nothing is. -/
theorem encode_eq_self {t : Text} (h : ∀ c ∈ t, encoded c = false) : encode encoded t = t := by
  induction t with
  | nil => rfl
  | cons c t ih =>
    obtain ⟨hc, ht⟩ := List.forall_mem_cons.1 h
    rw [encode_cons, hc, ih ht]
    rfl

theorem encode_ne_nil {t : Text} (h : t ≠ []) : encode encoded t ≠ [] := by
  obtain ⟨c, t, rfl⟩ := List.exists_cons_of_ne_nil h
  rw [encode_cons]
  split
  · obtain ⟨b, bs, hbytes⟩ := List.exists_cons_of_length_pos
      (Nat.lt_of_lt_of_eq c.utf8Size_pos (Utf8.length_encodeChar c).symm)
    rw [hbytes]
    exact List.cons_ne_nil _ _
  · exact List.cons_ne_nil _ _

theorem inFileName_hexDigit : ∀ n < 16, inFileName (hexDigit n) = false := by decide

/-- An encoded name holds percent signs, and characters that are not encoded. -/
theorem of_mem_encode_inFileName {t : Text} {c : Char} (h : c ∈ encode inFileName t) :
    c = '%' ∨ inFileName c = false := by
  obtain ⟨d, -, hd⟩ := List.mem_flatMap.1 h
  split at hd
  · obtain ⟨b, -, hb⟩ := List.mem_flatMap.1 hd
    have hbound := b.toNat_lt
    simp only [escapeByte, List.mem_cons, List.not_mem_nil, or_false] at hb
    rcases hb with rfl | rfl | rfl
    · exact .inl rfl
    · exact .inr (inFileName_hexDigit _ (by omega))
    · exact .inr (inFileName_hexDigit _ (by omega))
  · rename_i hplain
    obtain rfl := List.mem_singleton.1 hd
    exact .inr (by simpa using hplain)

end Encode

end Percent

/-! ### Dots -/

namespace Segments

open Percent

theorem plainDots_cons {c : Char} (hc : c ≠ '%') (t : Text) :
    plainDots (c :: t) = c :: plainDots t := by
  rw [plainDots]
  · exact fun _ h => absurd h hc
  · exact fun _ h => absurd h hc

theorem hexDigit_ne_percent : ∀ n < 16, hexDigit n ≠ '%' := by decide

theorem hexDigit_eq_two : ∀ n < 16, hexDigit n = '2' → n = 2 := by decide

theorem hexDigit_eq_E : ∀ n < 16, hexDigit n = 'E' → n = 14 := by decide

theorem hexDigit_ne_e : ∀ n < 16, hexDigit n ≠ 'e' := by decide

/-- Only a byte that is a dot is taken for one. -/
theorem plainDots_escapeByte {b : UInt8} (hb : b.toNat ≠ 0x2E) (t : Text) :
    plainDots (escapeByte b ++ t) = escapeByte b ++ plainDots t := by
  have hbound := b.toNat_lt
  have hhigh : b.toNat / 16 < 16 := by omega
  have hlow : b.toNat % 16 < 16 := by omega
  simp only [escapeByte, List.cons_append, List.nil_append]
  rw [plainDots, plainDots_cons (hexDigit_ne_percent _ hhigh),
    plainDots_cons (hexDigit_ne_percent _ hlow)]
  · intro rest _ h
    exact hexDigit_ne_e _ hlow (List.cons.inj (List.cons.inj h).2).1
  · intro rest _ h
    obtain ⟨htwo, h⟩ := List.cons.inj h
    have := hexDigit_eq_two _ hhigh htwo
    have := hexDigit_eq_E _ hlow (List.cons.inj h).1
    omega

theorem plainDots_escapeBytes {bs : List UInt8} (hbs : ∀ b ∈ bs, b.toNat ≠ 0x2E) (t : Text) :
    plainDots (bs.flatMap escapeByte ++ t) = bs.flatMap escapeByte ++ plainDots t := by
  induction bs with
  | nil => rfl
  | cons b bs ih =>
    obtain ⟨hb, hbs⟩ := List.forall_mem_cons.1 hbs
    rw [List.flatMap_cons, List.append_assoc, plainDots_escapeByte hb, ih hbs, List.append_assoc]

/-- A dot in a name is not encoded, so an encoded name hides none. -/
theorem plainDots_encode (t : Text) : plainDots (encode inFileName t) = encode inFileName t := by
  induction t with
  | nil => rfl
  | cons c t ih =>
    rw [encode_cons]
    split
    · rename_i hc
      have hbytes : ∀ b ∈ Utf8.encodeChar c, b.toNat ≠ 0x2E := by
        intro b hb hdot
        obtain rfl : c = '.' := Char.toNat_inj.1
          ((Utf8.toNat_of_mem_encodeChar hb (by omega)).trans hdot)
        exact absurd hc (by decide)
      rw [plainDots_escapeBytes hbytes, ih]
    · rename_i hc
      have hpercent : c ≠ '%' := by
        rintro rfl
        exact hc (by decide)
      rw [List.singleton_append, plainDots_cons hpercent, ih]

theorem isDot_encode {t : Text} (h : t ≠ ['.']) : isDot (encode inFileName t) = false := by
  rw [isDot, plainDots_encode, beq_eq_false_iff_ne]
  exact fun hdot => h (encode_injective (by decide) hdot)

theorem isDoubleDot_encode {t : Text} (h : t ≠ ['.', '.']) :
    isDoubleDot (encode inFileName t) = false := by
  rw [isDoubleDot, plainDots_encode, beq_eq_false_iff_ne]
  exact fun hdots => h (encode_injective (by decide) hdots)

end Segments

/-! ### Segments that are read as they stand -/

namespace Uri

/-- The characters that reading the path of a file leaves alone. -/
structure IsPlain (c : Char) : Prop where
  path : Percent.inPath c = false
  slash : c ≠ '/'
  backslash : c ≠ '\\'

theorem isPlain_of_mem_encode {t : Text} {c : Char}
    (h : c ∈ Percent.encode Percent.inFileName t) : IsPlain c := by
  rcases Percent.of_mem_encode_inFileName h with rfl | hc
  · exact ⟨by decide, by decide, by decide⟩
  · simp only [Percent.inFileName, Bool.or_eq_false_iff, List.contains_cons, List.contains_nil,
      beq_eq_false_iff_ne] at hc
    exact ⟨hc.1, hc.2.1, hc.2.2.2.1⟩

/-- Such a character is neither a blank nor a control. -/
theorem IsPlain.lt_toNat {c : Char} (h : IsPlain c) : 32 < c.toNat := by
  have hpath := h.path
  simp only [Percent.inPath, Percent.inFragment, Percent.isControl, Bool.or_eq_false_iff,
    decide_eq_false_iff_not, List.contains_cons, beq_eq_false_iff_ne] at hpath
  have hblank : c.toNat ≠ ' '.toNat := fun heq => hpath.1.2.1 (Char.toNat_inj.1 heq)
  have hvalue : ' '.toNat = 32 := rfl
  omega

theorem IsPlain.isPathEnd {c : Char} (h : IsPlain c) : isPathEnd c = false := by
  have hpath := h.path
  simp only [Percent.inPath, Bool.or_eq_false_iff, List.contains_cons, beq_eq_false_iff_ne]
    at hpath
  simp [Uri.isPathEnd, hpath]

theorem isDropped_of_lt {c : Char} (h : 32 < c.toNat) : isDropped c = false := by
  have htab : c ≠ '\t' := by
    rintro rfl
    exact absurd h (by decide)
  have hline : c ≠ '\n' := by
    rintro rfl
    exact absurd h (by decide)
  have hreturn : c ≠ '\r' := by
    rintro rfl
    exact absurd h (by decide)
  simp [isDropped, htab, hline, hreturn]

theorem filter_isDropped {t : Text} (h : ∀ c ∈ t, 32 < c.toNat) :
    t.filter (fun c => !isDropped c) = t :=
  List.filter_eq_self.2 fun c hc => by rw [isDropped_of_lt (h c hc)]; rfl

end Uri

namespace BuiltPath

open Uri

/-- A segment that is read as it stands. -/
structure Settled (s : Text) : Prop where
  plain : ∀ c ∈ s, IsPlain c
  dot : Segments.isDot s = false
  doubleDot : Segments.isDoubleDot s = false

variable {p : BuiltPath}

/-- Only a segment right after the first slash could be a drive letter. -/
theorem add_of_settled {s : Text} (h : Settled s) (hp : 1 < p.reversed.length) (slash : Text) :
    p.add true s slash = p.append (s ++ slash) := by
  have hfirst : (p.reversed == ['/']) = false := by
    rw [beq_eq_false_iff_ne]
    intro heq
    rw [heq] at hp
    exact absurd hp (by decide)
  have hs : Percent.encode Percent.inPath (s.filter fun c => !isDropped c) = s := by
    rw [filter_isDropped fun c hc => (h.plain c hc).lt_toNat]
    exact Percent.encode_eq_self fun c hc => (h.plain c hc).path
  simp only [add, hs, h.dot, h.doubleDot, hfirst, Bool.and_false, Bool.false_eq_true, if_false]
  split <;> rfl

/-- Settled segments are read one after the other, with slashes between them. -/
theorem read_of_settled {s : Text} {rest : List Text} (h : ∀ t ∈ s :: rest, Settled t)
    (hp : 1 < p.reversed.length) :
    p.read true (s :: rest) = p.append (s ++ rest.flatMap fun t => '/' :: t) := by
  -- after the first slashes the text has more than one character, and it only grows
  induction rest generalizing p s with
  | nil =>
    rw [read, add_of_settled (h s List.mem_cons_self) hp]
    rfl
  | cons t rest ih =>
    obtain ⟨hs, hrest⟩ := List.forall_mem_cons.1 h
    have hlength : 1 < (p.append (s ++ ['/'])).reversed.length := by
      rw [append, List.length_append]
      omega
    rw [read, add_of_settled hs hp, ih hrest hlength, append, append, append]
    · simp
    · exact List.cons_ne_nil _ _

end BuiltPath

/-! ### Reading the URI of a file -/

namespace Uri

open BuiltPath

/-- The path that segments make up. -/
def slashed (segments : List Text) : Text := segments.flatMap fun s => '/' :: s

/-- The URI of a file of this host. -/
def ofLocal (path : Text) : Uri := ⟨"file".toList, some [], [], path, none, none⟩

theorem text_ofLocal (path : Text) :
    (ofLocal path).text = String.ofList ("file://".toList ++ path) := by
  simp [text, ofLocal]

theorem splitOn_eq_segments (t : Text) : Text.splitOn '/' t = Path.segments t := by
  induction t with
  | nil => rfl
  | cons c t ih =>
    by_cases hc : c = '/'
    · rw [Text.splitOn, Path.segments, if_pos hc, if_pos hc, ih]
    · rw [Text.splitOn, if_neg hc, ih, Path.segments_cons hc]
      cases h : Path.segments t with
      | nil => exact absurd h (Path.segments_ne_nil t)
      | cons s rest => rfl

section Read

variable {first : Text} {rest : List Text}

theorem mem_slashed (h : ∀ s ∈ first :: rest, Settled s) {c : Char}
    (hc : c ∈ slashed (first :: rest)) : c = '/' ∨ IsPlain c := by
  obtain ⟨s, hs, hmem⟩ := List.mem_flatMap.1 hc
  exact (List.mem_cons.1 hmem).imp_right fun hmem => (h s hs).plain c hmem

/-- Of the two slashes in front of a path that is read one stays. -/
theorem fileText_readPath (h : ∀ s ∈ first :: rest, Settled s) (hfirst : first = [] → rest = []) :
    (readPath .file .root (slashed (first :: rest))).fileText = slashed (first :: rest) ∧
      (readPath .file .root (slashed (first :: rest))).hasDrive = false := by
  have hslashes : (slashed (first :: rest)).map (fun c => if isSlash .file c then '/' else c) =
      slashed (first :: rest) := by
    refine (List.map_congr_left fun c hc => ?_).trans (List.map_id _)
    rcases mem_slashed h hc with rfl | hc
    · rfl
    · simp [isSlash, hc.slash, hc.backslash]
  have hread : readPath .file .root (slashed (first :: rest)) =
      ⟨(first ++ slashed rest).reverse ++ ['/', '/'], false⟩ := by
    have hsegments : Path.segments (slashed (first :: rest)) = [] :: first :: rest := by
      refine Path.segments_flatMap fun s hs hslash => ?_
      exact ((h s hs).plain _ hslash).slash rfl
    rw [readPath, hslashes, splitOn_eq_segments, hsegments, BuiltPath.read]
    · exact read_of_settled h (by decide)
    · exact List.cons_ne_nil _ _
  have hplain : (first ++ slashed rest).dropWhile (· == '/') = first ++ slashed rest := by
    cases first with
    | nil =>
      rw [hfirst rfl]
      rfl
    | cons c first =>
      have hc := (h _ List.mem_cons_self).plain c List.mem_cons_self
      rw [List.cons_append, List.dropWhile_cons_of_neg (by simpa using hc.slash)]
  rw [hread]
  refine ⟨?_, rfl⟩
  rw [fileText, BuiltPath.text]
  dsimp only
  rw [List.reverse_append, List.reverse_reverse]
  change '/' :: (first ++ slashed rest).dropWhile (· == '/') = _
  rw [hplain]
  rfl

theorem cutPath_slashed (h : ∀ s ∈ first :: rest, Settled s) :
    cutPath (slashed (first :: rest)) = (slashed (first :: rest), []) := by
  have hend : ∀ c ∈ slashed (first :: rest), (!isPathEnd c) = true := by
    intro c hc
    rcases mem_slashed h hc with rfl | hc
    · rfl
    · rw [hc.isPathEnd]
      rfl
  rw [cutPath, List.takeWhile_eq_self_iff.2 hend, List.dropWhile_eq_nil_iff.2 hend]

theorem parseFileHost_slashed (h : ∀ s ∈ first :: rest, Settled s)
    (hfirst : first = [] → rest = []) :
    parseFileHost (slashed (first :: rest)) = .ok (ofLocal (slashed (first :: rest))) := by
  have hhost : parseFileHost (slashed (first :: rest)) =
      .ok (fileOn [] .root (slashed (first :: rest))) := rfl
  obtain ⟨htext, hdrive⟩ := fileText_readPath h hfirst
  rw [hhost, fileOn, cutPath_slashed h]
  dsimp only
  rw [htext, hdrive]
  rfl

/-- Nothing is dropped from a text without blanks and controls. -/
theorem parse_eq {t : Text} (h : ∀ c ∈ t, 32 < c.toNat) :
    parse (String.ofList ("file:".toList ++ t)) = parseFile t := by
  have hscheme : "file:".toList.all (fun c => decide (32 < c.toNat)) = true := by decide
  have hall : ∀ c ∈ "file:".toList ++ t, 32 < c.toNat := by
    intro c hc
    rcases List.mem_append.1 hc with hc | hc
    · exact of_decide_eq_true (List.all_eq_true.1 hscheme c hc)
    · exact h c hc
  have htrim : ∀ s : Text, (∀ c ∈ s, 32 < c.toNat) → s.dropWhile isTrimmed = s := by
    intro s hs
    cases s with
    | nil => rfl
    | cons c s =>
      have hc := hs c List.mem_cons_self
      rw [List.dropWhile_cons_of_neg]
      simp only [isTrimmed, decide_eq_true_eq]
      omega
  rw [parse, String.toList_ofList, htrim _ hall, htrim _ fun c hc => hall c (List.mem_reverse.1 hc),
    List.reverse_reverse, withoutDropped, filter_isDropped hall]
  rfl

/-- **The URI of settled segments is in normal form.** -/
theorem parse_slashed (h : ∀ s ∈ first :: rest, Settled s) (hfirst : first = [] → rest = []) :
    parse (String.ofList ("file://".toList ++ slashed (first :: rest))) =
      .ok (ofLocal (slashed (first :: rest))) := by
  have hall : ∀ c ∈ '/' :: '/' :: slashed (first :: rest), 32 < c.toNat := by
    intro c hc
    rcases List.mem_cons.1 hc with rfl | hc
    · decide
    rcases List.mem_cons.1 hc with rfl | hc
    · decide
    rcases mem_slashed h hc with rfl | hc
    · decide
    · exact hc.lt_toNat
  have hparse := parse_eq hall
  have hhost : parseFile ('/' :: '/' :: slashed (first :: rest)) =
      parseFileHost (slashed (first :: rest)) := rfl
  rw [hhost, parseFileHost_slashed h hfirst] at hparse
  exact hparse

end Read

end Uri

/-! ### The names of a path -/

namespace Path

/-- The names that lead from the root to a file. -/
structure IsLedTo (p : Path) (names : List Text) : Prop where
  components : p.components = .root :: names.map fun s => .name (String.ofList s)
  solid : ∀ s ∈ names, s ≠ [] ∧ s ≠ ['.'] ∧ s ≠ ['.', '.']

theorem filterMap_ofSegment? {pieces : List Text} (h : ['.', '.'] ∉ pieces) :
    pieces.filterMap Component.ofSegment? =
      (FileTree.solid pieces).map fun s => .name (String.ofList s) := by
  induction pieces with
  | nil => rfl
  | cons piece rest ih =>
    obtain ⟨hpiece, hrest⟩ := List.ne_and_not_mem_of_not_mem_cons h
    rw [List.filterMap_cons, ih hrest]
    by_cases htrivial : isTrivial piece = true
    · have hnone : Component.ofSegment? piece = none := by
        rcases (by simpa [isTrivial] using htrivial : piece = [] ∨ piece = ['.']) with rfl | rfl
        · rfl
        · rfl
      rw [hnone, FileTree.solid_cons_of_trivial htrivial]
    · have hname : Component.ofSegment? piece = some (.name (String.ofList piece)) := by
        rw [Component.ofSegment?.eq_def]
        split
        · exact absurd rfl htrivial
        · exact absurd rfl htrivial
        · exact absurd rfl hpiece
        · rfl
      have hsolid : FileTree.solid (piece :: rest) = piece :: FileTree.solid rest :=
        List.filter_cons_of_pos (by simpa using htrivial)
      rw [hname, hsolid]
      rfl

/-- A path from the root that never goes up is a list of names. -/
theorem exists_isLedTo {p : Path} (habsolute : p.isAbsolute = true)
    (hup : .up ∉ p.components) : ∃ names, p.IsLedTo names := by
  obtain ⟨first, rest, hsegments⟩ :=
    List.exists_cons_of_ne_nil (segments_ne_nil p.text.toList)
  obtain ⟨rfl, hrest⟩ := (FileTree.isAbsolute_iff_of_segments hsegments).1 habsolute
  have hcomponents := FileTree.components_of_segments hsegments
  rw [if_pos rfl, if_neg hrest] at hcomponents
  have hdots : ['.', '.'] ∉ rest := by
    intro hmem
    refine hup ?_
    rw [hcomponents]
    exact List.mem_cons_of_mem _ (List.mem_filterMap.2 ⟨_, hmem, rfl⟩)
  refine ⟨FileTree.solid rest, by rw [hcomponents, filterMap_ofSegment? hdots], fun s hs => ?_⟩
  obtain ⟨hmem, hsolid⟩ := List.mem_filter.1 hs
  simp only [isTrivial, Bool.not_eq_true', Bool.or_eq_false_iff, beq_eq_false_iff_ne] at hsolid
  refine ⟨hsolid.1, hsolid.2, ?_⟩
  rintro rfl
  exact hdots hmem

end Path

/-! ### Files and their URIs -/

namespace Uri

open BuiltPath

variable {p q : Path} {names : List Text} {written : String}

/-- The segments of the URI of a file. The root has an empty one. -/
def fileSegments (names : List Text) : List Text :=
  if names = [] then [[]] else names.map (Percent.encode Percent.inFileName)

theorem ofFile?_of_isLedTo (h : p.IsLedTo names) :
    ofFile? p = some (String.ofList ("file://".toList ++ slashed (fileSegments names))) := by
  have habsolute : p.isAbsolute = true := by
    rw [(FileTree.solid_segments p).2, h.components]
    rfl
  rw [ofFile?, if_pos habsolute, h.components]
  by_cases hnil : names = []
  · subst hnil
    rfl
  · simp [fileSegments, slashed, hnil, componentText, List.flatMap_def, Function.comp_def]

/-- The names of a file are read as they are written. -/
theorem settled_fileSegments (h : p.IsLedTo names) :
    ∃ first rest, fileSegments names = first :: rest ∧ (∀ s ∈ first :: rest, Settled s) ∧
      (first = [] → rest = []) := by
  have hsettled : ∀ s ∈ names, Settled (Percent.encode Percent.inFileName s) := fun s hs =>
    ⟨fun _ => isPlain_of_mem_encode, Segments.isDot_encode (h.solid s hs).2.1,
      Segments.isDoubleDot_encode (h.solid s hs).2.2⟩
  cases names with
  | nil =>
    refine ⟨[], [], rfl, fun s hs => ?_, fun _ => rfl⟩
    obtain rfl := List.mem_singleton.1 hs
    exact ⟨by simp, rfl, rfl⟩
  | cons name names =>
    refine ⟨_, _, rfl, fun s hs => ?_, fun hnil => ?_⟩
    · obtain ⟨t, ht, rfl⟩ := List.mem_map.1 (show s ∈ (name :: names).map _ from hs)
      exact hsettled t ht
    · exact absurd hnil (Percent.encode_ne_nil (h.solid name List.mem_cons_self).1)

/-- Only a path from the root has a URI. -/
theorem isAbsolute_of_ofFile? (h : (ofFile? p).isSome = true) : p.isAbsolute = true := by
  unfold ofFile? at h
  split at h
  · assumption
  · cases h

/-- **The URI of a file is in normal form**, unless the path of the file goes up somewhere. -/
theorem parse_ofFile? (hup : .up ∉ p.components) (h : ofFile? p = some written) :
    ∃ parsed, parse written = .ok parsed ∧ parsed.text = written := by
  obtain ⟨names, hnames⟩ := Path.exists_isLedTo (isAbsolute_of_ofFile? (by simp [h])) hup
  obtain ⟨first, rest, hsegments, hsettled, hfirst⟩ := settled_fileSegments hnames
  rw [ofFile?_of_isLedTo hnames, hsegments] at h
  obtain rfl := Option.some.inj h
  exact ⟨_, parse_slashed hsettled hfirst, text_ofLocal _⟩

/-- A path that goes up shares its URI with the path that it leads to. -/
example : ofFile? ⟨"/ws/x/../m.py"⟩ = some "file:///ws/x/../m.py" ∧
    (parse "file:///ws/x/../m.py").toOption.map text = some "file:///ws/m.py" :=
  ⟨by decide +kernel, by decide +kernel⟩

/-- The segments of a URI tell the names. -/
theorem fileSegments_inj {others : List Text} (h : p.IsLedTo names) (h' : q.IsLedTo others)
    (heq : fileSegments names = fileSegments others) : names = others := by
  have hne : ∀ {q : Path} {name : Text} {names : List Text}, q.IsLedTo (name :: names) →
      fileSegments (name :: names) ≠ fileSegments [] := by
    intro q name names h heq
    exact Percent.encode_ne_nil (h.solid name List.mem_cons_self).1 (List.cons.inj heq).1
  cases names with
  | nil =>
    cases others with
    | nil => rfl
    | cons => exact absurd heq.symm (hne h')
  | cons =>
    cases others with
    | nil => exact absurd heq (hne h)
    | cons => exact List.map_injective_iff.2 (Percent.encode_injective (by decide)) heq

/-- **The URI of a file tells the components of its path.** -/
theorem same_of_ofFile? (hp : .up ∉ p.components) (hq : .up ∉ q.components)
    (h : ofFile? p = some written) (h' : ofFile? q = some written) : p.Same q := by
  obtain ⟨names, hnames⟩ := Path.exists_isLedTo (isAbsolute_of_ofFile? (by simp [h])) hp
  obtain ⟨others, hothers⟩ := Path.exists_isLedTo (isAbsolute_of_ofFile? (by simp [h'])) hq
  have hsegments : ∀ {q : Path} {names : List Text}, q.IsLedTo names →
      Path.segments (slashed (fileSegments names)) = [] :: fileSegments names := by
    intro q names hnames
    obtain ⟨first, rest, heq, hsettled, -⟩ := settled_fileSegments hnames
    rw [heq]
    exact Path.segments_flatMap fun s hs hslash => ((hsettled s hs).plain _ hslash).slash rfl
  rw [ofFile?_of_isLedTo hnames] at h
  rw [ofFile?_of_isLedTo hothers, ← h] at h'
  have htext := String.ofList_inj.1 (Option.some.inj h')
  have heq := congrArg Path.segments (List.append_cancel_left htext)
  rw [hsegments hnames, hsegments hothers] at heq
  rw [Path.Same, hnames.components, hothers.components,
    fileSegments_inj hnames hothers (List.cons.inj heq).2.symm]

end Uri

end CallerClosure
