import CallerClosure.Span

/-!
# Texts and byte offsets

A text is a list of characters. Offsets into it count the bytes of its UTF-8 form, so only
some offsets are *boundaries*, where one character ends and the next begins.

* `Text.size` is the length in bytes, `Text.units` the length in UTF-16 code units;
* `Text.splitAt?` cuts a text at a boundary and refuses any other offset;
* `Text.slice?` is the part of a text that a span selects, if both its bounds are boundaries;
* `Text.before` is the longest run of whole characters ending at or before an offset.
-/

namespace CallerClosure

/-- A text, as the list of its characters. -/
abbrev Text := List Char

namespace Text

/-- The length of a text in bytes. -/
def size : Text → Nat
  | [] => 0
  | c :: t => c.utf8Size + size t

/-- The number of UTF-16 code units of a character. -/
def unitsOf (c : Char) : Nat :=
  if c.toNat ≤ 0xFFFF then 1 else 2

/-- The length of a text in UTF-16 code units. -/
def units : Text → Nat
  | [] => 0
  | c :: t => unitsOf c + units t

/-- The two halves of a text around a boundary. -/
def splitAt? : Text → Nat → Option (Text × Text)
  | t, 0 => some ([], t)
  | [], _ + 1 => none
  | c :: t, o + 1 =>
    if c.utf8Size ≤ o + 1 then
      (splitAt? t (o + 1 - c.utf8Size)).map fun halves => (c :: halves.1, halves.2)
    else none

/-- The part of a text between two boundaries, in order and within the text. -/
def slice? (t : Text) (s : Span) : Option Text :=
  if s.start ≤ s.stop then
    match splitAt? t s.start with
    | none => none
    | some halves => (splitAt? halves.2 (s.stop - s.start)).map (·.1)
  else none

/-- The characters that end at or before an offset. -/
def before : Text → Nat → Text
  | [], _ => []
  | c :: t, o => if c.utf8Size ≤ o then c :: before t (o - c.utf8Size) else []

/-- The pieces of a text between the occurrences of a character. -/
def splitOn (separator : Char) : Text → List Text
  | [] => [[]]
  | c :: t =>
    if c = separator then [] :: splitOn separator t
    else
      match splitOn separator t with
      | [] => [[c]]
      | s :: rest => (c :: s) :: rest

@[simp] theorem size_nil : size [] = 0 := rfl

@[simp] theorem size_cons (c : Char) (t : Text) : size (c :: t) = c.utf8Size + size t := rfl

@[simp] theorem units_nil : units [] = 0 := rfl

@[simp] theorem units_cons (c : Char) (t : Text) :
    units (c :: t) = unitsOf c + units t := rfl

theorem size_append (s t : Text) : size (s ++ t) = size s + size t := by
  induction s with
  | nil => simp
  | cons c s ih => simp [ih, Nat.add_assoc]

theorem units_append (s t : Text) : units (s ++ t) = units s + units t := by
  induction s with
  | nil => simp
  | cons c s ih => simp [ih, Nat.add_assoc]

/-- A cut loses nothing. -/
theorem append_of_splitAt? {t a b : Text} {o : Nat} (h : splitAt? t o = some (a, b)) :
    a ++ b = t := by
  induction t generalizing o a with
  | nil => cases o <;> simp_all [splitAt?]
  | cons c t ih =>
    cases o with
    | zero => simp_all [splitAt?]
    | succ o =>
      simp only [splitAt?] at h
      split at h
      · obtain ⟨⟨x, y⟩, hs, he⟩ := Option.map_eq_some_iff.1 h
        obtain ⟨rfl, rfl⟩ := Prod.mk.inj he
        simp [ih hs]
      · cases h

/-- The first half of a cut ends at the offset asked for. -/
theorem size_of_splitAt? {t a b : Text} {o : Nat} (h : splitAt? t o = some (a, b)) :
    size a = o := by
  induction t generalizing o a with
  | nil => cases o <;> simp_all [splitAt?]
  | cons c t ih =>
    cases o with
    | zero => simp_all [splitAt?]
    | succ o =>
      simp only [splitAt?] at h
      split at h
      · obtain ⟨⟨x, y⟩, hs, he⟩ := Option.map_eq_some_iff.1 h
        obtain ⟨rfl, rfl⟩ := Prod.mk.inj he
        have := ih hs
        simp only [size_cons, this]
        omega
      · cases h

end Text

end CallerClosure
