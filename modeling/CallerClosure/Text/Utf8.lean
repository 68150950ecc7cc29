import CallerClosure.Text.Basic

/-!
# UTF-8

* `Utf8.encode` writes a text as bytes;
* `Utf8.decode?` reads bytes as a text and refuses ill-formed ones;
* `Utf8.decodeLossy` puts `U+FFFD` for each longest ill-formed piece.

Well-formed sequences are those of the Unicode standard: no overlong forms, no surrogates,
nothing above `U+10FFFF`.
-/

namespace CallerClosure.Utf8

/-- The bytes of one character. -/
def encodeChar (c : Char) : List UInt8 :=
  let n := c.toNat
  if n < 0x80 then [n.toUInt8]
  else if n < 0x800 then [(0xC0 + n / 64).toUInt8, (0x80 + n % 64).toUInt8]
  else if n < 0x10000 then
    [(0xE0 + n / 4096).toUInt8, (0x80 + n / 64 % 64).toUInt8, (0x80 + n % 64).toUInt8]
  else
    [(0xF0 + n / 262144).toUInt8, (0x80 + n / 4096 % 64).toUInt8,
      (0x80 + n / 64 % 64).toUInt8, (0x80 + n % 64).toUInt8]

/-- The bytes of a text. -/
def encode (t : Text) : List UInt8 := t.flatMap encodeChar

/-- What a leading byte promises: the number of bytes that continue it, the value that it
contributes, and the range of the first byte after it. -/
structure Lead where
  more : Nat
  value : Nat
  low : Nat
  high : Nat

/-- The promise of a leading byte, if a character can start with it. -/
def lead? (b : Nat) : Option Lead :=
  if b < 0x80 then some ⟨0, b, 0x80, 0xBF⟩
  else if b < 0xC2 then none
  else if b < 0xE0 then some ⟨1, b - 0xC0, 0x80, 0xBF⟩
  else if b = 0xE0 then some ⟨2, 0, 0xA0, 0xBF⟩
  else if b = 0xED then some ⟨2, 0xD, 0x80, 0x9F⟩
  else if b < 0xF0 then some ⟨2, b - 0xE0, 0x80, 0xBF⟩
  else if b = 0xF0 then some ⟨3, 0, 0x90, 0xBF⟩
  else if b < 0xF4 then some ⟨3, b - 0xF0, 0x80, 0xBF⟩
  else if b = 0xF4 then some ⟨3, 4, 0x80, 0x8F⟩
  else none

/-- What a byte outside of any character begins: a finished character or ill-formed piece,
or a character that goes on. -/
def begin (b : UInt8) : Option Char ⊕ Lead :=
  match lead? b.toNat with
  | none => .inl none
  | some p => if p.more = 0 then .inl (some (Char.ofNat p.value)) else .inr p

/-- Decode bytes, perhaps in the middle of a character, of which `Lead` tells what is still
to come. Each result is a character, or nothing for an ill-formed piece. -/
def decodeFrom : Option Lead → List UInt8 → List (Option Char)
  | none, [] => []
  | some _, [] => [none]
  | none, b :: bs =>
    match begin b with
    | .inl c => c :: decodeFrom none bs
    | .inr p => decodeFrom (some p) bs
  | some p, b :: bs =>
    if p.low ≤ b.toNat ∧ b.toNat ≤ p.high then
      let value := p.value * 64 + (b.toNat - 0x80)
      if p.more ≤ 1 then some (Char.ofNat value) :: decodeFrom none bs
      else decodeFrom (some ⟨p.more - 1, value, 0x80, 0xBF⟩) bs
    else
      match begin b with
      | .inl c => none :: c :: decodeFrom none bs
      | .inr p => none :: decodeFrom (some p) bs

/-- The text that well-formed bytes stand for. -/
def decode? (bs : List UInt8) : Option Text :=
  (decodeFrom none bs).mapM id

/-- The text that bytes stand for, with `U+FFFD` for each ill-formed piece. -/
def decodeLossy (bs : List UInt8) : Text :=
  (decodeFrom none bs).map fun c => c.getD '\uFFFD'

theorem length_encodeChar (c : Char) : (encodeChar c).length = c.utf8Size := by
  have hc : c.toNat = c.val.toNat := rfl
  have hle (n : Nat) (h : n < UInt32.size) :
      c.val ≤ UInt32.ofNatLT n h ↔ c.toNat < n + 1 := by
    rw [UInt32.le_iff_toNat_le, hc, UInt32.toNat_ofNatLT]
    omega
  unfold encodeChar Char.utf8Size
  simp only [hle]
  by_cases h1 : c.toNat < 0x80
  · simp [h1]
  by_cases h2 : c.toNat < 0x800
  · simp [h1, h2]
  by_cases h3 : c.toNat < 0x10000
  · simp [h1, h2, h3]
  · simp [h1, h2, h3]

/-- The size of a text is the number of its bytes. -/
theorem length_encode (t : Text) : (encode t).length = t.size := by
  induction t with
  | nil => rfl
  | cons c t ih =>
    rw [encode, List.flatMap_cons, List.length_append, length_encodeChar, Text.size_cons, ← ih]
    rfl

end CallerClosure.Utf8
