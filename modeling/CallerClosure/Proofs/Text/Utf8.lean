import CallerClosure.Text.Utf8
import Mathlib.Data.List.Basic
import Mathlib.Tactic.SplitIfs

/-!
# The bytes of a text

* `Utf8.encode_injective` says that the bytes of a text determine it;
* `Utf8.toNat_of_mem_encodeChar` says that a byte of ASCII belongs to no longer character, and
  `Utf8.exists_lastByte` tells the last byte of a beginning of a text.
-/

namespace CallerClosure.Utf8

theorem toUInt8_eq_iff {m n : Nat} (hm : m < 256) (hn : n < 256) :
    m.toUInt8 = n.toUInt8 ↔ m = n := by
  constructor
  · intro h
    have htoNat := congrArg UInt8.toNat h
    simpa [Nat.toUInt8, Nat.mod_eq_of_lt hm, Nat.mod_eq_of_lt hn] using htoNat
  · exact congrArg _

theorem toNat_lt (c : Char) : c.toNat < 0x110000 := by
  have hvalid := c.valid
  show c.val.toNat < 0x110000
  rcases hvalid with h | h <;> omega

/-- No bytes of a character begin those of another one. -/
theorem encodeChar_append_inj {c d : Char} {r s : List UInt8}
    (h : encodeChar c ++ r = encodeChar d ++ s) : c = d ∧ r = s := by
  have hc := toNat_lt c
  have hd := toNat_lt d
  suffices c.toNat = d.toNat ∧ r = s from ⟨Char.toNat_inj.1 this.1, this.2⟩
  unfold encodeChar at h
  dsimp only at h
  -- the first byte tells how many there are, and the number is put together from all of them
  split_ifs at h
  all_goals
    simp (disch := omega) only [List.cons_append, List.nil_append, List.cons.injEq,
      toUInt8_eq_iff] at h
    first
      | (exfalso; omega)
      | exact ⟨by omega, by simp only [h]⟩

theorem encode_injective : Function.Injective encode := by
  intro t
  induction t with
  | nil =>
    intro u h
    cases u with
    | nil => rfl
    | cons d u =>
      have hlength := congrArg List.length h
      rw [length_encode, length_encode, Text.size_nil, Text.size_cons] at hlength
      have := d.utf8Size_pos
      omega
  | cons c t ih =>
    intro u h
    cases u with
    | nil =>
      have hlength := congrArg List.length h
      rw [length_encode, length_encode, Text.size_nil, Text.size_cons] at hlength
      have := c.utf8Size_pos
      omega
    | cons d u =>
      obtain ⟨rfl, hrest⟩ := encodeChar_append_inj h
      rw [ih hrest]

/-- A byte of ASCII stands for itself alone. -/
theorem toNat_of_mem_encodeChar {c : Char} {b : UInt8} (hb : b ∈ encodeChar c)
    (hascii : b.toNat < 0x80) : c.toNat = b.toNat := by
  have hc := toNat_lt c
  unfold encodeChar at hb
  dsimp only at hb
  split_ifs at hb <;> simp only [List.mem_cons, List.not_mem_nil, or_false] at hb
  · subst hb
    simp only [Nat.toUInt8, UInt8.toNat_ofNat']
    omega
  all_goals
    -- every byte of a longer character is 128 or more
    rcases hb with rfl | rfl | rfl | rfl <;>
      simp only [Nat.toUInt8, UInt8.toNat_ofNat'] at hascii <;> omega

/-- The last byte in front of a boundary is a carriage return only if the last character is. -/
theorem exists_lastByte {a : Text} (h : a ≠ []) (b : Text) :
    ∃ byte, (encode (a ++ b))[a.size - 1]? = some byte ∧ (byte = 13 ↔ a.getLast? = some '\r') := by
  obtain ⟨a, c, rfl⟩ := (List.eq_nil_or_concat a).resolve_left h
  rw [List.concat_eq_append]
  have hpos := c.utf8Size_pos
  have hindex : c.utf8Size - 1 < (encodeChar c).length := by
    rw [length_encodeChar]
    omega
  have hbytes : encode (a ++ [c] ++ b) = encode a ++ (encodeChar c ++ encode b) := by
    simp [encode]
  have hsize : Text.size (a ++ [c]) - 1 = (encode a).length + (c.utf8Size - 1) := by
    rw [Text.size_append, length_encode, Text.size_cons, Text.size_nil]
    omega
  refine ⟨(encodeChar c)[c.utf8Size - 1], ?_, ?_⟩
  · rw [hbytes, hsize, List.getElem?_append_right (Nat.le_add_right _ _), Nat.add_sub_cancel_left,
      List.getElem?_append_left hindex, List.getElem?_eq_getElem hindex]
  · rw [List.getLast?_concat, Option.some.injEq]
    constructor
    · intro hbyte
      have hmem : (13 : UInt8) ∈ encodeChar c := hbyte ▸ List.getElem_mem hindex
      exact Char.toNat_inj.1 (toNat_of_mem_encodeChar hmem (by decide))
    · rintro rfl
      rfl

end CallerClosure.Utf8
