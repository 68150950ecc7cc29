import CallerClosure.Text.Basic

/-!
# Punycode

A text is written in ASCII as its ASCII characters, a hyphen, and the places of the others:
each as the distance from the place before, in an order where places with lower characters come
first. A distance is a number of digits of changing weight, whose least significant one comes
first.

* `Punycode.encode` writes a text;
* `Punycode.decode?` reads one and refuses what overflows 32 bits.
-/

namespace CallerClosure.Punycode

/-- The digit for a number below 36. -/
def digitChar (d : Nat) : Char :=
  if d < 26 then Char.ofNat (97 + d) else Char.ofNat (22 + d)

/-- The number of a digit. -/
def digit? (c : Char) : Option Nat :=
  if 'a' ≤ c ∧ c ≤ 'z' then some (c.toNat - 97)
  else if 'A' ≤ c ∧ c ≤ 'Z' then some (c.toNat - 65)
  else if c.isDigit then some (c.toNat - 22)
  else none

/-- The threshold of a digit: a digit below it is the last one of its number. -/
def threshold (position bias : Nat) : Nat :=
  if position ≤ bias then 1 else if bias + 26 ≤ position then 26 else position - bias

theorem threshold_pos (position bias : Nat) : 0 < threshold position bias := by
  unfold threshold
  split
  · omega
  · split <;> omega

/-- Divide a distance by 35 until it is small; `bias` grows by 36 each time. -/
def settle (distance bias : Nat) : Nat × Nat :=
  if 455 < distance then settle (distance / 35) (bias + 36) else (distance, bias)
termination_by distance
decreasing_by omega

/-- The bias after a distance, when `count` characters are in place. -/
def adapt (distance count : Nat) (isFirst : Bool) : Nat :=
  let halved := if isFirst then distance / 700 else distance / 2
  let (rest, bias) := settle (halved + halved / count) 0
  bias + 36 * rest / (rest + 38)

/-- The digits of a distance, from a position on. -/
def distanceDigits (bias position distance : Nat) : Text :=
  let t := threshold position bias
  if distance < t then [digitChar distance]
  else
    digitChar (t + (distance - t) % (36 - t)) ::
      distanceDigits bias (position + 36) ((distance - t) / (36 - t))
termination_by distance
decreasing_by
  have := threshold_pos position bias
  have := Nat.div_le_self (distance - threshold position bias) (36 - threshold position bias)
  omega

/-- A text as far as it is written. -/
structure Encoding where
  /-- The digits so far. -/
  output : Text
  /-- The distance from the last place. -/
  distance : Nat
  bias : Nat
  /-- The number of characters in place. -/
  count : Nat

/-- Pass over one character on the way through the text, which holds `basic` ASCII characters,
while the places of the character number `n` are written. -/
def Encoding.pass (basic n : Nat) (e : Encoding) (c : Char) : Encoding :=
  if c.toNat < n then { e with distance := e.distance + 1 }
  else if c.toNat = n then
    { output := e.output ++ distanceDigits e.bias 36 e.distance
      distance := 0
      bias := adapt e.distance (e.count + 1) (e.count == basic)
      count := e.count + 1 }
  else e

/-- Write the places of the characters with the given numbers, in ascending order; `next` is
the number after the last one. -/
def Encoding.run (t : Text) (basic : Nat) : Nat → Encoding → List Nat → Encoding
  | _, e, [] => e
  | next, e, n :: rest =>
    let start := { e with distance := e.distance + (n - next) * (e.count + 1) }
    let passed := t.foldl (Encoding.pass basic n) start
    run t basic (n + 1) { passed with distance := passed.distance + 1 } rest

/-- A text in ASCII. -/
def encode (t : Text) : Text :=
  let basic := t.filter fun c => decide (c.toNat < 128)
  let others := ((t.filter fun c => decide (128 ≤ c.toNat)).map Char.toNat).mergeSort
    fun a b => decide (a ≤ b)
  let digits := (Encoding.run t basic.length 128 ⟨[], 0, 72, basic.length⟩ others.eraseDups).output
  (if basic.isEmpty then [] else basic ++ ['-']) ++ digits

/-- A text as far as it is read. -/
structure Decoding where
  /-- The characters in place. -/
  text : Text
  /-- The number of the last character. -/
  number : Nat
  /-- The place after the last one, which the distance is added to. -/
  place : Nat
  /-- The place before the distance was added. -/
  lastPlace : Nat
  bias : Nat
  /-- The weight of the next digit. -/
  weight : Nat
  /-- The position of the next digit. -/
  position : Nat

/-- The greatest number that is read. -/
def greatest : Nat := 4294967295

/-- A natural number, if it has 32 bits. -/
def bounded? (n : Nat) : Option Nat := if n ≤ greatest then some n else none

/-- The character with a number. -/
def char? (n : Nat) : Option Char := if n.isValidChar then some (Char.ofNat n) else none

/-- Put a character into its place, after the last digit of its distance. -/
def Decoding.insert? (d : Decoding) : Option Decoding := do
  let count := d.text.length + 1
  let number ← bounded? (d.number + d.place / count)
  let c ← char? number
  let place := d.place % count
  pure
    { text := d.text.take place ++ c :: d.text.drop place
      number
      place := place + 1
      lastPlace := place + 1
      bias := adapt (d.place - d.lastPlace) count (d.lastPlace == 0)
      weight := 1
      position := 36 }

/-- Read one digit. -/
def Decoding.step? (d : Decoding) (c : Char) : Option Decoding := do
  let digit ← digit? c
  let place ← bounded? (d.place + digit * d.weight)
  let t := threshold d.position d.bias
  if digit < t then Decoding.insert? { d with place }
  else
    let weight ← bounded? (d.weight * (36 - t))
    pure { d with place, weight, position := d.position + 36 }

/-- The text that an ASCII text spells. -/
def decode? (t : Text) : Option Text := do
  let digits := (t.reverse.takeWhile (· ≠ '-')).reverse
  let basic := (t.reverse.dropWhile (· ≠ '-')).reverse.dropLast
  let digits := if basic.isEmpty then t else digits
  let d ← digits.foldlM Decoding.step? ⟨basic, 128, 0, 0, 72, 1, 36⟩
  if d.position = 36 then pure d.text else none

end CallerClosure.Punycode
