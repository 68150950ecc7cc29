import CallerClosure.Text.Basic

/-!
# Numbers of double precision

A number that is no integer of 64 bits is kept to double precision, and written with as few
digits as tell it from its neighbours.

* `Decimal.nearest?` is the double nearest to a decimal number, the even one of two that are
  equally near;
* `Decimal.read?` is the double that a decimal number is read as, in two or more steps of
  double precision;
* `Double.shortest` is the shortest decimal number that a double is nearest to;
* `Double.text` writes it, with an exponent if it is very small or very large.
-/

namespace CallerClosure

/-- A decimal number that is not negative: an integer times a power of ten. -/
structure Decimal where
  digits : Nat
  exponent : Int

/-- A number of double precision that is not negative: an integer below `2⁵³` times a power
of two. The integer is at least `2⁵²` unless the exponent is the least one, `-1074`. -/
structure Double where
  significand : Nat
  exponent : Int
  deriving DecidableEq

namespace Double

/-- The double zero. -/
def zero : Double := ⟨0, -1074⟩

/-- A quotient divided by a power of two, as a quotient. -/
def scaled (n d : Nat) (exponent : Int) : Nat × Nat :=
  if 0 ≤ exponent then (n, d.shiftLeft exponent.toNat) else (n.shiftLeft (-exponent).toNat, d)

/-- The exponent of the doubles around a positive quotient. -/
def exponentOf (n d : Nat) : Int :=
  let estimate : Int := (n.log2 : Int) - (d.log2 : Int) - 52
  let (a, b) := scaled n d estimate
  let exact := if a / b < 4503599627370496 then estimate - 1 else estimate
  if exact < -1074 then -1074 else exact

/-- The double nearest to a positive quotient, if it is not too large. -/
def ofQuotient? (n d : Nat) : Option Double :=
  let exponent := exponentOf n d
  let (a, b) := scaled n d exponent
  let (floor, rest) := (a / b, a % b)
  let significand :=
    if 2 * rest < b ∨ (2 * rest = b ∧ floor % 2 = 0) then floor else floor + 1
  let x : Double :=
    if significand = 9007199254740992 then ⟨4503599627370496, exponent + 1⟩
    else ⟨significand, exponent⟩
  if 971 < x.exponent then none else some x

/-- A double as a quotient. -/
def toQuotient (x : Double) : Nat × Nat :=
  if 0 ≤ x.exponent then (x.significand.shiftLeft x.exponent.toNat, 1)
  else (x.significand, (1 : Nat).shiftLeft (-x.exponent).toNat)

/-- The double nearest to a natural number, if it is not too large. -/
def ofNat? (n : Nat) : Option Double := if n = 0 then some zero else ofQuotient? n 1

/-- The double nearest to a product, if it is not too large. -/
def times? (x y : Double) : Option Double :=
  if x = zero ∨ y = zero then some zero
  else
    let (a, b) := x.toQuotient
    let (c, d) := y.toQuotient
    ofQuotient? (a * c) (b * d)

/-- The double nearest to a quotient with a divisor that is not zero, if it is not too large. -/
def over? (x y : Double) : Option Double :=
  if x = zero then some zero
  else
    let (a, b) := x.toQuotient
    let (c, d) := y.toQuotient
    ofQuotient? (a * d) (b * c)

/-- The double nearest to a power of ten, if it is not too large. -/
def powerOfTen? (n : Nat) : Option Double := ofQuotient? (Nat.pow 10 n) 1

/-- A double divided a number of times by the greatest power of ten that is a double. -/
def dwindled? : Nat → Double → Option Double
  | 0, x => some x
  | times + 1, x =>
    if x = zero then some zero
    else ((powerOfTen? 308).bind x.over?).bind (dwindled? times)

/-- A double divided by a power of ten, by at most 308 places at a time. -/
def shrunk? (x : Double) (places : Nat) : Option Double :=
  let times := (places - 1) / 308
  match dwindled? times x, powerOfTen? (places - 308 * times) with
  | some y, some z => y.over? z
  | _, _ => none

/-- A double multiplied by a power of ten, if it does not become too large. -/
def grown? (x : Double) (places : Nat) : Option Double :=
  if x = zero then some zero
  else if places ≤ 308 then (powerOfTen? places).bind x.times?
  else none

/-- The decimal number that a double is. -/
def toDecimal (x : Double) : Decimal :=
  if 0 ≤ x.exponent then ⟨x.significand.shiftLeft x.exponent.toNat, 0⟩
  else ⟨x.significand * Nat.pow 5 (-x.exponent).toNat, x.exponent⟩

end Double

namespace Decimal

/-- The number of digits of the integer. -/
def length (d : Decimal) : Nat := (Nat.toDigits 10 d.digits).length

/-- The double nearest to a decimal number, if it is not too large. -/
def nearest? (d : Decimal) : Option Double :=
  let magnitude := (d.length : Int) + d.exponent
  if d.digits = 0 ∨ magnitude < -400 then some .zero
  else if 400 < magnitude then none
  else if 0 ≤ d.exponent then Double.ofQuotient? (d.digits * Nat.pow 10 d.exponent.toNat) 1
  else Double.ofQuotient? d.digits (Nat.pow 10 (-d.exponent).toNat)

/-- The double that a decimal number is read as. The integer becomes a double, and so does the
power of ten; their product or quotient is rounded once more, so this need not be the nearest
double. -/
def read? (d : Decimal) : Option Double :=
  match Double.ofNat? d.digits with
  | none => none
  | some x =>
    if 0 ≤ d.exponent then x.grown? d.exponent.toNat else x.shrunk? d.exponent.natAbs

/-- A decimal number as text. There is an exponent unless the number has at most 16 digits in
front of the point and at most four zeros behind it. -/
def text (d : Decimal) : Text :=
  let point : Int := d.length + d.exponent
  let digits := ((Nat.toDigits 10 d.digits).reverse.dropWhile (· == '0')).reverse
  let zeros (n : Int) : Text := List.replicate n.toNat '0'
  if d.digits = 0 then ['0', '.', '0']
  else if 0 < point ∧ point ≤ 16 then
    if digits.length ≤ point.toNat then
      digits ++ zeros (point - digits.length) ++ ['.', '0']
    else digits.take point.toNat ++ '.' :: digits.drop point.toNat
  else if -5 < point ∧ point ≤ 0 then '0' :: '.' :: (zeros (-point) ++ digits)
  else
    let fraction := digits.drop 1
    let significand := digits.take 1 ++ (if fraction.isEmpty then [] else '.' :: fraction)
    let sign := if 0 < point then '+' else '-'
    significand ++ 'e' :: sign :: Nat.toDigits 10 (point - 1).natAbs

end Decimal

namespace Double

/-- The decimal number of `n` digits nearest to a double among those that read back as it. -/
def rounded? (x : Double) (n : Nat) : Option Decimal :=
  let whole := x.toDecimal
  let dropped := whole.length - n
  let unit := Nat.pow 10 dropped
  let (floor, rest) := (whole.digits / unit, whole.digits % unit)
  let low : Decimal := ⟨floor, whole.exponent + dropped⟩
  let high : Decimal := ⟨floor + 1, whole.exponent + dropped⟩
  let lowIsNearer := 2 * rest < unit ∨ (2 * rest = unit ∧ floor % 2 = 0)
  (if lowIsNearer then [low, high] else [high, low]).find? fun d =>
    decide (d.nearest? = some x)

/-- The shortest decimal number that reads back as a double; 17 digits always do. -/
def shortest (x : Double) : Decimal :=
  ((List.range 17).findSome? fun n => x.rounded? (n + 1)).getD x.toDecimal

/-- A double with its sign as text. -/
def text (negative : Bool) (x : Double) : Text :=
  (if negative then ['-'] else []) ++ x.shortest.text

end Double

end CallerClosure
