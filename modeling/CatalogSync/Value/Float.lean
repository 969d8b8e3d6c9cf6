/-
**Fractions and large numbers.**

* `FiniteFloat` — a number in the binary format of 64 bits that is neither infinite nor undefined.
* `FiniteFloat.parts` — its significand and its power of two.
* `FiniteFloat.shortest` — the decimal number with the fewest digits that is closer to it than to
  any other of its kind, and of these the closest one.
* `FiniteFloat.text` — its written form: digits with a point among them, or with a power of ten if
  it is very large or very small. There is always a point or a power.
-/

namespace CatalogSync

/-- A number in the binary format of 64 bits that is neither infinite nor undefined. -/
structure FiniteFloat where
  value : Float
  isFinite : value.isFinite = true

namespace FiniteFloat

/-- The number, if it is finite. -/
def of? (value : Float) : Option FiniteFloat :=
  if isFinite : value.isFinite = true then some ⟨value, isFinite⟩ else none

/-- The two zeros are equal. -/
instance : BEq FiniteFloat where
  beq first second := first.value == second.value

/-! ### The binary format -/

/-- The absolute value of a number: a significand times a power of two. -/
structure Parts where
  significand : Nat
  exponent : Int
  /-- Whether the next smaller number is only half as far away as the next larger one. -/
  isNarrow : Bool
  deriving DecidableEq, Repr

/-- Whether there is a minus sign, also before zero. -/
def isNegative (number : FiniteFloat) : Bool := 0x8000000000000000 ≤ number.value.toBits.toNat

/-- The parts of a number. The first bit of its significand is not written, unless the number is one
of the smallest. -/
def parts (number : FiniteFloat) : Parts :=
  let bits := number.value.toBits.toNat
  let fraction := bits % 0x10000000000000
  let power := bits / 0x10000000000000 % 0x800
  if power = 0 then ⟨fraction, -1074, false⟩
  else ⟨0x10000000000000 + fraction, power - 1075, fraction = 0 && 1 < power⟩

/-! ### The shortest decimal -/

/-- A decimal number: digits times a power of ten. -/
structure Decimal where
  digits : Nat
  exponent : Int
  deriving DecidableEq, Repr

namespace Parts

variable (parts : Parts)

/-- The decimal that is equal to the number. -/
def exact : Decimal :=
  ⟨parts.significand * Nat.pow 2 parts.exponent.toNat * Nat.pow 5 (-parts.exponent).toNat,
    min parts.exponent 0⟩

/-- The best decimal with a given power of ten among those that are closer to the number than to any
other one. Such a decimal may lie halfway to a neighbour if the significand is even. Of two that are
equally close, the even one is the best. -/
def rounded? (power : Int) : Option Decimal :=
  -- quarters of the distance to the next number, over a common denominator
  let scale := Nat.pow 2 (parts.exponent - 2).toNat * Nat.pow 10 (-power).toNat
  let unit := Nat.pow 2 (2 - parts.exponent).toNat * Nat.pow 10 power.toNat
  let middle := 4 * parts.significand * scale
  let lower := middle - (if parts.isNarrow then 1 else 2) * scale
  let upper := middle + 2 * scale
  let isWithin (digits : Nat) : Bool :=
    if parts.significand % 2 = 0 then lower ≤ digits * unit && digits * unit ≤ upper
    else lower < digits * unit && digits * unit < upper
  let below := middle / unit
  let isBelowCloser :=
    if 2 * (middle % unit) = unit then below % 2 = 0 else 2 * (middle % unit) < unit
  match isWithin below, isWithin (below + 1) with
  | true, true => some ⟨if isBelowCloser then below else below + 1, power⟩
  | true, false => some ⟨below, power⟩
  | false, true => some ⟨below + 1, power⟩
  | false, false => none

/-- The best decimal with the highest power of ten for which there is one. -/
def shortest : Decimal :=
  ((List.range 633).findSome? fun (index : Nat) => parts.rounded? (308 - index)).getD parts.exact

end Parts

/-! ### The written form -/

/-- The digits with a point before, among or behind them if this takes few zeros, and otherwise with
a power of ten. -/
def Decimal.text (decimal : Decimal) : String :=
  let digits := Nat.toDigits 10 decimal.digits
  let zeros (count : Int) := List.replicate count.toNat '0'
  let point := digits.length + decimal.exponent
  if 0 ≤ decimal.exponent ∧ point ≤ 16 then
    String.ofList (digits ++ zeros decimal.exponent ++ ['.', '0'])
  else if 0 < point ∧ point ≤ 16 then
    String.ofList (digits.take point.toNat ++ '.' :: digits.drop point.toNat)
  else if -5 < point ∧ point ≤ 0 then
    String.ofList ('0' :: '.' :: zeros (-point) ++ digits)
  else
    let fraction := if digits.length = 1 then [] else '.' :: digits.tail
    String.ofList (digits.take 1 ++ fraction) ++ "e" ++ toString (point - 1)

/-- The written form of a number. -/
def text (number : FiniteFloat) : String :=
  let parts := number.parts
  let digits := if parts.significand = 0 then "0.0" else parts.shortest.text
  if number.isNegative then "-" ++ digits else digits

end FiniteFloat

end CatalogSync
