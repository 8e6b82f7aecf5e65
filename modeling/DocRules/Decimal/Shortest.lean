import DocRules.Decimal.Binary

/-! The shortest decimal that reads back as a given floating-point number. All reals nearer to the
number than to its two neighbours read back as it, so the decimal sought is the coarsest grid of
multiples of a power of ten that has a point in that neighbourhood, and on this grid the point
nearest to the number. -/

namespace DocRules.Decimal

/-- The number `digits * 10 ^ exponent`. -/
structure Scaled where
  digits : Nat
  exponent : Int
  deriving DecidableEq, Repr

/-- Which of two decimals is taken when the number is exactly half way between them. -/
inductive Tie where
  | up
  | even
  deriving DecidableEq, Repr

/-- The reals that read back as a number, as a range over one denominator. The ends belong to it
when `closed`. -/
structure Neighbourhood where
  low : Nat
  value : Nat
  high : Nat
  denominator : Nat
  closed : Bool
  deriving DecidableEq, Repr

/-- The range half way to the neighbours on both sides. A half way point is read as the number with
the even mantissa. -/
def Magnitude.neighbourhood (m : Magnitude) : Neighbourhood :=
  let factor := Nat.pow 2 (m.exponent - 2).toNat
  { low := (4 * m.mantissa - if m.narrow then 1 else 2) * factor
    value := 4 * m.mantissa * factor
    high := (4 * m.mantissa + 2) * factor
    denominator := Nat.pow 2 (2 - m.exponent).toNat
    closed := m.mantissa % 2 = 0 }

namespace Neighbourhood

/-- Whether the fraction `numerator / (denominator * scale)` lies in the range. -/
def contains (range : Neighbourhood) (scale numerator : Nat) : Bool :=
  if range.closed then range.low * scale ≤ numerator && numerator ≤ range.high * scale
  else range.low * scale < numerator && numerator < range.high * scale

/-- The multiple of `10 ^ exponent` that lies in the range and is nearest to the number. -/
def onGrid? (range : Neighbourhood) (tie : Tie) (exponent : Int) : Option Nat :=
  let scale := Nat.pow 10 (-exponent).toNat
  let unit := range.denominator * Nat.pow 10 exponent.toNat
  let below := range.value * scale / unit
  let past := 2 * (range.value * scale % unit)
  match range.contains scale (below * unit), range.contains scale ((below + 1) * unit) with
  | false, false => none
  | true, false => some below
  | false, true => some (below + 1)
  | true, true =>
      if past < unit ∨ past = unit ∧ tie = .even ∧ below % 2 = 0 then some below
      else some (below + 1)

/-- Searches the grids from `10 ^ exponent` downward, `grids` of them, and takes the first that has
a point in the range. -/
def search (range : Neighbourhood) (tie : Tie) : Nat → Int → Option Scaled
  | 0, _ => none
  | grids + 1, exponent =>
      match range.onGrid? tie exponent with
      | some digits => some ⟨digits, exponent⟩
      | none => search range tie grids (exponent - 1)

end Neighbourhood

/-- A power of ten above the number and its neighbourhood. The decimal logarithm of two is taken a
little too large. -/
def Magnitude.topExponent (m : Magnitude) : Int :=
  (m.mantissa.log2 + m.exponent + 2) * 30103 / 100000 + 1

/-- The shortest decimal that reads back as the magnitude. Seventeen digits always suffice, and the
search starts at most two grids above the first of them. -/
def Magnitude.shortest (m : Magnitude) (tie : Tie) : Scaled :=
  if m.mantissa = 0 then ⟨0, 0⟩
  else (m.neighbourhood.search tie 20 m.topExponent).getD ⟨0, 0⟩

namespace Scaled

/-- The digits from the first that is not zero. -/
def digitChars (number : Scaled) : List Char := Nat.toDigits 10 number.digits

/-- The digits before the decimal point, at least one. -/
def wholeChars (number : Scaled) : List Char :=
  let point := number.digitChars.length + number.exponent
  if 0 < point then
    number.digitChars.take point.toNat ++ List.replicate number.exponent.toNat '0'
  else ['0']

/-- The digits after the decimal point, possibly none. -/
def fractionChars (number : Scaled) : List Char :=
  let point := number.digitChars.length + number.exponent
  if 0 ≤ number.exponent then []
  else if 0 < point then number.digitChars.drop point.toNat
  else List.replicate (-point).toNat '0' ++ number.digitChars

/-- The exponent of ten when a single digit stands before the decimal point. -/
def order (number : Scaled) : Int := number.digitChars.length + number.exponent - 1

end Scaled

end DocRules.Decimal
