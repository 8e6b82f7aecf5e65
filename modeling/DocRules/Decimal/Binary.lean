/-! Binary floating-point numbers as exact numbers. A finite number of the 64-bit format is a sign
and a magnitude `mantissa * 2 ^ exponent`. -/

namespace DocRules.Decimal

/-- The magnitude `mantissa * 2 ^ exponent`. `narrow` says that the next smaller number of the
format is half as far away as the next larger one. -/
structure Magnitude where
  mantissa : Nat
  exponent : Int
  narrow : Bool
  deriving DecidableEq, Repr

/-- What the bits of a floating-point number stand for. -/
inductive Reading where
  | nan
  | infinite (negative : Bool)
  | finite (negative : Bool) (magnitude : Magnitude)
  deriving DecidableEq, Repr

/-- The magnitude of an exponent field below its largest value and a fraction field. -/
def Magnitude.ofFields (exponent fraction : Nat) : Magnitude :=
  if exponent = 0 then ⟨fraction, -1074, false⟩
  else ⟨Nat.pow 2 52 + fraction, exponent - 1075, fraction = 0 ∧ 1 < exponent⟩

/-- Reads the sign bit, the exponent field and the fraction field of 64 bits. -/
def Reading.ofBits (bits : Nat) : Reading :=
  let negative := decide (bits / Nat.pow 2 63 % 2 = 1)
  let exponent := bits / Nat.pow 2 52 % Nat.pow 2 11
  let fraction := bits % Nat.pow 2 52
  if exponent < 2047 then .finite negative (.ofFields exponent fraction)
  else if fraction = 0 then .infinite negative
  else .nan

/-- What a floating-point number stands for. -/
def Reading.ofFloat (x : Float) : Reading := ofBits x.toBits.toNat

end DocRules.Decimal
