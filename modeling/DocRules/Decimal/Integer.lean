/-! Whole numbers in canonical decimal text: no leading zeros, no plus sign, no minus sign before
zero, nothing around the digits. Each number has exactly one such text, the one `toString` writes.
-/

namespace DocRules.Decimal

def ofDigits (digits : List Char) : Nat := Nat.ofDigitChars 10 digits 0

/-- Reads a natural number: the single digit zero, or digits of which the first is not zero. -/
def natural? (chars : List Char) : Option Nat :=
  match chars with
  | [] => none
  | ['0'] => some 0
  | c :: rest =>
      if c ≠ '0' ∧ (c :: rest).all Char.isDigit then some (ofDigits (c :: rest)) else none

/-- Reads an integer: a natural number, or a minus sign before a natural number other than zero. -/
def integer? (chars : List Char) : Option Int :=
  match chars with
  | '-' :: rest => (natural? rest).bind fun n => if n = 0 then none else some (-(n : Int))
  | _ => (natural? chars).map Int.ofNat

/-- Reads an integer that fits 64 bits. -/
def int64? (text : String) : Option Int64 :=
  (integer? text.toList).bind fun n =>
    if Int64.minValue.toInt ≤ n ∧ n ≤ Int64.maxValue.toInt then some (Int64.ofInt n) else none

end DocRules.Decimal
