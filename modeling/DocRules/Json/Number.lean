import DocRules.Decimal.Integer
import DocRules.Decimal.Shortest

/-! JSON numbers. A number without fraction and exponent that fits 64 bits is exact. Any other is a
floating-point number, read in two steps that each round once: the leading digits as far as they fit
64 bits unsigned, and a scaling by a power of ten. -/

namespace DocRules.Json

/-- The parts of a number as it is written. The fraction is empty when there is no decimal point. -/
structure Number where
  negative : Bool
  whole : List Char
  fraction : List Char
  exponent : Option Int
  deriving DecidableEq, Repr

namespace Number

/-- Reads the digits of an exponent after its sign. -/
def exponentDigits? (negative : Bool) (chars : List Char) : Option Int :=
  if !chars.isEmpty && chars.all Char.isDigit then
    some (if negative then -(Decimal.ofDigits chars : Int) else Decimal.ofDigits chars)
  else none

def exponent? : List Char → Option Int
  | '+' :: rest => exponentDigits? false rest
  | '-' :: rest => exponentDigits? true rest
  | chars => exponentDigits? false chars

/-- Reads what follows the fraction: nothing, or an exponent. -/
def tail? (chars : List Char) : Option (Option Int) :=
  match chars with
  | [] => some none
  | c :: rest => if c = 'e' ∨ c = 'E' then (exponent? rest).map some else none

/-- Reads what follows the integer part: nothing, or a fraction of at least one digit, and then
perhaps an exponent. -/
def fractionAndTail? (chars : List Char) : Option (List Char × Option Int) :=
  match chars with
  | '.' :: rest =>
      let fraction := rest.takeWhile Char.isDigit
      if fraction.isEmpty then none
      else (tail? (rest.dropWhile Char.isDigit)).map (fraction, ·)
  | _ => (tail? chars).map ([], ·)

/-- Whether digits may stand as an integer part: there is one, and more than one do not start with
zero. -/
def isWhole (digits : List Char) : Bool :=
  match digits with
  | [] => false
  | '0' :: _ :: _ => false
  | _ => true

/-- Reads a number after its sign. -/
def unsigned? (negative : Bool) (chars : List Char) : Option Number :=
  let whole := chars.takeWhile Char.isDigit
  if isWhole whole then
    (fractionAndTail? (chars.dropWhile Char.isDigit)).map fun (fraction, exponent) =>
      ⟨negative, whole, fraction, exponent⟩
  else none

def ofChars? : List Char → Option Number
  | '-' :: rest => unsigned? true rest
  | chars => unsigned? false chars

/-- The integer that is written without fraction and exponent. Minus zero is none. -/
def integer? (number : Number) : Option Int :=
  if number.fraction.isEmpty && number.exponent.isNone then
    let size := Decimal.ofDigits number.whole
    if number.negative then if size = 0 then none else some (-(size : Int)) else some size
  else none

/-- The integer that is written, if it fits 64 bits with a sign. -/
def int64? (number : Number) : Option Int64 :=
  number.integer?.bind fun n =>
    if Int64.minValue.toInt ≤ n ∧ n ≤ Int64.maxValue.toInt then some (Int64.ofInt n) else none

/-- The integer that is written, if it fits 64 bits without a sign. -/
def natural64? (number : Number) : Option Nat :=
  number.integer?.bind fun n => if 0 ≤ n ∧ n.toNat < Nat.pow 2 64 then some n.toNat else none

/-- Appends digits to a number as long as it stays below `2 ^ 64`. Answers the number and the digits
from the first that did not fit. -/
def absorb (significand : Nat) : List Char → Nat × List Char
  | [] => (significand, [])
  | digit :: rest =>
      let next := 10 * significand + (digit.toNat - '0'.toNat)
      if next < Nat.pow 2 64 then absorb next rest else (significand, digit :: rest)

def tenTo (exponent : Nat) : Float := Float.ofScientific 1 false exponent

/-- `significand * 10 ^ exponent`, scaled in floating-point numbers. A number that is too large has
none. -/
def scale? (significand : Nat) (exponent : Int) : Option Float :=
  let start := Float.ofNat significand
  if exponent = 0 then some start
  else if 308 < exponent then if significand = 0 then some start else none
  else if 0 ≤ exponent then
    let product := start * tenTo exponent.toNat
    if product.isInf then none else some product
  else if -308 ≤ exponent then some (start / tenTo (-exponent).toNat)
  else some (start / tenTo 308 / tenTo (min (-exponent - 308).toNat 308))

/-- The floating-point number that is written. Digits before the decimal point that do not
fit count as zeros, digits after it that do not fit are dropped. -/
def float? (number : Number) : Option Float :=
  let (leading, skipped) := absorb 0 number.whole
  let (significand, dropped) := absorb leading number.fraction
  let exponent := (skipped.length : Int) - (number.fraction.length - dropped.length)
    + number.exponent.getD 0
  (scale? significand exponent).map fun size => if number.negative then -size else size

end Number

/-- The text of the exponent of a number, always with its sign. -/
def exponentText (order : Int) : String :=
  if order < 0 then "e" ++ toString order else "e+" ++ toString order

/-- The text of a decimal: plain when it is at least `0.00001` and below `10 ^ 16`, and then with at
least one digit after the point; otherwise with a single digit before the point and an exponent. -/
def decimalText (number : Decimal.Scaled) : String :=
  if number.digits = 0 ∨ -5 ≤ number.order ∧ number.order < 16 then
    let fraction := if number.fractionChars.isEmpty then ['0'] else number.fractionChars
    String.ofList number.wholeChars ++ "." ++ String.ofList fraction
  else
    let point := if number.digitChars.length = 1 then "" else "."
    String.ofList (number.digitChars.take 1) ++ point ++ String.ofList (number.digitChars.drop 1)
      ++ exponentText number.order

/-- The text of a finite floating-point number: the fewest digits that read back. Of two decimals at
one distance the even one is taken. What is not finite has no text. -/
def floatText? (x : Float) : Option String :=
  match Decimal.Reading.ofFloat x with
  | .finite negative magnitude =>
      some ((if negative then "-" else "") ++ decimalText (magnitude.shortest .even))
  | _ => none

end DocRules.Json
