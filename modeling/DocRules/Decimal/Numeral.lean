import DocRules.Decimal.Integer

/-! Decimal strings: an optional minus sign, an integer part without leading zeros, and an optional
fraction. The integer part and the digits of the fraction may be missing, but neither the empty text
nor a lone minus sign is a decimal string. -/

namespace DocRules.Decimal

/-- The parts of a decimal string. The fraction is there when there is a decimal point. -/
structure Numeral where
  negative : Bool
  whole : List Char
  fraction : Option (List Char)
  deriving DecidableEq, Repr

namespace Numeral

/-- Whether digits may stand as an integer part: more than one do not start with zero. -/
def isWhole (digits : List Char) : Bool :=
  match digits with
  | '0' :: _ :: _ => false
  | _ => true

/-- Reads a decimal string after its sign. -/
def unsigned? (negative : Bool) (chars : List Char) : Option Numeral :=
  let whole := chars.takeWhile Char.isDigit
  if !isWhole whole then none
  else
    match chars.dropWhile Char.isDigit with
    | [] => if whole.isEmpty then none else some ⟨negative, whole, none⟩
    | c :: rest =>
        if c = '.' ∧ rest.all Char.isDigit then some ⟨negative, whole, some rest⟩ else none

/-- Reads a decimal string. -/
def ofText? (text : String) : Option Numeral :=
  match text.toList with
  | '-' :: rest => unsigned? true rest
  | chars => unsigned? false chars

def digits (numeral : Numeral) : List Char := numeral.whole ++ numeral.fraction.getD []

/-- The floating-point number nearest to a numeral, infinite if the numeral is too large. A numeral
without digits is no number. -/
def toFloat? (numeral : Numeral) : Option Float :=
  if numeral.digits.isEmpty then none
  else
    let size := Float.ofScientific (ofDigits numeral.digits) true (numeral.fraction.getD []).length
    some (if numeral.negative then -size else size)

end Numeral

def isDecimal (text : String) : Bool := (Numeral.ofText? text).isSome

/-- The floating-point number that a decimal string with at least one digit stands for. -/
def float? (text : String) : Option Float := (Numeral.ofText? text).bind Numeral.toFloat?

end DocRules.Decimal
