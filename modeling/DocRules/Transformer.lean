import DocRules.Decimal.Numeral
import DocRules.Value

/-! Transformers turn a value of one type into a value of another before it is evaluated. What a
transformer does not accept it leaves as it is. -/

namespace DocRules

/-- A named conversion of values together with the values it accepts. -/
structure Transformer where
  name : String
  accepts : Value → Bool
  apply : Value → Value

namespace Transformer

/-- The boolean that a text spells. -/
def bool? : String → Option Bool
  | "true" | "1" => some true
  | "false" | "0" => some false
  | _ => none

/-- Turns canonical integers in text into integers. -/
def stringToInt : Transformer where
  name := "string_to_int"
  accepts
    | .int _ => true
    | .string s => (Decimal.int64? s).isSome
    | _ => false
  apply
    | .string s => ((Decimal.int64? s).map Value.int).getD (.string s)
    | value => value

/-- Turns decimal strings with a digit, and integers, into floating-point numbers. -/
def stringToFloat : Transformer where
  name := "string_to_float"
  accepts
    | .int _ | .float _ => true
    | .string s => (Decimal.float? s).isSome
    | _ => false
  apply
    | .int n => .float n.toFloat
    | .string s => ((Decimal.float? s).map Value.float).getD (.string s)
    | value => value

/-- Turns the words and digits for truth into booleans. -/
def stringToBool : Transformer where
  name := "string_to_bool"
  accepts
    | .bool _ => true
    | .string s => (bool? s).isSome
    | _ => false
  apply
    | .string s => ((bool? s).map Value.bool).getD (.string s)
    | value => value

/-- The transformers of the library. -/
def stock : List Transformer := [stringToInt, stringToFloat, stringToBool]

end Transformer

end DocRules
