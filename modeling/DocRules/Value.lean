import DocRules.Decimal.Shortest

/-! Scalar values, the leaves of documents. -/

namespace DocRules

inductive Value where
  | null
  | bool (b : Bool)
  | int (n : Int64)
  | float (x : Float)
  | string (s : String)
  deriving Inhabited, Repr

namespace Value

def isNull : Value → Bool
  | null => true
  | _ => false

theorem isNull_iff {value : Value} : value.isNull = true ↔ value = .null := by
  cases value <;> simp [isNull]

theorem isNull_eq_false_iff {value : Value} : value.isNull = false ↔ value ≠ .null := by
  rw [← Bool.not_eq_true, isNull_iff]

def string? : Value → Option String
  | string s => some s
  | _ => none

def typeName : Value → String
  | null => "null"
  | bool _ => "bool"
  | int _ => "integer"
  | float _ => "float"
  | string _ => "string"

/-- Whether two values are of one type and equal. Floating-point numbers compare as numbers: zero
equals minus zero, and what is not a number equals nothing. -/
def same : Value → Value → Bool
  | null, null => true
  | bool left, bool right => left == right
  | int left, int right => left == right
  | float left, float right => left == right
  | string left, string right => left == right
  | _, _ => false

/-- The text of a floating-point number: the fewest digits that read back, never with an exponent,
and with a decimal point only before digits. Of two decimals at one distance the larger is taken. -/
def floatText (x : Float) : String :=
  match Decimal.Reading.ofFloat x with
  | .nan => "NaN"
  | .infinite negative => if negative then "-inf" else "inf"
  | .finite negative magnitude =>
      let number := magnitude.shortest .up
      let point := if number.fractionChars.isEmpty then "" else "."
      (if negative then "-" else "") ++ String.ofList number.wholeChars ++ point
        ++ String.ofList number.fractionChars

/-- The text of a value. A string stands between quotes as it is. -/
def text : Value → String
  | null => "null"
  | bool b => if b then "true" else "false"
  | int n => toString n
  | float x => floatText x
  | string s => "\"" ++ s ++ "\""

end Value

end DocRules
