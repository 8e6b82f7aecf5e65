import DocRules.Decimal.Numeral
import DocRules.Value

/-! What evaluators report about values that do not meet their requirement, and the check of numeric
values. -/

namespace DocRules

/-- The code of a violation. A custom code may spell one of the fixed codes and is still not it. -/
inductive ViolationCode where
  | invalidValueType
  | invalidDecimal
  | custom (text : String)
  deriving DecidableEq, Repr

def ViolationCode.text : ViolationCode → String
  | invalidValueType => "INVALID_VALUE_TYPE"
  | invalidDecimal => "INVALID_DECIMAL_ERROR"
  | custom text => text

/-- A value that does not meet its requirement, by the path of the value. -/
structure Violation where
  path : String
  code : ViolationCode
  message : String
  deriving DecidableEq, Repr

/-- A one-line report; the path is left out when it is empty. -/
def Violation.text (violation : Violation) : String :=
  let report := violation.message ++ " [" ++ violation.code.text ++ "]"
  if violation.path = "" then report else violation.path ++ ": " ++ report

namespace Value

/-- Why a value is not numeric. Null passes, as do numbers and decimal strings. -/
def numericFault? : Value → Option ViolationCode
  | null | int _ | float _ => none
  | string s => if Decimal.isDecimal s then none else some .invalidDecimal
  | bool _ => some .invalidValueType

/-- The violation of a value at a path that is not numeric. -/
def numericViolation? (path : String) (value : Value) : Option Violation :=
  value.numericFault?.map fun code =>
    ⟨path, code, value.text ++ " is not a valid numeric value."⟩

end Value

end DocRules
