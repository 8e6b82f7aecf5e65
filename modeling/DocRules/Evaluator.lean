import DocRules.Predicate
import DocRules.Violation

/-! Reference evaluators. An evaluator decides which violations a value at a path has under a
requirement. Both evaluators here go through the tree in order and check the constraints at its
leaves one by one; `strict` enforces bounds, `typeChecks` lets them pass. -/

namespace DocRules

/-- Decides the violations of a value at a path under a requirement. -/
abbrev Evaluator := String → Value → Predicate → List Violation

/-- Whether a value has the required type. Null has every type; no scalar is an array. -/
def TypeKind.admits : TypeKind → Value → Bool
  | _, .null => true
  | .bool, .bool _ => true
  | .integer, .int _ => true
  | .float, .float _ => true
  | .string, .string _ => true
  | _, _ => false

/-- Whether a number lies within bounds, compared as floating-point numbers. -/
def Bounds.admitsNumber (bounds : Bounds) (x : Float) : Bool :=
  !(bounds.min.any fun low => x < low.toFloat) && !(bounds.max.any fun high => high.toFloat < x)

/-- Whether a number of characters lies within bounds. -/
def Bounds.admitsLength (bounds : Bounds) (count : Nat) : Bool :=
  !(bounds.min.any fun low => (count : Int) < low.toInt)
    && !(bounds.max.any fun high => high.toInt < (count : Int))

def Value.number? : Value → Option Float
  | int n => some n.toFloat
  | float x => some x
  | _ => none

def Constraint.isBound : Constraint → Bool
  | length _ | range _ => true
  | _ => false

/-- The violation of a constraint, if it has one. Constraints on formats without a check pass, and
constraints on strings pass for all other values. -/
def Constraint.violation? (path : String) (value : Value) : Constraint → Option Violation
  | type kind =>
      if kind.admits value then none
      else some ⟨path, .custom "TYPE_ERROR", "This value should be of type " ++ kind.name ++ "."⟩
  | numericFormat => value.numericViolation? path
  | notBlank =>
      if value.isNull || value.string? == some "" then
        some ⟨path, .custom "IS_BLANK_ERROR", "This value should not be blank."⟩
      else none
  | choice options =>
      if value.string?.any fun s => !options.contains s then
        some ⟨path, .custom "NO_SUCH_CHOICE_ERROR",
          "The value you selected is not a valid choice."⟩
      else none
  | charClass cls =>
      if value.string?.any fun s => !cls.accepts s then
        some ⟨path, .custom "REGEX_FAILED_ERROR", "This value is not valid."⟩
      else none
  | range bounds =>
      if value.number?.any fun x => !bounds.admitsNumber x then
        some ⟨path, .custom "NOT_IN_RANGE_ERROR", "This value is out of range."⟩
      else none
  | length bounds =>
      if value.string?.any fun s => !bounds.admitsLength s.length then
        some ⟨path, .custom "LENGTH_ERROR", "This value has an invalid length."⟩
      else none
  | dateFormat _ | dateTimeFormat | emailFormat | urlFormat | patternMatch _ => none

mutual

/-- The violations of a value under a requirement, given those under a constraint. An optional
requirement does not speak about null, and a mapping not about a scalar. -/
def Predicate.violations (check : Constraint → Option Violation) (value : Value) :
    Predicate → List Violation
  | .leaf constraint => (check constraint).toList
  | .all children => Predicate.violationsOf check value children
  | .optional none | .required none | .mapping _ => []
  | .optional (some inner) => if value.isNull then [] else inner.violations check value
  | .required (some inner) => inner.violations check value

def Predicate.violationsOf (check : Constraint → Option Violation) (value : Value) :
    List Predicate → List Violation
  | [] => []
  | child :: rest => child.violations check value ++ Predicate.violationsOf check value rest

end

namespace Evaluator

def acceptAll : Evaluator := fun _ _ _ => []

/-- Checks types, formats, choices and bounds. -/
def strict : Evaluator := fun path value predicate =>
  predicate.violations (Constraint.violation? path value) value

/-- Checks types, formats and choices and lets bounds pass. -/
def typeChecks : Evaluator := fun path value predicate =>
  predicate.violations
    (fun constraint => if constraint.isBound then none else constraint.violation? path value) value

end Evaluator

end DocRules
