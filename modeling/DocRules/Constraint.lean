import DocRules.CharClass

/-! Atomic requirements on a single value. A constraint is inert: it says what must hold and leaves
the check to an evaluator. -/

namespace DocRules

/-- The type a value may be required to have. -/
inductive TypeKind where
  | bool
  | integer
  | float
  | string
  | array
  deriving DecidableEq, Repr

/-- An inclusive pair of bounds, either of which may be missing. -/
structure Bounds where
  min : Option Int64
  max : Option Int64
  deriving DecidableEq, Repr

/-- An atomic requirement. The bounds of `length` are on the number of characters or items, those of
`range` on the value itself; `dateFormat none` leaves the format to the evaluator. -/
inductive Constraint where
  | type (kind : TypeKind)
  | numericFormat
  | charClass (cls : CharClass)
  | choice (options : List String)
  | dateFormat (format : Option String)
  | dateTimeFormat
  | emailFormat
  | urlFormat
  | patternMatch (pattern : String)
  | notBlank
  | length (bounds : Bounds)
  | range (bounds : Bounds)
  deriving DecidableEq, Repr

def TypeKind.name : TypeKind → String
  | bool => "bool"
  | integer => "integer"
  | float => "float"
  | string => "string"
  | array => "array"

/-- The bounds that are there, the lower one first. -/
def Bounds.text (bounds : Bounds) : String :=
  match bounds.min, bounds.max with
  | some low, some high => "min=" ++ toString low ++ ", max=" ++ toString high
  | some low, none => "min=" ++ toString low
  | none, some high => "max=" ++ toString high
  | none, none => ""

def Constraint.text : Constraint → String
  | type kind => "Type(" ++ kind.name ++ ")"
  | numericFormat => "NumericFormat"
  | charClass cls => "CharClass(" ++ cls.label ++ ")"
  | choice options => "Choice(" ++ ", ".intercalate options ++ ")"
  | dateFormat (some format) => "DateFormat(" ++ format ++ ")"
  | dateFormat none => "DateFormat"
  | dateTimeFormat => "DateTimeFormat"
  | emailFormat => "EmailFormat"
  | urlFormat => "UrlFormat"
  | patternMatch pattern => "PatternMatch(" ++ pattern ++ ")"
  | notBlank => "NotBlank"
  | length bounds => "Length(" ++ bounds.text ++ ")"
  | range bounds => "Range(" ++ bounds.text ++ ")"

end DocRules
