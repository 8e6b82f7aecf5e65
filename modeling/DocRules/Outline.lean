import DocRules.Text.Inspect
import DocRules.Validator

/-! Outlines of rules: requirement trees written out constructor by constructor, with every text in
quotes. Unlike the one-line readings, outlines of different rules differ. -/

namespace DocRules

def outlineOption (outline : Option String) : String :=
  match outline with
  | some text => "Some(" ++ text ++ ")"
  | none => "None"

def TypeKind.outline : TypeKind → String
  | bool => "Bool"
  | integer => "Integer"
  | float => "Float"
  | string => "String"
  | array => "Array"

def Bounds.outline (bounds : Bounds) : String :=
  " \x7b min: " ++ outlineOption (bounds.min.map toString)
    ++ ", max: " ++ outlineOption (bounds.max.map toString) ++ " \x7d"

def Constraint.outline : Constraint → String
  | type kind => "Type(" ++ kind.outline ++ ")"
  | numericFormat => "NumericFormat"
  | charClass cls => "CharClass(" ++ cls.label ++ ")"
  | choice options => "Choice([" ++ ", ".intercalate (options.map Text.inspect) ++ "])"
  | dateFormat format => "DateFormat(" ++ outlineOption (format.map Text.inspect) ++ ")"
  | dateTimeFormat => "DateTimeFormat"
  | emailFormat => "EmailFormat"
  | urlFormat => "UrlFormat"
  | patternMatch pattern => "PatternMatch(" ++ Text.inspect pattern ++ ")"
  | notBlank => "NotBlank"
  | length bounds => "Length" ++ bounds.outline
  | range bounds => "Range" ++ bounds.outline

namespace Predicate

mutual

def outline : Predicate → String
  | .leaf constraint => "Leaf(" ++ constraint.outline ++ ")"
  | .all children => "All([" ++ ", ".intercalate (outlines children) ++ "])"
  | .optional none => "Optional(None)"
  | .optional (some inner) => "Optional(Some(" ++ outline inner ++ "))"
  | .required none => "Required(None)"
  | .required (some inner) => "Required(Some(" ++ outline inner ++ "))"
  | .mapping fields => "Mapping(\x7b" ++ ", ".intercalate (fieldOutlines fields) ++ "\x7d)"

def outlines : List Predicate → List String
  | [] => []
  | child :: rest => outline child :: outlines rest

def fieldOutlines : List (String × Predicate) → List String
  | [] => []
  | (key, node) :: rest => (Text.inspect key ++ ": " ++ outline node) :: fieldOutlines rest

end

end Predicate

/-- The outline of a field rule, with its transformer by name. -/
def FieldRule.outline (rule : FieldRule) : String :=
  "FieldRule \x7b predicate: " ++ rule.predicate.outline ++ ", transformer: "
    ++ outlineOption (rule.transformer.map fun transformer => Text.inspect transformer.name)
    ++ " \x7d"

end DocRules
