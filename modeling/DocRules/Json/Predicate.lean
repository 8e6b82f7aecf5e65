import DocRules.Json.Shape
import DocRules.Predicate
import DocRules.Violation
import DocRules.Walk

/-! Requirements, violations and walk options as JSON. -/

namespace DocRules

def TypeKind.ofName? (name : String) : Option TypeKind :=
  [TypeKind.bool, .integer, .float, .string, .array].find? fun kind => kind.name == name

def CharClass.name : CharClass → String
  | alpha => "alpha"
  | alphaDash => "alpha_dash"
  | alphaNum => "alpha_num"

def CharClass.ofName? (name : String) : Option CharClass :=
  [CharClass.alpha, .alphaDash, .alphaNum].find? fun cls => cls.name == name

/-- Bounds as JSON; both are always written. -/
def Bounds.toJson (bounds : Bounds) : Json :=
  .object [("min", Json.ofOption (fun n => .int n.toInt) bounds.min),
    ("max", Json.ofOption (fun n => .int n.toInt) bounds.max)]

/-- Reads bounds; a bound that is left out is missing. -/
def Bounds.ofTree (budget : Nat) (tree : Json.Tree) : Option Bounds :=
  match tree.fields? budget ["min", "max"] with
  | some [min, max] => do
      let min ← (min.getD .null).orNull? Json.Tree.int64?
      let max ← (max.getD .null).orNull? Json.Tree.int64?
      return ⟨min, max⟩
  | _ => none

def Constraint.toJson : Constraint → Json
  | type kind => .object [("type", .string kind.name)]
  | numericFormat => .string "numeric_format"
  | charClass cls => .object [("char_class", .string cls.name)]
  | choice options => .object [("choice", .array (options.map .string))]
  | dateFormat format => .object [("date_format", Json.ofOption .string format)]
  | dateTimeFormat => .string "date_time_format"
  | emailFormat => .string "email_format"
  | urlFormat => .string "url_format"
  | patternMatch pattern => .object [("pattern_match", .string pattern)]
  | notBlank => .string "not_blank"
  | length bounds => .object [("length", bounds.toJson)]
  | range bounds => .object [("range", bounds.toJson)]

/-- The constraint of a name without content. -/
def Constraint.ofName? : String → Option Constraint
  | "numeric_format" => some .numericFormat
  | "date_time_format" => some .dateTimeFormat
  | "email_format" => some .emailFormat
  | "url_format" => some .urlFormat
  | "not_blank" => some .notBlank
  | _ => none

/-- The constraint of a name with content in which `budget` more containers may be nested. -/
def Constraint.ofContent? (budget : Nat) (name : String) (content : Json.Tree) :
    Option Constraint :=
  match name with
  | "type" => ((content.bareVariant? budget).bind TypeKind.ofName?).map .type
  | "char_class" => ((content.bareVariant? budget).bind CharClass.ofName?).map .charClass
  | "choice" => (content.texts? budget).map .choice
  | "date_format" => (content.orNull? Json.Tree.text?).map .dateFormat
  | "pattern_match" => content.text?.map .patternMatch
  | "length" => (Bounds.ofTree budget content).map .length
  | "range" => (Bounds.ofTree budget content).map .range
  | _ => none

def Constraint.ofTree (budget : Nat) (tree : Json.Tree) : Option Constraint :=
  match (tree.bareVariant? budget).bind Constraint.ofName? with
  | some constraint => some constraint
  | none =>
      (tree.variant? budget).bind fun (name, content) =>
        Constraint.ofContent? (budget - 1) name content

namespace Predicate

mutual

def toJson : Predicate → Json
  | .leaf constraint => .object [("leaf", constraint.toJson)]
  | .all children => .object [("all", .array (toJsonItems children))]
  | .optional none => .object [("optional", .null)]
  | .optional (some inner) => .object [("optional", toJson inner)]
  | .required none => .object [("required", .null)]
  | .required (some inner) => .object [("required", toJson inner)]
  | .mapping fields => .object [("mapping", .object (toJsonMembers fields))]

def toJsonItems : List Predicate → List Json
  | [] => []
  | child :: rest => toJson child :: toJsonItems rest

def toJsonMembers : List (String × Predicate) → List (String × Json)
  | [] => []
  | (key, node) :: rest => (key, toJson node) :: toJsonMembers rest

end

mutual

/-- Reads a requirement in whose text `budget` more containers may be nested. The object around its
name is one of them. A repeated key of a mapping keeps its first position and its last requirement.
-/
def ofTree (budget : Nat) : Json.Tree → Option Predicate
  | .object [(key, content)] =>
      match budget, Json.decodeText key with
      | inner + 1, some "leaf" => (Constraint.ofTree inner content).map .leaf
      | inner + 1, some "optional" =>
          match content with
          | .null => some (.optional none)
          | _ => (ofTree inner content).map fun node => .optional (some node)
      | inner + 1, some "required" =>
          match content with
          | .null => some (.required none)
          | _ => (ofTree inner content).map fun node => .required (some node)
      | inner + 2, some "all" =>
          match content with
          | .array items => (ofItems inner items).map .all
          | _ => none
      | inner + 2, some "mapping" =>
          match content with
          | .object members =>
              (ofMembers inner members).map fun pairs => .mapping (Entries.ofPairs pairs)
          | _ => none
      | _, _ => none
  | _ => none

def ofItems (budget : Nat) : List Json.Tree → Option (List Predicate)
  | [] => some []
  | item :: rest => do
      let first ← ofTree budget item
      return first :: (← ofItems budget rest)

def ofMembers (budget : Nat) :
    List (List Json.Piece × Json.Tree) → Option (List (String × Predicate))
  | [] => some []
  | (key, value) :: rest => do
      let key ← Json.decodeText key
      let first ← ofTree budget value
      return (key, first) :: (← ofMembers budget rest)

end

def jsonText (predicate : Predicate) : String := predicate.toJson.text

def ofJsonText? (text : String) : Option Predicate :=
  (Json.Tree.ofText? text).bind (ofTree Json.maxNesting)

end Predicate

def Constraint.ofJsonText? (text : String) : Option Constraint :=
  (Json.Tree.ofText? text).bind (Constraint.ofTree Json.maxNesting)

def ViolationCode.toJson : ViolationCode → Json
  | invalidValueType => .string "INVALID_VALUE_TYPE"
  | invalidDecimal => .string "INVALID_DECIMAL_ERROR"
  | custom text => .object [("CUSTOM", .string text)]

def ViolationCode.ofTree (budget : Nat) (tree : Json.Tree) : Option ViolationCode :=
  match tree.bareVariant? budget with
  | some "INVALID_VALUE_TYPE" => some .invalidValueType
  | some "INVALID_DECIMAL_ERROR" => some .invalidDecimal
  | _ =>
      match tree.variant? budget with
      | some ("CUSTOM", content) => content.text?.map .custom
      | _ => none

namespace Violation

def toJson (violation : Violation) : Json :=
  .object [("path", .string violation.path), ("code", violation.code.toJson),
    ("message", .string violation.message)]

/-- Reads a violation; no field may be left out. -/
def ofTree (budget : Nat) (tree : Json.Tree) : Option Violation :=
  match tree.fields? budget ["path", "code", "message"] with
  | some [some path, some code, some message] => do
      return ⟨← path.text?, ← ViolationCode.ofTree (budget - 1) code, ← message.text?⟩
  | _ => none

def jsonText (violation : Violation) : String := violation.toJson.text

def ofJsonText? (text : String) : Option Violation :=
  (Json.Tree.ofText? text).bind (ofTree Json.maxNesting)

end Violation

namespace WalkOptions

def toJson (options : WalkOptions) : Json := .object [("max_depth", .int options.maxDepth)]

/-- Reads walk options. -/
def ofTree (budget : Nat) (tree : Json.Tree) : Option WalkOptions :=
  match tree.fields? budget ["max_depth"] with
  | some [some depth] => depth.natural64?.map fun n => ⟨n⟩
  | _ => none

def jsonText (options : WalkOptions) : String := options.toJson.text

def ofJsonText? (text : String) : Option WalkOptions :=
  (Json.Tree.ofText? text).bind (ofTree Json.maxNesting)

end WalkOptions

end DocRules
