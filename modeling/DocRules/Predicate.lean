import DocRules.Constraint
import DocRules.Entries
import DocRules.Path

/-! Requirement trees. Constraints are joined by conjunction, wrapped by presence and arranged into
mappings of named fields. The tree describes what must hold; evaluators decide whether it does. -/

namespace DocRules

/-- A requirement on a value. `optional` lets the value be absent or null, `required` does not, and
either may go without a further requirement; `mapping` speaks about the fields of a structure. -/
inductive Predicate where
  | leaf (constraint : Constraint)
  | all (children : List Predicate)
  | optional (inner : Option Predicate)
  | required (inner : Option Predicate)
  | mapping (fields : List (String × Predicate))
  deriving Repr, Inhabited

namespace Predicate

/-- One requirement for a list of them: nothing for none, itself for a single one, and their
conjunction for more. -/
def combine : List Predicate → Option Predicate
  | [] => none
  | [predicate] => some predicate
  | predicates => some (.all predicates)

/-- The node reached by following keys through mappings. -/
def follow (node : Predicate) (keys : List String) : Option Predicate :=
  match keys, node with
  | [], _ => some node
  | key :: rest, .mapping fields => (fields.lookup key).bind fun child => follow child rest
  | _ :: _, _ => none

/-- The node at a dot-path; the empty path is the node itself. -/
def get (node : Predicate) (path : String) : Option Predicate := node.follow (Path.steps path)

mutual

/-- Whether two requirements are the same, where the order of keys in a mapping does not count. -/
def same : Predicate → Predicate → Bool
  | .leaf left, .leaf right => left == right
  | .all left, .all right => sameList left right
  | .optional none, .optional none => true
  | .optional (some left), .optional (some right) => same left right
  | .required none, .required none => true
  | .required (some left), .required (some right) => same left right
  | .mapping left, .mapping right => left.length == right.length && within left right
  | _, _ => false

def sameList : List Predicate → List Predicate → Bool
  | [], [] => true
  | left :: lefts, right :: rights => same left right && sameList lefts rights
  | _, _ => false

/-- Whether each field on the left is on the right under the same key. -/
def within : List (String × Predicate) → List (String × Predicate) → Bool
  | [], _ => true
  | (key, left) :: rest, fields =>
      (match fields.lookup key with
        | some right => same left right
        | none => false) && within rest fields

end

mutual

/-- A one-line reading of the requirement. -/
def text : Predicate → String
  | .leaf constraint => constraint.text
  | .all children => "All[" ++ ", ".intercalate (texts children) ++ "]"
  | .optional (some inner) => "Optional(" ++ text inner ++ ")"
  | .optional none => "Optional(null)"
  | .required (some inner) => "Required(" ++ text inner ++ ")"
  | .required none => "Required(null)"
  | .mapping fields => "Mapping\x7b" ++ ", ".intercalate (fieldTexts fields) ++ "\x7d"

def texts : List Predicate → List String
  | [] => []
  | child :: rest => text child :: texts rest

def fieldTexts : List (String × Predicate) → List String
  | [] => []
  | (key, node) :: rest => (key ++ ": " ++ text node) :: fieldTexts rest

end

end Predicate

end DocRules
