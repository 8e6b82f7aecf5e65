import DocRules.RuleSet.Resolve

/-! Collections of field rules. A collection assigns definitions to dot-paths, in the order in which
the paths were first given. A definition is the requirement of one field, in one of three spellings,
or a collection of its own that is placed below the path. -/

namespace DocRules

/-- The requirement of one field: as rule text, as a rule set, or as it is. -/
inductive Source where
  | text (ruleText : String)
  | rules (set : RuleSet)
  | predicate (requirement : Predicate)
  deriving Repr

/-- What is registered under a path: one field, or a collection of fields below the path. -/
inductive Definition where
  | field (source : Source)
  | nested (fields : List (String × Definition))

/-- A collection of definitions by path, in insertion order. -/
abbrev Fields := Entries Definition

/-- The requirement that a source spells. -/
def Source.resolve : Source → Except ResolveError Predicate
  | text ruleText => RuleSet.resolveText ruleText
  | rules set => set.resolve
  | .predicate requirement => .ok requirement

/-- Whether two sources are the same, where the order of keys in a mapping does not count. -/
def Source.same : Source → Source → Bool
  | text left, text right => left == right
  | rules left, rules right => left.same right
  | predicate left, predicate right => left.same right
  | _, _ => false

mutual

/-- Whether two definitions are the same, where the order of paths in a collection does not count.
-/
def Definition.same : Definition → Definition → Bool
  | .field left, .field right => left.same right
  | .nested left, .nested right => left.length == right.length && Fields.within left right
  | _, _ => false

/-- Whether each definition on the left is on the right under the same path. -/
def Fields.within : List (String × Definition) → List (String × Definition) → Bool
  | [], _ => true
  | (path, left) :: rest, fields =>
      (match fields.lookup path with
        | some right => Definition.same left right
        | none => false) && Fields.within rest fields

end

/-- Whether two collections hold the same definitions under the same paths in any order. -/
def Fields.same (left right : Fields) : Bool :=
  left.length == right.length && Fields.within left right

end DocRules
