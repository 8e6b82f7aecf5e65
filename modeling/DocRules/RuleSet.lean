import DocRules.Predicate
import DocRules.Rule

/-! Rule sets: named rules in the order in which they were given, mixed with requirements that are
given directly. -/

namespace DocRules

/-- An item of a rule set: a rule by name, or a requirement as it is. -/
inductive RuleItem where
  | named (rule : Rule)
  | direct (predicate : Predicate)
  deriving Repr

def RuleItem.rule? : RuleItem → Option Rule
  | named rule => some rule
  | direct _ => none

/-- The item as rule text. A direct requirement cannot be written as a rule and is shown in braces.
-/
def RuleItem.text : RuleItem → String
  | named rule => rule.text
  | direct predicate => "\x7b" ++ predicate.text ++ "\x7d"

/-- Whether two items are the same, where the order of keys in a mapping does not count. -/
def RuleItem.same : RuleItem → RuleItem → Bool
  | named left, named right => left == right
  | direct left, direct right => left.same right
  | _, _ => false

/-- The items that one value has to satisfy. -/
structure RuleSet where
  items : List RuleItem
  deriving Repr

namespace RuleSet

def empty : RuleSet := ⟨[]⟩

instance : Inhabited RuleSet := ⟨empty⟩

def ofRules (rules : List Rule) : RuleSet := ⟨rules.map .named⟩

def push (set : RuleSet) (item : RuleItem) : RuleSet := ⟨set.items ++ [item]⟩

def extend (set : RuleSet) (rules : List Rule) : RuleSet := ⟨set.items ++ rules.map .named⟩

def size (set : RuleSet) : Nat := set.items.length

def isEmpty (set : RuleSet) : Bool := set.items.isEmpty

def rules (set : RuleSet) : List Rule := set.items.filterMap RuleItem.rule?

def rule? (set : RuleSet) (name : String) : Option Rule :=
  set.rules.find? fun rule => rule.name == name

def hasRule (set : RuleSet) (name : String) : Bool := (set.rule? name).isSome

def contains (set : RuleSet) (kind : RuleKind) : Bool := set.hasRule kind.name

def text (set : RuleSet) : String := "|".intercalate (set.items.map RuleItem.text)

def sameItems : List RuleItem → List RuleItem → Bool
  | [], [] => true
  | left :: lefts, right :: rights => left.same right && sameItems lefts rights
  | _, _ => false

/-- Whether two sets hold the same items in the same order. -/
def same (left right : RuleSet) : Bool := sameItems left.items right.items

end RuleSet

end DocRules
