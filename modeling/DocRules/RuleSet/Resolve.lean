import DocRules.RuleSet.Reader

/-! From rule sets to requirement trees. Each named rule contributes at most one constraint, direct
requirements contribute themselves, and the whole is required or optional. The bounds rules speak
about the value when the set names a number type anywhere, and about the length otherwise. -/

namespace DocRules

/-- The constraint of a rule, given what the bounds rules of its set speak about. The rules on
presence have none. -/
def Rule.constraint? (rule : Rule) (bounded : Bounds → Constraint) :
    RuleKind → Except ResolveError (Option Constraint)
  | .required | .nullable => return none
  | .boolean => return some (.type .bool)
  | .integer => return some (.type .integer)
  | .float => return some (.type .float)
  | .numeric => return some .numericFormat
  | .string => return some (.type .string)
  | .array => return some (.type .array)
  | .alpha => return some (.charClass .alpha)
  | .alphaDash => return some (.charClass .alphaDash)
  | .alphaNum => return some (.charClass .alphaNum)
  | .oneOf => return some (.choice rule.parameters)
  | .date => return some (.dateFormat none)
  | .dateTime => return some .dateTimeFormat
  | .dateFormat => return some (.dateFormat (some (← rule.parameter 0)))
  | .email => return some .emailFormat
  | .url => return some .urlFormat
  | .filled => return some .notBlank
  | .regex => return some (.patternMatch (← rule.parameter 0))
  | .min => return some (bounded ⟨some (← rule.intParameter 0), none⟩)
  | .max => return some (bounded ⟨none, some (← rule.intParameter 0)⟩)
  | .between =>
      return some (bounded ⟨some (← rule.intParameter 0), some (← rule.intParameter 1)⟩)

/-- The requirements that an item contributes. -/
def RuleItem.predicates (bounded : Bounds → Constraint) :
    RuleItem → Except ResolveError (List Predicate)
  | direct predicate => return [predicate]
  | named rule => do
      let kind ← rule.kind
      let constraint ← rule.constraint? bounded kind
      return (constraint.map Predicate.leaf).toList

namespace RuleSet

/-- Whether some rule of the set names a number type. -/
def namesNumber (set : RuleSet) : Bool :=
  [RuleKind.integer, .float, .numeric].any set.contains

/-- What the bounds rules of the set speak about. -/
def bounded (set : RuleSet) : Bounds → Constraint :=
  if set.namesNumber then .range else .length

/-- Refuses a set with a name outside the catalog, on account of the first such name. -/
def checkNames (set : RuleSet) : Except ResolveError Unit :=
  match set.rules.find? fun rule => rule.kind?.isNone with
  | some rule => .error (.unresolvableRule rule.name)
  | none => .ok ()

/-- The requirements that the items contribute, in item order. -/
def predicates (set : RuleSet) : Except ResolveError (List Predicate) :=
  return (← set.items.mapM (RuleItem.predicates set.bounded)).flatten

/-- The requirement tree of the set. Unknown names are reported before bad parameters. -/
def resolve (set : RuleSet) : Except ResolveError Predicate := do
  set.checkNames
  let inner := Predicate.combine (← set.predicates)
  return if set.contains .required then .required inner else .optional inner

/-- Reads rule text and resolves it. -/
def resolveText (input : String) : Except ResolveError Predicate :=
  match parse input with
  | .ok set => set.resolve
  | .error error => .error (.parse error)

end RuleSet

end DocRules
