import DocRules.Decimal.Integer
import DocRules.Error

/-! Named rules. A rule is a name with textual parameters; the catalog lists the names that mean
something. -/

namespace DocRules

/-- The rules of the catalog. -/
inductive RuleKind where
  | required
  | boolean
  | integer
  | float
  | numeric
  | string
  | array
  | alpha
  | alphaDash
  | alphaNum
  | oneOf
  | date
  | dateTime
  | dateFormat
  | email
  | url
  | nullable
  | filled
  | regex
  | min
  | max
  | between
  deriving DecidableEq, Repr

namespace RuleKind

def catalog : List RuleKind :=
  [required, boolean, integer, float, numeric, string, array, alpha, alphaDash, alphaNum, oneOf,
    date, dateTime, dateFormat, email, url, nullable, filled, regex, min, max, between]

/-- The name under which a rule is written. -/
def name : RuleKind → String
  | required => "required"
  | boolean => "boolean"
  | integer => "integer"
  | float => "float"
  | numeric => "numeric"
  | string => "string"
  | array => "array"
  | alpha => "alpha"
  | alphaDash => "alpha_dash"
  | alphaNum => "alpha_num"
  | oneOf => "in"
  | date => "date"
  | dateTime => "datetime"
  | dateFormat => "date_format"
  | email => "email"
  | url => "url"
  | nullable => "nullable"
  | filled => "filled"
  | regex => "regex"
  | min => "min"
  | max => "max"
  | between => "between"

def ofName? (text : String) : Option RuleKind := catalog.find? fun kind => kind.name == text

theorem ofName?_name (kind : RuleKind) : ofName? kind.name = some kind := by
  cases kind <;> decide

end RuleKind

/-- A rule as it is written: a name and its parameters. The name need not be in the catalog. -/
structure Rule where
  name : String
  parameters : List String
  deriving DecidableEq, Repr

namespace Rule

def kind? (rule : Rule) : Option RuleKind := RuleKind.ofName? rule.name

/-- The catalog entry of the rule, or the complaint that it has none. -/
def kind (rule : Rule) : Except ResolveError RuleKind :=
  match rule.kind? with
  | some kind => .ok kind
  | none => .error (.unresolvableRule rule.name)

/-- The parameter at a position, counted from zero. -/
def parameter (rule : Rule) (index : Nat) : Except ResolveError String :=
  match rule.parameters[index]? with
  | some text => .ok text
  | none => .error (.missingParameter rule.name index)

/-- The parameter at a position, which has to be a canonical 64-bit integer. -/
def intParameter (rule : Rule) (index : Nat) : Except ResolveError Int64 := do
  let text ← rule.parameter index
  match Decimal.int64? text with
  | some n => .ok n
  | none => .error (.invalidParameterType rule.name index text)

/-- The rule as it is written: its name, then a colon and the parameters if there are any. -/
def text (rule : Rule) : String :=
  if rule.parameters.isEmpty then rule.name
  else rule.name ++ ":" ++ ",".intercalate rule.parameters

end Rule

end DocRules
