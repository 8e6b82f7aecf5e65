import DocRules.Evaluator
import DocRules.RuleSet.Resolve
import DocRules.Transformer
import DocRules.Walk

/-! Validators. A validator has one rule for each leaf path. It walks a document, transforms and
evaluates every leaf, and blanks the leaves that have violations. A document whose structure does
not fit the rules is an error. -/

namespace DocRules

/-- What is required of a leaf, and the transformer to be applied to it before. -/
structure FieldRule where
  predicate : Predicate
  transformer : Option Transformer

namespace FieldRule

def ofText (input : String) : Except ResolveError FieldRule :=
  (RuleSet.resolveText input).map fun predicate => ⟨predicate, none⟩

end FieldRule

/-- Field rules by leaf path, an evaluator, and the options of the walk. -/
structure Validator where
  rules : Entries FieldRule
  evaluator : Evaluator
  options : WalkOptions

/-- One call of the evaluator: what it was given and what it found. -/
structure Evaluation where
  path : String
  value : Value
  predicate : Predicate
  violations : List Violation
  deriving Repr

/-- The value that takes the place of an evaluated leaf: null if it has violations. -/
def Evaluation.outcome (evaluation : Evaluation) : Value :=
  if evaluation.violations.isEmpty then evaluation.value else .null

/-- The outcome of a validation: the document with transformed leaves, those with violations being
null, the violations in the order of the leaves, and the number of leaves. -/
structure Report where
  document : Document
  violations : List Violation
  leaves : Nat
  deriving Repr

def Report.isValid (report : Report) : Bool := report.violations.isEmpty

/-- The counts of a report on one line. -/
def Report.text (report : Report) : String :=
  "leaves: " ++ toString report.leaves ++ ", violations: " ++ toString report.violations.length

namespace Validator

def ofEvaluator (evaluator : Evaluator) : Validator := ⟨[], evaluator, .default⟩

/-- The validator with a rule registered, in place of any other at its path. -/
def insert (validator : Validator) (path : String) (rule : FieldRule) : Validator :=
  { validator with rules := Entries.put validator.rules path rule }

def rule? (validator : Validator) (path : String) : Option FieldRule := validator.rules.lookup path

/-- Whether some rule is registered below a path. Every rule is below the root. -/
def hasRulesBelow (validator : Validator) (path : String) : Bool :=
  if path = "" then !validator.rules.isEmpty
  else (Entries.keys validator.rules).any fun key =>
    (path.toList ++ ['.']).isPrefixOf key.toList

/-- The value to be evaluated: null stays null, and any other value goes through the transformer of
its rule, which has to accept it. -/
def transformed (path : String) (rule : FieldRule) (value : Value) : Except WalkError Value :=
  match rule.transformer with
  | none => .ok value
  | some transformer =>
      if value.isNull then .ok value
      else if transformer.accepts value then .ok (transformer.apply value)
      else .error (.transformFailure path transformer.name)

/-- Evaluates the leaf at a path. The leaf has to have a rule. -/
def evaluate (validator : Validator) (path : String) (value : Value) :
    Except WalkError Evaluation :=
  match validator.rule? path with
  | none =>
      if validator.hasRulesBelow path then .error (.structuralMismatch path "container" "leaf")
      else .error (.missingRule path)
  | some rule => do
      let value ← transformed path rule value
      return ⟨path, value, rule.predicate, validator.evaluator path value rule.predicate⟩

/-- Refuses a container whose path has a rule. -/
def checkContainer (validator : Validator) (path : String) (kind : NodeKind) :
    Except WalkError Unit :=
  match validator.rule? path with
  | some _ => .error (.structuralMismatch path "leaf" kind.name)
  | none => .ok ()

/-- Evaluates every leaf and keeps a record of it. -/
def visitor (validator : Validator) : Visitor (Array Evaluation) where
  leaf path value := do
    let evaluation ← WalkM.ofExcept (validator.evaluate path value)
    modify fun record => record.push evaluation
    return evaluation.outcome
  enter path kind := WalkM.ofExcept (validator.checkContainer path kind)

/-- Walks a document and evaluates its leaves. Answers the new document, or the error that stopped
the walk, and the record of all evaluations up to there. -/
def run (validator : Validator) (document : Document) :
    Except WalkError Document × Array Evaluation :=
  document.walk validator.options validator.visitor #[]

def validate (validator : Validator) (document : Document) : Except WalkError Report :=
  let (result, record) := validator.run document
  result.map fun output => ⟨output, record.toList.flatMap Evaluation.violations, record.size⟩

end Validator

end DocRules
