import DocRules.CharClass
import DocRules.Constraint
import DocRules.Decimal.Binary
import DocRules.Decimal.Integer
import DocRules.Decimal.Numeral
import DocRules.Decimal.Shortest
import DocRules.Document
import DocRules.Entries
import DocRules.Error
import DocRules.Evaluator
import DocRules.Fields
import DocRules.Fields.Resolve
import DocRules.Json.Basic
import DocRules.Json.Document
import DocRules.Json.Number
import DocRules.Json.Predicate
import DocRules.Json.Quoted
import DocRules.Json.Shape
import DocRules.Json.Token
import DocRules.Json.Tree
import DocRules.Outline
import DocRules.Path
import DocRules.Predicate
import DocRules.Proofs.Decimal.Canonical
import DocRules.Proofs.Decimal.Finite
import DocRules.Proofs.Decimal.Integer
import DocRules.Proofs.Decimal.Numeral
import DocRules.Proofs.Document.Shape
import DocRules.Proofs.Entries
import DocRules.Proofs.Evaluator.Violations
import DocRules.Proofs.Fields.FirstOffence
import DocRules.Proofs.Fields.LeafRules
import DocRules.Proofs.Fields.Reordering
import DocRules.Proofs.Fields.Resolution
import DocRules.Proofs.Fields.Spelling
import DocRules.Proofs.Json.Document
import DocRules.Proofs.Json.Number
import DocRules.Proofs.Json.Predicate
import DocRules.Proofs.Json.Quoted
import DocRules.Proofs.Json.Reading
import DocRules.Proofs.Json.Spelling
import DocRules.Proofs.Predicate.Equality
import DocRules.Proofs.RuleSet.Contribution
import DocRules.Proofs.RuleSet.FailurePosition
import DocRules.Proofs.RuleSet.Refusal
import DocRules.Proofs.RuleSet.Resolution
import DocRules.Proofs.RuleSet.RoundTrip
import DocRules.Proofs.RuleSet.Shorthand
import DocRules.Proofs.Transformer.Conversion
import DocRules.Proofs.Validator.Idempotence
import DocRules.Proofs.Validator.KeyOrder
import DocRules.Proofs.Validator.LeafRules
import DocRules.Proofs.Validator.Verdict
import DocRules.Proofs.Walk.Addressing
import DocRules.Proofs.Walk.Depth
import DocRules.Proofs.Walk.Leaves
import DocRules.Proofs.Walk.Places
import DocRules.Proofs.Walk.Placing
import DocRules.Proofs.Walk.Rebuilding
import DocRules.Proofs.Walk.Sequential
import DocRules.Request
import DocRules.Rule
import DocRules.RuleSet
import DocRules.RuleSet.Reader
import DocRules.RuleSet.Resolve
import DocRules.Text.Category
import DocRules.Text.Inspect
import DocRules.Text.Printable
import DocRules.Text.Reader
import DocRules.Text.Split
import DocRules.Transformer
import DocRules.Validator
import DocRules.Value
import DocRules.Violation
import DocRules.Walk
