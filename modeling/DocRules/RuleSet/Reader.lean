import DocRules.RuleSet
import DocRules.Text.Reader

/-! Reading rule text. Rules stand one after another with a bar between two of them; a rule is a
name of at least one character, and may go on with a colon and parameters that commas separate.
Nothing is trimmed and nothing is escaped, so a parameter may hold further colons but neither bars
nor commas. Behind a bar a rule has to follow. -/

namespace DocRules

namespace Shorthand

def ruleSeparator : Char := '|'

def parameterMarker : Char := ':'

def parameterSeparator : Char := ','

def ruleName : Reader String := do
  let name ← Reader.takeWhile1 fun c => c != ruleSeparator && c != parameterMarker
  return String.ofList name

/-- Reads the parameters of a rule. Everything behind the first colon up to the next bar belongs to
them. -/
def parameterList : Reader (List String) := do
  let raw ← Reader.preceded (Reader.char parameterMarker)
    (Reader.takeWhile fun c => c != ruleSeparator)
  return Text.split parameterSeparator (String.ofList raw)

def rule : Reader Rule := do
  let name ← ruleName
  let parameters ← Reader.opt parameterList
  return ⟨name, parameters.getD []⟩

/-- Reads a rule and the rules behind it. -/
def ruleList : Reader RuleSet := do
  let first ← rule
  let rest ← Reader.many (Reader.preceded (Reader.char ruleSeparator) (Reader.commit rule))
  return .ofRules (first :: rest)

/-- Reads a rule set, which has no rules if the text does not start with one. -/
def ruleSet : Reader RuleSet := do
  let set ← Reader.opt ruleList
  return set.getD .empty

/-- Reads a rule set and nothing behind it. -/
def wholeText : Reader RuleSet := do
  let set ← ruleSet
  Reader.endOfText
  return set

end Shorthand

/-- Reads a rule set from rule text. The empty text is the empty set. A failure is reported at the
position where the reader stopped. -/
def RuleSet.parse (input : String) : Except ParseError RuleSet :=
  match Shorthand.wholeText.run input.toList with
  | .done set _ => .ok set
  | .failed stop | .committed stop =>
      .error ⟨input, Text.byteLength input.toList - Text.byteLength stop⟩

end DocRules
