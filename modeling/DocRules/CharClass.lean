import DocRules.Text.Category

/-! Classes of characters that a text can be restricted to. -/

namespace DocRules

/-- The characters a text may be made of: letters, letters with digits, dashes and underscores, or
letters with digits. Combining marks count as letters in all three. -/
inductive CharClass where
  | alpha
  | alphaDash
  | alphaNum
  deriving DecidableEq, Repr

namespace CharClass

def label : CharClass → String
  | alpha => "Alpha"
  | alphaDash => "AlphaDash"
  | alphaNum => "AlphaNum"

/-- The class as an anchored regular expression over Unicode general categories. -/
def pattern : CharClass → String
  | alpha => "^[\\p\x7bL\x7d\\p\x7bM\x7d]+$"
  | alphaDash => "^[\\p\x7bL\x7d\\p\x7bM\x7d\\p\x7bN\x7d_-]+$"
  | alphaNum => "^[\\p\x7bL\x7d\\p\x7bM\x7d\\p\x7bN\x7d]+$"

def contains : CharClass → Char → Bool
  | alpha, c => Text.isLetter c || Text.isMark c
  | alphaDash, c => Text.isLetter c || Text.isMark c || Text.isNumber c || c == '_' || c == '-'
  | alphaNum, c => Text.isLetter c || Text.isMark c || Text.isNumber c

/-- Whether a text is made of characters of the class, at least one. -/
def accepts (cls : CharClass) (text : String) : Bool :=
  !text.toList.isEmpty && text.toList.all cls.contains

end CharClass

end DocRules
