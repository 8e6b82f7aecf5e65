import DocRules.Text.Printable

/-! Texts in quotes with everything invisible spelled out, for reading by people. -/

namespace DocRules.Text

/-- A character inside quotes: the quote, the backslash and the common controls behind a backslash,
and every other character that does not stand for itself by its number. -/
def inspectChar (c : Char) : String :=
  match c with
  | '\x00' => "\\0"
  | '\t' => "\\t"
  | '\r' => "\\r"
  | '\n' => "\\n"
  | '\\' => "\\\\"
  | '"' => "\\\""
  | _ =>
      if isAttached c || !isPrintable c then
        "\\u\x7b" ++ String.ofList (Nat.toDigits 16 c.toNat) ++ "\x7d"
      else c.toString

def inspect (text : String) : String :=
  "\"" ++ String.join (text.toList.map inspectChar) ++ "\""

end DocRules.Text
