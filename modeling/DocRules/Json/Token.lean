import DocRules.Json.Number
import DocRules.Json.Quoted

/-! The tokens of JSON text. The lexer goes through the text character by character; it knows
whether it is between tokens or inside one, and answers a token as soon as the token is complete. -/

namespace DocRules.Json

inductive Token where
  | openArray
  | closeArray
  | openObject
  | closeObject
  | comma
  | colon
  | null
  | bool (b : Bool)
  | number (written : Number)
  | string (pieces : List Piece)
  deriving DecidableEq, Repr

/-- Where the lexer is. What was read of a token is kept in reverse. -/
inductive Lexer where
  | between
  | word (read : List Char)
  | number (read : List Char)
  | string (read : List Piece)
  | escape (read : List Piece)
  | code (read : List Piece) (missing : Nat) (value : Nat)
  deriving DecidableEq, Repr

/-- Whether a character may stand between tokens. -/
def isBlank (c : Char) : Bool := c == ' ' || c == '\t' || c == '\n' || c == '\r'

def isNumberChar (c : Char) : Bool :=
  c.isDigit || c == '-' || c == '+' || c == '.' || c == 'e' || c == 'E'

/-- The token of a single character. -/
def punctuation? (c : Char) : Option Token :=
  match c with
  | '[' => some .openArray
  | ']' => some .closeArray
  | '\x7b' => some .openObject
  | '\x7d' => some .closeObject
  | ',' => some .comma
  | ':' => some .colon
  | _ => none

def word? (chars : List Char) : Option Token :=
  match String.ofList chars with
  | "null" => some .null
  | "true" => some (.bool true)
  | "false" => some (.bool false)
  | _ => none

namespace Lexer

/-- Takes a character between tokens. -/
def start (c : Char) : Option (List Token × Lexer) :=
  if isBlank c then some ([], .between)
  else if c = '"' then some ([], .string [])
  else
    match punctuation? c with
    | some token => some ([token], .between)
    | none =>
        if c.isDigit || c == '-' then some ([], .number [c])
        else if c.isLower then some ([], .word [c])
        else none

/-- Ends a token that was complete before a character, and takes the character. -/
def startAfter (token : Option Token) (c : Char) : Option (List Token × Lexer) :=
  match token, start c with
  | some token, some (tokens, lexer) => some (token :: tokens, lexer)
  | _, _ => none

/-- Takes one character. Answers the tokens that are complete now. -/
def step : Lexer → Char → Option (List Token × Lexer)
  | between, c => start c
  | word read, c =>
      if c.isLower then some ([], .word (c :: read)) else startAfter (word? read.reverse) c
  | number read, c =>
      if isNumberChar c then some ([], .number (c :: read))
      else startAfter ((Number.ofChars? read.reverse).map .number) c
  | string read, c =>
      if c = '"' then some ([.string read.reverse], .between)
      else if c = '\\' then some ([], .escape read)
      else if c.toNat < 0x20 then none
      else some ([], .string (.char c :: read))
  | escape read, c =>
      if c = 'u' then some ([], .code read 4 0)
      else (escaped? c).map fun meant => ([], .string (.char meant :: read))
  | code read missing value, c =>
      (hexValue? c).map fun digit =>
        if missing ≤ 1 then ([], .string (.unit (16 * value + digit) :: read))
        else ([], .code read (missing - 1) (16 * value + digit))

/-- The tokens that are complete at the end of the text. -/
def finish : Lexer → Option (List Token)
  | between => some []
  | word read => (word? read.reverse).map ([·])
  | number read => (Number.ofChars? read.reverse).map ([.number ·])
  | _ => none

def run (lexer : Lexer) : List Char → Option (List Token)
  | [] => lexer.finish
  | c :: rest =>
      match lexer.step c with
      | some (tokens, next) => (run next rest).map (tokens ++ ·)
      | none => none

end Lexer

def tokens? (text : String) : Option (List Token) := Lexer.between.run text.toList

end DocRules.Json
