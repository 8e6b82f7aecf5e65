/-! JSON strings. Writing escapes as little as the format allows: the quote, the backslash and the
control characters. Reading keeps the four-digit escapes apart from plain characters until the
string is decoded, because two of them may stand for one character. -/

namespace DocRules.Json

def hexDigit (n : Nat) : Char := Nat.digitChar (n % 16)

/-- What a character is written as inside a string. -/
def escapeChar (c : Char) : List Char :=
  if c = '"' then ['\\', '"']
  else if c = '\\' then ['\\', '\\']
  else if c = '\n' then ['\\', 'n']
  else if c = '\r' then ['\\', 'r']
  else if c = '\t' then ['\\', 't']
  else if c = '\x08' then ['\\', 'b']
  else if c = '\x0c' then ['\\', 'f']
  else if c.toNat < 0x20 then ['\\', 'u', '0', '0', hexDigit (c.toNat / 16), hexDigit c.toNat]
  else [c]

/-- The characters of a string between its quotes. -/
def escape (chars : List Char) : List Char := chars.flatMap escapeChar

def quote (text : String) : String := "\"" ++ String.ofList (escape text.toList) ++ "\""

/-- A piece of a string as it is read: a character, or the number of a four-digit escape. -/
inductive Piece where
  | char (c : Char)
  | unit (code : Nat)
  deriving DecidableEq, Repr

/-- The character that a one-letter escape stands for. -/
def escaped? (letter : Char) : Option Char :=
  match letter with
  | '"' => some '"'
  | '\\' => some '\\'
  | '/' => some '/'
  | 'b' => some '\x08'
  | 'f' => some '\x0c'
  | 'n' => some '\n'
  | 'r' => some '\r'
  | 't' => some '\t'
  | _ => none

def hexValue? (c : Char) : Option Nat :=
  if '0' ≤ c ∧ c ≤ '9' then some (c.toNat - '0'.toNat)
  else if 'a' ≤ c ∧ c ≤ 'f' then some (c.toNat - 'a'.toNat + 10)
  else if 'A' ≤ c ∧ c ≤ 'F' then some (c.toNat - 'A'.toNat + 10)
  else none

/-- Whether a code is the first half of a character beyond the first 65536. -/
def isHighHalf (code : Nat) : Bool := 0xD800 ≤ code && code < 0xDC00

/-- Whether a code is the second half of a character beyond the first 65536. -/
def isLowHalf (code : Nat) : Bool := 0xDC00 ≤ code && code < 0xE000

/-- The character of two halves. -/
def joinHalves (high low : Nat) : Char :=
  Char.ofNat (0x10000 + (high - 0xD800) * 0x400 + (low - 0xDC00))

/-- The characters that the pieces stand for. A half without its partner stands for none. -/
def decode : List Piece → Option (List Char)
  | [] => some []
  | .char c :: rest => (decode rest).map (c :: ·)
  | .unit code :: rest =>
      if isLowHalf code then none
      else if isHighHalf code then
        match rest with
        | .unit low :: rest' =>
            if isLowHalf low then (decode rest').map (joinHalves code low :: ·) else none
        | _ => none
      else (decode rest).map (Char.ofNat code :: ·)

def decodeText (pieces : List Piece) : Option String := (decode pieces).map String.ofList

end DocRules.Json
