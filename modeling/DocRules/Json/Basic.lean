import DocRules.Entries
import DocRules.Json.Tree

/-! JSON values. An integer is exact when it fits 64 bits with or without a sign; every other number
is a finite floating-point number. Objects keep their members in insertion order. -/

namespace DocRules

inductive Json where
  | null
  | bool (b : Bool)
  | int (n : Int)
  | float (x : Float)
  | string (s : String)
  | array (items : List Json)
  | object (members : List (String × Json))
  deriving Inhabited, Repr

namespace Json

/-- The most containers that may be nested in a text that is decoded. -/
def maxNesting : Nat := 127

/-- The value of a number as it is written. -/
def ofNumber (number : Number) : Option Json :=
  match number.integer? with
  | some n =>
      if Int64.minValue.toInt ≤ n ∧ n.toNat < Nat.pow 2 64 then some (.int n) else number.float?.map .float
  | none => number.float?.map .float

mutual

/-- Decodes a tree in which `budget` more containers may be nested. A repeated key keeps its first
position and its last value. -/
def ofTree (budget : Nat) : Tree → Option Json
  | .null => some .null
  | .bool b => some (.bool b)
  | .number written => ofNumber written
  | .string pieces => (decodeText pieces).map .string
  | .array items =>
      match budget with
      | 0 => none
      | inner + 1 => (ofItems inner items).map .array
  | .object members =>
      match budget with
      | 0 => none
      | inner + 1 => (ofMembers inner members).map fun pairs => .object (Entries.ofPairs pairs)

def ofItems (budget : Nat) : List Tree → Option (List Json)
  | [] => some []
  | item :: rest => do
      let first ← ofTree budget item
      return first :: (← ofItems budget rest)

def ofMembers (budget : Nat) : List (List Piece × Tree) → Option (List (String × Json))
  | [] => some []
  | (key, value) :: rest => do
      let key ← decodeText key
      let first ← ofTree budget value
      return (key, first) :: (← ofMembers budget rest)

end

def ofText? (text : String) : Option Json := (Tree.ofText? text).bind (ofTree maxNesting)

mutual

/-- The text of a value, without blanks. -/
def text : Json → String
  | .null => "null"
  | .bool b => if b then "true" else "false"
  | .int n => toString n
  | .float x => (floatText? x).getD "null"
  | .string s => quote s
  | .array items => "[" ++ ",".intercalate (itemTexts items) ++ "]"
  | .object members => "\x7b" ++ ",".intercalate (memberTexts members) ++ "\x7d"

def itemTexts : List Json → List String
  | [] => []
  | item :: rest => text item :: itemTexts rest

def memberTexts : List (String × Json) → List String
  | [] => []
  | (key, value) :: rest => (quote key ++ ":" ++ text value) :: memberTexts rest

end

end Json

end DocRules
