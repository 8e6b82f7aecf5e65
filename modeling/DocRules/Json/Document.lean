import DocRules.Document
import DocRules.Json.Basic

/-! Documents as JSON, in two ways: through JSON values, and directly. The direct way writes a
document without building a value, and reads one by trying what a scalar may be in turn: null, a
truth value, a 64-bit integer, any number, a string. -/

namespace DocRules

/-- A scalar as JSON. What is not a finite number has no JSON form and becomes null. -/
def Value.toJson : Value → Json
  | null => .null
  | bool b => .bool b
  | int n => .int n.toInt
  | float x => if x.isFinite then .float x else .null
  | string s => .string s

/-- A JSON integer as a scalar: an integer if it fits 64 bits with a sign. -/
def Value.ofInt (n : Int) : Value :=
  if Int64.minValue.toInt ≤ n ∧ n ≤ Int64.maxValue.toInt then .int (Int64.ofInt n)
  else .float (Float.ofInt n)

namespace Document

mutual

def toJson : Document → Json
  | .leaf value => value.toJson
  | .seq items => .array (toJsonItems items)
  | .map entries => .object (toJsonMembers entries)

def toJsonItems : List Document → List Json
  | [] => []
  | item :: rest => toJson item :: toJsonItems rest

def toJsonMembers : List (String × Document) → List (String × Json)
  | [] => []
  | (key, node) :: rest => (key, toJson node) :: toJsonMembers rest

end

mutual

def ofJson : Json → Document
  | .null => .leaf .null
  | .bool b => .leaf (.bool b)
  | .int n => .leaf (Value.ofInt n)
  | .float x => .leaf (.float x)
  | .string s => .leaf (.string s)
  | .array items => .seq (ofJsonItems items)
  | .object members => .map (ofJsonMembers members)

def ofJsonItems : List Json → List Document
  | [] => []
  | item :: rest => ofJson item :: ofJsonItems rest

def ofJsonMembers : List (String × Json) → List (String × Document)
  | [] => []
  | (key, value) :: rest => (key, ofJson value) :: ofJsonMembers rest

end

end Document

def Value.jsonText : Value → String
  | null => "null"
  | bool true => "true"
  | bool false => "false"
  | int n => toString n
  | float x => (Json.floatText? x).getD "null"
  | string s => Json.quote s

/-- The scalar of a tree: the first of null, a truth value, an integer, a floating-point number and
a string that the tree can be read as. -/
def Value.ofTree : Json.Tree → Option Value
  | .null => some .null
  | .bool b => some (.bool b)
  | .number written => (written.int64?.map Value.int).or (written.float?.map Value.float)
  | .string pieces => (Json.decodeText pieces).map Value.string
  | .array _ | .object _ => none

def Value.ofJsonText? (text : String) : Option Value :=
  (Json.Tree.ofText? text).bind Value.ofTree

namespace Document

mutual

def jsonText : Document → String
  | .leaf value => value.jsonText
  | .seq items => "[" ++ ",".intercalate (jsonItemTexts items) ++ "]"
  | .map entries => "\x7b" ++ ",".intercalate (jsonEntryTexts entries) ++ "\x7d"

def jsonItemTexts : List Document → List String
  | [] => []
  | item :: rest => jsonText item :: jsonItemTexts rest

def jsonEntryTexts : List (String × Document) → List String
  | [] => []
  | (key, node) :: rest => (Json.quote key ++ ":" ++ jsonText node) :: jsonEntryTexts rest

end

mutual

/-- The document of a tree in which `budget` more containers may be nested: a scalar, a sequence or
a mapping. -/
def ofTree (budget : Nat) : Json.Tree → Option Document
  | .array items =>
      match budget with
      | 0 => none
      | inner + 1 => (ofTreeItems inner items).map .seq
  | .object members =>
      match budget with
      | 0 => none
      | inner + 1 => (ofTreeMembers inner members).map fun pairs => .map (Entries.ofPairs pairs)
  | scalar => (Value.ofTree scalar).map .leaf

def ofTreeItems (budget : Nat) : List Json.Tree → Option (List Document)
  | [] => some []
  | item :: rest => do
      let first ← ofTree budget item
      return first :: (← ofTreeItems budget rest)

def ofTreeMembers (budget : Nat) :
    List (List Json.Piece × Json.Tree) → Option (List (String × Document))
  | [] => some []
  | (key, value) :: rest => do
      let key ← Json.decodeText key
      let first ← ofTree budget value
      return (key, first) :: (← ofTreeMembers budget rest)

end

/-- Reads a document from JSON text directly. -/
def ofJsonText? (text : String) : Option Document :=
  (Json.Tree.ofText? text).bind (ofTree Json.maxNesting)

end Document

end DocRules
