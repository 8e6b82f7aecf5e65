import DocRules.Json.Basic

/-! The shapes in which typed data stands in JSON. A variant without content is its name, or an
object with the name as its only key and null under it; a variant with content is an object with the
name as its only key. A record is an object, or an array of all its fields in order. Each decoder
takes the number of containers that may still be nested. -/

namespace DocRules.Json

namespace Tree

def text? : Tree → Option String
  | .string pieces => decodeText pieces
  | _ => none

def int64? : Tree → Option Int64
  | .number written => written.int64?
  | _ => none

def natural64? : Tree → Option Nat
  | .number written => written.natural64?
  | _ => none

/-- What a decoder answers unless the tree is null. -/
def orNull? {α : Type} (decode : Tree → Option α) : Tree → Option (Option α)
  | .null => some none
  | tree => (decode tree).map some

def texts? (budget : Nat) : Tree → Option (List String)
  | .array items => if budget = 0 then none else items.mapM text?
  | _ => none

/-- The name and the content of an object with one key. The content may nest one container less. -/
def variant? (budget : Nat) : Tree → Option (String × Tree)
  | .object [(key, content)] =>
      if budget = 0 then none else (decodeText key).map (·, content)
  | _ => none

/-- The name of a variant without content. -/
def bareVariant? (budget : Nat) (tree : Tree) : Option String :=
  match tree with
  | .string pieces => decodeText pieces
  | _ =>
      match variant? budget tree with
      | some (name, .null) => some name
      | _ => none

/-- The members of an object by decoded key. -/
def keyed? (members : List (List Piece × Tree)) : Option (List (String × Tree)) :=
  members.mapM fun member => (decodeText member.1).map (·, member.2)

/-- The fields of a record by name; a field that an object leaves out is missing. An object may hold
further keys, whose values are not looked at, but no field twice. -/
def fields? (budget : Nat) (names : List String) : Tree → Option (List (Option Tree))
  | .array items =>
      if budget = 0 ∨ items.length ≠ names.length then none else some (items.map some)
  | .object members =>
      if budget = 0 then none
      else
        (keyed? members).bind fun pairs =>
          if names.any fun name => 1 < (pairs.map Prod.fst).count name then none
          else some (names.map fun name => pairs.lookup name)
  | _ => none

end Tree

def ofOption {α : Type} (encode : α → Json) : Option α → Json
  | some a => encode a
  | none => .null

end DocRules.Json
