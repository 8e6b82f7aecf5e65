import DocRules.Json.Token

/-! JSON text as a tree, before anything in it is decoded: numbers are kept as they are written,
strings as pieces, and the members of an object as they come, repeated keys included. -/

namespace DocRules.Json

/-- A value as it is written. -/
inductive Tree where
  | null
  | bool (b : Bool)
  | number (written : Number)
  | string (pieces : List Piece)
  | array (items : List Tree)
  | object (members : List (List Piece × Tree))
  deriving Repr

/-- A container that is still open around the current value. What it holds so far is in reverse; an
object also holds the key of the current value. -/
inductive Frame where
  | array (items : List Tree)
  | object (members : List (List Piece × Tree)) (key : List Piece)

/-- What the builder waits for, and the open containers from the innermost on. -/
inductive Builder where
  /-- A value. -/
  | value (frames : List Frame)
  /-- The first item of an array, or its end. -/
  | item (frames : List Frame)
  /-- A comma after an item, or the end of the array. -/
  | afterItem (items : List Tree) (frames : List Frame)
  /-- The first key of an object, or its end. -/
  | member (frames : List Frame)
  /-- A further key of an object. -/
  | nextKey (members : List (List Piece × Tree)) (frames : List Frame)
  /-- The colon after a key. -/
  | colon (members : List (List Piece × Tree)) (key : List Piece) (frames : List Frame)
  /-- A comma after a member, or the end of the object. -/
  | afterMember (members : List (List Piece × Tree)) (frames : List Frame)
  /-- Nothing more. -/
  | done (tree : Tree)

namespace Builder

/-- Puts a complete value into the innermost open container. -/
def complete (tree : Tree) : List Frame → Builder
  | [] => .done tree
  | .array items :: frames => .afterItem (tree :: items) frames
  | .object members key :: frames => .afterMember ((key, tree) :: members) frames

/-- Takes the first token of a value. -/
def begin? (frames : List Frame) : Token → Option Builder
  | .null => some (complete .null frames)
  | .bool b => some (complete (.bool b) frames)
  | .number written => some (complete (.number written) frames)
  | .string pieces => some (complete (.string pieces) frames)
  | .openArray => some (.item frames)
  | .openObject => some (.member frames)
  | _ => none

/-- Takes one token. -/
def step : Builder → Token → Option Builder
  | value frames, token => begin? frames token
  | item frames, .closeArray => some (complete (.array []) frames)
  | item frames, token => begin? (.array [] :: frames) token
  | afterItem items frames, .comma => some (.value (.array items :: frames))
  | afterItem items frames, .closeArray => some (complete (.array items.reverse) frames)
  | member frames, .closeObject => some (complete (.object []) frames)
  | member frames, .string key => some (.colon [] key frames)
  | nextKey members frames, .string key => some (.colon members key frames)
  | colon members key frames, .colon => some (.value (.object members key :: frames))
  | afterMember members frames, .comma => some (.nextKey members frames)
  | afterMember members frames, .closeObject => some (complete (.object members.reverse) frames)
  | _, _ => none

def run (builder : Builder) : List Token → Option Builder
  | [] => some builder
  | token :: rest => (builder.step token).bind fun next => run next rest

/-- The tree, if nothing more is waited for. -/
def tree? : Builder → Option Tree
  | done tree => some tree
  | _ => none

end Builder

def Tree.ofTokens? (tokens : List Token) : Option Tree :=
  (Builder.run (.value []) tokens).bind Builder.tree?

def Tree.ofText? (text : String) : Option Tree := (tokens? text).bind Tree.ofTokens?

end DocRules.Json
