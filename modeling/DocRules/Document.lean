import DocRules.Entries
import DocRules.Path
import DocRules.Value

/-! Documents: nested mappings and sequences with scalar leaves. A position is addressed by a
dot-path of mapping keys and sequence positions. -/

namespace DocRules

/-- A document. Mapping keys keep the order in which they were inserted. -/
inductive Document where
  | leaf (value : Value)
  | seq (items : List Document)
  | map (entries : List (String × Document))
  deriving Inhabited, Repr

inductive NodeKind where
  | leaf
  | sequence
  | mapping
  deriving DecidableEq, Repr

def NodeKind.name : NodeKind → String
  | leaf => "leaf"
  | sequence => "sequence"
  | mapping => "mapping"

namespace Document

def empty : Document := .map []

def kind : Document → NodeKind
  | .leaf _ => .leaf
  | .seq _ => .sequence
  | .map _ => .mapping

def isContainer : Document → Bool
  | .leaf _ => false
  | _ => true

def value? : Document → Option Value
  | .leaf value => some value
  | _ => none

/-- The child under a segment: of a mapping by its key, of a sequence by its position. -/
def child? (document : Document) (segment : String) : Option Document :=
  match document with
  | .leaf _ => none
  | .seq items => (Path.index? segment).bind (items[·]?)
  | .map entries => entries.lookup segment

/-- The node reached from the root by a list of segments. -/
def follow (document : Document) (segments : List String) : Option Document :=
  match segments with
  | [] => some document
  | segment :: rest => (document.child? segment).bind fun child => follow child rest

/-- The node at a dot-path; the empty path is the root. -/
def get (document : Document) (path : String) : Option Document :=
  document.follow (Path.steps path)

def leafAt (document : Document) (path : String) : Option Value :=
  (document.get path).bind value?

/-- Puts a node at the end of a list of segments. On the way a mapping is entered by its key; a
sequence is entered at a position up to its length, where its length appends to it. Any other node
is replaced by a mapping, and so is a missing one. -/
def setAt (document : Document) (segments : List String) (node : Document) : Document :=
  match segments, document with
  | [], _ => node
  | segment :: rest, .leaf _ => .map [(segment, setAt empty rest node)]
  | segment :: rest, .seq items =>
      match (Path.index? segment).filter (· ≤ items.length) with
      | some position =>
          .seq (items.take position
            ++ setAt (items[position]?.getD empty) rest node :: items.drop (position + 1))
      | none => .map [(segment, setAt empty rest node)]
  | segment :: rest, .map entries =>
      .map (Entries.put entries segment (setAt ((entries.lookup segment).getD empty) rest node))

/-- Puts a node at a dot-path. The empty path is a single empty key and not the root. -/
def set (document : Document) (path : String) (node : Document) : Document :=
  document.setAt (Path.segments path) node

mutual

/-- The leaves of the node at a path with the path of each, depth first in document order. -/
def leavesFrom (path : String) : Document → List (String × Value)
  | .leaf value => [(path, value)]
  | .seq items => itemLeaves path 0 items
  | .map entries => entryLeaves path entries

def itemLeaves (path : String) (position : Nat) : List Document → List (String × Value)
  | [] => []
  | item :: rest =>
      leavesFrom (Path.join path (toString position)) item ++ itemLeaves path (position + 1) rest

def entryLeaves (path : String) : List (String × Document) → List (String × Value)
  | [] => []
  | (key, node) :: rest => leavesFrom (Path.join path key) node ++ entryLeaves path rest

end

/-- The leaves with their paths, depth first in document order. -/
def leaves (document : Document) : List (String × Value) := document.leavesFrom ""

def leafPaths (document : Document) : List String := document.leaves.map Prod.fst

mutual

/-- Whether two documents agree in everything but the values of their leaves. Keys are compared in
order. -/
def sameShape : Document → Document → Bool
  | .leaf _, .leaf _ => true
  | .seq left, .seq right => sameShapes left right
  | .map left, .map right => sameEntryShapes left right
  | _, _ => false

def sameShapes : List Document → List Document → Bool
  | [], [] => true
  | left :: lefts, right :: rights => sameShape left right && sameShapes lefts rights
  | _, _ => false

def sameEntryShapes : List (String × Document) → List (String × Document) → Bool
  | [], [] => true
  | (key, left) :: lefts, (other, right) :: rights =>
      key == other && sameShape left right && sameEntryShapes lefts rights
  | _, _ => false

end

mutual

/-- Whether two documents are the same, where the order of keys in a mapping does not count and
leaves compare as values do. -/
def same : Document → Document → Bool
  | .leaf left, .leaf right => left.same right
  | .seq left, .seq right => sameList left right
  | .map left, .map right => left.length == right.length && within left right
  | _, _ => false

def sameList : List Document → List Document → Bool
  | [], [] => true
  | left :: lefts, right :: rights => same left right && sameList lefts rights
  | _, _ => false

def within : List (String × Document) → List (String × Document) → Bool
  | [], _ => true
  | (key, left) :: rest, entries =>
      (match entries.lookup key with
        | some right => same left right
        | none => false) && within rest entries

end

end Document

end DocRules
