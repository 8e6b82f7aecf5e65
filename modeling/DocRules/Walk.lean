import DocRules.Document
import DocRules.Error

/-! Walking a document. A visitor is shown every container and every leaf, depth first in document
order, with the dot-path of each; it may replace leaves and may stop the walk. The walk itself
refuses containers that are nested too deeply. -/

namespace DocRules

/-- A step of a walk: it changes the visitor's state and may stop the walk. What was changed before
the walk stopped stays changed. -/
abbrev WalkM (σ : Type) := ExceptT WalkError (StateM σ)

/-- The step that has a given result and leaves the state alone. -/
def WalkM.ofExcept {σ α : Type} (result : Except WalkError α) : WalkM σ α :=
  ExceptT.mk (pure result)

/-- What is done at the nodes of a document. `leaf` answers the value that takes the leaf's place.
-/
structure Visitor (σ : Type) where
  leaf : String → Value → WalkM σ Value
  enter : String → NodeKind → WalkM σ Unit

/-- The visitor that looks at leaves only. -/
def Visitor.ofLeaf {σ : Type} (leaf : String → Value → WalkM σ Value) : Visitor σ where
  leaf := leaf
  enter _ _ := pure ()

/-- How a walk is limited: by the number of containers that may be nested. -/
structure WalkOptions where
  maxDepth : Nat
  deriving DecidableEq, Repr

/-- The limit when none is given. -/
def WalkOptions.default : WalkOptions := ⟨64⟩

instance : Inhabited WalkOptions := ⟨.default⟩

namespace Document

variable {σ : Type}

/-- Shows a container to the visitor unless it is nested too deeply. -/
def enterAt (options : WalkOptions) (visitor : Visitor σ) (path : String) (depth : Nat)
    (kind : NodeKind) : WalkM σ Unit :=
  if options.maxDepth ≤ depth then throw (.depthExceeded path options.maxDepth)
  else visitor.enter path kind

mutual

/-- Walks the node at a path that has `depth` containers around it. -/
def walkFrom (options : WalkOptions) (visitor : Visitor σ) (path : String) (depth : Nat) :
    Document → WalkM σ Document
  | .leaf value => return .leaf (← visitor.leaf path value)
  | .seq items => do
      enterAt options visitor path depth .sequence
      return .seq (← walkItems options visitor path (depth + 1) 0 items)
  | .map entries => do
      enterAt options visitor path depth .mapping
      return .map (← walkEntries options visitor path (depth + 1) entries)

def walkItems (options : WalkOptions) (visitor : Visitor σ) (path : String) (depth : Nat)
    (position : Nat) : List Document → WalkM σ (List Document)
  | [] => return []
  | item :: rest => do
      let first ← walkFrom options visitor (Path.join path (toString position)) depth item
      return first :: (← walkItems options visitor path depth (position + 1) rest)

def walkEntries (options : WalkOptions) (visitor : Visitor σ) (path : String) (depth : Nat) :
    List (String × Document) → WalkM σ (List (String × Document))
  | [] => return []
  | (key, node) :: rest => do
      let first ← walkFrom options visitor (Path.join path key) depth node
      return (key, first) :: (← walkEntries options visitor path depth rest)

end

/-- Walks a document from its root, starting in a state. Answers the document with its leaves
replaced, or the error that stopped the walk, and the state in either case. -/
def walk (options : WalkOptions) (visitor : Visitor σ) (state : σ) (document : Document) :
    Except WalkError Document × σ :=
  (document.walkFrom options visitor "" 0).run.run state

end Document

end DocRules
