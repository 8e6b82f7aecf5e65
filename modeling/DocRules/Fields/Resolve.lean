import DocRules.Fields

/-! From field rules to one requirement tree. The definitions are added one after another to a tree of
groups, each below the group of the collection that holds it. Groups may be entered again and again;
a field takes its place alone, so a field may neither share its place with anything else nor stand on
the way to another place. -/

namespace DocRules

/-- A tree of fields under construction. -/
inductive FieldTree where
  | field (predicate : Predicate)
  | group (children : List (String × FieldTree))

namespace FieldTree

def empty : FieldTree := .group []

/-- Works on the group that segments lead to from the group with the given children, and answers the
children with that group replaced. Missing groups are made on the way; a field on the way is a
conflict at `path`. -/
def workAt (path : String)
    (work : Entries FieldTree → Except ResolveError (Entries FieldTree)) :
    List String → Entries FieldTree → Except ResolveError (Entries FieldTree)
  | [], children => work children
  | segment :: rest, children =>
      match (children.lookup segment).getD empty with
      | .field _ => throw (.pathConflict path)
      | .group inner => do
          let grown ← workAt path work rest inner
          return Entries.put children segment (.group grown)

/-- Adds a field under a key of a group. The key has to be free. -/
def addField (path key : String) (predicate : Predicate) (children : Entries FieldTree) :
    Except ResolveError (Entries FieldTree) :=
  match children.lookup key with
  | some _ => throw (.pathConflict path)
  | none => return Entries.put children key (.field predicate)

mutual

/-- The requirement tree: groups become mappings. -/
def toPredicate : FieldTree → Predicate
  | .field predicate => predicate
  | .group children => .mapping (toFields children)

def toFields : List (String × FieldTree) → List (String × Predicate)
  | [] => []
  | (key, child) :: rest => (key, toPredicate child) :: toFields rest

end

end FieldTree

mutual

/-- Adds a definition under the segments of its path to the group with the given children. `full` is
the path from the root, for error reports. The requirement of a field is resolved before its place is
looked at. -/
def Definition.addTo (full : String) (segments : List String) :
    Definition → Entries FieldTree → Except ResolveError (Entries FieldTree)
  | .nested fields, children =>
      FieldTree.workAt full (fun inner => Fields.addTo full fields inner) segments children
  | .field source, children => do
      let predicate ← source.resolve
      FieldTree.workAt full (FieldTree.addField full (segments.getLastD "") predicate)
        segments.dropLast children

/-- Adds the definitions of a collection, one after another, to the group with the given children that
`parent` leads to. -/
def Fields.addTo (parent : String) :
    List (String × Definition) → Entries FieldTree → Except ResolveError (Entries FieldTree)
  | [], children => return children
  | (path, definition) :: rest, children => do
      let grown ←
        Definition.addTo (Path.join parent path) (Path.segments path) definition children
      Fields.addTo parent rest grown

end

/-- The requirement tree of a collection of field rules. -/
def Fields.resolve (fields : Fields) : Except ResolveError Predicate :=
  (Fields.addTo "" fields []).map fun children => (FieldTree.group children).toPredicate

def Definition.resolve : Definition → Except ResolveError Predicate
  | .field source => source.resolve
  | .nested fields => Fields.resolve fields

end DocRules
