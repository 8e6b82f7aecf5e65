import DocRules.Fields.Resolve

/-! Field rules of a request, kept apart for its query and for its body. -/

namespace DocRules

inductive Section where
  | query
  | request
  deriving DecidableEq, Repr

def Section.name : Section → String
  | query => "query"
  | request => "request"

def Section.ofName? (name : String) : Option Section :=
  [Section.query, .request].find? fun part => part.name == name

/-- The field rules of a request; a section may have none. -/
structure RequestRules where
  query : Option Fields
  request : Option Fields

structure RequestPredicates where
  query : Option Predicate
  request : Option Predicate
  deriving Repr

namespace RequestRules

def empty : RequestRules := ⟨none, none⟩

def fields (rules : RequestRules) : Section → Option Fields
  | .query => rules.query
  | .request => rules.request

def set (rules : RequestRules) (part : Section) (fields : Fields) : RequestRules :=
  match part with
  | .query => { rules with query := some fields }
  | .request => { rules with request := some fields }

/-- The rules of some sections by name. The first unknown name is refused; of a section that is
given twice the last one counts. -/
def ofSections (sections : List (String × Fields)) : Except UnknownSection RequestRules :=
  sections.foldlM (fun rules entry =>
    match Section.ofName? entry.1 with
    | some part => .ok (rules.set part entry.2)
    | none => .error ⟨entry.1⟩) empty

/-- The requirement trees of both sections; the query is resolved first. -/
def resolve (rules : RequestRules) : Except ResolveError RequestPredicates := do
  let query ← rules.query.mapM Fields.resolve
  let request ← rules.request.mapM Fields.resolve
  return ⟨query, request⟩

end RequestRules

end DocRules
