import DocRules.Fields.Resolve

/-! The registrations that a collection of field rules amounts to once its nested collections are
laid flat: each field and each nested collection at the full list of segments that leads to it. A
nested collection comes before its own entries. Resolving a collection is adding its registrations
one after another from the root, however deeply the collection nests them. -/

namespace DocRules

/-- A field, or a group when there is no source, at its place in the tree of fields. `path` is the
joined path, for error reports. -/
structure Registration where
  segments : List String
  path : String
  source : Option Source
  deriving Repr

mutual

/-- The registrations of a definition at a place. -/
def Definition.registrations (segments : List String) (path : String) :
    Definition → List Registration
  | .field source => [⟨segments, path, some source⟩]
  | .nested fields => ⟨segments, path, none⟩ :: Fields.registrationsBelow segments path fields

/-- The registrations of a collection below a place. -/
def Fields.registrationsBelow (segments : List String) (path : String) :
    List (String × Definition) → List Registration
  | [] => []
  | (key, definition) :: rest =>
      Definition.registrations (segments ++ Path.segments key) (Path.join path key) definition
        ++ Fields.registrationsBelow segments path rest

end

/-- The registrations of a whole collection. -/
def Fields.registrations (fields : Fields) : List Registration :=
  Fields.registrationsBelow [] "" fields

namespace FieldTree

theorem workAt_field {path segment : String} {children : Entries FieldTree} {predicate : Predicate}
    (h : (children.lookup segment).getD empty = .field predicate)
    (work : Entries FieldTree → Except ResolveError (Entries FieldTree)) (rest : List String) :
    workAt path work (segment :: rest) children = .error (.pathConflict path) := by
  rw [workAt, h]
  rfl

theorem workAt_group {path segment : String} {children inner : Entries FieldTree}
    (h : (children.lookup segment).getD empty = .group inner)
    (work : Entries FieldTree → Except ResolveError (Entries FieldTree)) (rest : List String) :
    workAt path work (segment :: rest) children =
      (fun grown => children.put segment (.group grown)) <$> workAt path work rest inner := by
  rw [workAt, h]
  exact bind_pure_comp _ _

/-- Puts a requirement at the place that segments lead to from the group with the given children, or
makes the place a group when there is no requirement. -/
def place (path : String) (segments : List String) :
    Option Predicate → Entries FieldTree → Except ResolveError (Entries FieldTree)
  | none => workAt path pure segments
  | some predicate =>
      workAt path (addField path (segments.getLastD "") predicate) segments.dropLast

/-- A place further down than one segment is a place in the group under its first segment. -/
theorem place_cons (path segment : String) (rest : List String)
    (predicate : Option Predicate) (h : rest ≠ [] ∨ predicate = none)
    (children : Entries FieldTree) :
    place path (segment :: rest) predicate children =
      workAt path (place path rest predicate) [segment] children := by
  cases predicate with
  | none => rfl
  | some predicate =>
      have hrest : rest ≠ [] := h.resolve_right (by simp)
      have hlast : (segment :: rest).getLastD "" = rest.getLastD "" := by
        rw [List.getLastD_eq_getLast?, List.getLastD_eq_getLast?,
          List.getLast?_cons_of_ne_nil hrest]
      rw [place, hlast, List.dropLast_cons_of_ne_nil hrest]
      rfl

end FieldTree

namespace Registration

/-- The same registration further down. -/
def below (segments : List String) (registration : Registration) : Registration :=
  { registration with segments := segments ++ registration.segments }

/-- The requirement to be placed, if any. -/
def resolve (registration : Registration) : Except ResolveError (Option Predicate) :=
  match registration.source with
  | none => .ok none
  | some source => source.resolve.map some

/-- Adds a field or a group at its place, seen from the root group. -/
def addTo (registration : Registration) (children : Entries FieldTree) :
    Except ResolveError (Entries FieldTree) := do
  let predicate ← registration.resolve
  FieldTree.place registration.path registration.segments predicate children

/-- Adds registrations one after another. -/
def addAll : List Registration → Entries FieldTree → Except ResolveError (Entries FieldTree)
  | [], children => .ok children
  | registration :: rest, children => registration.addTo children >>= addAll rest

@[simp] theorem below_nil (registration : Registration) : registration.below [] = registration := rfl

theorem addAll_append (first second : List Registration) (children : Entries FieldTree) :
    addAll (first ++ second) children = addAll first children >>= addAll second := by
  induction first generalizing children with
  | nil => rfl
  | cons registration rest ih =>
      simp only [List.cons_append, addAll, bind_assoc]
      congr 1
      funext grown
      exact ih grown

/-- What is added further down changes one group: the one under the first segment. -/
theorem addTo_below (registration : Registration) (hne : registration.segments ≠ []) (key : String)
    (children inner : Entries FieldTree) :
    (registration.below [key]).addTo (children.put key (.group inner)) =
      (fun grown => children.put key (.group grown)) <$> registration.addTo inner := by
  unfold addTo
  rw [show (registration.below [key]).resolve = registration.resolve from rfl, map_bind]
  congr 1
  funext predicate
  have hgroup : ((children.put key (.group inner)).lookup key).getD FieldTree.empty =
      .group inner := by
    rw [Entries.lookup_put_self, Option.getD_some]
  refine (FieldTree.place_cons registration.path key registration.segments predicate (.inl hne)
    _).trans ?_
  rw [FieldTree.workAt_group hgroup]
  simp only [Entries.put_put]
  rfl

theorem addAll_below (registrations : List Registration)
    (hne : ∀ registration ∈ registrations, registration.segments ≠ []) (key : String)
    (children inner : Entries FieldTree) :
    addAll (registrations.map (below [key])) (children.put key (.group inner)) =
      (fun grown => children.put key (.group grown)) <$> addAll registrations inner := by
  induction registrations generalizing inner with
  | nil => rfl
  | cons registration rest ih =>
      have hrest := fun other hmem => hne other (List.mem_cons_of_mem registration hmem)
      simp only [List.map_cons, addAll]
      rw [addTo_below registration (hne registration List.mem_cons_self), map_bind,
        bind_map_left]
      congr 1
      funext grown
      exact ih hrest grown

/-- Adding registrations inside a group is making the group and adding them from the root. -/
theorem workAt_addAll (path : String) (registrations : List Registration)
    (hne : ∀ registration ∈ registrations, registration.segments ≠ []) (segments : List String)
    (children : Entries FieldTree) :
    FieldTree.workAt path (addAll registrations) segments children =
      FieldTree.workAt path pure segments children >>=
        addAll (registrations.map (below segments)) := by
  induction segments generalizing children with
  | nil => simp [FieldTree.workAt, funext below_nil]
  | cons segment rest ih =>
      cases hchild : (children.lookup segment).getD FieldTree.empty with
      | field predicate =>
          rw [FieldTree.workAt_field hchild, FieldTree.workAt_field hchild]
          rfl
      | group inner =>
          rw [FieldTree.workAt_group hchild, FieldTree.workAt_group hchild]
          have hmap : registrations.map (below (segment :: rest)) =
              (registrations.map (below rest)).map (below [segment]) := by
            rw [List.map_map]
            rfl
          have hbelow : ∀ registration ∈ registrations.map (below rest),
              registration.segments ≠ [] := by
            intro registration hmem
            obtain ⟨original, horiginal, rfl⟩ := List.mem_map.mp hmem
            exact List.append_ne_nil_of_right_ne_nil rest (hne original horiginal)
          rw [ih inner, hmap, map_bind, bind_map_left]
          congr 1
          funext grown
          exact (addAll_below _ hbelow segment children grown).symm

end Registration

mutual

/-- Registrations further down are the same registrations, further down. -/
theorem Definition.registrations_append (above segments : List String) (path : String)
    (definition : Definition) :
    definition.registrations (above ++ segments) path =
      (definition.registrations segments path).map (Registration.below above) := by
  cases definition with
  | field source => rfl
  | nested fields =>
      simp only [Definition.registrations, List.map_cons,
        Fields.registrationsBelow_append above segments path fields]
      rfl

theorem Fields.registrationsBelow_append (above segments : List String) (path : String)
    (fields : List (String × Definition)) :
    Fields.registrationsBelow (above ++ segments) path fields =
      (Fields.registrationsBelow segments path fields).map (Registration.below above) := by
  cases fields with
  | nil => rfl
  | cons entry rest =>
      obtain ⟨key, definition⟩ := entry
      simp only [Fields.registrationsBelow, List.map_append, List.append_assoc]
      rw [Definition.registrations_append, Fields.registrationsBelow_append]

end

mutual

/-- Every segment of a registration comes from cutting a path at its dots. -/
theorem Definition.segments_of_mem_registrations {segments : List String} {path : String}
    {definition : Definition} (hne : segments ≠ [])
    (hdots : ∀ segment ∈ segments, '.' ∉ segment.toList) {registration : Registration}
    (h : registration ∈ definition.registrations segments path) :
    registration.segments ≠ [] ∧ ∀ segment ∈ registration.segments, '.' ∉ segment.toList := by
  cases definition with
  | field source =>
      rw [Definition.registrations, List.mem_singleton] at h
      subst h
      exact ⟨hne, hdots⟩
  | nested fields =>
      rw [Definition.registrations, List.mem_cons] at h
      rcases h with rfl | h
      · exact ⟨hne, hdots⟩
      · exact Fields.segments_of_mem_registrationsBelow hdots h

theorem Fields.segments_of_mem_registrationsBelow {segments : List String} {path : String}
    {fields : List (String × Definition)} (hdots : ∀ segment ∈ segments, '.' ∉ segment.toList)
    {registration : Registration}
    (h : registration ∈ Fields.registrationsBelow segments path fields) :
    registration.segments ≠ [] ∧ ∀ segment ∈ registration.segments, '.' ∉ segment.toList := by
  cases fields with
  | nil => simp [Fields.registrationsBelow] at h
  | cons entry rest =>
      obtain ⟨key, definition⟩ := entry
      rw [Fields.registrationsBelow, List.mem_append] at h
      rcases h with h | h
      · refine Definition.segments_of_mem_registrations ?_ ?_ h
        · exact List.append_ne_nil_of_right_ne_nil segments (Text.split_ne_nil '.' key)
        · intro segment hsegment
          rcases List.mem_append.mp hsegment with hmem | hmem
          · exact hdots segment hmem
          · exact Text.not_mem_of_mem_split hmem
      · exact Fields.segments_of_mem_registrationsBelow hdots h

end

theorem Fields.segments_of_mem_registrations {fields : Fields} {registration : Registration}
    (h : registration ∈ Fields.registrations fields) :
    registration.segments ≠ [] ∧ ∀ segment ∈ registration.segments, '.' ∉ segment.toList :=
  Fields.segments_of_mem_registrationsBelow (by simp) h

mutual

/-- Adding a definition is adding its registrations. -/
theorem Definition.addTo_eq_addAll (path : String) (segments : List String)
    (definition : Definition) (children : Entries FieldTree) :
    definition.addTo path segments children =
      Registration.addAll (definition.registrations segments path) children := by
  cases definition with
  | field source =>
      simp only [Definition.addTo, Definition.registrations, Registration.addAll,
        Registration.addTo, Registration.resolve]
      cases source.resolve with
      | error error => rfl
      | ok predicate => exact (bind_pure _).symm
  | nested fields =>
      have hwork : (fun inner => Fields.addTo path fields inner) =
          Registration.addAll (Fields.registrationsBelow [] path fields) := by
        funext inner
        exact Fields.addTo_eq_addAll path fields inner
      have hne : ∀ registration ∈ Fields.registrationsBelow [] path fields,
          registration.segments ≠ [] :=
        fun registration hmem => (Fields.segments_of_mem_registrationsBelow (by simp) hmem).1
      rw [Definition.addTo, hwork, Registration.workAt_addAll path _ hne,
        ← Fields.registrationsBelow_append, List.append_nil]
      rfl

/-- Adding a collection is adding its registrations, however deeply it nests them. -/
theorem Fields.addTo_eq_addAll (parent : String) (fields : List (String × Definition))
    (children : Entries FieldTree) :
    Fields.addTo parent fields children =
      Registration.addAll (Fields.registrationsBelow [] parent fields) children := by
  cases fields with
  | nil => rfl
  | cons entry rest =>
      obtain ⟨key, definition⟩ := entry
      rw [Fields.addTo, Fields.registrationsBelow, Registration.addAll_append]
      rw [Definition.addTo_eq_addAll]
      congr 1
      funext grown
      exact Fields.addTo_eq_addAll parent rest grown

end

/-- Resolving a collection is adding its registrations from the root. -/
theorem Fields.resolve_eq_addAll (fields : Fields) :
    Fields.resolve fields = (Registration.addAll (Fields.registrations fields) []).map
      fun children => (FieldTree.group children).toPredicate := by
  rw [Fields.resolve, Fields.addTo_eq_addAll]
  rfl

end DocRules
