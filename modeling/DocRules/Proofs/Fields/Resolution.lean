import DocRules.Proofs.Fields.Representation

/-! What resolving a collection of field rules gives. It succeeds when the registrations are
consistent. Then the tree has the requirement of each field at the segments of the field, a mapping
at every registered group and at every place on the way to a registration, and nothing else. The
keys of each mapping are the next segments of the registrations below it, in the order in which the
registrations first bring them up. -/

namespace DocRules

namespace Registration

/-- Keys lead to a group: to the root, to a registered group, or part of the way to a registration. -/
def GroupPlace (registrations : List Registration) (keys : List String) : Prop :=
  keys = [] ∨ ∃ registration ∈ registrations,
    keys <+: registration.segments ∧ (keys = registration.segments → registration.source = none)

/-- The segment of a registration that follows after keys, if these lead towards it. -/
def nextAfter (keys : List String) (registration : Registration) : Option String :=
  if keys <+: registration.segments then registration.segments[keys.length]? else none

theorem nextAfter_nil (registration : Registration) :
    nextAfter [] registration = registration.segments.head? := by
  simp [nextAfter, List.head?_eq_getElem?]

theorem nextAfter_cons (key : String) (keys : List String) (registration : Registration) :
    nextAfter (key :: keys) registration = (behind key registration).bind (nextAfter keys) := by
  obtain ⟨segments, path, source⟩ := registration
  cases segments with
  | nil => rfl
  | cons segment rest =>
      by_cases h : segment = key
      · subst h
        rw [behind_cons, Option.bind_some]
        simp [nextAfter, List.cons_prefix_cons]
      · simp [nextAfter, behind, List.cons_prefix_cons, h, Ne.symm h]

theorem filterMap_nextAfter_nil (registrations : List Registration) :
    (registrations.filterMap (nextAfter [])).eraseDups = heads registrations := by
  rw [heads, funext nextAfter_nil]

theorem filterMap_nextAfter_cons (key : String) (keys : List String)
    (registrations : List Registration) :
    registrations.filterMap (nextAfter (key :: keys)) =
      (allBehind key registrations).filterMap (nextAfter keys) := by
  rw [allBehind, List.filterMap_filterMap, funext (nextAfter_cons key keys)]

/-- Below the root, keys lead to a group if what is left of them does so behind the first of them. -/
theorem groupPlace_cons_iff {key : String} {keys : List String}
    {registrations : List Registration} :
    GroupPlace registrations (key :: keys) ↔ ∃ inner ∈ allBehind key registrations,
      keys <+: inner.segments ∧ (keys = inner.segments → inner.source = none) := by
  constructor
  · rintro (hnil | ⟨⟨segments, path, source⟩, hmem, hprefix, hgroup⟩)
    · cases hnil
    · obtain ⟨rest, rfl⟩ : ∃ rest, segments = key :: rest := by
        obtain ⟨tail, htail⟩ := hprefix
        exact ⟨keys ++ tail, htail.symm⟩
      refine ⟨⟨rest, path, source⟩, mem_allBehind.mpr hmem, ?_, ?_⟩
      · exact (List.cons_prefix_cons.mp hprefix).2
      · intro heq
        exact hgroup (by rw [heq])
  · rintro ⟨inner, hmem, hprefix, hgroup⟩
    refine .inr ⟨_, mem_allBehind.mp hmem, List.cons_prefix_cons.mpr ⟨rfl, hprefix⟩, ?_⟩
    intro heq
    exact hgroup (List.cons.inj heq).2

end Registration

open Registration

namespace FieldTree

theorem keys_toFields (children : Entries FieldTree) :
    Entries.keys (toFields children) = Entries.keys children := by
  induction children with
  | nil => rfl
  | cons entry rest ih =>
      rw [toFields, Entries.keys_cons, Entries.keys_cons, ih]

theorem lookup_toFields (children : Entries FieldTree) (key : String) :
    (toFields children).lookup key = (children.lookup key).map toPredicate := by
  induction children with
  | nil => rfl
  | cons entry rest ih =>
      rw [toFields, List.lookup_cons, List.lookup_cons, ih]
      split <;> rfl

theorem follow_group_cons (children : Entries FieldTree) (key : String) (keys : List String) :
    (group children).toPredicate.follow (key :: keys) =
      (children.lookup key).bind fun child => child.toPredicate.follow keys := by
  rw [toPredicate, Predicate.follow, lookup_toFields, Option.bind_map]
  rfl

/-- The segments of a field lead to its requirement. -/
theorem Shows.follow_field {registrations : List Registration} {tree : FieldTree}
    (h : Shows registrations tree) {registration : Registration} (hmem : registration ∈ registrations)
    {predicate : Predicate} (hresolve : registration.resolve = .ok (some predicate)) :
    tree.toPredicate.follow registration.segments = some predicate := by
  obtain ⟨segments, path, source⟩ := registration
  induction segments generalizing registrations tree with
  | nil =>
      cases tree with
      | field found =>
          obtain ⟨only, rfl, -, hfound⟩ := shows_field_iff.mp h
          rw [← List.mem_singleton.mp hmem, hresolve, Except.ok.injEq, Option.some.injEq] at hfound
          rw [toPredicate, Predicate.follow, hfound]
      | group children =>
          have hfield := isSome_source_of_resolve hresolve
          rw [h.groups _ hmem rfl] at hfield
          cases hfield
  | cons key rest ih =>
      have hbehind : ⟨rest, path, source⟩ ∈ allBehind key registrations := mem_allBehind.mpr hmem
      cases tree with
      | field found =>
          obtain ⟨only, rfl, hnil, -⟩ := shows_field_iff.mp h
          rw [← List.mem_singleton.mp hmem] at hnil
          cases hnil
      | group children =>
          rw [follow_group_cons]
          cases hlookup : children.lookup key with
          | none =>
              rw [(h.lookup_eq_none_iff key).mp hlookup] at hbehind
              cases hbehind
          | some child =>
              have hchild := h.child key
              rw [hlookup] at hchild
              exact ih hchild hbehind hresolve

/-- Keys that lead to a group lead to a mapping of the next segments. -/
theorem Shows.follow_group {registrations : List Registration} {children : Entries FieldTree}
    (h : Shows registrations (.group children)) {keys : List String}
    (hplace : GroupPlace registrations keys) :
    ∃ fields, (FieldTree.group children).toPredicate.follow keys = some (.mapping fields) ∧
      Entries.keys fields = (registrations.filterMap (nextAfter keys)).eraseDups := by
  induction keys generalizing registrations children with
  | nil =>
      refine ⟨toFields children, rfl, ?_⟩
      rw [keys_toFields, filterMap_nextAfter_nil]
      cases h with
      | group hgroups hkeys hchildren => exact hkeys
  | cons key keys ih =>
      obtain ⟨inner, hmem, hprefix, hgroup⟩ := groupPlace_cons_iff.mp hplace
      have hchild := h.child key
      rw [follow_group_cons, filterMap_nextAfter_cons]
      cases hlookup : children.lookup key with
      | none =>
          rw [(h.lookup_eq_none_iff key).mp hlookup] at hmem
          cases hmem
      | some child =>
          rw [hlookup, Option.getD_some] at hchild
          cases child with
          | field found =>
              obtain ⟨only, honly, hnil, hfound⟩ := shows_field_iff.mp hchild
              rw [honly, List.mem_singleton] at hmem
              subst hmem
              have hfield := isSome_source_of_resolve hfound
              rw [hnil] at hprefix hgroup
              rw [hgroup (List.prefix_nil.mp hprefix)] at hfield
              cases hfield
          | group grandchildren => exact ih hchild (.inr ⟨inner, hmem, hprefix, hgroup⟩)

/-- Keys that lead anywhere lead to a group, or to a field and perhaps further into its requirement. -/
theorem Shows.place_of_follow {registrations : List Registration} {children : Entries FieldTree}
    (h : Shows registrations (.group children)) {keys : List String} {node : Predicate}
    (hfollow : (FieldTree.group children).toPredicate.follow keys = some node) :
    GroupPlace registrations keys ∨ ∃ registration ∈ registrations,
      registration.source.isSome ∧ registration.segments <+: keys := by
  induction keys generalizing registrations children with
  | nil => exact .inl (.inl rfl)
  | cons key keys ih =>
      rw [follow_group_cons] at hfollow
      obtain ⟨child, hlookup, hrest⟩ := Option.bind_eq_some_iff.mp hfollow
      have hchild := h.child key
      rw [hlookup, Option.getD_some] at hchild
      cases child with
      | field found =>
          obtain ⟨only, honly, hnil, hfound⟩ := shows_field_iff.mp hchild
          have hmem : only ∈ allBehind key registrations := by simp [honly]
          refine .inr ⟨_, mem_allBehind.mp hmem, isSome_source_of_resolve hfound, ?_⟩
          rw [hnil, List.cons_prefix_cons]
          exact ⟨rfl, List.nil_prefix⟩
      | group grandchildren =>
          rcases ih hchild hrest with (rfl | ⟨inner, hmem, hinner⟩) |
            ⟨inner, hmem, hfield, hprefix⟩
          · -- some registration brought the key up, and no field of the group stands at its place
            obtain ⟨inner, hmem⟩ := h.exists_behind hlookup
            refine .inl (groupPlace_cons_iff.mpr ⟨inner, hmem, List.nil_prefix, ?_⟩)
            intro hnil
            exact hchild.groups inner hmem hnil.symm
          · exact .inl (groupPlace_cons_iff.mpr ⟨inner, hmem, hinner⟩)
          · exact .inr ⟨_, mem_allBehind.mp hmem, hfield,
              List.cons_prefix_cons.mpr ⟨rfl, hprefix⟩⟩

end FieldTree

/-- The node at a dot-path with at least one segment other than a single empty one. -/
theorem Predicate.get_intercalate (node : Predicate) {segments : List String} (hne : segments ≠ [])
    (hdots : ∀ segment ∈ segments, '.' ∉ segment.toList) :
    node.get (".".intercalate segments) =
      if segments = [""] then some node else node.follow segments := by
  have hsplit : Path.segments (".".intercalate segments) = segments :=
    Text.split_intercalate hdots hne
  rw [get, Path.steps]
  by_cases hempty : ".".intercalate segments = ""
  · have hsegments : segments = [""] := by
      rw [← hsplit, hempty]
      rfl
    rw [if_pos hempty, if_pos hsegments]
    cases node <;> rfl
  · have hsegments : segments ≠ [""] := by
      rintro rfl
      exact hempty rfl
    rw [if_neg hempty, if_neg hsegments, hsplit]

/-- Adding the registrations of a collection gives a tree that shows all of them, or the error of the
first one that offends. -/
theorem Fields.addAll_registrations (fields : Fields) :
    (∃ children, Fields.resolve fields = .ok (FieldTree.group children).toPredicate ∧
      Consistent (registrations fields) ∧
      FieldTree.Shows (registrations fields) (.group children)) ∨
    ∃ before registration after error, registrations fields = before ++ registration :: after ∧
      Offends before registration error ∧ Fields.resolve fields = .error error := by
  rw [resolve_eq_addAll]
  rcases addAll_of_shows consistent_nil FieldTree.shows_empty (registrations fields)
    (fun registration hmem => (segments_of_mem_registrations hmem).1) with
    ⟨children, hall, hconsistent, hshows⟩ |
    ⟨before, registration, after, error, hsplit, hoffends, herror⟩
  · rw [hall]
    exact .inl ⟨children, rfl, hconsistent, hshows⟩
  · rw [herror]
    exact .inr ⟨before, registration, after, error, hsplit, hoffends, rfl⟩

theorem Fields.resolve_ok_iff (fields : Fields) :
    (∃ tree, Fields.resolve fields = .ok tree) ↔ Consistent (registrations fields) := by
  rcases addAll_registrations fields with ⟨children, hok, hconsistent, -⟩ |
    ⟨before, registration, after, error, hsplit, hoffends, herror⟩
  · exact ⟨fun _ => hconsistent, fun _ => ⟨_, hok⟩⟩
  · rw [herror, hsplit]
    constructor
    · rintro ⟨tree, htree⟩
      cases htree
    · intro hconsistent
      exact absurd hconsistent hoffends.not_consistent

theorem Fields.shows_of_resolve {fields : Fields} {tree : Predicate}
    (h : Fields.resolve fields = .ok tree) :
    ∃ children, tree = (FieldTree.group children).toPredicate ∧
      FieldTree.Shows (registrations fields) (.group children) := by
  rcases addAll_registrations fields with ⟨children, hok, -, hshows⟩ |
    ⟨before, registration, after, error, -, -, herror⟩
  · rw [hok, Except.ok.injEq] at h
    exact ⟨children, h.symm, hshows⟩
  · rw [herror] at h
    cases h

namespace Registration

theorem resolve_of_source {registration : Registration} {source : Source} {predicate : Predicate}
    (hsource : registration.source = some source) (hresolve : source.resolve = .ok predicate) :
    registration.resolve = .ok (some predicate) := by
  rw [resolve, hsource]
  exact congrArg (Except.map some) hresolve

theorem exists_source_of_resolve {registration : Registration} {predicate : Predicate}
    (h : registration.resolve = .ok (some predicate)) :
    ∃ source, registration.source = some source ∧ source.resolve = .ok predicate := by
  rw [resolve] at h
  split at h
  · cases h
  · rename_i source hsource
    refine ⟨source, hsource, ?_⟩
    cases hresolve : source.resolve with
    | error error => simp [hresolve, Except.map] at h
    | ok found => simpa [hresolve, Except.map] using h

theorem consistent_iff {registrations : List Registration} :
    Consistent registrations ↔
      (∀ registration ∈ registrations, ∀ source, registration.source = some source →
        ∃ predicate, source.resolve = .ok predicate) ∧
      registrations.Pairwise Compatible := by
  constructor
  · rintro ⟨hresolves, hcompatible⟩
    refine ⟨fun registration hmem source hsource => ?_, hcompatible⟩
    obtain ⟨predicate, hpredicate⟩ := hresolves registration hmem
    rw [resolve, hsource] at hpredicate
    cases hfound : source.resolve with
    | error error => simp [hfound, Except.map] at hpredicate
    | ok found => exact ⟨found, rfl⟩
  · rintro ⟨hresolves, hcompatible⟩
    refine ⟨fun registration hmem => ?_, hcompatible⟩
    cases hsource : registration.source with
    | none =>
        refine ⟨none, ?_⟩
        rw [resolve, hsource]
    | some source =>
        obtain ⟨predicate, hpredicate⟩ := hresolves registration hmem source hsource
        exact ⟨some predicate, resolve_of_source hsource hpredicate⟩

end Registration

/-- **Resolving a collection of field rules.** It succeeds exactly when every field has a requirement
and no field shares its place with another registration or stands on the way to one. The resulting
tree then has the requirement of every field at the segments of the field, and so at its dot-path; it
has a mapping at every group, on the next segments of the registrations in their order; and every
node of it is one of these groups or belongs to the requirement of a field. -/
theorem Fields.resolve_spec (fields : Fields) :
    ((∃ tree, Fields.resolve fields = .ok tree) ↔
      (∀ registration ∈ registrations fields, ∀ source, registration.source = some source →
        ∃ predicate, source.resolve = .ok predicate) ∧
      (registrations fields).Pairwise Compatible) ∧
    ∀ tree, Fields.resolve fields = .ok tree →
      (∀ registration ∈ registrations fields, ∀ source predicate,
        registration.source = some source → source.resolve = .ok predicate →
        tree.follow registration.segments = some predicate ∧
        tree.get (".".intercalate registration.segments) =
          if registration.segments = [""] then some tree else some predicate) ∧
      (∀ keys, GroupPlace (registrations fields) keys →
        ∃ children, tree.follow keys = some (.mapping children) ∧
          Entries.keys children = ((registrations fields).filterMap (nextAfter keys)).eraseDups) ∧
      ∀ keys node, tree.follow keys = some node →
        GroupPlace (registrations fields) keys ∨ ∃ registration ∈ registrations fields,
          registration.source.isSome ∧ registration.segments <+: keys := by
  refine ⟨(resolve_ok_iff fields).trans consistent_iff, ?_⟩
  intro tree htree
  obtain ⟨children, rfl, hshows⟩ := shows_of_resolve htree
  refine ⟨?_, fun keys => hshows.follow_group, fun keys node => hshows.place_of_follow⟩
  intro registration hmem source predicate hsource hpredicate
  have hfollow := hshows.follow_field hmem (resolve_of_source hsource hpredicate)
  obtain ⟨hne, hdots⟩ := segments_of_mem_registrations hmem
  refine ⟨hfollow, ?_⟩
  rw [Predicate.get_intercalate _ hne hdots, hfollow]

end DocRules
