import DocRules.Proofs.Fields.Resolution
import DocRules.Proofs.Predicate.Equality

/-! Collections of field rules in other orders. The registrations of a reordered collection are those
of the collection in another order. Whether registrations make a tree does not depend on their order,
and two trees that show the same registrations differ in the order of keys only. -/

namespace DocRules

/-- Collections that differ in the order of their entries, at any levels of nesting. -/
inductive Fields.Reordered : Fields → Fields → Prop where
  | entries {left right : Fields} (h : left.Perm right) : Reordered left right
  | nested (before : Fields) (path : String) {inner other : Fields} (after : Fields)
      (h : Reordered inner other) :
      Reordered (before ++ (path, .nested inner) :: after)
        (before ++ (path, .nested other) :: after)
  | trans {first second third : Fields} (left : Reordered first second)
      (right : Reordered second third) : Reordered first third

/-- The requirements that a source holds have no mapping with a key twice. -/
def Source.WellFormed : Source → Prop
  | text _ => True
  | rules set => set.WellFormed
  | .predicate requirement => requirement.WellFormed

/-- The sources of a collection, at all levels of nesting, have no mapping with a key twice. -/
def Fields.WellFormed (fields : Fields) : Prop :=
  ∀ registration ∈ registrations fields, ∀ source, registration.source = some source →
    source.WellFormed

theorem Source.WellFormed.resolve {source : Source} (h : source.WellFormed) {predicate : Predicate}
    (hresolve : source.resolve = .ok predicate) : predicate.WellFormed := by
  cases source with
  | text input => exact RuleSet.wellFormed_of_resolveText hresolve
  | rules set => exact RuleSet.WellFormed.resolve h hresolve
  | predicate requirement =>
      cases hresolve
      exact h

theorem Fields.registrationsBelow_eq (segments : List String) (path : String) (fields : Fields) :
    registrationsBelow segments path fields = fields.flatMap fun entry =>
      entry.2.registrations (segments ++ Path.segments entry.1) (Path.join path entry.1) := by
  induction fields with
  | nil => rfl
  | cons entry rest ih =>
      obtain ⟨key, definition⟩ := entry
      rw [registrationsBelow, ih, List.flatMap_cons]

/-- A reordered collection registers the same in another order. -/
theorem Fields.Reordered.registrationsBelow_perm {left right : Fields} (h : Reordered left right)
    (segments : List String) (path : String) :
    (registrationsBelow segments path left).Perm (registrationsBelow segments path right) := by
  induction h generalizing segments path with
  | entries h =>
      rw [registrationsBelow_eq, registrationsBelow_eq]
      exact h.flatMap_right _
  | nested before key after _ ih =>
      rw [registrationsBelow_eq, registrationsBelow_eq, List.flatMap_append, List.flatMap_append,
        List.flatMap_cons, List.flatMap_cons]
      have hinner := (ih (segments ++ Path.segments key) (Path.join path key)).cons
        ⟨segments ++ Path.segments key, Path.join path key, none⟩
      exact (hinner.append_right _).append_left _
  | trans _ _ left right => exact (left segments path).trans (right segments path)

theorem Fields.Reordered.registrations_perm {left right : Fields} (h : Reordered left right) :
    (registrations left).Perm (registrations right) :=
  h.registrationsBelow_perm [] ""

/-- What is left without repetitions has none. -/
theorem nodup_eraseDups (keys : List String) : keys.eraseDups.Nodup := by
  cases keys with
  | nil => exact List.nodup_nil
  | cons key rest =>
      rw [List.eraseDups_cons, List.nodup_cons]
      constructor
      · simp
      · exact nodup_eraseDups (rest.filter fun other => !other == key)
termination_by keys.length
decreasing_by
  have := List.length_filter_le (fun other => !other == key) rest
  rw [List.length_cons]
  omega

namespace Registration

variable {left right : List Registration}

theorem Compatible.symm {first second : Registration} (h : Compatible first second) :
    Compatible second first := ⟨h.2, h.1⟩

theorem Consistent.perm (h : Consistent left) (hperm : left.Perm right) : Consistent right where
  resolves registration hmem := h.resolves registration (hperm.mem_iff.mpr hmem)
  compatible := (hperm.pairwise_iff Compatible.symm).mp h.compatible

theorem allBehind_perm (key : String) (h : left.Perm right) :
    (allBehind key left).Perm (allBehind key right) := h.filterMap _

theorem nodup_heads (registrations : List Registration) : (heads registrations).Nodup :=
  nodup_eraseDups _

theorem heads_perm (h : left.Perm right) : (heads left).Perm (heads right) := by
  rw [List.perm_ext_iff_of_nodup (nodup_heads left) (nodup_heads right)]
  intro key
  rw [mem_heads, mem_heads]
  exact ⟨fun ⟨registration, hmem, hrest⟩ => ⟨registration, h.mem_iff.mp hmem, hrest⟩,
    fun ⟨registration, hmem, hrest⟩ => ⟨registration, h.mem_iff.mpr hmem, hrest⟩⟩

/-- The requirements that fields among the registrations resolve to are well formed. -/
def ResolvesWell (registrations : List Registration) : Prop :=
  ∀ registration ∈ registrations, ∀ predicate, registration.resolve = .ok (some predicate) →
    predicate.WellFormed

theorem ResolvesWell.allBehind (h : ResolvesWell left) (key : String) :
    ResolvesWell (allBehind key left) :=
  fun _ hmem predicate hresolve => h _ (mem_allBehind.mp hmem) predicate hresolve

end Registration

open Registration

namespace FieldTree

theorem Shows.distinct {registrations : List Registration} {children : Entries FieldTree}
    (h : Shows registrations (.group children)) : Entries.Distinct children := by
  cases h with
  | group hgroups hkeys hchildren =>
      rw [Entries.Distinct, hkeys]
      exact nodup_heads registrations

/-- What shows a field shows no group. -/
theorem Shows.not_group {registrations : List Registration} {predicate : Predicate}
    (h : Shows registrations (.field predicate)) (children : Entries FieldTree) {others}
    (hperm : registrations.Perm others) : ¬Shows others (.group children) := by
  intro hgroup
  obtain ⟨registration, rfl, hnil, hresolve⟩ := shows_field_iff.mp h
  have hsource := hgroup.groups registration (hperm.mem_iff.mp List.mem_cons_self) hnil
  have hfield := isSome_source_of_resolve hresolve
  rw [hsource] at hfield
  cases hfield

theorem mem_toFields {children : Entries FieldTree} {key : String} {node : Predicate}
    (h : (key, node) ∈ toFields children) :
    ∃ child, (key, child) ∈ children ∧ node = child.toPredicate := by
  induction children with
  | nil => cases h
  | cons entry rest ih =>
      obtain ⟨first, child⟩ := entry
      rcases List.mem_cons.mp h with heq | hmem
      · cases heq
        exact ⟨child, List.mem_cons_self, rfl⟩
      · obtain ⟨other, hother, hnode⟩ := ih hmem
        exact ⟨other, List.mem_cons_of_mem _ hother, hnode⟩

theorem length_toFields (children : Entries FieldTree) :
    (toFields children).length = (Entries.keys children).length := by
  rw [← keys_toFields, Entries.keys, List.length_map]

theorem Shows.keys_perm {left right : List Registration} {children others : Entries FieldTree}
    (h : Shows left (.group children)) (hothers : Shows right (.group others))
    (hperm : left.Perm right) : (Entries.keys children).Perm (Entries.keys others) := by
  cases h with
  | group hgroups hkeys hchildren =>
      cases hothers with
      | group hotherGroups hotherKeys hotherChildren =>
          rw [hkeys, hotherKeys]
          exact heads_perm hperm

/-- Trees that show the same registrations, in whatever order, differ in the order of keys only. -/
theorem Shows.same_of_perm {left right : List Registration} {tree other : FieldTree}
    (h : Shows left tree) (hother : Shows right other) (hperm : left.Perm right)
    (hwell : ResolvesWell left) : tree.toPredicate.same other.toPredicate = true := by
  induction h generalizing right other with
  | @field registration predicate hsegments hresolve =>
      cases other with
      | group children =>
          exact absurd hother ((Shows.field hsegments hresolve).not_group children hperm)
      | field found =>
          obtain ⟨only, rfl, -, hfound⟩ := shows_field_iff.mp hother
          obtain rfl : registration = only := by simpa using hperm.mem_iff.mp List.mem_cons_self
          rw [hresolve, Except.ok.injEq, Option.some.injEq] at hfound
          rw [toPredicate, toPredicate, ← hfound]
          exact (hwell registration List.mem_cons_self predicate hresolve).same_self
  | @group registrations children hgroups hkeys hchildren ih =>
      have hshows : Shows registrations (.group children) := .group hgroups hkeys hchildren
      cases other with
      | field found => exact absurd hshows (hother.not_group children hperm.symm)
      | group others =>
          have hsameKeys := hshows.keys_perm hother hperm
          rw [toPredicate, toPredicate]
          apply Predicate.same_mapping
          · rw [length_toFields, length_toFields, hsameKeys.length_eq]
          · intro key node hnode
            obtain ⟨child, hchild, rfl⟩ := mem_toFields hnode
            have hkey := hsameKeys.mem_iff.mp (Entries.mem_keys_of_mem hchild)
            obtain ⟨found, hfound⟩ := Entries.exists_lookup_of_mem_keys hkey
            have hshowsFound := hother.child key
            rw [hfound, Option.getD_some] at hshowsFound
            refine ⟨found.toPredicate, ?_, ?_⟩
            · rw [lookup_toFields, hfound]
              rfl
            · exact ih key child (hshows.distinct.lookup_of_mem hchild) hshowsFound
                (allBehind_perm key hperm) (hwell.allBehind key)

end FieldTree

theorem Fields.WellFormed.resolvesWell {fields : Fields} (h : fields.WellFormed) :
    ResolvesWell (registrations fields) := by
  intro registration hmem predicate hresolve
  obtain ⟨source, hsource, hfound⟩ := exists_source_of_resolve hresolve
  exact (h registration hmem source hsource).resolve hfound

/-- A reordered collection resolves if the collection does. -/
theorem Fields.Reordered.resolve_ok_iff {left right : Fields} (h : Reordered left right) :
    (∃ tree, Fields.resolve left = .ok tree) ↔ ∃ tree, Fields.resolve right = .ok tree := by
  rw [Fields.resolve_ok_iff, Fields.resolve_ok_iff]
  exact ⟨fun hleft => hleft.perm h.registrations_perm,
    fun hright => hright.perm h.registrations_perm.symm⟩

theorem Fields.Reordered.same {left right : Fields} (h : Reordered left right)
    (hwell : left.WellFormed) {tree found : Predicate} (hleft : Fields.resolve left = .ok tree)
    (hright : Fields.resolve right = .ok found) : tree.same found = true := by
  obtain ⟨children, rfl, hshows⟩ := shows_of_resolve hleft
  obtain ⟨others, rfl, hothers⟩ := shows_of_resolve hright
  exact hshows.same_of_perm hothers h.registrations_perm hwell.resolvesWell

end DocRules
