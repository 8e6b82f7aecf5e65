import DocRules.Proofs.Fields.Registration

/-! The tree of fields as a picture of the registrations that were added to it. A group is a picture
of the registrations below it: its keys are their first segments in the order in which these first
came up, and each child is a picture of what is left of the registrations behind its key. A field is
a picture of itself alone. Adding a compatible registration extends the picture, and adding any other
one fails. -/

namespace DocRules

namespace Registration

/-- Two registrations may stand side by side: a field among them neither shares the place of the
other nor stands on the way to it. -/
def Compatible (first second : Registration) : Prop :=
  (first.source.isSome → ¬ first.segments <+: second.segments) ∧
    (second.source.isSome → ¬ second.segments <+: first.segments)

instance (first second : Registration) : Decidable (Compatible first second) :=
  inferInstanceAs (Decidable (_ ∧ _))

/-- What is left of a registration behind a key, if its place is there. -/
def behind (key : String) (registration : Registration) : Option Registration :=
  match registration.segments with
  | [] => none
  | segment :: rest => if segment = key then some { registration with segments := rest } else none

/-- What is left of registrations behind a key. -/
def allBehind (key : String) (registrations : List Registration) : List Registration :=
  registrations.filterMap (behind key)

/-- The first segments of registrations, each once, in the order in which they come up. -/
def heads (registrations : List Registration) : List String :=
  (registrations.filterMap fun registration => registration.segments.head?).eraseDups

theorem isSome_source_of_resolve {registration : Registration} {predicate : Option Predicate}
    (h : registration.resolve = .ok predicate) :
    registration.source.isSome = predicate.isSome := by
  unfold resolve at h
  cases hsource : registration.source with
  | none =>
      rw [hsource] at h
      injection h with h
      rw [← h]
      rfl
  | some source =>
      rw [hsource] at h
      cases hresolved : source.resolve with
      | error error => simp [hresolved, Except.map] at h
      | ok found =>
          simp only [hresolved, Except.map, Except.ok.injEq] at h
          rw [← h]
          rfl

theorem behind_cons (key : String) (rest : List String) (path : String) (source : Option Source) :
    behind key ⟨key :: rest, path, source⟩ = some ⟨rest, path, source⟩ := by
  simp [behind]

theorem behind_eq_some_iff {key : String} {registration inner : Registration} :
    behind key registration = some inner ↔
      registration = { inner with segments := key :: inner.segments } := by
  obtain ⟨segments, path, source⟩ := registration
  cases segments with
  | nil => simp [behind]
  | cons segment rest =>
      by_cases h : segment = key
      · subst h
        rw [behind_cons, Option.some.injEq]
        constructor
        · rintro rfl
          rfl
        · intro h
          cases inner
          simpa using h
      · simp [behind, h]

theorem mem_allBehind {key : String} {registrations : List Registration} {inner : Registration} :
    inner ∈ allBehind key registrations ↔
      { inner with segments := key :: inner.segments } ∈ registrations := by
  simp [allBehind, behind_eq_some_iff]

theorem allBehind_append (key : String) (first second : List Registration) :
    allBehind key (first ++ second) = allBehind key first ++ allBehind key second :=
  List.filterMap_append

theorem allBehind_singleton (key : String) (rest : List String) (path : String)
    (source : Option Source) :
    allBehind key [⟨key :: rest, path, source⟩] = [⟨rest, path, source⟩] := by
  rw [allBehind, List.filterMap_cons, behind_cons, List.filterMap_nil]

theorem mem_heads {registrations : List Registration} {key : String} :
    key ∈ heads registrations ↔ ∃ registration ∈ registrations,
      ∃ rest, registration.segments = key :: rest := by
  simp [heads, List.mem_eraseDups, List.mem_filterMap, List.head?_eq_some_iff]

/-- Nothing is left behind a key that no registration starts with. -/
theorem allBehind_eq_nil_iff {key : String} {registrations : List Registration} :
    allBehind key registrations = [] ↔ key ∉ heads registrations := by
  rw [List.eq_nil_iff_forall_not_mem, mem_heads]
  constructor
  · rintro h ⟨registration, hmem, rest, hsegments⟩
    refine h { registration with segments := rest } (mem_allBehind.mpr ?_)
    rw [← hsegments]
    exact hmem
  · intro h inner hinner
    exact h ⟨_, mem_allBehind.mp hinner, inner.segments, rfl⟩

theorem heads_append_singleton {registrations : List Registration} {registration : Registration}
    {key : String} {rest : List String} (h : registration.segments = key :: rest) :
    heads (registrations ++ [registration]) =
      if key ∈ heads registrations then heads registrations else heads registrations ++ [key] := by
  simp only [heads, List.filterMap_append, List.filterMap_cons, h, List.head?_cons,
    List.filterMap_nil, List.eraseDups_append, List.mem_eraseDups]
  generalize registrations.filterMap _ = firsts
  by_cases hmem : key ∈ firsts <;> simp [List.removeAll, List.eraseDups_cons, hmem]

/-- Whether a registration goes with others is decided behind its first segment. -/
theorem forall_compatible_cons_iff {registrations : List Registration}
    (hgroups : ∀ other ∈ registrations, other.segments = [] → other.source = none)
    (key : String) (rest : List String) (path : String) (source : Option Source) :
    (∀ other ∈ registrations, Compatible other ⟨key :: rest, path, source⟩) ↔
      ∀ other ∈ allBehind key registrations, Compatible other ⟨rest, path, source⟩ := by
  constructor
  · intro h other hother
    simpa [Compatible, List.cons_prefix_cons] using h _ (mem_allBehind.mp hother)
  · intro h other hother
    obtain ⟨segments, otherPath, otherSource⟩ := other
    cases segments with
    | nil => simp [Compatible, show otherSource = none from hgroups _ hother rfl]
    | cons segment others =>
        by_cases hkey : segment = key
        · subst hkey
          simpa [Compatible, List.cons_prefix_cons] using
            h ⟨others, otherPath, otherSource⟩ (mem_allBehind.mpr hother)
        · simp [Compatible, List.cons_prefix_cons, hkey, Ne.symm hkey]

example : ¬ Compatible ⟨["a", "b"], "a.b", none⟩ ⟨["a"], "a", some (.text "string")⟩ := by decide

end Registration

open Registration

namespace FieldTree

/-- A tree shows registrations: a field shows itself, a group shows what is below it. -/
inductive Shows : List Registration → FieldTree → Prop where
  | field {registration : Registration} {predicate : Predicate}
      (hsegments : registration.segments = [])
      (hresolve : registration.resolve = .ok (some predicate)) :
      Shows [registration] (.field predicate)
  | group {registrations : List Registration} {children : Entries FieldTree}
      (hgroups : ∀ registration ∈ registrations,
        registration.segments = [] → registration.source = none)
      (hkeys : children.keys = heads registrations)
      (hchildren : ∀ key child, children.lookup key = some child →
        Shows (allBehind key registrations) child) :
      Shows registrations (.group children)

theorem shows_empty : Shows [] empty :=
  .group (by simp) rfl (by simp)

/-- A group keeps showing its registrations when one more is added behind one of its keys. -/
theorem Shows.put {registrations : List Registration} {children : Entries FieldTree}
    {child : FieldTree} {key path : String} {rest : List String} {source : Option Source}
    (h : Shows registrations (.group children))
    (hchild : Shows (allBehind key registrations ++ [⟨rest, path, source⟩]) child) :
    Shows (registrations ++ [⟨key :: rest, path, source⟩]) (.group (children.put key child)) := by
  cases h with
  | group hgroups hkeys hchildren =>
      refine .group ?_ ?_ ?_
      · intro registration hmem hnil
        rcases List.mem_append.mp hmem with hold | hnew
        · exact hgroups registration hold hnil
        · rw [List.mem_singleton.mp hnew] at hnil
          simp at hnil
      · rw [Entries.keys_put, heads_append_singleton rfl, hkeys]
      · intro other found hfound
        rw [allBehind_append]
        by_cases hother : other = key
        · subst hother
          rw [Entries.lookup_put_self, Option.some.injEq] at hfound
          rw [← hfound, allBehind_singleton]
          exact hchild
        · rw [Entries.lookup_put_of_ne children child hother] at hfound
          have hnone : allBehind other [⟨key :: rest, path, source⟩] = [] := by
            simp [allBehind, behind, Ne.symm hother]
          rw [hnone, List.append_nil]
          exact hchildren other found hfound

/-- A group keeps showing its registrations when it is registered once more. -/
theorem Shows.again {registrations : List Registration} {children : Entries FieldTree}
    (h : Shows registrations (.group children)) (path : String) :
    Shows (registrations ++ [⟨[], path, none⟩]) (.group children) := by
  cases h with
  | group hgroups hkeys hchildren =>
      refine .group ?_ ?_ ?_
      · intro registration hmem hnil
        rcases List.mem_append.mp hmem with hold | hnew
        · exact hgroups registration hold hnil
        · rw [List.mem_singleton.mp hnew]
      · simpa [heads, List.filterMap_cons] using hkeys
      · intro key child hchild
        have hnone : allBehind key [⟨[], path, none⟩] = [] := rfl
        rw [allBehind_append, hnone, List.append_nil]
        exact hchildren key child hchild

/-- What stands at a key shows what is behind it, also when that is nothing. -/
theorem Shows.child {registrations : List Registration} {children : Entries FieldTree}
    (h : Shows registrations (.group children)) (key : String) :
    Shows (allBehind key registrations) ((children.lookup key).getD empty) := by
  cases h with
  | group hgroups hkeys hchildren =>
      cases hlookup : children.lookup key with
      | some child => exact hchildren key child hlookup
      | none =>
          rw [Entries.lookup_eq_none_iff_not_mem, hkeys] at hlookup
          rw [allBehind_eq_nil_iff.mpr hlookup]
          exact shows_empty

theorem Shows.lookup_eq_none_iff {registrations : List Registration} {children : Entries FieldTree}
    (h : Shows registrations (.group children)) (key : String) :
    children.lookup key = none ↔ allBehind key registrations = [] := by
  cases h with
  | group hgroups hkeys hchildren =>
      rw [Entries.lookup_eq_none_iff_not_mem, hkeys, allBehind_eq_nil_iff]

/-- Something is behind every key of a group. -/
theorem Shows.exists_behind {registrations : List Registration} {children : Entries FieldTree}
    (h : Shows registrations (.group children)) {key : String} {child : FieldTree}
    (hlookup : children.lookup key = some child) : ∃ inner, inner ∈ allBehind key registrations := by
  refine List.exists_mem_of_ne_nil _ ?_
  rw [Ne, ← h.lookup_eq_none_iff key, hlookup]
  exact Option.some_ne_none child

theorem Shows.groups {registrations : List Registration} {children : Entries FieldTree}
    (h : Shows registrations (.group children)) :
    ∀ registration ∈ registrations, registration.segments = [] → registration.source = none := by
  cases h with
  | group hgroups hkeys hchildren => exact hgroups

theorem shows_field_iff {registrations : List Registration} {predicate : Predicate} :
    Shows registrations (.field predicate) ↔ ∃ registration, registrations = [registration] ∧
      registration.segments = [] ∧ registration.resolve = .ok (some predicate) := by
  constructor
  · intro h
    cases h with
    | field hsegments hresolve => exact ⟨_, rfl, hsegments, hresolve⟩
  · rintro ⟨registration, rfl, hsegments, hresolve⟩
    exact .field hsegments hresolve

/-- A field takes a free key and no other. -/
theorem Shows.addField {registrations : List Registration} {children : Entries FieldTree}
    (h : Shows registrations (.group children)) {key path : String} {source : Option Source}
    {predicate : Predicate}
    (hresolve : Registration.resolve ⟨[], path, source⟩ = .ok (some predicate)) :
    (∀ other ∈ registrations, Compatible other ⟨[key], path, source⟩) ∧
      (∃ grown, FieldTree.addField path key predicate children = .ok grown ∧
        Shows (registrations ++ [⟨[key], path, source⟩]) (.group grown)) ∨
    (¬ ∀ other ∈ registrations, Compatible other ⟨[key], path, source⟩) ∧
      FieldTree.addField path key predicate children = .error (.pathConflict path) := by
  rw [forall_compatible_cons_iff h.groups, FieldTree.addField]
  cases hlookup : children.lookup key with
  | none =>
      have hnil := (h.lookup_eq_none_iff key).mp hlookup
      refine .inl ⟨by simp [hnil], children.put key (.field predicate), rfl, h.put ?_⟩
      rw [hnil]
      exact .field rfl hresolve
  | some child =>
      refine .inr ⟨?_, rfl⟩
      obtain ⟨other, hother⟩ := h.exists_behind hlookup
      have hfield : source.isSome := isSome_source_of_resolve hresolve
      intro hall
      exact (hall other hother).2 hfield List.nil_prefix

/-- Adding a requirement or a group at a place keeps the picture, and fails when something in the
picture is in the way. -/
theorem Shows.place {registrations : List Registration} {children : Entries FieldTree}
    (h : Shows registrations (.group children)) {segments : List String} (path : String)
    {source : Option Source} {predicate : Option Predicate}
    (hresolve : Registration.resolve ⟨segments, path, source⟩ = .ok predicate)
    (hplace : segments ≠ [] ∨ predicate = none) :
    (∀ other ∈ registrations, Compatible other ⟨segments, path, source⟩) ∧
      (∃ grown, FieldTree.place path segments predicate children = .ok grown ∧
        Shows (registrations ++ [⟨segments, path, source⟩]) (.group grown)) ∨
    (¬ ∀ other ∈ registrations, Compatible other ⟨segments, path, source⟩) ∧
      FieldTree.place path segments predicate children = .error (.pathConflict path) := by
  induction segments generalizing registrations children with
  | nil =>
      obtain rfl : predicate = none := hplace.resolve_left (by simp)
      obtain rfl : source = none := by simpa using isSome_source_of_resolve hresolve
      refine .inl ⟨?_, children, rfl, h.again path⟩
      intro other hother
      refine ⟨fun hfield hprefix => ?_, by simp⟩
      rw [h.groups other hother (List.prefix_nil.mp hprefix)] at hfield
      exact Bool.false_ne_true hfield
  | cons key rest ih =>
      by_cases hdeep : rest ≠ [] ∨ predicate = none
      · rw [forall_compatible_cons_iff h.groups, place_cons path key rest predicate hdeep]
        have hchild := h.child key
        cases hat : (children.lookup key).getD empty with
        | field found =>
            rw [hat] at hchild
            refine .inr ⟨?_, workAt_field hat _ _⟩
            obtain ⟨other, hothers, hnil, hfound⟩ := shows_field_iff.mp hchild
            intro hall
            have hother : other ∈ allBehind key registrations := by simp [hothers]
            refine (hall other hother).1 (isSome_source_of_resolve hfound) ?_
            rw [hnil]
            exact List.nil_prefix
        | group inner =>
            rw [hat] at hchild
            rw [workAt_group hat, workAt]
            rcases ih hchild hresolve hdeep with ⟨hcompatible, grown, hgrown, hshows⟩ |
              ⟨hconflict, herror⟩
            · rw [hgrown]
              exact .inl ⟨hcompatible, children.put key (.group grown), rfl, h.put hshows⟩
            · rw [herror]
              exact .inr ⟨hconflict, rfl⟩
      · obtain ⟨hrest, hpredicate⟩ := not_or.mp hdeep
        obtain rfl : rest = [] := by simpa using hrest
        obtain ⟨found, rfl⟩ := Option.ne_none_iff_exists'.mp hpredicate
        exact h.addField hresolve

end FieldTree

namespace Registration

/-- Registrations that make a tree: every field has a requirement, and any two are compatible. -/
structure Consistent (registrations : List Registration) : Prop where
  resolves : ∀ registration ∈ registrations, ∃ predicate, registration.resolve = .ok predicate
  compatible : registrations.Pairwise Compatible

/-- What is wrong with a registration that comes after others. Its own requirement is looked at
first. -/
inductive Offends (before : List Registration) (registration : Registration) :
    ResolveError → Prop where
  | unresolved {error : ResolveError} (hresolve : registration.resolve = .error error) :
      Offends before registration error
  | conflict {predicate : Option Predicate} (hresolve : registration.resolve = .ok predicate)
      (hconflict : ¬ ∀ other ∈ before, Compatible other registration) :
      Offends before registration (.pathConflict registration.path)

theorem consistent_nil : Consistent [] := ⟨by simp, .nil⟩

/-- Registrations stay consistent with one more that resolves and goes with all of them. -/
theorem Consistent.append_singleton {registrations : List Registration}
    (h : Consistent registrations) {registration : Registration} {predicate : Option Predicate}
    (hresolve : registration.resolve = .ok predicate)
    (hcompatible : ∀ other ∈ registrations, Compatible other registration) :
    Consistent (registrations ++ [registration]) := by
  constructor
  · intro other hother
    rcases List.mem_append.mp hother with hold | hnew
    · exact h.resolves other hold
    · rw [List.mem_singleton.mp hnew]
      exact ⟨predicate, hresolve⟩
  · rw [List.pairwise_append]
    refine ⟨h.compatible, List.pairwise_singleton _ _, ?_⟩
    intro other hother new hnew
    rw [List.mem_singleton.mp hnew]
    exact hcompatible other hother

theorem Offends.not_consistent {before after : List Registration} {registration : Registration}
    {error : ResolveError} (h : Offends before registration error) :
    ¬ Consistent (before ++ registration :: after) := by
  intro hconsistent
  cases h with
  | unresolved hresolve =>
      obtain ⟨predicate, hpredicate⟩ := hconsistent.resolves registration (by simp)
      rw [hresolve] at hpredicate
      cases hpredicate
  | conflict hresolve hconflict =>
      refine hconflict fun other hother => ?_
      exact (List.pairwise_append.mp hconsistent.compatible).2.2 other hother registration
        List.mem_cons_self

/-- Adding a registration keeps the picture, or the registration offends. -/
theorem addTo_of_shows {registrations : List Registration} {children : Entries FieldTree}
    (h : FieldTree.Shows registrations (.group children)) {registration : Registration}
    (hne : registration.segments ≠ []) :
    (∃ predicate, registration.resolve = .ok predicate ∧
      (∀ other ∈ registrations, Compatible other registration) ∧
      ∃ grown, registration.addTo children = .ok grown ∧
        FieldTree.Shows (registrations ++ [registration]) (.group grown)) ∨
    ∃ error, Offends registrations registration error ∧
      registration.addTo children = .error error := by
  rw [addTo]
  cases hresolve : registration.resolve with
  | error error => exact .inr ⟨error, .unresolved hresolve, rfl⟩
  | ok predicate =>
      rcases h.place registration.path hresolve (.inl hne) with ⟨hcompatible, hgrown⟩ |
        ⟨hconflict, herror⟩
      · exact .inl ⟨predicate, rfl, hcompatible, hgrown⟩
      · exact .inr ⟨_, .conflict hresolve hconflict, herror⟩

/-- A run over registrations shows all of them, or ends with the error of the first one that
offends against those before it. -/
theorem addAll_of_shows {done : List Registration} {children : Entries FieldTree}
    (hconsistent : Consistent done) (hshows : FieldTree.Shows done (.group children))
    (more : List Registration) (hne : ∀ registration ∈ more, registration.segments ≠ []) :
    (∃ grown, addAll more children = .ok grown ∧ Consistent (done ++ more) ∧
      FieldTree.Shows (done ++ more) (.group grown)) ∨
    ∃ before registration after error, more = before ++ registration :: after ∧
      Offends (done ++ before) registration error ∧ addAll more children = .error error := by
  induction more generalizing done children with
  | nil =>
      rw [List.append_nil]
      exact .inl ⟨children, rfl, hconsistent, hshows⟩
  | cons registration rest ih =>
      rw [addAll]
      rcases addTo_of_shows hshows (hne registration List.mem_cons_self) with
        ⟨predicate, hresolve, hcompatible, grown, hgrown, hnext⟩ | ⟨error, hoffends, herror⟩
      · have hstep := hconsistent.append_singleton hresolve hcompatible
        have hrest := fun other hmem => hne other (List.mem_cons_of_mem registration hmem)
        have happend : ∀ others, done ++ registration :: others =
            done ++ [registration] ++ others := by simp
        rw [hgrown]
        rcases ih hstep hnext hrest with ⟨final, hfinal, hall, hfinalShows⟩ |
          ⟨before, other, after, error, hsplit, hoffends, herror⟩
        · rw [happend]
          exact .inl ⟨final, hfinal, hall, hfinalShows⟩
        · refine .inr ⟨registration :: before, other, after, error, ?_, ?_, herror⟩
          · rw [hsplit, List.cons_append]
          · rw [happend]
            exact hoffends
      · refine .inr ⟨[], registration, rest, error, rfl, ?_, ?_⟩
        · rw [List.append_nil]
          exact hoffends
        · rw [herror]
          rfl

end Registration

end DocRules
