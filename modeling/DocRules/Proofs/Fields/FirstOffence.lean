import DocRules.Proofs.Fields.Resolution
import DocRules.Proofs.Steps
import Mathlib.Data.List.Induction

/-! Why a collection of field rules does not resolve. The error is that of the first registration
that offends against those before it: a field whose requirement does not resolve, or else a
registration whose place is taken or lies behind a field. A conflict is reported under the joined path
of the registration, and the path spells the place unless the root holds a nested collection under the
empty path. -/

namespace DocRules

namespace Registration

variable {before after registrations : List Registration} {registration : Registration}
  {error : ResolveError}

/-- A registration that resolves and goes with those before it does not offend. -/
theorem not_offends {predicate : Option Predicate} (hresolve : registration.resolve = .ok predicate)
    (hcompatible : ∀ other ∈ before, Compatible other registration) :
    ¬ Offends before registration error := by
  intro h
  cases h with
  | unresolved hfails => simp [hresolve] at hfails
  | conflict _ hconflict => exact hconflict hcompatible

/-- A registration offends in one way only: a conflict is not looked for if the requirement of the
registration does not resolve. -/
theorem Offends.unique {other : ResolveError} (h : Offends before registration error)
    (hother : Offends before registration other) : error = other := by
  cases h with
  | unresolved hresolve =>
      cases hother with
      | unresolved hfails => simpa [hresolve] using hfails
      | conflict hok _ => simp [hresolve] at hok
  | conflict hresolve _ =>
      cases hother with
      | unresolved hfails => simp [hresolve] at hfails
      | conflict _ _ => rfl

/-- Registrations that are not consistent have a first one that offends. -/
theorem exists_first_offends (h : ¬ Consistent registrations) :
    ∃ before registration after error, registrations = before ++ registration :: after ∧
      Consistent before ∧ Offends before registration error := by
  induction registrations using List.reverseRecOn with
  | nil => exact absurd consistent_nil h
  | append_singleton done last ih =>
      by_cases hdone : Consistent done
      · refine ⟨done, last, [], ?_⟩
        cases hresolve : last.resolve with
        | error error => exact ⟨error, rfl, hdone, .unresolved hresolve⟩
        | ok predicate =>
            refine ⟨_, rfl, hdone, .conflict hresolve fun hcompatible => ?_⟩
            exact h (hdone.append_singleton hresolve hcompatible)
      · obtain ⟨before, registration, after, error, rfl, hbefore, hoffends⟩ := ih hdone
        exact ⟨before, registration, after ++ [last], error, by simp, hbefore, hoffends⟩

/-- A run ends at the first registration that offends, whatever comes after it. -/
theorem addAll_of_offends (hconsistent : Consistent before)
    (hoffends : Offends before registration error)
    (hne : ∀ other ∈ before ++ registration :: after, other.segments ≠ []) :
    addAll (before ++ registration :: after) [] = .error error := by
  obtain ⟨hbefore, hrest⟩ := List.forall_mem_append.mp hne
  rw [addAll_append]
  rcases addAll_of_shows consistent_nil FieldTree.shows_empty before hbefore with
    ⟨grown, hgrown, -, hshows⟩ | ⟨earlier, other, later, found, rfl, hfound, -⟩
  · rcases addTo_of_shows hshows (hrest registration List.mem_cons_self) with
      ⟨predicate, hresolve, hcompatible, -⟩ | ⟨found, hfound, hfails⟩
    · exact absurd hoffends (not_offends hresolve hcompatible)
    · rw [hgrown, hoffends.unique hfound]
      show registration.addTo grown >>= addAll after = _
      rw [hfails]
      rfl
  · exact absurd hconsistent hfound.not_consistent

theorem resolve_eq_error_iff : registration.resolve = .error error ↔
    ∃ source, registration.source = some source ∧ source.resolve = .error error := by
  rw [resolve]
  cases registration.source with
  | none => simp
  | some source => cases hsource : source.resolve <;> simp [hsource, Except.map]

end Registration

open Registration

/-- A collection fails with an error exactly when its first registration that offends does so with
that error. -/
theorem Fields.resolve_error_iff {fields : Fields} {error : ResolveError} :
    Fields.resolve fields = .error error ↔
      ∃ before registration after, registrations fields = before ++ registration :: after ∧
        Consistent before ∧ Offends before registration error := by
  have hfails : ∀ before registration after found,
      registrations fields = before ++ registration :: after → Consistent before →
        Offends before registration found → Fields.resolve fields = .error found := by
    intro before registration after found hsplit hconsistent hoffends
    rw [resolve_eq_addAll, hsplit, addAll_of_offends hconsistent hoffends]
    · rfl
    · rw [← hsplit]
      exact fun other hmem => (segments_of_mem_registrations hmem).1
  constructor
  · intro herror
    have hinconsistent : ¬ Consistent (registrations fields) := by
      intro hconsistent
      obtain ⟨tree, htree⟩ := (resolve_ok_iff fields).mpr hconsistent
      simp [htree] at herror
    obtain ⟨before, registration, after, found, hsplit, hconsistent, hoffends⟩ :=
      exists_first_offends hinconsistent
    have hfound := hfails before registration after found hsplit hconsistent hoffends
    obtain rfl : found = error := by simpa [herror] using hfound.symm
    exact ⟨before, registration, after, hsplit, hconsistent, hoffends⟩
  · rintro ⟨before, registration, after, hsplit, hconsistent, hoffends⟩
    exact hfails before registration after error hsplit hconsistent hoffends

mutual

theorem Definition.segments_path {segments : List String} {path : String} (hpath : path ≠ "")
    (hsegments : Path.segments path = segments) {definition : Definition}
    {registration : Registration} (h : registration ∈ definition.registrations segments path) :
    Path.segments registration.path = registration.segments := by
  cases definition with
  | field source =>
      rw [Definition.registrations, List.mem_singleton] at h
      subst h
      exact hsegments
  | nested fields =>
      rw [Definition.registrations, List.mem_cons] at h
      rcases h with rfl | h
      · exact hsegments
      · exact Fields.segments_path_below hpath hsegments h

/-- Below any path but the root, the path of a registration spells its segments. -/
theorem Fields.segments_path_below {segments : List String} {path : String} (hpath : path ≠ "")
    (hsegments : Path.segments path = segments) {fields : List (String × Definition)}
    {registration : Registration}
    (h : registration ∈ Fields.registrationsBelow segments path fields) :
    Path.segments registration.path = registration.segments := by
  cases fields with
  | nil => simp [Fields.registrationsBelow] at h
  | cons entry rest =>
      obtain ⟨key, definition⟩ := entry
      rw [Fields.registrationsBelow, List.mem_append] at h
      rcases h with h | h
      · refine Definition.segments_path (Path.join_ne_root hpath key) ?_ h
        rw [Path.segments_join hpath, hsegments]
      · exact Fields.segments_path_below hpath hsegments h

end

/-- The path of a registration spells its segments unless the root has a nested collection under the
empty path: then the paths below it lack the empty segment in front. -/
theorem Fields.segments_path {fields : Fields}
    (hroot : ∀ inner, ("", Definition.nested inner) ∉ fields) {registration : Registration}
    (h : registration ∈ registrations fields) :
    Path.segments registration.path = registration.segments := by
  induction fields with
  | nil => simp [registrations, registrationsBelow] at h
  | cons entry rest ih =>
      obtain ⟨key, definition⟩ := entry
      rw [registrations, registrationsBelow, Path.join_root, List.nil_append, List.mem_append] at h
      rcases h with h | h
      · cases definition with
        | field source =>
            rw [Definition.registrations, List.mem_singleton] at h
            rw [h]
        | nested inner =>
            refine Definition.segments_path ?_ rfl h
            rintro rfl
            exact hroot inner List.mem_cons_self
      · exact ih (fun inner hmem => hroot inner (List.mem_cons_of_mem _ hmem)) h

/-- **The first offence is reported.** Let the root hold no nested collection under the empty path. If
the collection does not resolve, there is a first registration that offends: those before it resolve
and go together. If it is a field whose requirement does not resolve, the error is that of the
requirement, whether or not its place is taken. Otherwise it is in conflict with one before it, and the
error has a path that spells its segments. Nothing that comes after it has a part in this: every
collection with the same registrations up to it has the same error. -/
theorem Fields.first_offence {fields : Fields}
    (hroot : ∀ inner, ("", Definition.nested inner) ∉ fields) {error : ResolveError}
    (herror : Fields.resolve fields = .error error) :
    ∃ before registration after, registrations fields = before ++ registration :: after ∧
      Consistent before ∧
      ((∃ source, registration.source = some source ∧ source.resolve = .error error) ∨
        (∀ source, registration.source = some source →
            ∃ predicate, source.resolve = .ok predicate) ∧
          (∃ other ∈ before, ¬ Compatible other registration) ∧
          ∃ path, error = .pathConflict path ∧ Path.segments path = registration.segments) ∧
      ∀ others : Fields, before ++ [registration] <+: registrations others →
        Fields.resolve others = .error error := by
  obtain ⟨before, registration, after, hsplit, hconsistent, hoffends⟩ :=
    resolve_error_iff.mp herror
  refine ⟨before, registration, after, hsplit, hconsistent, ?_, ?_⟩
  · cases hoffends with
    | unresolved hresolve => exact .inl (resolve_eq_error_iff.mp hresolve)
    | conflict hresolve hconflict =>
        have hmem : registration ∈ registrations fields := by simp [hsplit]
        have hother : ∃ other ∈ before, ¬ Compatible other registration := by
          simpa using hconflict
        refine .inr ⟨?_, hother, registration.path, rfl, segments_path hroot hmem⟩
        intro source hsource
        apply Steps.exists_ok_iff.mpr
        intro found hfound
        rw [resolve_eq_error_iff.mpr ⟨source, hsource, hfound⟩] at hresolve
        cases hresolve
  · rintro others ⟨later, hlater⟩
    rw [List.append_assoc, List.singleton_append] at hlater
    exact resolve_error_iff.mpr ⟨before, registration, later, hlater.symm, hconsistent, hoffends⟩

/-- A name with an empty segment in it is registered twice, in two spellings. Behind it comes a rule that
nobody knows, for a field whose place is taken. -/
def doubledName : Fields :=
  [("a.b", .field (.predicate (.leaf .notBlank))),
    ("a", .nested [("", .nested [("c", .field (.rules ⟨[.named ⟨"required", []⟩]⟩))]),
      (".c", .field (.predicate (.leaf .notBlank))),
      ("b", .field (.rules ⟨[.named ⟨"unknown", []⟩]⟩))])]

theorem doubledName_refused :
    (∀ inner, ("", Definition.nested inner) ∉ doubledName) ∧
      Fields.resolve doubledName = .error (.pathConflict "a..c") ∧
      ∃ before registration, Consistent before ∧
        before ++ [registration] <+: Fields.registrations doubledName ∧
        ∀ others : Fields, before ++ [registration] <+: Fields.registrations others →
          Fields.resolve others = .error (.pathConflict "a..c") := by
  have hroot : ∀ inner, ("", Definition.nested inner) ∉ doubledName := by
    intro inner hmem
    simp [doubledName] at hmem
  have herror : Fields.resolve doubledName = .error (.pathConflict "a..c") := rfl
  obtain ⟨before, registration, after, hsplit, hconsistent, -, hothers⟩ :=
    Fields.first_offence hroot herror
  refine ⟨hroot, herror, before, registration, hconsistent, ⟨after, ?_⟩, hothers⟩
  rw [hsplit, List.append_assoc, List.singleton_append]

/-- The rule that nobody knows is reported and not the place that is taken. -/
example : Fields.resolve [("a.b", .field (.predicate (.leaf .notBlank))),
    ("a", .nested [("b", .field (.rules ⟨[.named ⟨"unknown", []⟩]⟩))])] =
      .error (.unresolvableRule "unknown") := rfl

end DocRules
