import DocRules.Evaluator
import DocRules.Proofs.RuleSet.Resolution

/-! What the evaluators report. A value has the violations of the constraints that are in force for it,
one after another. A rule set therefore reports what its items report, in item order, unless the value
is null and the set does not require one; rules on presence decide about null and about nothing else.
An evaluator that lets bounds pass reports the same without the two codes that bounds have. -/

namespace DocRules

namespace Predicate

mutual

/-- The constraints that a scalar has to meet, in order. Null meets what is optional, and a scalar has
no fields that a mapping could speak about. -/
def inForce (value : Value) : Predicate → List Constraint
  | .leaf constraint => [constraint]
  | .all children => inForceOf value children
  | .optional none | .required none | .mapping _ => []
  | .optional (some inner) => if value.isNull then [] else inForce value inner
  | .required (some inner) => inForce value inner

def inForceOf (value : Value) : List Predicate → List Constraint
  | [] => []
  | child :: rest => inForce value child ++ inForceOf value rest

end

variable {check : Constraint → Option Violation} {value : Value}

mutual

/-- The violations of a value are those of the constraints in force. -/
theorem violations_eq_filterMap :
    ∀ predicate : Predicate, predicate.violations check value =
      (predicate.inForce value).filterMap check
  | .leaf constraint => by
      rw [violations, inForce, List.filterMap_cons]
      cases check constraint <;> rfl
  | .all children => violationsOf_eq_filterMap children
  | .optional none => rfl
  | .optional (some inner) => by
      rw [violations, inForce]
      split
      · rfl
      · exact violations_eq_filterMap inner
  | .required none => rfl
  | .required (some inner) => violations_eq_filterMap inner
  | .mapping _ => rfl

theorem violationsOf_eq_filterMap :
    ∀ children : List Predicate, violationsOf check value children =
      (inForceOf value children).filterMap check
  | [] => rfl
  | child :: rest => by
      rw [violationsOf, inForceOf, List.filterMap_append, violations_eq_filterMap child,
        violationsOf_eq_filterMap rest]

end

theorem violationsOf_eq_flatMap (children : List Predicate) :
    violationsOf check value children = children.flatMap (violations check value) := by
  induction children with
  | nil => rfl
  | cons child rest ih => rw [violationsOf, List.flatMap_cons, ih]

/-- Requirements that are joined have the violations of each of them. -/
theorem Joined.violations_eq {predicates : List Predicate} {inner : Option Predicate}
    (h : Joined predicates inner) :
    inner.elim [] (violations check value) = predicates.flatMap (violations check value) := by
  cases h with
  | none => rfl
  | single => exact (List.flatMap_singleton _ _).symm
  | all _ => exact violationsOf_eq_flatMap _

end Predicate

/-- The codes of violations of bounds. -/
def ViolationCode.ofBounds : List ViolationCode :=
  [.custom "NOT_IN_RANGE_ERROR", .custom "LENGTH_ERROR"]

theorem Value.numericFault?_not_ofBounds {value : Value} {code : ViolationCode}
    (h : value.numericFault? = some code) : code ∉ ViolationCode.ofBounds := by
  cases value with
  | string s =>
      obtain ⟨-, ⟨⟩⟩ := Option.ite_none_left_eq_some.mp h
      decide
  | bool b =>
      cases h
      decide
  | _ => cases h

/-- A violation is at the path of the value, and has the code of a bound if a bound reports it. -/
theorem Constraint.of_violation?_eq_some {path : String} {value : Value} {constraint : Constraint}
    {violation : Violation} (h : constraint.violation? path value = some violation) :
    violation.path = path ∧ (violation.code ∈ ViolationCode.ofBounds ↔ constraint.isBound = true) := by
  cases constraint with
  | type kind =>
      obtain ⟨-, ⟨⟩⟩ := Option.ite_none_left_eq_some.mp h
      exact ⟨rfl, by simp [ViolationCode.ofBounds, isBound]⟩
  | numericFormat =>
      obtain ⟨code, hcode, rfl⟩ := Option.map_eq_some_iff.mp h
      exact ⟨rfl, iff_of_false (Value.numericFault?_not_ofBounds hcode) nofun⟩
  | notBlank | choice _ | charClass _ | range _ | length _ =>
      obtain ⟨-, ⟨⟩⟩ := Option.ite_none_right_eq_some.mp h
      exact ⟨rfl, by simp [ViolationCode.ofBounds, isBound]⟩
  | dateFormat _ | dateTimeFormat | emailFormat | urlFormat | patternMatch _ => cases h

/-- Without the codes of bounds, what is left of a violation is that of no bound. -/
theorem Constraint.filter_violation? (path : String) (value : Value) (constraint : Constraint) :
    (constraint.violation? path value).filter (·.code ∉ ViolationCode.ofBounds) =
      if constraint.isBound then none else constraint.violation? path value := by
  cases hviolation : constraint.violation? path value with
  | none => simp
  | some violation =>
      have hcode := (Constraint.of_violation?_eq_some hviolation).2
      rw [Option.filter_some]
      by_cases hbound : constraint.isBound = true
      · simp [hcode, hbound]
      · simp [hcode, hbound]

namespace Evaluator

variable {path : String} {value : Value} {predicate : Predicate}

theorem strict_eq_filterMap :
    strict path value predicate =
      (predicate.inForce value).filterMap (Constraint.violation? path value) :=
  Predicate.violations_eq_filterMap predicate

theorem path_of_mem_strict {violation : Violation} (h : violation ∈ strict path value predicate) :
    violation.path = path := by
  rw [strict_eq_filterMap] at h
  obtain ⟨constraint, -, hconstraint⟩ := List.mem_filterMap.mp h
  exact (Constraint.of_violation?_eq_some hconstraint).1

/-- To let bounds pass is to leave out the violations with their codes. -/
theorem typeChecks_eq_filter :
    typeChecks path value predicate =
      (strict path value predicate).filter (·.code ∉ ViolationCode.ofBounds) := by
  have hcheck := funext (Constraint.filter_violation? path value)
  rw [typeChecks, Predicate.violations_eq_filterMap, ← hcheck, strict_eq_filterMap,
    List.filter_filterMap]

end Evaluator

namespace RuleSet

open Evaluator

variable {set other : RuleSet} {about : Bounds → Constraint} {yield : RuleItem → List Predicate}
  {inner : Option Predicate} {result : Predicate} {check : Constraint → Option Violation}
  {value : Value}

/-- Where null is not at issue, the wrapping of a set has no violations of its own. -/
theorem Wraps.violations_eq (h : set.Wraps inner result)
    (hvalue : value ≠ .null ∨ set.Names .required) :
    result.violations check value = inner.elim [] (Predicate.violations check value) := by
  cases h with
  | required _ => cases inner <;> rfl
  | optional hnot =>
      have hnull : ¬value.isNull = true :=
        fun h => (hvalue.resolve_right hnot) (Value.isNull_iff.mp h)
      cases inner with
      | none => rfl
      | some node =>
          rw [Predicate.violations]
          exact if_neg hnull

/-- A set that does not require a value lets null pass. -/
theorem Wraps.violations_null (h : set.Wraps inner result) (hnot : ¬set.Names .required) :
    result.violations check .null = [] := by
  cases h with
  | required hrequired => exact absurd hrequired hnot
  | optional _ => cases inner <;> rfl

theorem ComesTo.violations_eq (h : set.ComesTo about yield inner result)
    (hvalue : value ≠ .null ∨ set.Names .required) :
    result.violations check value =
      (set.items.flatMap yield).flatMap (Predicate.violations check value) :=
  (h.wraps.violations_eq hvalue).trans h.joined.violations_eq

/-- A set with rules on presence put in or left out comes to the same but for the wrapping. -/
theorem ComesTo.exists_resolve (hcomes : set.ComesTo about (yieldOf about) inner result)
    (h : Interspersed RuleItem.OnPresence set.items other.items ∨
      Interspersed RuleItem.OnPresence other.items set.items) :
    ∃ otherResult, other.resolve = .ok otherResult ∧ other.Wraps inner otherResult := by
  refine ⟨_, ?_, wraps_iff.mpr rfl⟩
  rcases h with hmore | hless
  · have hother := (comesTo_interspersed_iff (fun _ => id) hmore hcomes.wraps
      (wraps_iff.mpr rfl)).mpr hcomes
    exact hother.resolve
  · have hother := (comesTo_interspersed_iff (fun _ => id) hless (wraps_iff.mpr rfl)
      hcomes.wraps).mp hcomes
    exact hother.resolve

/-- **The violations of a value.** Under a set that resolves, a value has the violations that it has
under the requirements of the items, in item order, except that null has none if the set does not
require a value. Rules on presence may be put in or left out at any place without a change for other
values. Under every requirement, all violations are at the path of the value, and to let bounds pass is
to leave out the violations with the codes of bounds. -/
theorem violations_spec :
    (∀ set result, resolve set = .ok result →
      ∃ about yield inner, set.ComesTo about yield inner result ∧
        (∀ path value, value ≠ .null ∨ set.Names .required →
          strict path value result = (set.items.flatMap yield).flatMap (strict path value)) ∧
        (∀ path, ¬set.Names .required → strict path .null result = []) ∧
        ∀ other : RuleSet, Interspersed RuleItem.OnPresence set.items other.items ∨
            Interspersed RuleItem.OnPresence other.items set.items →
          ∃ otherResult, other.resolve = .ok otherResult ∧
            ∀ path value, value ≠ .null →
              strict path value otherResult = strict path value result) ∧
    ∀ path value predicate,
      (∀ violation ∈ strict path value predicate, violation.path = path) ∧
        typeChecks path value predicate =
          (strict path value predicate).filter (·.code ∉ ViolationCode.ofBounds) := by
  constructor
  · intro set result hresolve
    obtain ⟨inner, hcomes⟩ := comesTo_of_resolve hresolve
    refine ⟨_, _, inner, hcomes, ?_, ?_, ?_⟩
    · intro path value hvalue
      exact hcomes.violations_eq hvalue
    · intro path hnot
      exact hcomes.wraps.violations_null hnot
    · intro other hother
      obtain ⟨otherResult, hresult, hwraps⟩ := hcomes.exists_resolve hother
      refine ⟨otherResult, hresult, fun path value hvalue => ?_⟩
      calc strict path value otherResult
          = inner.elim [] (strict path value) := hwraps.violations_eq (.inl hvalue)
        _ = strict path value result := (hcomes.wraps.violations_eq (.inl hvalue)).symm
  · intro path value predicate
    exact ⟨fun violation hmem => path_of_mem_strict hmem, typeChecks_eq_filter⟩

/-- A set of a bound, a direct requirement, a choice and a rule on presence. -/
def shortNames : RuleSet :=
  ⟨[.named ⟨"min", ["3"]⟩, .direct (.optional (some (.leaf .notBlank))),
    .named ⟨"in", ["ann"]⟩, .named ⟨"nullable", []⟩]⟩

/-- What the set resolves to: the bounds speak about the length. -/
def shortNamesResult : Predicate :=
  .optional (some (.all [.leaf (.length ⟨some 3, none⟩), .optional (some (.leaf .notBlank)),
    .leaf (.choice ["ann"])]))

/-- The empty text has a violation under each of the three requirements, with or without the rule that
requires a value. -/
theorem shortNames_violations :
    shortNames.resolve = .ok shortNamesResult ∧ ¬shortNames.Names .required ∧
    (strict "name" (.string "") shortNamesResult).map Violation.code =
      [.custom "LENGTH_ERROR", .custom "IS_BLANK_ERROR", .custom "NO_SUCH_CHOICE_ERROR"] ∧
    ∃ about yield inner, shortNames.ComesTo about yield inner shortNamesResult ∧
      strict "name" (.string "") shortNamesResult =
        (shortNames.items.flatMap yield).flatMap (strict "name" (.string "")) ∧
      strict "name" .null shortNamesResult = [] ∧
      ∃ otherResult,
        (RuleSet.mk (.named ⟨"required", []⟩ :: shortNames.items)).resolve = .ok otherResult ∧
          strict "name" (.string "") otherResult = strict "name" (.string "") shortNamesResult := by
  have hset : shortNames.resolve = .ok shortNamesResult := rfl
  have hnot : ¬shortNames.Names .required := by
    rw [← contains_iff]
    decide
  have htext : Value.string "" ≠ .null := nofun
  have hmore : Interspersed RuleItem.OnPresence shortNames.items
      (.named ⟨"required", []⟩ :: shortNames.items) :=
    .insert (.inl ⟨_, rfl, rfl⟩) (.refl _)
  obtain ⟨about, yield, inner, hcomes, hpresent, habsent, hother⟩ := violations_spec.1 _ _ hset
  obtain ⟨otherResult, hresult, hsame⟩ := hother _ (.inl hmore)
  exact ⟨hset, hnot, by decide, about, yield, inner, hcomes, hpresent _ _ (.inl htext),
    habsent _ hnot, otherResult, hresult, hsame _ _ htext⟩

end RuleSet

end DocRules
