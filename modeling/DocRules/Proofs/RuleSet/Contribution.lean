import DocRules.Proofs.Decimal.Canonical
import DocRules.Proofs.Steps
import DocRules.RuleSet.Resolve

/-! What a single item of a rule set comes to. A direct requirement contributes itself. A rule whose
name is in the catalog contributes at most one constraint, provided that the parameters it needs are
there and, for bounds, are integers; otherwise the complaint is about the first of them that is not.
-/

namespace DocRules

/-- The rule is written under the name of a catalog entry. -/
def Rule.Is (rule : Rule) (kind : RuleKind) : Prop := rule.name = kind.name

/-- The name of the rule is in the catalog. -/
def Rule.Known (rule : Rule) : Prop := ∃ kind, rule.Is kind

theorem RuleKind.ofName?_eq_some_iff {text : String} {kind : RuleKind} :
    RuleKind.ofName? text = some kind ↔ text = kind.name := by
  constructor
  · intro h
    have hname := List.find?_some h
    exact (eq_of_beq hname).symm
  · rintro rfl
    exact RuleKind.ofName?_name kind

theorem Rule.kind?_eq_some_iff {rule : Rule} {kind : RuleKind} :
    rule.kind? = some kind ↔ rule.Is kind := RuleKind.ofName?_eq_some_iff

theorem Rule.kind?_eq_none_iff {rule : Rule} : rule.kind? = none ↔ ¬rule.Known := by
  rw [Option.eq_none_iff_forall_ne_some, Rule.Known, not_exists]
  exact forall_congr' fun kind => not_congr Rule.kind?_eq_some_iff

theorem Rule.Is.unique {rule : Rule} {kind other : RuleKind} (h : rule.Is kind)
    (hother : rule.Is other) : kind = other := by
  rw [← Rule.kind?_eq_some_iff] at h hother
  exact Option.some.inj (h.symm.trans hother)

theorem Rule.kind_eq_ok_iff {rule : Rule} {kind : RuleKind} :
    rule.kind = .ok kind ↔ rule.Is kind := by
  rw [← Rule.kind?_eq_some_iff, Rule.kind]
  cases rule.kind? <;> simp

theorem Rule.kind_eq_error_iff {rule : Rule} {error : ResolveError} :
    rule.kind = .error error ↔ ¬rule.Known ∧ error = .unresolvableRule rule.name := by
  rw [← Rule.kind?_eq_none_iff, Rule.kind]
  cases rule.kind? <;> simp [eq_comm]

/-- What a rule takes a parameter for: as the text that it is, or for an integer of 64 bits. -/
inductive ParameterUse where
  | text
  | integer

/-- The parameters that a rule cannot do without, from the first one on. -/
def RuleKind.needs : RuleKind → List ParameterUse
  | .dateFormat | .regex => [.text]
  | .min | .max => [.integer]
  | .between => [.integer, .integer]
  | _ => []

namespace Rule

/-- What is wrong with the parameter of a rule at a position: it is not there, or it should be the
text of an integer and is not. -/
inductive BadParameter (rule : Rule) (index : Nat) : ParameterUse → ResolveError → Prop where
  | missing {use} : rule.parameters[index]? = none →
      BadParameter rule index use (.missingParameter rule.name index)
  | malformed {text} : rule.parameters[index]? = some text → (∀ n : Int64, text ≠ toString n) →
      BadParameter rule index .integer (.invalidParameterType rule.name index text)

/-- What is wrong with the first bad one of the parameters that are needed from a position on. -/
inductive FirstBad (rule : Rule) : Nat → List ParameterUse → ResolveError → Prop where
  | here {index use rest error} : rule.BadParameter index use error →
      FirstBad rule index (use :: rest) error
  | later {index use rest error} : (∀ found, ¬rule.BadParameter index use found) →
      FirstBad rule (index + 1) rest error → FirstBad rule index (use :: rest) error

/-- The complaint about a rule of the catalog: what is wrong with the first bad one of the parameters
that it needs. -/
def Complaint (rule : Rule) (error : ResolveError) : Prop :=
  ∃ kind, rule.Is kind ∧ rule.FirstBad 0 kind.needs error

/-- Some parameter that the rule needs is bad. -/
def Deficient (rule : Rule) : Prop :=
  ∃ kind index use error, rule.Is kind ∧ kind.needs[index]? = some use ∧
    rule.BadParameter index use error

variable {rule : Rule} {error : ResolveError}

theorem firstBad_nil {index : Nat} : ¬rule.FirstBad index [] error := nofun

theorem firstBad_cons_iff {index : Nat} {use : ParameterUse} {rest : List ParameterUse} :
    rule.FirstBad index (use :: rest) error ↔ rule.BadParameter index use error ∨
      (∀ found, ¬rule.BadParameter index use found) ∧ rule.FirstBad (index + 1) rest error := by
  constructor
  · intro h
    cases h with
    | here hbad => exact .inl hbad
    | later hgood hrest => exact .inr ⟨hgood, hrest⟩
  · rintro (hbad | ⟨hgood, hrest⟩)
    · exact .here hbad
    · exact .later hgood hrest

/-- There is a first bad parameter if there is any. -/
theorem exists_firstBad_iff {start : Nat} {needs : List ParameterUse} :
    (∃ error, rule.FirstBad start needs error) ↔
      ∃ index use error, needs[index]? = some use ∧ rule.BadParameter (start + index) use error := by
  induction needs generalizing start with
  | nil => simp [firstBad_nil]
  | cons use rest ih =>
      constructor
      · rintro ⟨error, h⟩
        cases h with
        | here hbad => exact ⟨0, use, error, rfl, hbad⟩
        | later _ hrest =>
            obtain ⟨index, found, error, hneed, hbad⟩ := ih.mp ⟨error, hrest⟩
            refine ⟨index + 1, found, error, hneed, ?_⟩
            rwa [Nat.add_comm index 1, ← Nat.add_assoc]
      · rintro ⟨index, found, error, hneed, hbad⟩
        by_cases hfirst : ∃ error, rule.BadParameter start use error
        · obtain ⟨error, hfirst⟩ := hfirst
          exact ⟨error, .here hfirst⟩
        · cases index with
          | zero =>
              cases hneed
              exact absurd ⟨error, hbad⟩ hfirst
          | succ index =>
              rw [Nat.add_comm index 1, ← Nat.add_assoc] at hbad
              obtain ⟨error, hrest⟩ := ih.mpr ⟨index, found, error, hneed, hbad⟩
              exact ⟨error, .later (not_exists.mp hfirst) hrest⟩

theorem deficient_iff : rule.Deficient ↔ ∃ error, rule.Complaint error := by
  constructor
  · rintro ⟨kind, index, use, error, hkind, hneed, hbad⟩
    rw [← Nat.zero_add index] at hbad
    obtain ⟨error, hfirst⟩ := exists_firstBad_iff.mpr ⟨index, use, error, hneed, hbad⟩
    exact ⟨error, kind, hkind, hfirst⟩
  · rintro ⟨error, kind, hkind, hfirst⟩
    obtain ⟨index, use, error, hneed, hbad⟩ := exists_firstBad_iff.mp ⟨error, hfirst⟩
    rw [Nat.zero_add] at hbad
    exact ⟨kind, index, use, error, hkind, hneed, hbad⟩

theorem parameter_eq_ok_iff {index : Nat} {text : String} :
    rule.parameter index = .ok text ↔ rule.parameters[index]? = some text := by
  rw [parameter]
  cases rule.parameters[index]? <;> simp

theorem parameter_eq_error_iff {index : Nat} :
    rule.parameter index = .error error ↔ rule.BadParameter index .text error := by
  rw [parameter]
  cases hparameter : rule.parameters[index]? with
  | none =>
      constructor
      · rintro ⟨⟩
        exact .missing hparameter
      · rintro ⟨⟩
        rfl
  | some text =>
      constructor
      · rintro ⟨⟩
      · rintro ⟨hmissing⟩
        rw [hmissing] at hparameter
        cases hparameter

theorem intParameter_eq_ok_iff {index : Nat} {n : Int64} :
    rule.intParameter index = .ok n ↔ rule.parameters[index]? = some (toString n) := by
  rw [intParameter, Steps.bind_ok_iff]
  constructor
  · rintro ⟨text, htext, hn⟩
    split at hn
    · rename_i m hm
      cases hn
      rw [parameter_eq_ok_iff.mp htext, Decimal.int64?_eq_some_iff.mp hm]
    · cases hn
  · intro h
    refine ⟨toString n, parameter_eq_ok_iff.mpr h, ?_⟩
    rw [Decimal.int64?_eq_some_iff.mpr rfl]

theorem intParameter_eq_error_iff {index : Nat} :
    rule.intParameter index = .error error ↔ rule.BadParameter index .integer error := by
  rw [intParameter, Steps.bind_error_iff]
  constructor
  · rintro (hmissing | ⟨text, htext, hmalformed⟩)
    · cases parameter_eq_error_iff.mp hmissing with
      | missing h => exact .missing h
    · split at hmalformed
      · cases hmalformed
      · rename_i hnone
        cases hmalformed
        refine .malformed (parameter_eq_ok_iff.mp htext) fun n hn => ?_
        rw [Decimal.int64?_eq_some_iff.mpr hn] at hnone
        cases hnone
  · intro h
    cases h with
    | missing h => exact .inl (parameter_eq_error_iff.mpr (.missing h))
    | malformed htext hn =>
        rename_i text
        refine .inr ⟨text, parameter_eq_ok_iff.mpr htext, ?_⟩
        have hnone : Decimal.int64? text = none :=
          Option.eq_none_iff_forall_ne_some.mpr fun n h => hn n (Decimal.int64?_eq_some_iff.mp h)
        rw [hnone]

end Rule

/-- The constraint of a rule that takes no parameters. -/
def RuleKind.fixed? : RuleKind → Option Constraint
  | .boolean => some (.type .bool)
  | .integer => some (.type .integer)
  | .float => some (.type .float)
  | .numeric => some .numericFormat
  | .string => some (.type .string)
  | .array => some (.type .array)
  | .alpha => some (.charClass .alpha)
  | .alphaDash => some (.charClass .alphaDash)
  | .alphaNum => some (.charClass .alphaNum)
  | .date => some (.dateFormat none)
  | .dateTime => some .dateTimeFormat
  | .email => some .emailFormat
  | .url => some .urlFormat
  | .filled => some .notBlank
  | .required | .nullable | .oneOf | .dateFormat | .regex | .min | .max | .between => none

/-- The constraint that a rule asks for under the name of a catalog entry. `about` says what bounds
speak about. -/
inductive Rule.Asks (rule : Rule) (about : Bounds → Constraint) : RuleKind → Constraint → Prop where
  | fixed {kind constraint} : kind.fixed? = some constraint → Asks rule about kind constraint
  | choice : Asks rule about .oneOf (.choice rule.parameters)
  | dateFormat {format} : rule.parameters[0]? = some format →
      Asks rule about .dateFormat (.dateFormat (some format))
  | regex {pattern} : rule.parameters[0]? = some pattern →
      Asks rule about .regex (.patternMatch pattern)
  | min {low : Int64} : rule.parameters[0]? = some (toString low) →
      Asks rule about .min (about ⟨some low, none⟩)
  | max {high : Int64} : rule.parameters[0]? = some (toString high) →
      Asks rule about .max (about ⟨none, some high⟩)
  | between {low high : Int64} : rule.parameters[0]? = some (toString low) →
      rule.parameters[1]? = some (toString high) →
      Asks rule about .between (about ⟨some low, some high⟩)

/-- The requirements that an item contributes: a direct requirement itself, a rule on presence none,
and any other rule a single leaf. -/
inductive RuleItem.Contributes (about : Bounds → Constraint) : RuleItem → List Predicate → Prop where
  | direct {predicate} : Contributes about (.direct predicate) [predicate]
  | presence {rule} : rule.Is .required ∨ rule.Is .nullable → Contributes about (.named rule) []
  | leaf {rule kind constraint} : rule.Is kind → rule.Asks about kind constraint →
      Contributes about (.named rule) [.leaf constraint]

namespace Rule

variable {rule : Rule} {about : Bounds → Constraint} {kind : RuleKind}

theorem constraint?_of_fixed {constraint : Constraint} (h : kind.fixed? = some constraint) :
    rule.constraint? about kind = .ok (some constraint) := by
  cases kind <;> cases h <;> rfl

/-- The rules on presence ask for nothing, the other ones for what their parameters say. -/
theorem constraint?_eq_ok_iff {answer : Option Constraint} :
    rule.constraint? about kind = .ok answer ↔
      (kind = .required ∨ kind = .nullable) ∧ answer = none ∨
        ∃ constraint, rule.Asks about kind constraint ∧ answer = some constraint := by
  constructor
  · intro h
    cases hfixed : kind.fixed? with
    | some constraint =>
        rw [constraint?_of_fixed hfixed] at h
        cases h
        exact .inr ⟨constraint, .fixed hfixed, rfl⟩
    | none =>
        cases kind with
        | required | nullable =>
            cases h
            exact .inl ⟨by decide, rfl⟩
        | oneOf =>
            cases h
            exact .inr ⟨_, .choice, rfl⟩
        | dateFormat =>
            obtain ⟨format, hformat, ⟨⟩⟩ := Steps.bind_ok_iff.mp h
            exact .inr ⟨_, .dateFormat (parameter_eq_ok_iff.mp hformat), rfl⟩
        | regex =>
            obtain ⟨pattern, hpattern, ⟨⟩⟩ := Steps.bind_ok_iff.mp h
            exact .inr ⟨_, .regex (parameter_eq_ok_iff.mp hpattern), rfl⟩
        | min =>
            obtain ⟨low, hlow, ⟨⟩⟩ := Steps.bind_ok_iff.mp h
            exact .inr ⟨_, .min (intParameter_eq_ok_iff.mp hlow), rfl⟩
        | max =>
            obtain ⟨high, hhigh, ⟨⟩⟩ := Steps.bind_ok_iff.mp h
            exact .inr ⟨_, .max (intParameter_eq_ok_iff.mp hhigh), rfl⟩
        | between =>
            obtain ⟨low, hlow, hrest⟩ := Steps.bind_ok_iff.mp h
            obtain ⟨high, hhigh, ⟨⟩⟩ := Steps.bind_ok_iff.mp hrest
            exact .inr ⟨_, .between (intParameter_eq_ok_iff.mp hlow)
              (intParameter_eq_ok_iff.mp hhigh), rfl⟩
        | _ => cases hfixed
  · rintro (⟨rfl | rfl, rfl⟩ | ⟨constraint, hasks, rfl⟩)
    · rfl
    · rfl
    · cases hasks with
      | fixed h => exact constraint?_of_fixed h
      | choice => rfl
      | dateFormat h => rw [constraint?, parameter_eq_ok_iff.mpr h]; rfl
      | regex h => rw [constraint?, parameter_eq_ok_iff.mpr h]; rfl
      | min h => rw [constraint?, intParameter_eq_ok_iff.mpr h]; rfl
      | max h => rw [constraint?, intParameter_eq_ok_iff.mpr h]; rfl
      | between hlow hhigh =>
          rw [constraint?, intParameter_eq_ok_iff.mpr hlow, intParameter_eq_ok_iff.mpr hhigh]
          rfl

/-- The parameters are asked for in order, and the first bad one is complained about. -/
theorem constraint?_eq_error_iff {error : ResolveError} :
    rule.constraint? about kind = .error error ↔ rule.FirstBad 0 kind.needs error := by
  cases kind with
  | dateFormat | regex =>
      rw [constraint?, RuleKind.needs, Steps.bind_error_iff, parameter_eq_error_iff]
      simp [firstBad_cons_iff, firstBad_nil, Steps.pure_ne_error]
  | min | max =>
      rw [constraint?, RuleKind.needs, Steps.bind_error_iff, intParameter_eq_error_iff]
      simp [firstBad_cons_iff, firstBad_nil, Steps.pure_ne_error]
  | between =>
      have hgood : (∃ low, rule.intParameter 0 = .ok low) ↔
          ∀ found, ¬rule.BadParameter 0 .integer found := by
        rw [Steps.exists_ok_iff]
        exact forall_congr' fun found => not_congr intParameter_eq_error_iff
      rw [constraint?, RuleKind.needs]
      simp only [Steps.bind_error_iff, intParameter_eq_error_iff, firstBad_cons_iff, firstBad_nil,
        Steps.pure_ne_error, and_false, exists_false, or_false, exists_and_right, hgood]
  | _ => exact iff_of_false nofun firstBad_nil

end Rule

namespace RuleItem

variable {about : Bounds → Constraint} {item : RuleItem}

theorem predicates_eq_ok_iff {predicates : List Predicate} :
    item.predicates about = .ok predicates ↔ item.Contributes about predicates := by
  cases item with
  | direct predicate =>
      constructor
      · rintro ⟨⟩
        exact .direct
      · rintro ⟨⟩
        rfl
  | named rule =>
      rw [RuleItem.predicates, Steps.bind_ok_iff]
      constructor
      · rintro ⟨kind, hkind, h⟩
        obtain ⟨answer, hanswer, ⟨⟩⟩ := Steps.bind_ok_iff.mp h
        have hkind := Rule.kind_eq_ok_iff.mp hkind
        rcases Rule.constraint?_eq_ok_iff.mp hanswer with
          ⟨hpresence, rfl⟩ | ⟨constraint, hasks, rfl⟩
        · refine .presence ?_
          rcases hpresence with rfl | rfl
          · exact .inl hkind
          · exact .inr hkind
        · exact .leaf hkind hasks
      · intro h
        cases h with
        | presence hpresence =>
            rcases hpresence with hkind | hkind
            · exact ⟨_, Rule.kind_eq_ok_iff.mpr hkind, rfl⟩
            · exact ⟨_, Rule.kind_eq_ok_iff.mpr hkind, rfl⟩
        | leaf hkind hasks =>
            refine ⟨_, Rule.kind_eq_ok_iff.mpr hkind, ?_⟩
            rw [Rule.constraint?_eq_ok_iff.mpr (.inr ⟨_, hasks, rfl⟩)]
            rfl

/-- An item fails on account of a name outside the catalog or of a bad parameter. -/
theorem predicates_eq_error_iff {error : ResolveError} :
    item.predicates about = .error error ↔ ∃ rule, item = .named rule ∧
      (¬rule.Known ∧ error = .unresolvableRule rule.name ∨ rule.Complaint error) := by
  cases item with
  | direct predicate => exact iff_of_false nofun fun ⟨_, h, _⟩ => nomatch h
  | named rule =>
      rw [RuleItem.predicates, Steps.bind_error_iff, Rule.kind_eq_error_iff]
      simp only [Steps.bind_error_iff, Steps.pure_ne_error, and_false, exists_false, or_false,
        Rule.kind_eq_ok_iff, Rule.constraint?_eq_error_iff, RuleItem.named.injEq]
      constructor
      · intro h
        exact ⟨rule, rfl, h⟩
      · rintro ⟨_, rfl, h⟩
        exact h

end RuleItem

end DocRules
