import DocRules.Proofs.RuleSet.Resolution

/-! Why a rule set is refused. A name outside the catalog anywhere in the set comes before every bad
parameter; among either kind the first rule decides. Direct requirements and parameters that no rule
needs have no part in it. -/

namespace DocRules

/-- The rule without the parameters that it does not need. -/
def Rule.essential (rule : Rule) : Rule where
  name := rule.name
  parameters := rule.parameters.take ((rule.kind?.map fun kind => kind.needs.length).getD 0)

namespace Rule

variable {rule other : Rule} {error : ResolveError}

theorem BadParameter.congr {index : Nat} {use : ParameterUse} (hname : rule.name = other.name)
    (hparameter : rule.parameters[index]? = other.parameters[index]?)
    (h : rule.BadParameter index use error) : other.BadParameter index use error := by
  cases h with
  | missing hnone =>
      rw [hname]
      exact .missing (hparameter.symm.trans hnone)
  | malformed htext hn =>
      rw [hname]
      exact .malformed (hparameter.symm.trans htext) hn

theorem badParameter_congr {index : Nat} {use : ParameterUse} (hname : rule.name = other.name)
    (hparameter : rule.parameters[index]? = other.parameters[index]?) :
    rule.BadParameter index use error ↔ other.BadParameter index use error :=
  ⟨.congr hname hparameter, .congr hname.symm hparameter.symm⟩

/-- Only the parameters that are needed are looked at. -/
theorem firstBad_congr (hname : rule.name = other.name) {start : Nat} {needs : List ParameterUse}
    (hparameters : ∀ index < start + needs.length,
      rule.parameters[index]? = other.parameters[index]?) :
    rule.FirstBad start needs error ↔ other.FirstBad start needs error := by
  induction needs generalizing start with
  | nil => exact iff_of_false firstBad_nil firstBad_nil
  | cons use rest ih =>
      have hstart : rule.parameters[start]? = other.parameters[start]? :=
        hparameters start (by rw [List.length_cons]; omega)
      have hrest : rule.FirstBad (start + 1) rest error ↔ other.FirstBad (start + 1) rest error :=
        ih fun index hindex => hparameters index (by rw [List.length_cons]; omega)
      rw [firstBad_cons_iff, firstBad_cons_iff, badParameter_congr hname hstart, hrest]
      simp only [badParameter_congr hname hstart]

theorem complaint_essential_iff : rule.essential.Complaint error ↔ rule.Complaint error := by
  refine exists_congr fun kind => and_congr_right fun hkind => ?_
  have hkind : rule.kind? = some kind := kind?_eq_some_iff.mpr hkind
  have hname : rule.essential.name = rule.name := rfl
  refine firstBad_congr hname fun index hindex => ?_
  rw [essential, hkind, Option.map_some, Option.getD_some, List.getElem?_take_of_lt (by omega)]

theorem known_essential_iff : rule.essential.Known ↔ rule.Known := Iff.rfl

theorem essential_essential (rule : Rule) : rule.essential.essential = rule.essential := by
  have hkind : rule.essential.kind? = rule.kind? := rfl
  rw [essential, hkind, Rule.mk.injEq]
  refine ⟨rfl, ?_⟩
  rw [essential, List.take_take, Nat.min_self]

theorem deficient_essential_iff : rule.essential.Deficient ↔ rule.Deficient := by
  rw [deficient_iff, deficient_iff]
  exact exists_congr fun error => complaint_essential_iff

end Rule

namespace RuleSet

variable {set other : RuleSet} {error : ResolveError}

/-- Why a set is refused: on account of its first name outside the catalog, or, if all names are in
the catalog, of the first bad parameter of its first rule that has one. -/
inductive Refused (set : RuleSet) : ResolveError → Prop where
  | unknownName {before rule after} : set.rules = before ++ rule :: after →
      (∀ earlier ∈ before, earlier.Known) → ¬rule.Known →
      Refused set (.unresolvableRule rule.name)
  | badParameter {before rule after error} : (∀ any ∈ set.rules, any.Known) →
      set.rules = before ++ rule :: after → (∀ earlier ∈ before, ¬earlier.Deficient) →
      rule.Complaint error → Refused set error

theorem checkNames_eq_error_iff :
    set.checkNames = .error error ↔ ∃ before rule after, set.rules = before ++ rule :: after ∧
      (∀ earlier ∈ before, earlier.Known) ∧ ¬rule.Known ∧ error = .unresolvableRule rule.name := by
  have hunknown : ∀ rule : Rule, rule.kind?.isNone = true ↔ ¬rule.Known := fun rule =>
    Option.isNone_iff_eq_none.trans Rule.kind?_eq_none_iff
  rw [checkNames]
  constructor
  · intro h
    split at h
    · rename_i rule hfind
      obtain ⟨hrule, before, after, hsplit, hbefore⟩ := List.find?_eq_some_iff_append.mp hfind
      cases h
      refine ⟨before, rule, after, hsplit, fun earlier hmem => ?_, (hunknown rule).mp hrule, rfl⟩
      refine Classical.byContradiction fun hnot => ?_
      have hearlier := hbefore earlier hmem
      rw [(hunknown earlier).mpr hnot] at hearlier
      cases hearlier
    · cases h
  · intro h
    obtain ⟨before, rule, after, hsplit, hbefore, hrule, rfl⟩ := h
    have hfind : set.rules.find? (fun rule => rule.kind?.isNone) = some rule := by
      refine List.find?_eq_some_iff_append.mpr
        ⟨(hunknown rule).mpr hrule, before, after, hsplit, fun earlier hmem => ?_⟩
      rw [Bool.not_eq_true']
      exact Bool.eq_false_iff.mpr fun h => (hunknown earlier).mp h (hbefore earlier hmem)
    rw [hfind]

/-- Direct requirements never fail, so the items fail as the rules among them do. -/
theorem mapM_items_error_iff {about : Bounds → Constraint} {items : List RuleItem} :
    items.mapM (RuleItem.predicates about) = .error error ↔
      (items.filterMap RuleItem.rule?).mapM (fun rule => (RuleItem.named rule).predicates about) =
        .error error := by
  induction items with
  | nil => exact iff_of_false nofun nofun
  | cons item rest ih =>
      rw [Steps.mapM_cons_error_iff, ih]
      cases item with
      | named rule =>
          have hrule : (RuleItem.named rule).rule? = some rule := rfl
          rw [List.filterMap_cons_some hrule, Steps.mapM_cons_error_iff]
      | direct predicate =>
          rw [List.filterMap_cons_none rfl]
          have hanswer : ∃ answer, (RuleItem.direct predicate).predicates about = .ok answer :=
            ⟨_, rfl⟩
          have hno : (RuleItem.direct predicate).predicates about ≠ .error error := nofun
          simp only [hno, hanswer, false_or, true_and]

theorem named_eq_error_iff {about : Bounds → Constraint} {rule : Rule} (h : rule.Known) :
    (RuleItem.named rule).predicates about = .error error ↔ rule.Complaint error := by
  rw [RuleItem.predicates_eq_error_iff]
  constructor
  · intro hfound
    obtain ⟨_, ⟨⟩, ⟨hunknown, -⟩ | hcomplaint⟩ := hfound
    · exact absurd h hunknown
    · exact hcomplaint
  · intro hcomplaint
    exact ⟨rule, rfl, .inr hcomplaint⟩

theorem named_ok_iff {about : Bounds → Constraint} {rule : Rule} (h : rule.Known) :
    (∃ answer, (RuleItem.named rule).predicates about = .ok answer) ↔ ¬rule.Deficient := by
  rw [Steps.exists_ok_iff, Rule.deficient_iff, not_exists]
  exact forall_congr' fun error => not_congr (named_eq_error_iff h)

/-- If all names are in the catalog, the first rule with a bad parameter fails. -/
theorem predicates_eq_error_iff (h : ∀ rule ∈ set.rules, rule.Known) :
    set.predicates = .error error ↔ ∃ before rule after, set.rules = before ++ rule :: after ∧
      (∀ earlier ∈ before, ¬earlier.Deficient) ∧ rule.Complaint error := by
  have hitems : set.predicates = .error error ↔
      set.items.mapM (RuleItem.predicates set.bounded) = .error error := by
    rw [predicates, Steps.bind_error_iff]
    simp only [Steps.pure_ne_error, and_false, exists_false, or_false]
  rw [hitems, mapM_items_error_iff, Steps.mapM_error_iff]
  refine exists_congr fun before => exists_congr fun rule => exists_congr fun after => ?_
  refine and_congr_right fun hsplit => ?_
  have hknown : ∀ any ∈ before ++ rule :: after, any.Known := by
    rw [← hsplit]
    exact h
  refine and_congr (forall₂_congr fun earlier hmem => ?_) (named_eq_error_iff ?_)
  · exact named_ok_iff (hknown earlier (List.mem_append_left _ hmem))
  · exact hknown rule (List.mem_append_right _ List.mem_cons_self)

/-- The names are looked at first, and the parameters after them. -/
theorem resolve_eq_error_iff_pass :
    set.resolve = .error error ↔
      set.checkNames = .error error ∨ set.checkNames = .ok () ∧ set.predicates = .error error := by
  rw [resolve, Steps.bind_error_iff]
  simp only [Steps.bind_error_iff, Steps.pure_ne_error, and_false, exists_false, or_false]
  constructor
  · intro h
    obtain hnames | ⟨⟨⟩, hnames, hpredicates⟩ := h
    · exact .inl hnames
    · exact .inr ⟨hnames, hpredicates⟩
  · intro h
    exact h.imp_right fun hpass => ⟨(), hpass⟩

theorem resolve_eq_error_iff : set.resolve = .error error ↔ set.Refused error := by
  rw [resolve_eq_error_iff_pass]
  constructor
  · intro h
    rcases h with hnames | ⟨hnames, hpredicates⟩
    · obtain ⟨before, rule, after, hsplit, hbefore, hrule, rfl⟩ := checkNames_eq_error_iff.mp hnames
      exact .unknownName hsplit hbefore hrule
    · have hknown := checkNames_eq_ok_iff.mp hnames
      obtain ⟨before, rule, after, hsplit, hbefore, hcomplaint⟩ :=
        (predicates_eq_error_iff hknown).mp hpredicates
      exact .badParameter hknown hsplit hbefore hcomplaint
  · intro h
    cases h with
    | unknownName hsplit hbefore hrule =>
        exact .inl (checkNames_eq_error_iff.mpr ⟨_, _, _, hsplit, hbefore, hrule, rfl⟩)
    | badParameter hknown hsplit hbefore hcomplaint =>
        exact .inr ⟨checkNames_eq_ok_iff.mpr hknown,
          (predicates_eq_error_iff hknown).mpr ⟨_, _, _, hsplit, hbefore, hcomplaint⟩⟩

/-- A set is refused if anything is wrong with any of its rules. -/
theorem exists_error_iff : (∃ error, set.resolve = .error error) ↔
    ∃ rule ∈ set.rules, ¬rule.Known ∨ rule.Deficient := by
  constructor
  · intro h
    obtain ⟨error, herror⟩ := h
    cases resolve_eq_error_iff.mp herror with
    | unknownName hsplit _ hrule =>
        exact ⟨_, hsplit ▸ List.mem_append_right _ List.mem_cons_self, .inl hrule⟩
    | badParameter _ hsplit _ hcomplaint =>
        exact ⟨_, hsplit ▸ List.mem_append_right _ List.mem_cons_self,
          .inr (Rule.deficient_iff.mpr ⟨error, hcomplaint⟩)⟩
  · intro h
    obtain ⟨rule, hmem, hwrong⟩ := h
    cases hresolve : set.resolve with
    | error error => exact ⟨error, rfl⟩
    | ok result =>
        have hcontributes := contributes_of_resolve hresolve _ (mem_rules_iff.mp hmem)
        have hknown := known_of_contributes hcontributes
        have hgood := (named_ok_iff hknown).mp
          ⟨_, RuleItem.predicates_eq_ok_iff.mpr hcontributes⟩
        rcases hwrong with hunknown | hdeficient
        · exact absurd hknown hunknown
        · exact absurd hdeficient hgood

theorem forall_of_essential {P : Rule → Prop} (hP : ∀ rule : Rule, P rule.essential ↔ P rule)
    {rules others : List Rule} (h : others.map Rule.essential = rules.map Rule.essential)
    (hrules : ∀ rule ∈ rules, P rule) : ∀ rule ∈ others, P rule := by
  have hessential : ∀ rule ∈ others.map Rule.essential, P rule := by
    rw [h]
    intro rule hmem
    obtain ⟨found, hfound, rfl⟩ := List.mem_map.mp hmem
    exact (hP found).mpr (hrules found hfound)
  exact fun rule hmem => (hP rule).mp (hessential _ (List.mem_map_of_mem hmem))

theorem split_of_essential {rules others before after : List Rule} {rule : Rule}
    (h : others.map Rule.essential = rules.map Rule.essential)
    (hsplit : rules = before ++ rule :: after) :
    ∃ otherBefore other otherAfter, others = otherBefore ++ other :: otherAfter ∧
      otherBefore.map Rule.essential = before.map Rule.essential ∧
      other.essential = rule.essential := by
  rw [hsplit, List.map_append, List.map_cons] at h
  obtain ⟨otherBefore, rest, rfl, hbefore, hrest⟩ := List.map_eq_append_iff.mp h
  obtain ⟨other, otherAfter, rfl, hother, -⟩ := List.map_eq_cons_iff.mp hrest
  exact ⟨otherBefore, other, otherAfter, rfl, hbefore, hother⟩

/-- Sets with the same rules up to parameters that are not needed are refused alike. -/
theorem Refused.congr (h : other.rules.map Rule.essential = set.rules.map Rule.essential)
    (hrefused : set.Refused error) : other.Refused error := by
  cases hrefused with
  | unknownName hsplit hbefore hrule =>
      rename_i rule _
      obtain ⟨_, found, _, hother, hmap, hfound⟩ := split_of_essential h hsplit
      have hname : found.essential.name = rule.essential.name := congrArg Rule.name hfound
      change found.name = rule.name at hname
      rw [← Rule.known_essential_iff, ← hfound, Rule.known_essential_iff] at hrule
      rw [← hname]
      exact .unknownName hother
        (forall_of_essential (fun _ => Rule.known_essential_iff) hmap hbefore) hrule
  | badParameter hknown hsplit hbefore hcomplaint =>
      obtain ⟨_, found, _, hother, hmap, hfound⟩ := split_of_essential h hsplit
      rw [← Rule.complaint_essential_iff, ← hfound, Rule.complaint_essential_iff] at hcomplaint
      exact .badParameter (forall_of_essential (fun _ => Rule.known_essential_iff) h hknown) hother
        (forall_of_essential (fun _ => not_congr Rule.deficient_essential_iff) hmap hbefore)
        hcomplaint

theorem rules_ofRules (rules : List Rule) : (ofRules rules).rules = rules := by
  rw [RuleSet.rules, ofRules, List.filterMap_map]
  exact List.filterMap_some

theorem resolve_essential_iff : (ofRules (set.rules.map Rule.essential)).resolve = .error error ↔
    set.resolve = .error error := by
  have hrules : (ofRules (set.rules.map Rule.essential)).rules.map Rule.essential =
      set.rules.map Rule.essential := by
    rw [rules_ofRules, List.map_map]
    exact List.map_congr_left fun rule _ => Rule.essential_essential rule
  rw [resolve_eq_error_iff, resolve_eq_error_iff]
  exact ⟨.congr hrules.symm, .congr hrules⟩

/-- **Why a rule set is refused.** A set has no requirement exactly when some rule has a name outside
the catalog or a needed parameter that is missing or, for bounds, not the text of an integer of 64
bits. The error is about the first name outside the catalog if there is one, and otherwise about the
first bad parameter of the first rule that has one. Direct requirements and parameters that are not
needed may be left out without a change. Rule text that cannot be read is refused before all that. -/
theorem resolve_error_spec (set : RuleSet) :
    ((∃ error, set.resolve = .error error) ↔
      ∃ rule ∈ set.rules, ¬rule.Known ∨ rule.Deficient) ∧
    (∀ error, set.resolve = .error error ↔ set.Refused error) ∧
    (∀ error, (ofRules (set.rules.map Rule.essential)).resolve = .error error ↔
      set.resolve = .error error) ∧
    ∀ input error, resolveText input = .error error ↔
      (∃ failure, parse input = .error failure ∧ error = .parse failure) ∨
        ∃ found, parse input = .ok found ∧ found.Refused error := by
  refine ⟨exists_error_iff, fun error => resolve_eq_error_iff, fun error => resolve_essential_iff,
    fun input error => ?_⟩
  delta resolveText
  cases parse input with
  | ok found => simp [resolve_eq_error_iff]
  | error failure => simp [eq_comm]

end RuleSet

end DocRules
