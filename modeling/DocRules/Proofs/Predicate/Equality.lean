import DocRules.Proofs.Entries
import DocRules.Proofs.RuleSet.Resolution
import DocRules.Proofs.RuleSet.RoundTrip

/-! Equality of requirements up to the order of keys. It compares two mappings by looking up the keys
of one in the other, so a requirement is the same as itself as long as no mapping in it has a key
twice. What a rule set or a rule text resolves to keeps the mappings that were given directly and adds
none. -/

namespace DocRules

namespace Predicate

/-- No mapping in the requirement has a key twice. Maps that keys are put into never do. -/
inductive WellFormed : Predicate → Prop where
  | leaf (constraint : Constraint) : WellFormed (.leaf constraint)
  | all {children : List Predicate} (hchildren : ∀ child ∈ children, WellFormed child) :
      WellFormed (.all children)
  | optional {inner : Option Predicate} (hinner : ∀ node, inner = some node → WellFormed node) :
      WellFormed (.optional inner)
  | required {inner : Option Predicate} (hinner : ∀ node, inner = some node → WellFormed node) :
      WellFormed (.required inner)
  | mapping {fields : Entries Predicate} (hkeys : Entries.Distinct fields)
      (hfields : ∀ key node, (key, node) ∈ fields → WellFormed node) :
      WellFormed (.mapping fields)

theorem within_iff {left right : Entries Predicate} :
    within left right = true ↔ ∀ pair ∈ left,
      ∃ other, right.lookup pair.1 = some other ∧ pair.2.same other = true := by
  refine Entries.compare_iff (fun _ => by rw [within]) fun key node rest right => ?_
  rw [within]
  cases right.lookup key <;> rfl

theorem sameList_self {children : List Predicate}
    (h : ∀ child ∈ children, child.same child = true) : sameList children children = true := by
  induction children with
  | nil => rfl
  | cons child rest ih =>
      obtain ⟨hchild, hrest⟩ := List.forall_mem_cons.mp h
      rw [sameList, hchild, ih hrest]
      rfl

/-- Two mappings with as many keys are the same if what one has under a key the other has too. -/
theorem same_mapping {left right : Entries Predicate} (hlength : left.length = right.length)
    (h : ∀ key node, (key, node) ∈ left →
      ∃ other, right.lookup key = some other ∧ node.same other = true) :
    (mapping left).same (mapping right) = true := by
  rw [same, within_iff.mpr fun pair => h pair.1 pair.2, hlength, beq_self_eq_true]
  rfl

theorem WellFormed.same_self {predicate : Predicate} (h : predicate.WellFormed) :
    predicate.same predicate = true := by
  induction h with
  | leaf constraint => exact beq_self_eq_true constraint
  | all _ ih => exact sameList_self ih
  | @optional inner _ ih =>
      cases inner with
      | none => rfl
      | some node => exact ih node rfl
  | @required inner _ ih =>
      cases inner with
      | none => rfl
      | some node => exact ih node rfl
  | mapping hkeys _ ih =>
      refine same_mapping rfl fun key node hmem => ?_
      exact ⟨node, hkeys.lookup_of_mem hmem, ih key node hmem⟩

end Predicate

/-- The requirements that a set holds directly have no mapping with a key twice. -/
def RuleSet.WellFormed (set : RuleSet) : Prop :=
  ∀ predicate, .direct predicate ∈ set.items → predicate.WellFormed

theorem Predicate.Joined.wellFormed {predicates : List Predicate} {inner : Option Predicate}
    (h : Joined predicates inner) (hall : ∀ predicate ∈ predicates, predicate.WellFormed) :
    ∀ node, inner = some node → node.WellFormed := by
  intro node hnode
  cases h with
  | none => cases hnode
  | single =>
      cases hnode
      exact hall node List.mem_cons_self
  | all hlength =>
      cases hnode
      exact .all hall

theorem RuleItem.Contributes.wellFormed {about : Bounds → Constraint} {item : RuleItem}
    {predicates : List Predicate} (h : item.Contributes about predicates)
    (hdirect : ∀ predicate, item = .direct predicate → predicate.WellFormed) :
    ∀ predicate ∈ predicates, predicate.WellFormed := by
  intro predicate hmem
  cases h with
  | direct =>
      rw [List.mem_singleton.mp hmem]
      exact hdirect _ rfl
  | presence _ => cases hmem
  | leaf _ _ =>
      rw [List.mem_singleton.mp hmem]
      exact .leaf _

/-- A set adds no mapping to those that it holds. -/
theorem RuleSet.WellFormed.resolve {set : RuleSet} (h : set.WellFormed) {result : Predicate}
    (hresolve : set.resolve = .ok result) : result.WellFormed := by
  obtain ⟨inner, hcomes⟩ := comesTo_of_resolve hresolve
  have hyields : ∀ predicate ∈ set.items.flatMap (yieldOf set.bounded), predicate.WellFormed := by
    intro predicate hmem
    obtain ⟨item, hitem, hyield⟩ := List.mem_flatMap.mp hmem
    refine (hcomes.contributes item hitem).wellFormed ?_ predicate hyield
    rintro direct rfl
    exact h direct hitem
  have hinner := hcomes.joined.wellFormed hyields
  cases hcomes.wraps with
  | required _ => exact .required hinner
  | optional _ => exact .optional hinner

theorem RuleSet.resolveText_ok_iff {input : String} {result : Predicate} :
    resolveText input = .ok result ↔
      ∃ set, parse input = .ok set ∧ set.resolve = .ok result := by
  delta resolveText
  cases parse input <;> simp

/-- A rule text resolves without any mapping. -/
theorem RuleSet.wellFormed_of_resolveText {input : String} {result : Predicate}
    (h : resolveText input = .ok result) : result.WellFormed := by
  obtain ⟨set, hparse, hresolve⟩ := resolveText_ok_iff.mp h
  refine WellFormed.resolve ?_ hresolve
  intro predicate hmem
  obtain ⟨rule, hrule, -⟩ := expressible_of_parse hparse _ hmem
  cases hrule

end DocRules
