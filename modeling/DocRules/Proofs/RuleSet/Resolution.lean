import DocRules.Proofs.RuleSet.Contribution

/-! What a whole rule set comes to. Its items contribute requirements one by one and in order; what
their bounds speak about and whether the whole is required are read off the set of names alone. The
main statement is that the requirement of a set is put together in this way, so that the order of
the items shows in the order of the contributions and nowhere else. -/

namespace DocRules

/-- The item is a rule under the name of a catalog entry. -/
def RuleItem.Is (kind : RuleKind) (item : RuleItem) : Prop := ∃ rule, item = .named rule ∧ rule.Is kind

/-- The item is a rule on presence, which speaks about null and about nothing else. -/
def RuleItem.OnPresence (item : RuleItem) : Prop := item.Is .required ∨ item.Is .nullable

theorem RuleItem.Is.unique {item : RuleItem} {kind other : RuleKind} (h : item.Is kind)
    (hother : item.Is other) : kind = other := by
  obtain ⟨rule, rfl, hrule⟩ := h
  obtain ⟨_, ⟨⟩, hotherRule⟩ := hother
  exact hrule.unique hotherRule

/-- A list of requirements as one: nothing, the single one, or the conjunction of at least two. -/
inductive Predicate.Joined : List Predicate → Option Predicate → Prop where
  | none : Joined [] none
  | single {predicate} : Joined [predicate] (some predicate)
  | all {predicates} : 2 ≤ predicates.length → Joined predicates (some (.all predicates))

theorem Predicate.joined_iff {predicates : List Predicate} {inner : Option Predicate} :
    Joined predicates inner ↔ combine predicates = inner := by
  match predicates with
  | [] =>
      refine ⟨fun h => ?_, fun h => h ▸ .none⟩
      cases h with
      | none => rfl
      | all hlength => exact absurd hlength (by decide)
  | [predicate] =>
      refine ⟨fun h => ?_, fun h => h ▸ .single⟩
      cases h with
      | single => rfl
      | all hlength => exact absurd hlength (by simp)
  | first :: second :: rest =>
      refine ⟨fun h => ?_, fun h => h ▸ .all (by simp)⟩
      cases h
      rfl

/-- The second list is the first one with elements of a kind put in at any places. -/
inductive Interspersed {α : Type} (extra : α → Prop) : List α → List α → Prop where
  | nil : Interspersed extra [] []
  | keep {element rest grown} : Interspersed extra rest grown →
      Interspersed extra (element :: rest) (element :: grown)
  | insert {element rest grown} : extra element → Interspersed extra rest grown →
      Interspersed extra rest (element :: grown)

namespace Interspersed

variable {α β : Type} {extra : α → Prop} {elements grown : List α}

theorem mem_of_mem (h : Interspersed extra elements grown) {element : α}
    (hmem : element ∈ elements) : element ∈ grown := by
  induction h with
  | nil => exact hmem
  | keep _ ih =>
      rcases List.mem_cons.mp hmem with rfl | hrest
      · exact List.mem_cons_self
      · exact List.mem_cons_of_mem _ (ih hrest)
  | insert _ _ ih => exact List.mem_cons_of_mem _ (ih hmem)

theorem mem_or_extra (h : Interspersed extra elements grown) {element : α}
    (hmem : element ∈ grown) : element ∈ elements ∨ extra element := by
  induction h with
  | nil => exact .inl hmem
  | keep _ ih =>
      rcases List.mem_cons.mp hmem with rfl | hrest
      · exact .inl List.mem_cons_self
      · exact (ih hrest).imp_left (List.mem_cons_of_mem _)
  | insert hextra _ ih =>
      rcases List.mem_cons.mp hmem with rfl | hrest
      · exact .inr hextra
      · exact ih hrest

/-- Elements that yield nothing may be put in anywhere. -/
theorem flatMap_eq (h : Interspersed extra elements grown) {yield : α → List β}
    (hyield : ∀ element, extra element → yield element = []) :
    grown.flatMap yield = elements.flatMap yield := by
  induction h with
  | nil => rfl
  | keep _ ih => rw [List.flatMap_cons, List.flatMap_cons, ih]
  | insert hextra _ ih => rw [List.flatMap_cons, hyield _ hextra, ih, List.nil_append]

theorem refl (elements : List α) : Interspersed extra elements elements := by
  induction elements with
  | nil => exact .nil
  | cons element rest ih => exact .keep ih

/-- One element may be put in at any place. -/
theorem insert_at {element : α} (h : extra element) (before after : List α) :
    Interspersed extra (before ++ after) (before ++ element :: after) := by
  induction before with
  | nil => exact .insert h (.refl after)
  | cons first rest ih => exact .keep ih

end Interspersed

namespace RuleSet

variable {set other : RuleSet}

/-- Some rule of the set has the name of a catalog entry. -/
def Names (set : RuleSet) (kind : RuleKind) : Prop := ∃ item ∈ set.items, item.Is kind

/-- Some rule of the set names a type of numbers. -/
def NamesNumber (set : RuleSet) : Prop :=
  set.Names .integer ∨ set.Names .float ∨ set.Names .numeric

/-- What the bounds of a set speak about: the value if the set names a type of numbers, and the
length otherwise. -/
inductive Bounding (set : RuleSet) : (Bounds → Constraint) → Prop where
  | value : set.NamesNumber → Bounding set .range
  | length : ¬set.NamesNumber → Bounding set .length

/-- How a set wraps its requirement: it is required if the set says so, and optional otherwise. -/
inductive Wraps (set : RuleSet) (inner : Option Predicate) : Predicate → Prop where
  | required : set.Names .required → Wraps set inner (.required inner)
  | optional : ¬set.Names .required → Wraps set inner (.optional inner)

/-- What a set comes to: each item yields what it contributes, the yields in item order are joined,
and the whole is wrapped. -/
structure ComesTo (set : RuleSet) (about : Bounds → Constraint)
    (yield : RuleItem → List Predicate) (inner : Option Predicate) (result : Predicate) :
    Prop where
  bounding : set.Bounding about
  contributes : ∀ item ∈ set.items, item.Contributes about (yield item)
  joined : Predicate.Joined (set.items.flatMap yield) inner
  wraps : set.Wraps inner result

theorem mem_rules_iff {rule : Rule} : rule ∈ set.rules ↔ .named rule ∈ set.items := by
  rw [rules, List.mem_filterMap]
  constructor
  · intro h
    obtain ⟨item, hmem, hrule⟩ := h
    cases item with
    | named found =>
        cases hrule
        exact hmem
    | direct predicate => cases hrule
  · intro h
    exact ⟨_, h, rfl⟩

theorem contains_iff {kind : RuleKind} : set.contains kind = true ↔ set.Names kind := by
  rw [contains, hasRule, rule?, List.find?_isSome]
  constructor
  · intro h
    obtain ⟨rule, hmem, hname⟩ := h
    exact ⟨_, mem_rules_iff.mp hmem, rule, rfl, eq_of_beq hname⟩
  · intro h
    obtain ⟨item, hmem, rule, rfl, hname⟩ := h
    exact ⟨rule, mem_rules_iff.mpr hmem, beq_iff_eq.mpr hname⟩

theorem namesNumber_iff : set.namesNumber = true ↔ set.NamesNumber := by
  simp [namesNumber, NamesNumber, contains_iff]

theorem bounding_iff {about : Bounds → Constraint} : set.Bounding about ↔ about = set.bounded := by
  rw [bounded]
  by_cases h : set.NamesNumber
  · rw [if_pos (namesNumber_iff.mpr h)]
    refine ⟨fun hbounding => ?_, fun habout => habout ▸ .value h⟩
    cases hbounding with
    | value => rfl
    | length hnot => exact absurd h hnot
  · rw [if_neg fun hnumber => h (namesNumber_iff.mp hnumber)]
    refine ⟨fun hbounding => ?_, fun habout => habout ▸ .length h⟩
    cases hbounding with
    | value hnumber => exact absurd hnumber h
    | length => rfl

theorem wraps_iff {inner : Option Predicate} {result : Predicate} :
    set.Wraps inner result ↔
      result = if set.contains .required then .required inner else .optional inner := by
  by_cases h : set.Names .required
  · rw [if_pos (contains_iff.mpr h)]
    refine ⟨fun hwraps => ?_, fun hresult => hresult ▸ .required h⟩
    cases hwraps with
    | required => rfl
    | optional hnot => exact absurd h hnot
  · rw [if_neg fun hrequired => h (contains_iff.mp hrequired)]
    refine ⟨fun hwraps => ?_, fun hresult => hresult ▸ .optional h⟩
    cases hwraps with
    | required hrequired => exact absurd hrequired h
    | optional => rfl

/-- Sets with the same names say the same about their bounds. -/
theorem Bounding.congr {about : Bounds → Constraint}
    (h : ∀ kind, kind ≠ .required → kind ≠ .nullable → (other.Names kind ↔ set.Names kind))
    (hbounding : set.Bounding about) : other.Bounding about := by
  have hnumber : other.NamesNumber ↔ set.NamesNumber :=
    or_congr (h _ (by decide) (by decide))
      (or_congr (h _ (by decide) (by decide)) (h _ (by decide) (by decide)))
  cases hbounding with
  | value hnamed => exact .value (hnumber.mpr hnamed)
  | length hnot => exact .length fun hnamed => hnot (hnumber.mp hnamed)

theorem Wraps.congr {inner : Option Predicate} {result : Predicate}
    (h : other.Names .required ↔ set.Names .required) (hwraps : set.Wraps inner result) :
    other.Wraps inner result := by
  cases hwraps with
  | required hrequired => exact .required (h.mpr hrequired)
  | optional hnot => exact .optional fun hrequired => hnot (h.mp hrequired)

/-- The requirements that an item yields, where a failing item yields none. -/
def yieldOf (about : Bounds → Constraint) (item : RuleItem) : List Predicate :=
  match item.predicates about with
  | .ok predicates => predicates
  | .error _ => []

theorem yieldOf_of_contributes {about : Bounds → Constraint} {item : RuleItem}
    {predicates : List Predicate} (h : item.Contributes about predicates) :
    yieldOf about item = predicates := by
  rw [yieldOf, RuleItem.predicates_eq_ok_iff.mpr h]

theorem known_of_contributes {about : Bounds → Constraint} {rule : Rule}
    {predicates : List Predicate} (h : (RuleItem.named rule).Contributes about predicates) :
    rule.Known := by
  cases h with
  | presence hpresence =>
      rcases hpresence with hkind | hkind
      · exact ⟨_, hkind⟩
      · exact ⟨_, hkind⟩
  | leaf hkind _ => exact ⟨_, hkind⟩

theorem checkNames_eq_ok_iff : set.checkNames = .ok () ↔ ∀ rule ∈ set.rules, rule.Known := by
  have hnone : set.rules.find? (fun rule => rule.kind?.isNone) = none ↔
      ∀ rule ∈ set.rules, rule.Known := by
    rw [List.find?_eq_none]
    refine forall₂_congr fun rule _ => ?_
    rw [Option.isNone_iff_eq_none, Rule.kind?_eq_none_iff, Classical.not_not]
  rw [← hnone, checkNames]
  cases set.rules.find? fun rule => rule.kind?.isNone <;> simp

theorem predicates_eq_ok {yield : RuleItem → List Predicate}
    (h : ∀ item ∈ set.items, item.Contributes set.bounded (yield item)) :
    set.predicates = .ok (set.items.flatMap yield) := by
  have hitems : set.items.mapM (RuleItem.predicates set.bounded) = .ok (set.items.map yield) :=
    Steps.mapM_of_forall fun item hmem => RuleItem.predicates_eq_ok_iff.mpr (h item hmem)
  rw [predicates, hitems, List.flatMap_def]
  rfl

/-- A set resolves to what it comes to. -/
theorem ComesTo.resolve {about : Bounds → Constraint} {yield : RuleItem → List Predicate}
    {inner : Option Predicate} {result : Predicate}
    (h : set.ComesTo about yield inner result) : set.resolve = .ok result := by
  obtain rfl := bounding_iff.mp h.bounding
  have hnames : ∀ rule ∈ set.rules, rule.Known := fun rule hmem =>
    known_of_contributes (h.contributes _ (mem_rules_iff.mp hmem))
  rw [RuleSet.resolve, checkNames_eq_ok_iff.mpr hnames, predicates_eq_ok h.contributes,
    wraps_iff.mp h.wraps, ← Predicate.joined_iff.mp h.joined]
  rfl

theorem contributes_of_resolve {result : Predicate} (h : set.resolve = .ok result) :
    ∀ item ∈ set.items, item.Contributes set.bounded (yieldOf set.bounded item) := by
  obtain ⟨_, -, hresult⟩ := Steps.bind_ok_iff.mp h
  obtain ⟨predicates, hpredicates, -⟩ := Steps.bind_ok_iff.mp hresult
  obtain ⟨yields, hyields, -⟩ := Steps.bind_ok_iff.mp hpredicates
  intro item hmem
  obtain ⟨yields, hitem⟩ := Steps.exists_ok_of_mapM hyields item hmem
  have hcontributes := RuleItem.predicates_eq_ok_iff.mp hitem
  rwa [yieldOf_of_contributes hcontributes]

/-- A set that resolves comes to its result. -/
theorem comesTo_of_resolve {result : Predicate} (h : set.resolve = .ok result) :
    ∃ inner, set.ComesTo set.bounded (yieldOf set.bounded) inner result := by
  have hcomes : set.ComesTo set.bounded (yieldOf set.bounded)
      (Predicate.combine (set.items.flatMap (yieldOf set.bounded))) _ :=
    ⟨bounding_iff.mpr rfl, contributes_of_resolve h, Predicate.joined_iff.mpr rfl,
      wraps_iff.mpr rfl⟩
  have hresult := hcomes.resolve
  rw [h] at hresult
  cases hresult
  exact ⟨_, hcomes⟩

theorem names_of_perm (h : other.items.Perm set.items) (kind : RuleKind) :
    other.Names kind ↔ set.Names kind :=
  exists_congr fun _ => and_congr_left' h.mem_iff

/-- Items that are put in change no name that they do not have themselves. -/
theorem names_of_interspersed {extra : RuleItem → Prop} {kind : RuleKind}
    (hextra : ∀ item, extra item → ¬item.Is kind)
    (h : Interspersed extra set.items other.items) : other.Names kind ↔ set.Names kind := by
  constructor
  · intro hnames
    obtain ⟨item, hmem, hkind⟩ := hnames
    rcases h.mem_or_extra hmem with hold | hnew
    · exact ⟨item, hold, hkind⟩
    · exact absurd hkind (hextra item hnew)
  · intro hnames
    obtain ⟨item, hmem, hkind⟩ := hnames
    exact ⟨item, h.mem_of_mem hmem, hkind⟩

/-- A rule on presence contributes nothing. -/
theorem contributes_presence {about : Bounds → Constraint} {item : RuleItem}
    (h : item.OnPresence) : item.Contributes about [] := by
  rcases h with hkind | hkind
  · obtain ⟨rule, rfl, hrule⟩ := hkind
    exact .presence (.inl hrule)
  · obtain ⟨rule, rfl, hrule⟩ := hkind
    exact .presence (.inr hrule)

/-- Rules on presence that are put in, or left out again, leave everything as it is but the
wrapping. -/
theorem comesTo_interspersed_iff {about : Bounds → Constraint} {inner : Option Predicate}
    {result grownResult : Predicate} {extra : RuleItem → Prop}
    (hextra : ∀ item, extra item → item.OnPresence)
    (h : Interspersed extra set.items other.items) (hwraps : set.Wraps inner result)
    (hgrown : other.Wraps inner grownResult) :
    other.ComesTo about (yieldOf about) inner grownResult ↔
      set.ComesTo about (yieldOf about) inner result := by
  have hnames : ∀ kind, kind ≠ .required → kind ≠ .nullable →
      (other.Names kind ↔ set.Names kind) := by
    intro kind hrequired hnullable
    refine names_of_interspersed (fun item hitem hkind => ?_) h
    rcases hextra item hitem with hextra | hextra
    · exact hrequired (hkind.unique hextra)
    · exact hnullable (hkind.unique hextra)
  have hyield : ∀ item, extra item → yieldOf about item = [] := fun item hitem =>
    yieldOf_of_contributes (contributes_presence (hextra item hitem))
  have hyields := h.flatMap_eq hyield
  constructor
  · intro hcomes
    exact
      { bounding := hcomes.bounding.congr fun kind hrequired hnullable =>
          (hnames kind hrequired hnullable).symm
        contributes := fun item hmem => hcomes.contributes item (h.mem_of_mem hmem)
        joined := hyields ▸ hcomes.joined
        wraps := hwraps }
  · intro hcomes
    refine
      { bounding := hcomes.bounding.congr hnames
        contributes := fun item hmem => ?_
        joined := hyields ▸ hcomes.joined
        wraps := hgrown }
    rcases h.mem_or_extra hmem with hold | hnew
    · exact hcomes.contributes item hold
    · rw [hyield item hnew]
      exact contributes_presence (hextra item hnew)

/-- A set in another order comes to the yields in that order. -/
theorem ComesTo.perm {about : Bounds → Constraint} {yield : RuleItem → List Predicate}
    {inner otherInner : Option Predicate} {result otherResult : Predicate}
    (hcomes : set.ComesTo about yield inner result) (h : other.items.Perm set.items)
    (hjoined : Predicate.Joined (other.items.flatMap yield) otherInner)
    (hwraps : set.Wraps otherInner otherResult) :
    other.ComesTo about yield otherInner otherResult where
  bounding := hcomes.bounding.congr fun kind _ _ => names_of_perm h kind
  contributes := fun item hmem => hcomes.contributes item (h.mem_iff.mp hmem)
  joined := hjoined
  wraps := hwraps.congr (names_of_perm h .required)

/-- **The requirement of a rule set.** A set that resolves comes to its result: each item yields what
it contributes, where bounds speak about the value if some rule names a type of numbers, and the
whole is required if some rule says so. In another order the set comes to the same yields in that
order, wrapped alike. Rules that allow null change nothing wherever they are put in, and a rule that
requires a value changes nothing but the wrapping. -/
theorem resolve_order_spec {result : Predicate} (h : set.resolve = .ok result) :
    ∃ about yield inner, set.ComesTo about yield inner result ∧
      (∀ other : RuleSet, other.items.Perm set.items → ∃ otherInner otherResult,
        other.resolve = .ok otherResult ∧ other.ComesTo about yield otherInner otherResult ∧
          set.Wraps otherInner otherResult) ∧
      (∀ other : RuleSet, Interspersed (RuleItem.Is .nullable) set.items other.items →
        other.resolve = .ok result) ∧
      ∀ before after rule, set.items = before ++ after → rule.Is .required →
        (RuleSet.mk (before ++ .named rule :: after)).resolve = .ok (.required inner) := by
  obtain ⟨inner, hcomes⟩ := comesTo_of_resolve h
  refine ⟨_, _, inner, hcomes, ?_, ?_, ?_⟩
  · intro other hperm
    have hother := hcomes.perm hperm (Predicate.joined_iff.mpr rfl) (wraps_iff.mpr rfl)
    exact ⟨_, _, hother.resolve, hother, wraps_iff.mpr rfl⟩
  · intro other hmore
    have hother : ∀ item, RuleItem.Is .nullable item → ¬item.Is .required :=
      fun _ hnullable hrequired => nomatch hrequired.unique hnullable
    have hnames : other.Names .required ↔ set.Names .required :=
      names_of_interspersed hother hmore
    exact ((comesTo_interspersed_iff (fun _ => .inr) hmore hcomes.wraps
      (hcomes.wraps.congr hnames)).mpr hcomes).resolve
  · intro before after rule hsplit hrule
    have hitem : RuleItem.Is .required (.named rule) := ⟨rule, rfl, hrule⟩
    have hmore := Interspersed.insert_at hitem before after
    rw [← hsplit] at hmore
    have hnamed : (RuleSet.mk (before ++ .named rule :: after)).Names .required :=
      ⟨_, by simp, hitem⟩
    exact ((comesTo_interspersed_iff (fun _ => .inl) hmore hcomes.wraps
      (.required hnamed)).mpr hcomes).resolve

/-- A set with bounds in front of the type of numbers that they depend on, a direct requirement, and
both rules on presence. -/
def boundsFirst : RuleSet :=
  ⟨[.named ⟨"min", ["1"]⟩, .direct (.optional none), .named ⟨"nullable", []⟩,
    .named ⟨"integer", []⟩, .named ⟨"required", []⟩]⟩

/-- What the set resolves to: the bounds speak about the value. -/
def boundsFirstResult : Predicate :=
  .required (some (.all [.leaf (.range ⟨some 1, none⟩), .optional none, .leaf (.type .integer)]))

theorem boundsFirst_any_order :
    boundsFirst.resolve = .ok boundsFirstResult ∧
    ∃ about yield inner, boundsFirst.ComesTo about yield inner boundsFirstResult ∧
      ∃ otherInner otherResult, (RuleSet.mk boundsFirst.items.reverse).resolve = .ok otherResult ∧
        (RuleSet.mk boundsFirst.items.reverse).ComesTo about yield otherInner otherResult := by
  have hset : boundsFirst.resolve = .ok boundsFirstResult := rfl
  obtain ⟨about, yield, inner, hcomes, hperm, -⟩ := resolve_order_spec hset
  obtain ⟨otherInner, otherResult, hresolve, hother, -⟩ := hperm _ (List.reverse_perm _)
  exact ⟨hset, about, yield, inner, hcomes, otherInner, otherResult, hresolve, hother⟩

end RuleSet

end DocRules
