import DocRules.Proofs.Entries
import DocRules.Proofs.Fields.Resolution
import DocRules.Proofs.Walk.Leaves

/-! Field rules for the leaves of a document. A collection that gives each leaf path a requirement of
its own resolves, and the tree that it resolves to has the outline of the document: the requirement
of each leaf is at the path of the leaf, and what stands for a container has the keys of those
children that are leaves or have leaves below them. -/

namespace DocRules

namespace Entries

variable {α β : Type}

/-- Of a map of which all but one entry yield nothing, the one gives the yield. -/
theorem Distinct.flatMap_of_mem {entries : Entries α} (h : Distinct entries) {key : String}
    {value : α} (hmem : (key, value) ∈ entries) {yield : String × α → List β}
    (hother : ∀ entry ∈ entries, entry.1 ≠ key → yield entry = []) :
    entries.flatMap yield = yield (key, value) := by
  induction entries with
  | nil => cases hmem
  | cons entry rest ih =>
      obtain ⟨hfirst, hrest⟩ := distinct_cons_iff.mp h
      obtain ⟨hhead, htail⟩ := List.forall_mem_cons.mp hother
      rw [List.flatMap_cons]
      rcases List.mem_cons.mp hmem with rfl | hmem
      · have hnone : rest.flatMap yield = [] := by
          refine List.flatMap_eq_nil_iff.mpr fun other hrestMem => htail other hrestMem ?_
          rintro rfl
          exact hfirst (mem_keys_of_mem hrestMem)
        rw [hnone, List.append_nil]
      · have hne : entry.1 ≠ key := by
          rintro rfl
          exact hfirst (mem_keys_of_mem hmem)
        rw [hhead hne, List.nil_append]
        exact ih hrest hmem htail

end Entries

theorem eraseDups_of_forall_eq {α : Type} [BEq α] [LawfulBEq α] {elements : List α} {a : α}
    (hne : elements ≠ []) (h : ∀ element ∈ elements, element = a) : elements.eraseDups = [a] := by
  cases elements with
  | nil => exact absurd rfl hne
  | cons head rest =>
      obtain ⟨rfl, hrest⟩ := List.forall_mem_cons.mp h
      have hnone : rest.filter (fun element => !element == head) = [] := by
        rw [List.filter_eq_nil_iff]
        intro element hmem
        simp [hrest element hmem]
      rw [List.eraseDups_cons, hnone, List.eraseDups_nil]

/-- If the entries of a map yield nothing but their keys, what remains of the yields without
repetitions are the keys of those entries that yield anything. -/
theorem Entries.Distinct.eraseDups_flatMap {α : Type} {entries : Entries α} (h : Distinct entries)
    {yield : String × α → List String}
    (hyield : ∀ entry ∈ entries, ∀ key ∈ yield entry, key = entry.1) :
    (entries.flatMap yield).eraseDups =
      keys (entries.filter fun entry => !(yield entry).isEmpty) := by
  induction entries with
  | nil => rfl
  | cons entry rest ih =>
      obtain ⟨hfirst, hrest⟩ := distinct_cons_iff.mp h
      obtain ⟨hhead, htail⟩ := List.forall_mem_cons.mp hyield
      have hothers : (rest.flatMap yield).removeAll (yield entry) = rest.flatMap yield := by
        rw [List.removeAll, List.filter_eq_self]
        intro key hkey
        obtain ⟨other, hother, hmem⟩ := List.mem_flatMap.mp hkey
        have hne : key ∉ yield entry := by
          intro hboth
          have hsame : other.1 = entry.1 := (htail other hother key hmem).symm.trans (hhead key hboth)
          exact hfirst (hsame ▸ mem_keys_of_mem hother)
        simp [hne]
      rw [List.flatMap_cons, List.eraseDups_append, hothers, ih hrest htail]
      by_cases hnone : yield entry = []
      · simp [hnone]
      · rw [eraseDups_of_forall_eq hnone hhead, List.filter_cons_of_pos (by simp [hnone]), keys_cons,
          List.singleton_append]

namespace Document

variable {document node : Document} {steps : List String}

/-- The step that comes next on the way, if keys lead that way. -/
def stepAfter (keys way : List String) : Option String :=
  if keys <+: way then way[keys.length]? else none

theorem stepAfter_nil (way : List String) : stepAfter [] way = way.head? := by
  simp [stepAfter, List.head?_eq_getElem?]

theorem stepAfter_cons (key : String) (keys : List String) (step : String) (way : List String) :
    stepAfter (key :: keys) (step :: way) = if step = key then stepAfter keys way else none := by
  by_cases h : step = key
  · subst h
    simp [stepAfter, List.cons_prefix_cons]
  · simp [stepAfter, List.cons_prefix_cons, h, Ne.symm h]

/-- Behind the steps to a node, the ways to the leaves go on as they start out from the node. -/
theorem WellFormed.filterMap_stepAfter (h : document.WellFormed)
    (hmem : ⟨steps, node⟩ ∈ document.places) :
    document.leafSteps.filterMap (stepAfter steps) = node.leafSteps.filterMap List.head? := by
  induction steps generalizing document with
  | nil => rw [mem_places_nil_iff.mp hmem, funext stepAfter_nil]
  | cons step rest ih =>
      obtain ⟨child, hchild, hrest⟩ := mem_places_cons_iff.mp hmem
      rw [leafSteps_eq (isContainer_of_mem_children hchild), List.filterMap_flatMap]
      rw [h.distinct_children.flatMap_of_mem hchild]
      · rw [List.filterMap_map, ← ih (h.of_mem_children hchild) hrest]
        congr 1
        funext way
        exact (stepAfter_cons _ _ _ _).trans (if_pos rfl)
      · intro other _ hother
        rw [List.filterMap_map, List.filterMap_eq_nil_iff]
        intro way _
        exact (stepAfter_cons _ _ _ _).trans (if_neg hother)

/-- The ways from a container to the leaves start out by the children that have leaves. -/
theorem WellFormed.eraseDups_heads (h : document.WellFormed) (hcontainer : document.isContainer) :
    (document.leafSteps.filterMap List.head?).eraseDups =
      Entries.keys (document.children.filter fun child => child.2.hasLeaf) := by
  have hheads : ∀ child : String × Document,
      (child.2.leafSteps.map (child.1 :: ·)).filterMap List.head? =
        child.2.leafSteps.map fun _ => child.1 := by
    intro child
    rw [List.filterMap_map]
    exact congrFun List.filterMap_eq_map child.2.leafSteps
  rw [leafSteps_eq hcontainer, List.filterMap_flatMap, funext hheads,
    h.distinct_children.eraseDups_flatMap]
  · congr 2
    funext child
    rw [hasLeaf, List.isEmpty_map, Bool.eq_iff_iff]
    simp only [Bool.not_eq_true', List.isEmpty_eq_false_iff, Ne, leafSteps_eq_nil_iff]
  · intro child _ key hkey
    obtain ⟨-, -, rfl⟩ := List.mem_map.mp hkey
    rfl

end Document

/-- Collections without nested ones are their own registrations. -/
theorem Fields.registrations_of_fields (pairs : List (String × Source)) :
    registrations (pairs.map fun pair => (pair.1, Definition.field pair.2)) =
      pairs.map fun pair => ⟨Path.segments pair.1, pair.1, some pair.2⟩ := by
  induction pairs with
  | nil => rfl
  | cons pair rest ih =>
      rw [List.map_cons, registrations, registrationsBelow, Path.join_root]
      exact congrArg (_ :: ·) ih

namespace Document

/-- The field rules that give each leaf path, in document order, a requirement of its own. -/
def fieldRules (document : Document) (sources : List Source) : Fields :=
  Entries.ofPairs ((document.leafPaths.zip sources).map fun pair => (pair.1, .field pair.2))

/-- What such rules register: each requirement at the steps to its leaf. -/
def leafRegistrations (document : Document) (sources : List Source) : List Registration :=
  (document.leafSteps.zip sources).map fun pair => ⟨pair.1, Path.ofSteps pair.1, some pair.2⟩

variable {document : Document} {sources : List Source}

theorem segments_leafRegistrations (hlength : sources.length = document.leaves.length) :
    (document.leafRegistrations sources).map Registration.segments = document.leafSteps := by
  rw [leafRegistrations, List.map_map]
  exact List.map_fst_zip (Nat.le_of_eq ((length_leafSteps document).trans hlength.symm))

section Rules

variable (hformed : document.WellFormed) (hdotless : document.Dotless)
  (hnamed : document.NamedTop)
include hformed hdotless hnamed

theorem keys_fieldRules (hlength : sources.length = document.leaves.length) :
    document.fieldRules sources =
        (document.leafPaths.zip sources).map (fun pair => (pair.1, .field pair.2)) ∧
      Entries.keys (document.fieldRules sources) = document.leafPaths := by
  have hpaths : document.leafPaths.length ≤ sources.length := by
    rw [leafPaths, List.length_map]
    exact Nat.le_of_eq hlength.symm
  have hkeys : Entries.keys ((document.leafPaths.zip sources).map fun pair =>
      (pair.1, Definition.field pair.2)) = document.leafPaths := by
    rw [Entries.keys_map]
    exact List.map_fst_zip hpaths
  have hself : document.fieldRules sources =
      (document.leafPaths.zip sources).map fun pair => (pair.1, .field pair.2) := by
    refine Entries.ofPairs_of_distinct ?_
    rw [Entries.Distinct, hkeys]
    exact hformed.nodup_leafPaths hdotless hnamed
  exact ⟨hself, hself ▸ hkeys⟩

theorem registrations_fieldRules (hcontainer : document.isContainer = true)
    (hlength : sources.length = document.leaves.length) :
    Fields.registrations (document.fieldRules sources) = document.leafRegistrations sources := by
  rw [(keys_fieldRules hformed hdotless hnamed hlength).1, Fields.registrations_of_fields,
    leafPaths_eq, List.zip_map_left, List.map_map, leafRegistrations]
  refine List.map_congr_left fun pair hpair => ?_
  have hmem : pair.1 ∈ document.leafSteps := (List.of_mem_zip hpair).1
  have hsteps := steps_of_mem_leafSteps hdotless hnamed hmem
  have hne : Path.steps (Path.ofSteps pair.1) ≠ [] := by
    rw [hsteps]
    exact ne_nil_of_mem_leafSteps hcontainer hmem
  have hsegments : Path.segments (Path.ofSteps pair.1) = pair.1 := by
    rw [Path.segments_of_steps_ne_nil hne, hsteps]
  simp only [Function.comp_apply, Prod.map, hsegments]
  rfl

end Rules

/-- Rules for leaves stand side by side, since no leaf stands on the way to another. -/
theorem consistent_leafRegistrations (hformed : document.WellFormed)
    (hlength : sources.length = document.leaves.length)
    (hresolve : ∀ source ∈ sources, ∃ predicate, source.resolve = .ok predicate) :
    Registration.Consistent (document.leafRegistrations sources) := by
  refine Registration.consistent_iff.mpr ⟨?_, ?_⟩
  · intro registration hmem source hsource
    obtain ⟨pair, hpair, rfl⟩ := List.mem_map.mp hmem
    cases hsource
    exact hresolve pair.2 (List.of_mem_zip hpair).2
  · have hapart : (document.leafRegistrations sources).Pairwise
        fun left right => left.segments ≠ right.segments := by
      rw [← List.pairwise_map, segments_leafRegistrations hlength]
      exact hformed.nodup_leafSteps
    have hleaf : ∀ registration ∈ document.leafRegistrations sources,
        registration.segments ∈ document.leafSteps := by
      intro registration hmem
      rw [← segments_leafRegistrations hlength]
      exact List.mem_map.mpr ⟨_, hmem, rfl⟩
    refine hapart.imp_of_mem fun hleft hright hne => ⟨fun _ hahead => ?_, fun _ hahead => ?_⟩
    · exact hne (hformed.eq_of_prefix (hleaf _ hleft) (hleaf _ hright) hahead)
    · exact hne (hformed.eq_of_prefix (hleaf _ hright) (hleaf _ hleft) hahead).symm

/-- The steps to a node with a leaf below it lead to a group of the rules for leaves. -/
theorem groupPlace_leafRegistrations (hlength : sources.length = document.leaves.length)
    {place : Place} (hmem : place ∈ document.places) (hcontainer : place.node.isContainer = true)
    (hleaf : place.node.hasLeaf = true) :
    Registration.GroupPlace (document.leafRegistrations sources) place.steps := by
  have hsome : place.node.leafSteps ≠ [] := by
    rw [Ne, leafSteps_eq_nil_iff]
    simpa [hasLeaf] using hleaf
  obtain ⟨way, hway⟩ := List.exists_mem_of_ne_nil _ hsome
  have hsegments := append_mem_leafSteps hmem hway
  rw [← segments_leafRegistrations hlength] at hsegments
  obtain ⟨registration, hregistration, heq⟩ := List.mem_map.mp hsegments
  refine .inr ⟨registration, hregistration, heq ▸ List.prefix_append _ _, ?_⟩
  intro hend
  rw [heq, List.self_eq_append_right] at hend
  exact absurd hend (ne_nil_of_mem_leafSteps hcontainer hway)

/-- The next segments of the rules for leaves behind the steps to a container are the steps to those
of its children that have leaves. -/
theorem WellFormed.filterMap_nextAfter (h : document.WellFormed)
    (hlength : sources.length = document.leaves.length) {place : Place}
    (hmem : place ∈ document.places) (hcontainer : place.node.isContainer = true) :
    ((document.leafRegistrations sources).filterMap
        (Registration.nextAfter place.steps)).eraseDups =
      Entries.keys (place.node.children.filter fun child => child.2.hasLeaf) := by
  have hsteps : (document.leafRegistrations sources).filterMap
      (Registration.nextAfter place.steps) =
        ((document.leafRegistrations sources).map Registration.segments).filterMap
          (stepAfter place.steps) := by
    rw [List.filterMap_map]
    rfl
  rw [hsteps, segments_leafRegistrations hlength, h.filterMap_stepAfter hmem,
    (h.of_mem_places hmem).eraseDups_heads hcontainer]

/-- **Rules by leaf paths resolve along the document.** Let each leaf of a mapping or sequence, whose
keys can be told from a path, be given a requirement of its own. The collection of these has the leaf
paths for its paths. A walk asks its visitor about leaves under these paths and in this order, under
all of them unless it fails. The collection resolves, and the resulting tree has the requirement of
each leaf under the path of the leaf. Under the path of each container that has a leaf below it the
tree has a mapping, and the keys of the mapping are the steps to those children that are leaves or have
leaves below them, in document order. -/
theorem resolve_fieldRules (hformed : document.WellFormed) (hdotless : document.Dotless)
    (hnamed : document.NamedTop) (hcontainer : document.isContainer = true)
    (hlength : sources.length = document.leaves.length)
    (hresolve : ∀ source ∈ sources, ∃ predicate, source.resolve = .ok predicate) :
    Entries.keys (document.fieldRules sources) = document.leafPaths ∧
      (∀ {σ : Type} (options : WalkOptions) (visitor : Visitor σ) (state : σ),
        (document.walk options visitor.logged (state, [])).2.2.filterMap Call.leafPath? <+:
          Entries.keys (document.fieldRules sources)) ∧
      (∀ {σ : Type} (options : WalkOptions) (visitor : Visitor σ) (state final : σ)
        (output : Document), document.walk options visitor state = (.ok output, final) →
          (document.walk options visitor.logged (state, [])).2.2.filterMap Call.leafPath? =
            Entries.keys (document.fieldRules sources)) ∧
      ∃ tree, Fields.resolve (document.fieldRules sources) = .ok tree ∧
        (∀ path source, (path, source) ∈ document.leafPaths.zip sources →
          ∃ predicate, source.resolve = .ok predicate ∧ tree.get path = some predicate) ∧
        ∀ place ∈ document.places, place.node.isContainer = true → place.node.hasLeaf = true →
          ∃ fields, tree.get place.path = some (.mapping fields) ∧
            Entries.keys fields =
              Entries.keys (place.node.children.filter fun child => child.2.hasLeaf) := by
  have hkeys := (keys_fieldRules hformed hdotless hnamed hlength).2
  rw [hkeys]
  refine ⟨rfl, fun options visitor state => leafPaths_of_walk options visitor state document,
    fun _ _ _ _ _ => leafPaths_of_walk_ok, ?_⟩
  have hregistrations := registrations_fieldRules hformed hdotless hnamed hcontainer hlength
  obtain ⟨tree, htree⟩ := (Fields.resolve_ok_iff (document.fieldRules sources)).mpr
    (hregistrations ▸ consistent_leafRegistrations hformed hlength hresolve)
  obtain ⟨children, rfl, hshows⟩ := Fields.shows_of_resolve htree
  rw [hregistrations] at hshows
  refine ⟨_, htree, ?_, ?_⟩
  · intro path source hmem
    rw [leafPaths_eq, List.zip_map_left] at hmem
    obtain ⟨⟨steps, given⟩, hpair, heq⟩ := List.mem_map.mp hmem
    obtain ⟨rfl, rfl⟩ := Prod.mk.inj heq
    obtain ⟨hsteps, hgiven⟩ := List.of_mem_zip hpair
    obtain ⟨predicate, hpredicate⟩ := hresolve given hgiven
    refine ⟨predicate, hpredicate, ?_⟩
    have hregistration : ⟨steps, Path.ofSteps steps, some given⟩ ∈
        document.leafRegistrations sources := List.mem_map.mpr ⟨_, hpair, rfl⟩
    rw [Predicate.get, steps_of_mem_leafSteps hdotless hnamed hsteps]
    exact hshows.follow_field hregistration (Registration.resolve_of_source rfl hpredicate)
  · intro place hmem hinner hleaf
    obtain ⟨fields, hfollow, hkeys⟩ :=
      hshows.follow_group (groupPlace_leafRegistrations hlength hmem hinner hleaf)
    refine ⟨fields, ?_, ?_⟩
    · rw [Predicate.get, steps_path hdotless hnamed hmem]
      exact hfollow
    · rw [hkeys, hformed.filterMap_nextAfter hlength hmem hinner]

/-- Requirements for the two sizes, the new tag and the rank of the other. -/
def sizesAndTagsSources : List Source :=
  [.predicate (.leaf (.type .integer)), .rules ⟨[.named ⟨"nullable", []⟩]⟩,
    .predicate (.leaf .notBlank), .predicate (.leaf (.type .bool))]

/-- The visitor that leaves all as it is. -/
def keepLeaves : Visitor Unit := .ofLeaf fun _ value => pure value

/-- The empty name and the positions are keys like any other. -/
theorem sizesAndTags_resolved :
    sizesAndTags.WellFormed ∧ sizesAndTags.Dotless ∧ sizesAndTags.NamedTop ∧
      sizesAndTags.isContainer = true ∧
      sizesAndTagsSources.length = sizesAndTags.leaves.length ∧
      (∀ source ∈ sizesAndTagsSources, ∃ predicate, source.resolve = .ok predicate) ∧
      (sizesAndTags.walk .default keepLeaves.logged ((), [])).2.2.filterMap Call.leafPath? =
        Entries.keys (sizesAndTags.fieldRules sizesAndTagsSources) ∧
      ∃ tree, Fields.resolve (sizesAndTags.fieldRules sizesAndTagsSources) = .ok tree ∧
        tree.get "tags.1.1" = some (.leaf (.type .bool)) ∧
        ∃ fields, tree.get "sizes" = some (.mapping fields) ∧ Entries.keys fields = ["", "0"] := by
  have hformed : sizesAndTags.WellFormed := by decide
  have hdotless : sizesAndTags.Dotless := by decide
  have hnamed : sizesAndTags.NamedTop := by
    intro entries h
    cases h
    decide
  have hresolve : ∀ source ∈ sizesAndTagsSources, ∃ predicate, source.resolve = .ok predicate := by
    simp only [sizesAndTagsSources, List.forall_mem_cons]
    exact ⟨⟨_, rfl⟩, ⟨_, rfl⟩, ⟨_, rfl⟩, ⟨_, rfl⟩, by simp⟩
  have hwalk : sizesAndTags.walk .default keepLeaves () = (.ok sizesAndTags, ()) := rfl
  obtain ⟨-, -, hcalls, tree, htree, hleaves, hcontainers⟩ :=
    resolve_fieldRules hformed hdotless hnamed rfl rfl hresolve
  refine ⟨hformed, hdotless, hnamed, rfl, rfl, hresolve, hcalls _ _ _ _ _ hwalk, tree, htree,
    ?_, ?_⟩
  · obtain ⟨predicate, hpredicate, hget⟩ :=
      hleaves "tags.1.1" (.predicate (.leaf (.type .bool))) (List.mem_of_getElem? (i := 3) rfl)
    cases hpredicate
    exact hget
  · exact hcontainers ⟨["sizes"], .map [("", .leaf (.int 1)), ("0", .leaf .null)]⟩
      (List.mem_of_getElem? (i := 1) rfl) rfl rfl

end Document

end DocRules
