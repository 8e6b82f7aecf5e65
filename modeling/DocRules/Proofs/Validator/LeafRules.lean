import DocRules.Proofs.Validator.Verdict
import DocRules.Proofs.Walk.Depth

/-! Validators with a plain rule for every leaf of a document and for nothing else. Such a validator
never refuses a leaf, and it refuses a container only if a leaf has the same path. In a document whose
keys hold no dots this happens only through empty keys at the top, which leave no trace in a path: an
empty key below the root leads to the path of the root again. -/

namespace DocRules

namespace Path

variable {keys left right : List String}

/-- Empty keys at the top leave no trace in a path. -/
theorem ofSteps_dropWhile (keys : List String) :
    ofSteps (keys.dropWhile (· == "")) = ofSteps keys := by
  induction keys with
  | nil => rfl
  | cons key rest ih =>
      by_cases hkey : key = ""
      · subst hkey
        rw [List.dropWhile_cons_of_pos rfl, ih, ofSteps, ofSteps, List.foldl_cons, join_root]
      · rw [List.dropWhile_cons_of_neg (by simpa using hkey)]

/-- What a path tells of the keys that it leads through are those behind the empty ones at the top. -/
theorem steps_ofSteps_eq_dropWhile (hdots : ∀ key ∈ keys, '.' ∉ key.toList) :
    steps (ofSteps keys) = keys.dropWhile (· == "") := by
  rw [← ofSteps_dropWhile]
  refine steps_ofSteps (fun key hkey => hdots key ((List.dropWhile_sublist _).subset hkey)) ?_
  intro hhead
  have hempty := List.head?_dropWhile_not (· == "") keys
  rw [hhead] at hempty
  cases hempty

/-- Two lists of keys without dots join to one path exactly if they agree behind the empty keys at the
top. -/
theorem ofSteps_eq_iff (hleft : ∀ key ∈ left, '.' ∉ key.toList)
    (hright : ∀ key ∈ right, '.' ∉ key.toList) :
    ofSteps left = ofSteps right ↔ left.dropWhile (· == "") = right.dropWhile (· == "") := by
  constructor
  · intro h
    rw [← steps_ofSteps_eq_dropWhile hleft, h, steps_ofSteps_eq_dropWhile hright]
  · intro h
    rw [← ofSteps_dropWhile left, h, ofSteps_dropWhile]

theorem dropWhile_of_head?_ne (h : keys.head? ≠ some "") : keys.dropWhile (· == "") = keys := by
  cases keys with
  | nil => rfl
  | cons key rest => exact List.dropWhile_cons_of_neg (by simpa using h)

end Path

namespace Document

variable {document : Document}

/-- No container is where a leaf is, if empty keys at the top do not count. -/
def LeavesApart (document : Document) : Prop :=
  ∀ place ∈ document.places, place.node.isContainer = true → ∀ steps ∈ document.leafSteps,
    steps.dropWhile (· == "") ≠ place.steps.dropWhile (· == "")

instance (document : Document) : Decidable document.LeavesApart :=
  inferInstanceAs (Decidable (∀ place ∈ document.places, place.node.isContainer = true →
    ∀ steps ∈ document.leafSteps, steps.dropWhile (· == "") ≠ place.steps.dropWhile (· == "")))

theorem Dotless.not_mem_of_mem_leafSteps (h : document.Dotless) {steps : List String}
    (hmem : steps ∈ document.leafSteps) : ∀ step ∈ steps, '.' ∉ step.toList := by
  obtain ⟨value, hplace⟩ := mem_leafSteps_iff.mp hmem
  exact h.not_mem_steps hplace

/-- The path of a place is that of a leaf if their steps agree behind the empty keys at the top. -/
theorem Dotless.path_mem_leafPaths_iff (h : document.Dotless) {place : Place}
    (hmem : place ∈ document.places) : place.path ∈ document.leafPaths ↔
      ∃ steps ∈ document.leafSteps, steps.dropWhile (· == "") = place.steps.dropWhile (· == "") := by
  rw [leafPaths_eq, List.mem_map]
  refine exists_congr fun steps => and_congr_right fun hleaf => ?_
  exact Path.ofSteps_eq_iff (h.not_mem_of_mem_leafSteps hleaf) (h.not_mem_steps hmem)

theorem Dotless.leavesApart_iff (h : document.Dotless) : document.LeavesApart ↔
    ∀ place ∈ document.places, place.node.isContainer = true → place.path ∉ document.leafPaths := by
  refine forall₂_congr fun place hmem => forall_congr' fun _ => ?_
  rw [h.path_mem_leafPaths_iff hmem]
  simp

/-- Without an empty key at the top every node is where no other is. -/
theorem WellFormed.leavesApart (h : document.WellFormed) (hnamed : document.NamedTop) :
    document.LeavesApart := by
  intro place hmem hcontainer steps hleaf hsame
  obtain ⟨value, hvalue⟩ := mem_leafSteps_iff.mp hleaf
  rw [Path.dropWhile_of_head?_ne (hnamed.head?_ne hvalue),
    Path.dropWhile_of_head?_ne (hnamed.head?_ne hmem)] at hsame
  have hnode := h.follow_of_mem hmem
  rw [← hsame, h.follow_of_mem hvalue, Option.some.injEq] at hnode
  rw [← hnode] at hcontainer
  cases hcontainer

end Document

namespace Validator

variable {validator : Validator} {document : Document}

/-- The validator has a rule without a transformer at the path of each leaf, and no other rule. -/
structure CoversLeaves (validator : Validator) (document : Document) : Prop where
  keys : ∀ path, path ∈ Entries.keys validator.rules ↔ path ∈ document.leafPaths
  plain : ∀ pair ∈ validator.rules, pair.2.transformer = none

/-- Nothing is wrong with a leaf. -/
theorem CoversLeaves.passes_leaf (h : validator.CoversLeaves document) {path : String} {value : Value}
    (hmem : (path, value) ∈ document.leaves) : validator.Passes (.leaf path value) := by
  have hkey : path ∈ Entries.keys validator.rules :=
    (h.keys path).mpr (List.mem_map.mpr ⟨_, hmem, rfl⟩)
  intro error hoffends
  cases hoffends with
  | leafAboveRule hfree _ => exact hfree hkey
  | leafWithoutRule hfree _ => exact hfree hkey
  | declined hrule htransformer _ _ =>
      rw [h.plain _ (Entries.mem_of_lookup hrule)] at htransformer
      cases htransformer

/-- Something is wrong with a node exactly if it is a container with the path of a leaf. -/
theorem CoversLeaves.offends_iff (h : validator.CoversLeaves document)
    (hnesting : document.nesting ≤ validator.options.maxDepth) {place : Place}
    (hmem : place ∈ document.places) {error : WalkError} :
    validator.Offends place.event error ↔
      place.node.isContainer = true ∧ place.path ∈ document.leafPaths ∧
        error = .structuralMismatch place.path "leaf" place.node.kind.name := by
  cases hcontainer : place.node.isContainer with
  | false =>
      obtain ⟨steps, node⟩ := place
      cases node with
      | leaf value =>
          have hleaf : (Path.ofSteps steps, value) ∈ document.leaves :=
            Document.mem_leaves_iff_mem_places.mpr ⟨steps, hmem, rfl⟩
          exact iff_of_false (h.passes_leaf hleaf error) (by simp)
      | seq items => cases hcontainer
      | map entries => cases hcontainer
  | true =>
      have hshallow := Document.nesting_le_iff.mp hnesting place hmem hcontainer
      rw [Place.event_of_isContainer hcontainer, ← h.keys]
      constructor
      · intro hoffends
        cases hoffends with
        | tooDeep hdeep => exact absurd hdeep (Nat.not_le.mpr hshallow)
        | containerWithRule _ hkey => exact ⟨rfl, hkey, rfl⟩
      · rintro ⟨-, hkey, rfl⟩
        exact .containerWithRule hshallow hkey

theorem CoversLeaves.passes_iff (h : validator.CoversLeaves document)
    (hnesting : document.nesting ≤ validator.options.maxDepth) {place : Place}
    (hmem : place ∈ document.places) :
    validator.Passes place.event ↔
      (place.node.isContainer = true → place.path ∉ document.leafPaths) := by
  constructor
  · intro hpasses hcontainer hpath
    exact hpasses _ ((h.offends_iff hnesting hmem).mpr ⟨hcontainer, hpath, rfl⟩)
  · intro hapart error hoffends
    obtain ⟨hcontainer, hpath, -⟩ := (h.offends_iff hnesting hmem).mp hoffends
    exact hapart hcontainer hpath

theorem CoversLeaves.fits_iff (h : validator.CoversLeaves document) (hdotless : document.Dotless)
    (hnesting : document.nesting ≤ validator.options.maxDepth) :
    validator.Fits document ↔ document.LeavesApart := by
  rw [fits_iff_passes, Document.events_eq_places, List.forall_mem_map, hdotless.leavesApart_iff]
  exact forall₂_congr fun place hmem => h.passes_iff hnesting hmem

/-- **A rule for every leaf.** If a validator has a rule without a transformer for each leaf of a
document and no other rule, the keys of the document hold no dots and its containers do not nest too
deeply, then the document has a report exactly if no container is where a leaf is when empty keys at
the top do not count; so it is if no key at the top is empty. Otherwise the error is that the first
container with the path of a leaf should be a leaf; no leaf is ever refused. -/
theorem validate_leaf_rules (hcovers : validator.CoversLeaves document)
    (hdotless : document.Dotless) (hnesting : document.nesting ≤ validator.options.maxDepth) :
    ((∃ report, validator.validate document = .ok report) ↔ document.LeavesApart) ∧
      (document.WellFormed → document.NamedTop →
        ∃ report, validator.validate document = .ok report) ∧
      ∀ error, validator.validate document = .error error ↔
        ∃ before place after, document.places = before ++ place :: after ∧
          (∀ earlier ∈ before, earlier.node.isContainer = true →
            earlier.path ∉ document.leafPaths) ∧
          place.node.isContainer = true ∧ place.path ∈ document.leafPaths ∧
          error = .structuralMismatch place.path "leaf" place.node.kind.name := by
  have hok : (∃ report, validator.validate document = .ok report) ↔ document.LeavesApart := by
    rw [← hcovers.fits_iff hdotless hnesting]
    simp only [validate_ok_iff, exists_and_left, exists_eq, and_true]
  refine ⟨hok, fun hformed hnamed => hok.mpr (hformed.leavesApart hnamed), fun error => ?_⟩
  rw [validate_error_iff, Document.events_eq_places]
  constructor
  · rintro ⟨_, _, _, hsplit, hbefore, hoffends⟩
    obtain ⟨before, more, hplaces, rfl, hmore⟩ := List.map_eq_append_iff.mp hsplit
    obtain ⟨place, after, rfl, rfl, rfl⟩ := List.map_eq_cons_iff.mp hmore
    have hmem : place ∈ document.places := by simp [hplaces]
    refine ⟨before, place, after, hplaces, fun earlier hearlier => ?_,
      (hcovers.offends_iff hnesting hmem).mp hoffends⟩
    have hplace : earlier ∈ document.places := by simp [hplaces, hearlier]
    exact (hcovers.passes_iff hnesting hplace).mp (hbefore _ (List.mem_map_of_mem hearlier))
  · rintro ⟨before, place, after, hplaces, hbefore, hoffends⟩
    have hmem : place ∈ document.places := by simp [hplaces]
    refine ⟨before.map Place.event, place.event, after.map Place.event, by simp [hplaces], ?_,
      (hcovers.offends_iff hnesting hmem).mpr hoffends⟩
    rw [List.forall_mem_map]
    intro earlier hearlier
    have hplace : earlier ∈ document.places := by simp [hplaces, hearlier]
    exact (hcovers.passes_iff hnesting hplace).mpr (hbefore earlier hearlier)

/-- The validator that accepts whatever is at the given paths. -/
def acceptingAt (paths : List String) : Validator where
  rules := paths.map fun path => (path, ⟨.optional none, none⟩)
  evaluator := Evaluator.acceptAll
  options := .default

/-- An empty key at the top and one below. -/
def emptyKeys : Document :=
  .map [("", .map [("a", .leaf (.int 1))]), ("b", .map [("", .leaf (.int 2))])]

/-- An empty key at the top does no harm where its contents are apart from the rest. -/
theorem emptyKeys_validated :
    (acceptingAt ["a", "b."]).CoversLeaves emptyKeys ∧ emptyKeys.Dotless ∧
      emptyKeys.nesting ≤ (acceptingAt ["a", "b."]).options.maxDepth ∧
      ∃ report, (acceptingAt ["a", "b."]).validate emptyKeys = .ok report := by
  have hcovers : (acceptingAt ["a", "b."]).CoversLeaves emptyKeys :=
    ⟨fun _ => Iff.rfl, by simp [acceptingAt]⟩
  have hdotless : emptyKeys.Dotless := by decide
  have hnesting : emptyKeys.nesting ≤ (acceptingAt ["a", "b."]).options.maxDepth := by decide
  exact ⟨hcovers, hdotless, hnesting,
    (validate_leaf_rules hcovers hdotless hnesting).1.mpr (by decide)⟩

/-- A leaf under an empty key at the top. -/
def unnamedLeaf : Document := .map [("", .leaf (.int 1))]

/-- The path of this leaf is that of the root, which then should be a leaf. -/
theorem unnamedLeaf_refused :
    unnamedLeaf.WellFormed ∧ unnamedLeaf.Dotless ∧
      unnamedLeaf.nesting ≤ (acceptingAt [""]).options.maxDepth ∧
      (acceptingAt [""]).CoversLeaves unnamedLeaf ∧
      (acceptingAt [""]).validate unnamedLeaf =
        .error (.structuralMismatch "" "leaf" "mapping") := by
  refine ⟨by decide, by decide, by decide, ⟨fun _ => Iff.rfl, by simp [acceptingAt]⟩, ?_⟩
  rfl

end Validator

end DocRules
