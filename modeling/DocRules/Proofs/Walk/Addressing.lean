import DocRules.Proofs.Walk.Places
import DocRules.Proofs.Walk.Sequential

/-! Dot-paths as addresses of nodes. In a document whose keys a path can tell apart, each node is
found again under the path at which a walk meets it, and no two nodes have one path. In the other
direction, whatever a path finds stands at a place: the one that the path spells once the positions
in sequences are written in plain decimal. -/

namespace DocRules

/-- The mapping at a place, if there is one. -/
def Place.mapping? (place : Place) : Option (Entries Document) :=
  match place.node with
  | .map entries => some entries
  | _ => none

namespace Document

/-- The mappings of a document, at all depths. -/
def mappings (document : Document) : List (Entries Document) :=
  document.places.filterMap Place.mapping?

/-- No mapping of the document binds a key twice. Maps that keys are put into never do. -/
def WellFormed (document : Document) : Prop :=
  ∀ entries ∈ document.mappings, Entries.Distinct entries

/-- The keys of the document can be told from a path: none of them holds a dot. -/
def Dotless (document : Document) : Prop :=
  ∀ entries ∈ document.mappings, ∀ key ∈ Entries.keys entries, '.' ∉ key.toList

instance (document : Document) : Decidable document.WellFormed :=
  inferInstanceAs (Decidable (∀ entries ∈ document.mappings, (Entries.keys entries).Nodup))

instance (document : Document) : Decidable document.Dotless :=
  inferInstanceAs (Decidable (∀ entries ∈ document.mappings, ∀ key ∈ Entries.keys entries,
    '.' ∉ key.toList))

/-- No child of the root is under the path of the root. -/
def NamedTop (document : Document) : Prop :=
  ∀ entries, document = .map entries → "" ∉ Entries.keys entries

/-- The form in which a walk writes a segment that is applied to a node: the position in a sequence
in decimal, and any other segment as it is. -/
def canonicalStep (document : Document) (segment : String) : String :=
  match document with
  | .seq _ => ((Path.index? segment).map toString).getD segment
  | _ => segment

/-- The segments that lead from a node to another, each in the form in which a walk writes it. -/
def canonicalSteps (document : Document) (segments : List String) : List String :=
  match segments with
  | [] => []
  | segment :: rest =>
      document.canonicalStep segment ::
        match document.child? segment with
        | some child => child.canonicalSteps rest
        | none => rest

variable {document child node : Document} {step : String} {steps : List String}

theorem mem_mappings_iff {entries : Entries Document} :
    entries ∈ document.mappings ↔ ∃ steps, ⟨steps, .map entries⟩ ∈ document.places := by
  rw [mappings, List.mem_filterMap]
  constructor
  · rintro ⟨⟨steps, node⟩, hmem, hmapping⟩
    cases node with
    | leaf value => cases hmapping
    | seq items => cases hmapping
    | map found =>
        cases hmapping
        exact ⟨steps, hmem⟩
  · rintro ⟨steps, hmem⟩
    exact ⟨_, hmem, rfl⟩

theorem mem_mappings_self (entries : Entries Document) : entries ∈ (map entries).mappings :=
  mem_mappings_iff.mpr ⟨[], mem_places_nil_iff.mpr rfl⟩

/-- The mappings of a child are mappings of the document. -/
theorem mem_mappings_of_child (hchild : (step, child) ∈ document.children)
    {entries : Entries Document} (h : entries ∈ child.mappings) : entries ∈ document.mappings := by
  obtain ⟨steps, hmem⟩ := mem_mappings_iff.mp h
  exact mem_mappings_iff.mpr ⟨step :: steps, mem_places_cons_iff.mpr ⟨child, hchild, hmem⟩⟩

theorem WellFormed.of_mem_children (h : document.WellFormed) (hchild : (step, child) ∈ document.children) :
    child.WellFormed :=
  fun entries hmem => h entries (mem_mappings_of_child hchild hmem)

theorem WellFormed.of_mem_places (h : document.WellFormed) {place : Place}
    (hmem : place ∈ document.places) : place.node.WellFormed := by
  obtain ⟨steps, node⟩ := place
  induction steps generalizing document with
  | nil =>
      rw [mem_places_nil_iff.mp hmem]
      exact h
  | cons step rest ih =>
      obtain ⟨child, hchild, hrest⟩ := mem_places_cons_iff.mp hmem
      exact ih (h.of_mem_children hchild) hrest

theorem Dotless.of_mem_children (h : document.Dotless) (hchild : (step, child) ∈ document.children) :
    child.Dotless :=
  fun entries hmem => h entries (mem_mappings_of_child hchild hmem)

theorem WellFormed.distinct_children (h : document.WellFormed) :
    Entries.Distinct document.children := by
  cases document with
  | leaf value => exact List.nodup_nil
  | seq items => exact distinct_numbered 0 items
  | map entries => exact h entries (mem_mappings_self entries)

theorem WellFormed.child?_of_mem (h : document.WellFormed)
    (hchild : (step, child) ∈ document.children) : document.child? step = some child := by
  cases document with
  | leaf value => cases hchild
  | seq items =>
      obtain ⟨offset, rfl, hitem⟩ := mem_numbered_iff.mp hchild
      rw [Nat.zero_add, child?, Path.index?_toString, Option.bind_some]
      exact hitem
  | map entries => exact h.distinct_children.lookup_of_mem hchild

theorem follow_append (document : Document) (first second : List String) :
    document.follow (first ++ second) =
      (document.follow first).bind fun node => node.follow second := by
  induction first generalizing document with
  | nil => rfl
  | cons segment rest ih =>
      rw [List.cons_append, follow, follow, Option.bind_assoc]
      exact congrArg (document.child? segment).bind (funext fun child => ih child)

/-- The steps to a node lead to it. -/
theorem WellFormed.follow_of_mem (h : document.WellFormed) (hmem : ⟨steps, node⟩ ∈ document.places) :
    document.follow steps = some node := by
  induction steps generalizing document with
  | nil =>
      rw [mem_places_nil_iff.mp hmem]
      rfl
  | cons step rest ih =>
      obtain ⟨child, hchild, hrest⟩ := mem_places_cons_iff.mp hmem
      rw [follow, h.child?_of_mem hchild, Option.bind_some]
      exact ih (h.of_mem_children hchild) hrest

/-- No two nodes stand behind the same steps. -/
theorem WellFormed.nodup_steps (h : document.WellFormed) :
    (document.places.map Place.steps).Nodup := by
  induction document using induction_on_children with
  | step document ih =>
      rw [places_eq, List.map_cons, List.map_flatMap, List.nodup_cons]
      constructor
      · intro hroot
        obtain ⟨child, -, hsteps⟩ := List.mem_flatMap.mp hroot
        simp [Place.below] at hsteps
      · refine List.pairwise_flatMap.mpr ⟨?_, ?_⟩
        · intro child hchild
          rw [List.map_map, List.pairwise_map]
          refine (List.pairwise_map.mp (ih child hchild (h.of_mem_children hchild))).imp ?_
          intro left right hne heq
          exact hne (List.cons.inj heq).2
        · refine (List.pairwise_map.mp h.distinct_children).imp ?_
          intro left right hne leftSteps hleft rightSteps hright heq
          simp only [List.map_map, List.mem_map, Function.comp_apply, Place.below] at hleft hright
          obtain ⟨_, -, rfl⟩ := hleft
          obtain ⟨_, -, rfl⟩ := hright
          exact hne (List.cons.inj heq).1

theorem WellFormed.nodup_leafSteps (h : document.WellFormed) : document.leafSteps.Nodup := by
  refine (List.pairwise_map.mp h.nodup_steps).filterMap Place.leafSteps? ?_
  rintro ⟨leftSteps, left⟩ ⟨rightSteps, right⟩ hne foundLeft hleft foundRight hright rfl
  obtain ⟨-, -, rfl⟩ := Option.map_eq_some_iff.mp hleft
  obtain ⟨-, -, heq⟩ := Option.map_eq_some_iff.mp hright
  exact hne heq.symm

theorem Dotless.not_mem_step (h : document.Dotless) (hchild : (step, child) ∈ document.children) :
    '.' ∉ step.toList := by
  cases document with
  | leaf value => cases hchild
  | seq items =>
      obtain ⟨offset, rfl, -⟩ := mem_numbered_iff.mp hchild
      exact Path.dot_not_mem_toString _
  | map entries => exact h entries (mem_mappings_self entries) step (Entries.mem_keys_of_mem hchild)

theorem Dotless.not_mem_steps (h : document.Dotless) (hmem : ⟨steps, node⟩ ∈ document.places) :
    ∀ step ∈ steps, '.' ∉ step.toList := by
  induction steps generalizing document with
  | nil => simp
  | cons step rest ih =>
      obtain ⟨child, hchild, hrest⟩ := mem_places_cons_iff.mp hmem
      exact List.forall_mem_cons.mpr ⟨h.not_mem_step hchild, ih (h.of_mem_children hchild) hrest⟩

theorem NamedTop.head?_ne (h : document.NamedTop) (hmem : ⟨steps, node⟩ ∈ document.places) :
    steps.head? ≠ some "" := by
  cases steps with
  | nil => simp
  | cons step rest =>
      obtain ⟨child, hchild, -⟩ := mem_places_cons_iff.mp hmem
      rw [List.head?_cons, Ne, Option.some.injEq]
      cases document with
      | leaf value => cases hchild
      | seq items =>
          obtain ⟨offset, rfl, -⟩ := mem_numbered_iff.mp hchild
          exact Path.toString_ne_root _
      | map entries =>
          rintro rfl
          exact h entries rfl (Entries.mem_keys_of_mem hchild)

section Plain

variable (hdotless : document.Dotless) (hnamed : document.NamedTop)
include hdotless hnamed

/-- The steps to a node can be told from its path. -/
theorem steps_path {place : Place} (hmem : place ∈ document.places) :
    Path.steps place.path = place.steps :=
  Path.steps_ofSteps (hdotless.not_mem_steps hmem) (hnamed.head?_ne hmem)

/-- A node is found under its path. -/
theorem WellFormed.get_path (h : document.WellFormed) {place : Place}
    (hmem : place ∈ document.places) : document.get place.path = some place.node := by
  rw [get, steps_path hdotless hnamed hmem]
  exact h.follow_of_mem hmem

theorem steps_of_mem_leafSteps (hmem : steps ∈ document.leafSteps) :
    Path.steps (Path.ofSteps steps) = steps := by
  obtain ⟨value, hplace⟩ := mem_leafSteps_iff.mp hmem
  exact steps_path hdotless hnamed hplace

theorem WellFormed.nodup_leafPaths (h : document.WellFormed) : document.leafPaths.Nodup := by
  rw [leafPaths_eq]
  refine List.pairwise_map.mpr (h.nodup_leafSteps.imp_of_mem ?_)
  intro left right hleft hright hne heq
  rw [← steps_of_mem_leafSteps hdotless hnamed hleft, heq,
    steps_of_mem_leafSteps hdotless hnamed hright] at hne
  exact hne rfl

end Plain

/-- The child under a segment stands under the canonical form of the segment. -/
theorem mem_children_of_child? {segment : String} (h : document.child? segment = some child) :
    (document.canonicalStep segment, child) ∈ document.children := by
  cases document with
  | leaf value => cases h
  | seq items =>
      obtain ⟨position, hposition, hitem⟩ := Option.bind_eq_some_iff.mp h
      rw [canonicalStep, hposition]
      exact mem_numbered_iff.mpr ⟨position, by rw [Nat.zero_add]; rfl, hitem⟩
  | map entries => exact Entries.mem_of_lookup h

/-- What segments lead to stands at the place that their canonical forms spell. -/
theorem mem_places_of_follow {segments : List String} (h : document.follow segments = some node) :
    ⟨document.canonicalSteps segments, node⟩ ∈ document.places := by
  induction segments generalizing document with
  | nil => exact mem_places_nil_iff.mpr (Option.some.inj h).symm
  | cons segment rest ih =>
      obtain ⟨child, hchild, hrest⟩ := Option.bind_eq_some_iff.mp h
      rw [canonicalSteps, hchild]
      exact mem_places_cons_iff.mpr ⟨child, mem_children_of_child? hchild, ih hrest⟩

theorem leafAt_eq_some_iff {path : String} {value : Value} :
    document.leafAt path = some value ↔ document.get path = some (.leaf value) := by
  rw [leafAt, Option.bind_eq_some_iff]
  constructor
  · rintro ⟨node, hget, hvalue⟩
    cases node with
    | leaf held =>
        cases hvalue
        exact hget
    | seq items => cases hvalue
    | map entries => cases hvalue
  · intro hget
    exact ⟨_, hget, rfl⟩

variable {σ : Type}

theorem calls_initial (options : WalkOptions) (event : Event) (more : List Call) :
    event.calls options <+: event.call :: more := by
  cases event with
  | enter path kind depth =>
      rw [Event.calls]
      split
      · exact List.nil_prefix
      · exact ⟨more, rfl⟩
  | leaf path value => exact ⟨more, rfl⟩

theorem calls_eq_places (document : Document) :
    document.events.map Event.call = document.places.map fun place => place.event.call := by
  rw [events_eq_places, List.map_map]
  rfl

/-- The calls of a walk are those for the events of the document, in order and up to where the walk
stopped. -/
theorem walk_logged_initial (options : WalkOptions) (visitor : Visitor σ) (state : σ)
    (document : Document) :
    (document.walk options visitor.logged (state, [])).2.2 <+: document.events.map Event.call := by
  cases hwalk : document.walk options visitor state with
  | mk result final =>
      cases result with
      | ok output => exact walk_logged_ok hwalk ▸ List.prefix_rfl
      | error error =>
          obtain ⟨before, event, after, answers, reached, hsplit, hbefore, hevent⟩ :=
            play_error_iff.mp (walk_error_iff.mp hwalk)
          rw [walk_logged_error hsplit hbefore hevent, hsplit, List.map_append, List.map_cons]
          exact (List.prefix_append_right_inj _).mpr (calls_initial options event _)

/-- A walk asks about leaves in the order of the document. -/
theorem leafPaths_of_walk (options : WalkOptions) (visitor : Visitor σ) (state : σ)
    (document : Document) :
    (document.walk options visitor.logged (state, [])).2.2.filterMap Call.leafPath? <+:
      document.leafPaths := by
  rw [← leafPaths_of_calls]
  exact (walk_logged_initial options visitor state document).filterMap Call.leafPath?

/-- **Paths address nodes.** In a document whose keys can be told from a path, the leaves have
different paths and no container has the path of a leaf. A leaf is found under its path, and so is
every container that a walk shows: the calls of a walk are those for the places in order, all of them
unless the walk fails, and the path of each place finds the node there. Conversely, a path that finds a leaf spells the path of that leaf
once each segment that is applied to a sequence is written as the decimal of its position. -/
theorem paths_address_nodes (hformed : document.WellFormed) (hdotless : document.Dotless)
    (hnamed : document.NamedTop) :
    document.leafPaths.Nodup ∧
      (∀ place ∈ document.places, place.node.isContainer = true →
        place.path ∉ document.leafPaths) ∧
      (∀ path value, (path, value) ∈ document.leaves → document.leafAt path = some value) ∧
      document.events = document.places.map Place.event ∧
      (∀ {σ : Type} (options : WalkOptions) (visitor : Visitor σ) (state : σ),
        (document.walk options visitor.logged (state, [])).2.2 <+:
          document.places.map fun place => place.event.call) ∧
      (∀ {σ : Type} (options : WalkOptions) (visitor : Visitor σ) (state final : σ)
        (output : Document), document.walk options visitor state = (.ok output, final) →
          document.walk options visitor.logged (state, []) =
            (.ok output, final, document.places.map fun place => place.event.call)) ∧
      (∀ place ∈ document.places, document.get place.path = some place.node) ∧
      ∀ path value, document.leafAt path = some value →
        (".".intercalate (document.canonicalSteps (Path.steps path)), value) ∈ document.leaves := by
  have hget : ∀ place ∈ document.places, document.get place.path = some place.node :=
    fun place hmem => hformed.get_path hdotless hnamed hmem
  have hleaf : ∀ path value, (path, value) ∈ document.leaves →
      document.get path = some (.leaf value) := by
    intro path value hmem
    obtain ⟨steps, hplace, rfl⟩ := mem_leaves_iff_mem_places.mp hmem
    exact hget _ hplace
  rw [← calls_eq_places]
  refine ⟨hformed.nodup_leafPaths hdotless hnamed, ?_, ?_, events_eq_places document, ?_, ?_, hget,
    ?_⟩
  · intro place hmem hcontainer hpath
    obtain ⟨⟨_, value⟩, hvalue, rfl⟩ := List.mem_map.mp hpath
    have hsame := hget place hmem
    rw [hleaf _ value hvalue, Option.some.injEq] at hsame
    rw [← hsame] at hcontainer
    cases hcontainer
  · exact fun path value hmem => leafAt_eq_some_iff.mpr (hleaf path value hmem)
  · exact fun options visitor state => walk_logged_initial options visitor state document
  · exact fun options visitor state final output => walk_logged_ok
  · intro path value hat
    have hplace := mem_places_of_follow (leafAt_eq_some_iff.mp hat)
    refine mem_leaves_iff_mem_places.mpr ⟨_, hplace, ?_⟩
    exact Path.ofSteps_eq_intercalate (hdotless.not_mem_steps hplace) (hnamed.head?_ne hplace)

/-- Sizes by name, one of them the empty name, and tags of which one has a rank. -/
def sizesAndTags : Document :=
  .map [("sizes", .map [("", .leaf (.int 1)), ("0", .leaf .null)]),
    ("tags", .seq [.leaf (.string "new"), .map [("1", .leaf (.bool true))]])]

/-- The rank is found under two spellings of its path, and stands under the one with plain digits. -/
theorem sizesAndTags_found :
    sizesAndTags.WellFormed ∧ sizesAndTags.Dotless ∧ sizesAndTags.NamedTop ∧
      sizesAndTags.leafPaths = ["sizes.", "sizes.0", "tags.0", "tags.1.1"] ∧
      sizesAndTags.leafPaths.Nodup ∧
      sizesAndTags.leafAt "sizes." = some (.int 1) ∧
      sizesAndTags.leafAt "tags.+01.1" = some (.bool true) ∧
      ("tags.1.1", .bool true) ∈ sizesAndTags.leaves := by
  have hformed : sizesAndTags.WellFormed := by decide
  have hdotless : sizesAndTags.Dotless := by decide
  have hnamed : sizesAndTags.NamedTop := by
    intro entries h
    cases h
    decide
  obtain ⟨hnodup, -, hleaf, -, -, -, -, hspelled⟩ := paths_address_nodes hformed hdotless hnamed
  have hfound : sizesAndTags.leafAt "tags.+01.1" = some (.bool true) := by rfl
  have hpath : ".".intercalate (sizesAndTags.canonicalSteps (Path.steps "tags.+01.1")) =
      "tags.1.1" := by decide
  have hrank := hspelled _ _ hfound
  rw [hpath] at hrank
  have hsize : ("sizes.", .int 1) ∈ sizesAndTags.leaves := List.mem_cons_self
  exact ⟨hformed, hdotless, hnamed, by decide, hnodup, hleaf _ _ hsize, hfound, hrank⟩

end Document

end DocRules
