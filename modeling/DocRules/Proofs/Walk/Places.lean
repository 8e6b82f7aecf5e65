import DocRules.Proofs.Walk.Trace

/-! The places of a document: its nodes in preorder, each with the steps that lead to it from the
root. A step is the key of a mapping or the position in a sequence, in decimal. A walk meets the
nodes at these places, in this order, and under the paths that the steps join to. -/

namespace DocRules

/-- A node with the steps that lead to it. -/
structure Place where
  steps : List String
  node : Document

namespace Place

/-- The same node seen from one step further up. -/
def below (step : String) (place : Place) : Place := { place with steps := step :: place.steps }

/-- The path under which a walk meets the node. -/
def path (place : Place) : String := Path.ofSteps place.steps

/-- What a walk meets at a place below the node at a path that has `depth` containers around it. -/
def eventFrom (path : String) (depth : Nat) (place : Place) : Event :=
  match place.node with
  | .leaf value => .leaf (place.steps.foldl Path.join path) value
  | node => .enter (place.steps.foldl Path.join path) node.kind (depth + place.steps.length)

/-- What a walk from the root meets at a place. -/
def event (place : Place) : Event := place.eventFrom "" 0

/-- The path and value of a leaf. -/
def leaf? (place : Place) : Option (String × Value) :=
  place.node.value?.map fun value => (place.path, value)

/-- The steps to a leaf. -/
def leafSteps? (place : Place) : Option (List String) :=
  place.node.value?.map fun _ => place.steps

theorem eventFrom_below (path : String) (depth : Nat) (step : String) (place : Place) :
    (place.below step).eventFrom path depth =
      place.eventFrom (Path.join path step) (depth + 1) := by
  have hdepth : depth + (place.steps.length + 1) = depth + 1 + place.steps.length := by omega
  obtain ⟨steps, node⟩ := place
  cases node with
  | leaf value => rfl
  | seq items => exact congrArg _ hdepth
  | map entries => exact congrArg _ hdepth

theorem leaf?_event (place : Place) : place.event.leaf? = place.leaf? := by
  obtain ⟨steps, node⟩ := place
  cases node <;> rfl

end Place

namespace Document

/-- Items under their positions in decimal, counted from a first one. -/
def numbered (first : Nat) : List Document → Entries Document
  | [] => []
  | item :: rest => (toString first, item) :: numbered (first + 1) rest

/-- The children of a node, each under the step that leads to it. -/
def children : Document → Entries Document
  | .leaf _ => []
  | .seq items => numbered 0 items
  | .map entries => entries

mutual

/-- The nodes of a document in preorder, with the steps to each. -/
def places : Document → List Place
  | .leaf value => [⟨[], .leaf value⟩]
  | .seq items => ⟨[], .seq items⟩ :: itemPlaces 0 items
  | .map entries => ⟨[], .map entries⟩ :: entryPlaces entries

def itemPlaces (position : Nat) : List Document → List Place
  | [] => []
  | item :: rest =>
      (places item).map (Place.below (toString position)) ++ itemPlaces (position + 1) rest

def entryPlaces : List (String × Document) → List Place
  | [] => []
  | (key, node) :: rest => (places node).map (Place.below key) ++ entryPlaces rest

end

/-- The steps to the leaves, in document order. -/
def leafSteps (document : Document) : List (List String) :=
  document.places.filterMap Place.leafSteps?

theorem mem_numbered_iff {first : Nat} {items : List Document} {step : String} {item : Document} :
    (step, item) ∈ numbered first items ↔
      ∃ offset, step = toString (first + offset) ∧ items[offset]? = some item := by
  induction items generalizing first with
  | nil => simp [numbered]
  | cons head rest ih =>
      rw [numbered, List.mem_cons, ih]
      constructor
      · rintro (heq | ⟨offset, rfl, hitem⟩)
        · cases heq
          exact ⟨0, rfl, rfl⟩
        · exact ⟨offset + 1, by rw [Nat.add_right_comm, Nat.add_assoc], hitem⟩
      · rintro ⟨offset, rfl, hitem⟩
        cases offset with
        | zero =>
            cases hitem
            exact .inl rfl
        | succ offset =>
            exact .inr ⟨offset, by rw [Nat.add_right_comm, Nat.add_assoc], hitem⟩

/-- No two items of a sequence are under one step. -/
theorem distinct_numbered (first : Nat) (items : List Document) :
    Entries.Distinct (numbered first items) := by
  induction items generalizing first with
  | nil => exact List.nodup_nil
  | cons item rest ih =>
      refine Entries.distinct_cons_iff.mpr ⟨?_, ih (first + 1)⟩
      intro hmem
      obtain ⟨⟨step, other⟩, hother, hstep⟩ := List.mem_map.mp hmem
      obtain ⟨offset, rfl, -⟩ := mem_numbered_iff.mp hother
      have hposition := Path.toString_position_inj hstep
      omega

theorem sizeOf_lt_of_mem_children {document child : Document} {step : String}
    (h : (step, child) ∈ document.children) : sizeOf child < sizeOf document := by
  cases document with
  | leaf value => cases h
  | seq items =>
      obtain ⟨offset, -, hitem⟩ := mem_numbered_iff.mp h
      have hsize := List.sizeOf_lt_of_mem (List.mem_of_getElem? hitem)
      rw [seq.sizeOf_spec]
      omega
  | map entries =>
      have hsize : sizeOf (step, child) < sizeOf entries := List.sizeOf_lt_of_mem h
      rw [Prod.mk.sizeOf_spec] at hsize
      rw [map.sizeOf_spec]
      omega

/-- What holds of a document if it holds of its children holds of all documents. -/
@[elab_as_elim]
theorem induction_on_children {motive : Document → Prop}
    (step : ∀ document, (∀ child ∈ document.children, motive child.2) → motive document)
    (document : Document) : motive document :=
  step document fun child _ => induction_on_children step child.2
termination_by sizeOf document
decreasing_by exact sizeOf_lt_of_mem_children ‹_›

/-- What holds of leaves, and of a mapping or sequence if it holds of the children, holds of all
documents. -/
@[elab_as_elim]
theorem induction_on_containers {motive : Document → Prop}
    (leaf : ∀ value, motive (.leaf value))
    (container : ∀ document : Document, document.isContainer = true →
      (∀ child ∈ document.children, motive child.2) → motive document)
    (document : Document) : motive document := by
  induction document using induction_on_children with
  | step document ih =>
      cases document with
      | leaf value => exact leaf value
      | seq items => exact container _ rfl ih
      | map entries => exact container _ rfl ih

theorem itemPlaces_eq (position : Nat) (items : List Document) :
    itemPlaces position items = (numbered position items).flatMap fun child =>
      child.2.places.map (Place.below child.1) := by
  induction items generalizing position with
  | nil => rfl
  | cons item rest ih => rw [itemPlaces, ih, numbered, List.flatMap_cons]

theorem entryPlaces_eq (entries : List (String × Document)) :
    entryPlaces entries = entries.flatMap fun child =>
      child.2.places.map (Place.below child.1) := by
  induction entries with
  | nil => rfl
  | cons entry rest ih =>
      obtain ⟨key, node⟩ := entry
      rw [entryPlaces, ih, List.flatMap_cons]

/-- The places of a document are its root and the places of its children, each a step further down. -/
theorem places_eq (document : Document) :
    document.places = ⟨[], document⟩ :: document.children.flatMap fun child =>
      child.2.places.map (Place.below child.1) := by
  cases document with
  | leaf value => rfl
  | seq items => rw [places, itemPlaces_eq, children]
  | map entries => rw [places, entryPlaces_eq, children]

theorem mem_places_nil_iff {document node : Document} :
    ⟨[], node⟩ ∈ document.places ↔ node = document := by
  rw [places_eq, List.mem_cons]
  constructor
  · rintro (hroot | hbelow)
    · exact (Place.mk.inj hroot).2
    · obtain ⟨child, -, hplace⟩ := List.mem_flatMap.mp hbelow
      obtain ⟨place, -, hsteps⟩ := List.mem_map.mp hplace
      cases hsteps
  · rintro rfl
    exact .inl rfl

theorem mem_places_cons_iff {document node : Document} {step : String} {steps : List String} :
    ⟨step :: steps, node⟩ ∈ document.places ↔
      ∃ child, (step, child) ∈ document.children ∧ ⟨steps, node⟩ ∈ child.places := by
  rw [places_eq, List.mem_cons]
  constructor
  · rintro (hroot | hbelow)
    · cases hroot
    · obtain ⟨⟨key, child⟩, hchild, hplace⟩ := List.mem_flatMap.mp hbelow
      obtain ⟨place, hmem, hsteps⟩ := List.mem_map.mp hplace
      cases hsteps
      exact ⟨child, hchild, hmem⟩
  · rintro ⟨child, hchild, hmem⟩
    exact .inr (List.mem_flatMap.mpr ⟨_, hchild, List.mem_map.mpr ⟨_, hmem, rfl⟩⟩)

theorem itemEvents_eq (path : String) (depth position : Nat) (items : List Document) :
    itemEvents path depth position items = (numbered position items).flatMap fun child =>
      child.2.eventsFrom (Path.join path child.1) depth := by
  induction items generalizing position with
  | nil => rfl
  | cons item rest ih => rw [itemEvents, ih, numbered, List.flatMap_cons]

theorem entryEvents_eq (path : String) (depth : Nat) (entries : List (String × Document)) :
    entryEvents path depth entries = entries.flatMap fun child =>
      child.2.eventsFrom (Path.join path child.1) depth := by
  induction entries with
  | nil => rfl
  | cons entry rest ih =>
      obtain ⟨key, node⟩ := entry
      rw [entryEvents, ih, List.flatMap_cons]

theorem eventsFrom_eq (path : String) (depth : Nat) (document : Document) :
    document.eventsFrom path depth = Place.eventFrom path depth ⟨[], document⟩ ::
      document.children.flatMap fun child =>
        child.2.eventsFrom (Path.join path child.1) (depth + 1) := by
  cases document with
  | leaf value => rfl
  | seq items =>
      rw [eventsFrom, itemEvents_eq]
      rfl
  | map entries =>
      rw [eventsFrom, entryEvents_eq]
      rfl

theorem eventsFrom_eq_places (path : String) (depth : Nat) (document : Document) :
    document.eventsFrom path depth = document.places.map (Place.eventFrom path depth) := by
  induction document using induction_on_children generalizing path depth with
  | step document ih =>
      have hbelow : ∀ child ∈ document.children,
          child.2.eventsFrom (Path.join path child.1) (depth + 1) =
            (child.2.places.map (Place.below child.1)).map (Place.eventFrom path depth) := by
        intro child hchild
        rw [ih child hchild, List.map_map]
        exact List.map_congr_left fun place _ =>
          (Place.eventFrom_below path depth child.1 place).symm
      rw [eventsFrom_eq, places_eq, List.map_cons, List.map_flatMap, List.flatMap_def,
        List.flatMap_def, List.map_congr_left hbelow]

/-- A walk meets the nodes of a document at their places and in this order. -/
theorem events_eq_places (document : Document) :
    document.events = document.places.map Place.event :=
  eventsFrom_eq_places "" 0 document

theorem leaves_eq_places (document : Document) :
    document.leaves = document.places.filterMap Place.leaf? := by
  rw [← leaves_events, events_eq_places, List.filterMap_map]
  exact congrArg (document.places.filterMap ·) (funext Place.leaf?_event)

theorem leafPaths_eq (document : Document) :
    document.leafPaths = document.leafSteps.map Path.ofSteps := by
  rw [leafPaths, leaves_eq_places, leafSteps, List.map_filterMap, List.map_filterMap]
  congr 1
  funext place
  rw [Place.leaf?, Place.leafSteps?, Option.map_map, Option.map_map]
  rfl

theorem mem_leaves_iff_mem_places {document : Document} {path : String} {value : Value} :
    (path, value) ∈ document.leaves ↔
      ∃ steps, ⟨steps, .leaf value⟩ ∈ document.places ∧ Path.ofSteps steps = path := by
  rw [leaves_eq_places, List.mem_filterMap]
  constructor
  · rintro ⟨⟨steps, node⟩, hmem, hleaf⟩
    cases node with
    | leaf held =>
        cases hleaf
        exact ⟨steps, hmem, rfl⟩
    | seq items => cases hleaf
    | map entries => cases hleaf
  · rintro ⟨steps, hmem, rfl⟩
    exact ⟨_, hmem, rfl⟩

theorem mem_leafSteps_iff {document : Document} {steps : List String} :
    steps ∈ document.leafSteps ↔ ∃ value, ⟨steps, .leaf value⟩ ∈ document.places := by
  rw [leafSteps, List.mem_filterMap]
  constructor
  · rintro ⟨⟨found, node⟩, hmem, hleaf⟩
    cases node with
    | leaf value =>
        cases hleaf
        exact ⟨value, hmem⟩
    | seq items => cases hleaf
    | map entries => cases hleaf
  · rintro ⟨value, hmem⟩
    exact ⟨_, hmem, rfl⟩

end Document

end DocRules
