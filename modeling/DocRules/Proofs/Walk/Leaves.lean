import DocRules.Proofs.Walk.Addressing

/-! The leaves of a document by the steps that lead to them. The leaves of a container are those of
its children, each a step further down, and no leaf stands on the way to another. -/

namespace DocRules

/-- The steps to a leaf and its value. -/
def Place.positionedLeaf? (place : Place) : Option (List String × Value) :=
  place.node.value?.map fun value => (place.steps, value)

namespace Document

variable {document node : Document} {steps : List String}

/-- Whether a node is a leaf or has a leaf below it. -/
def hasLeaf (document : Document) : Bool := !document.leaves.isEmpty

/-- The leaves with the steps to each, in document order. -/
def positionedLeaves (document : Document) : List (List String × Value) :=
  document.places.filterMap Place.positionedLeaf?

theorem leafSteps?_below (step : String) (place : Place) :
    (place.below step).leafSteps? = place.leafSteps?.map (step :: ·) := by
  rw [Place.leafSteps?, Place.leafSteps?, Option.map_map]
  rfl

/-- Whatever is picked out of the places of a document, but not its root, is picked out of those of its
children. -/
theorem filterMap_places {α : Type} {pick : Place → Option α} (h : pick ⟨[], document⟩ = none) :
    document.places.filterMap pick = document.children.flatMap fun child =>
      child.2.places.filterMap fun place => pick (place.below child.1) := by
  rw [places_eq, List.filterMap_cons_none h, List.filterMap_flatMap]
  simp only [List.filterMap_map]
  rfl

theorem value?_of_isContainer (h : document.isContainer = true) : document.value? = none := by
  cases document with
  | leaf value => cases h
  | seq items => rfl
  | map entries => rfl

/-- The leaves of a container are those of its children, each a step further down. -/
theorem leafSteps_eq (h : document.isContainer = true) :
    document.leafSteps = document.children.flatMap fun child =>
      child.2.leafSteps.map (child.1 :: ·) := by
  have hroot : Place.leafSteps? ⟨[], document⟩ = none := by
    rw [Place.leafSteps?, value?_of_isContainer h, Option.map_none]
  simp only [leafSteps, filterMap_places hroot, leafSteps?_below, List.map_filterMap]

theorem isContainer_of_mem_children {pair : String × Document} (h : pair ∈ document.children) :
    document.isContainer = true := by
  cases document with
  | leaf value => cases h
  | seq items => rfl
  | map entries => rfl

theorem length_leafSteps (document : Document) :
    document.leafSteps.length = document.leaves.length := by
  have hpaths := congrArg List.length (leafPaths_eq document)
  rw [leafPaths, List.length_map, List.length_map] at hpaths
  exact hpaths.symm

theorem leafSteps_eq_nil_iff : document.leafSteps = [] ↔ document.leaves = [] := by
  rw [← List.length_eq_zero_iff, length_leafSteps, List.length_eq_zero_iff]

/-- The steps from a container to a leaf are some. -/
theorem ne_nil_of_mem_leafSteps (hcontainer : document.isContainer = true)
    (hmem : steps ∈ document.leafSteps) : steps ≠ [] := by
  rw [leafSteps_eq hcontainer] at hmem
  obtain ⟨child, -, hbelow⟩ := List.mem_flatMap.mp hmem
  obtain ⟨way, -, rfl⟩ := List.mem_map.mp hbelow
  exact List.cons_ne_nil _ _

/-- The steps to a leaf below a node go on from the steps to the node. -/
theorem append_mem_leafSteps (h : ⟨steps, node⟩ ∈ document.places) {more : List String}
    (hmore : more ∈ node.leafSteps) : steps ++ more ∈ document.leafSteps := by
  induction steps generalizing document with
  | nil =>
      rw [← mem_places_nil_iff.mp h]
      exact hmore
  | cons step rest ih =>
      obtain ⟨child, hchild, hrest⟩ := mem_places_cons_iff.mp h
      rw [leafSteps_eq (isContainer_of_mem_children hchild)]
      exact List.mem_flatMap.mpr ⟨_, hchild, List.mem_map.mpr ⟨_, ih hrest, rfl⟩⟩

/-- No leaf stands on the way to another. -/
theorem WellFormed.eq_of_prefix (h : document.WellFormed) {left right : List String}
    (hleft : left ∈ document.leafSteps) (hright : right ∈ document.leafSteps)
    (hahead : left <+: right) : left = right := by
  obtain ⟨value, hvalue⟩ := mem_leafSteps_iff.mp hleft
  obtain ⟨other, hother⟩ := mem_leafSteps_iff.mp hright
  obtain ⟨more, rfl⟩ := hahead
  have hfollow := h.follow_of_mem hother
  rw [follow_append, h.follow_of_mem hvalue, Option.bind_some] at hfollow
  cases more with
  | nil => exact (List.append_nil left).symm
  | cons segment rest => cases hfollow

theorem positionedLeaf?_below (step : String) (place : Place) :
    (place.below step).positionedLeaf? =
      place.positionedLeaf?.map fun leaf => (step :: leaf.1, leaf.2) := by
  rw [Place.positionedLeaf?, Place.positionedLeaf?, Option.map_map]
  rfl

theorem positionedLeaves_eq (h : document.isContainer = true) :
    document.positionedLeaves = document.children.flatMap fun child =>
      child.2.positionedLeaves.map fun leaf => (child.1 :: leaf.1, leaf.2) := by
  have hroot : Place.positionedLeaf? ⟨[], document⟩ = none := by
    rw [Place.positionedLeaf?, value?_of_isContainer h, Option.map_none]
  simp only [positionedLeaves, filterMap_places hroot, positionedLeaf?_below, List.map_filterMap]

/-- The leaves with their paths are the leaves with the steps that the paths join. -/
theorem leaves_eq_positionedLeaves (document : Document) :
    document.leaves = document.positionedLeaves.map fun leaf => (Path.ofSteps leaf.1, leaf.2) := by
  rw [leaves_eq_places, positionedLeaves, List.map_filterMap]
  congr 1
  funext place
  rw [Place.leaf?, Place.positionedLeaf?, Option.map_map]
  rfl

theorem mem_leafSteps_of_mem_positionedLeaves {leaf : List String × Value}
    (h : leaf ∈ document.positionedLeaves) : leaf.1 ∈ document.leafSteps := by
  obtain ⟨place, hmem, hleaf⟩ := List.mem_filterMap.mp h
  obtain ⟨value, hvalue, rfl⟩ := Option.map_eq_some_iff.mp hleaf
  refine List.mem_filterMap.mpr ⟨place, hmem, ?_⟩
  rw [Place.leafSteps?, hvalue, Option.map_some]

theorem hasLeaf_iff : document.hasLeaf = true ↔ document.positionedLeaves ≠ [] := by
  rw [hasLeaf, leaves_eq_positionedLeaves, List.isEmpty_map]
  simp

end Document

end DocRules
