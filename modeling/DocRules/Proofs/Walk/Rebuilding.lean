import DocRules.Proofs.Walk.Leaves
import DocRules.Proofs.Walk.Placing
import Mathlib.Data.List.Basic

/-! Rebuilding a document from its leaves. The leaves are placed at their paths one after another, in
document order, beginning with an empty mapping. What comes out is the part of the document that its
leaves tell about: a path does not tell a position in a sequence from a key of a mapping, and it does
not tell about a container that has no leaf below it. -/

namespace DocRules.Document

/-- The document that results from placing leaves at their paths one after another. -/
def ofLeaves (leaves : List (String × Value)) : Document :=
  leaves.foldl (fun built leaf => built.set leaf.1 (.leaf leaf.2)) empty

mutual

/-- The part of a document that its leaves tell about: sequences are mappings from their positions in
decimal, and what has no leaf is left out below the root. -/
def toldByLeaves : Document → Document
  | .leaf value => .leaf value
  | .seq items => .map (itemsToldByLeaves 0 items)
  | .map entries => .map (entriesToldByLeaves entries)

def itemsToldByLeaves (position : Nat) : List Document → Entries Document
  | [] => []
  | item :: rest =>
      if item.hasLeaf then (toString position, toldByLeaves item) :: itemsToldByLeaves (position + 1) rest
      else itemsToldByLeaves (position + 1) rest

def entriesToldByLeaves : List (String × Document) → Entries Document
  | [] => []
  | (key, node) :: rest =>
      if node.hasLeaf then (key, toldByLeaves node) :: entriesToldByLeaves rest
      else entriesToldByLeaves rest

end

/-- Places leaves at the ends of their steps one after another. -/
def placeAll (document : Document) (leaves : List (List String × Value)) : Document :=
  leaves.foldl (fun built leaf => built.setAt leaf.1 (.leaf leaf.2)) document

/-- The entries for children of which those without a leaf are left out. -/
def toldChildren (children : Entries Document) : Entries Document :=
  (children.filter fun child => child.2.hasLeaf).map fun child => (child.1, child.2.toldByLeaves)

variable {document : Document}

theorem itemsToldByLeaves_eq (position : Nat) (items : List Document) :
    itemsToldByLeaves position items = toldChildren (numbered position items) := by
  induction items generalizing position with
  | nil => rfl
  | cons item rest ih =>
      cases hleaf : item.hasLeaf <;> simp [itemsToldByLeaves, numbered, toldChildren, hleaf, ih]

theorem entriesToldByLeaves_eq (entries : Entries Document) :
    entriesToldByLeaves entries = toldChildren entries := by
  induction entries with
  | nil => rfl
  | cons entry rest ih =>
      obtain ⟨key, node⟩ := entry
      cases hleaf : node.hasLeaf <;> simp [entriesToldByLeaves, toldChildren, hleaf, ih]

theorem toldByLeaves_eq (h : document.isContainer = true) :
    document.toldByLeaves = .map (toldChildren document.children) := by
  cases document with
  | leaf value => cases h
  | seq items => rw [toldByLeaves, itemsToldByLeaves_eq, children]
  | map entries => rw [toldByLeaves, entriesToldByLeaves_eq, children]

theorem placeAll_cons (document : Document) (leaf : List String × Value)
    (rest : List (List String × Value)) :
    document.placeAll (leaf :: rest) = (document.setAt leaf.1 (.leaf leaf.2)).placeAll rest := rfl

theorem placeAll_append (document : Document) (first second : List (List String × Value)) :
    document.placeAll (first ++ second) = (document.placeAll first).placeAll second :=
  List.foldl_append

/-- Leaves that are placed behind one key of a mapping change what is under the key. -/
theorem placeAll_below {leaves : List (List String × Value)} (h : leaves ≠ []) (key : String)
    (entries : Entries Document) :
    (map entries).placeAll (leaves.map fun leaf => (key :: leaf.1, leaf.2)) =
      .map (entries.put key (((entries.lookup key).getD empty).placeAll leaves)) := by
  induction leaves generalizing entries with
  | nil => exact absurd rfl h
  | cons leaf rest ih =>
      rw [List.map_cons, placeAll_cons, setAt]
      cases rest with
      | nil => rfl
      | cons next others =>
          rw [ih (List.cons_ne_nil _ _), Entries.lookup_put_self, Entries.put_put, Option.getD_some]
          rfl

/-- The leaves of children with keys of their own come to stand one child after another. -/
theorem placeAll_children {children done : Entries Document} (hdistinct : Entries.Distinct children)
    (hfree : ∀ child ∈ children, child.1 ∉ Entries.keys done)
    (hbuilt : ∀ child ∈ children,
      empty.placeAll child.2.positionedLeaves = child.2.toldByLeaves) :
    (map done).placeAll (children.flatMap fun child =>
        child.2.positionedLeaves.map fun leaf => (child.1 :: leaf.1, leaf.2)) =
      .map (done ++ toldChildren children) := by
  induction children generalizing done with
  | nil => simp [placeAll, toldChildren]
  | cons child rest ih =>
      obtain ⟨key, node⟩ := child
      obtain ⟨hkey, hrest⟩ := Entries.distinct_cons_iff.mp hdistinct
      obtain ⟨hkeyFree, hrestFree⟩ := List.forall_mem_cons.mp hfree
      obtain ⟨hnode, hothers⟩ := List.forall_mem_cons.mp hbuilt
      rw [List.flatMap_cons, placeAll_append]
      cases hleaf : node.hasLeaf with
      | false =>
          have hnone : node.positionedLeaves = [] := by
            by_contra hsome
            simp [hasLeaf_iff.mpr hsome] at hleaf
          have htold : toldChildren ((key, node) :: rest) = toldChildren rest := by
            simp [toldChildren, hleaf]
          rw [hnone, htold]
          exact ih hrest hrestFree hothers
      | true =>
          have hlookup : done.lookup key = none := Entries.lookup_eq_none_iff_not_mem.mpr hkeyFree
          have htold : toldChildren ((key, node) :: rest) =
              (key, node.toldByLeaves) :: toldChildren rest := by
            simp [toldChildren, hleaf]
          rw [placeAll_below (hasLeaf_iff.mp hleaf), hlookup, Option.getD_none, hnode,
            Entries.put_of_not_mem hkeyFree, ih hrest ?_ hothers, htold, List.append_assoc,
            List.singleton_append]
          intro other hmem
          have hne : other.1 ≠ key := by
            rintro rfl
            exact hkey (Entries.mem_keys_of_mem hmem)
          simpa [Entries.keys, hne] using hrestFree other hmem

/-- Placing the leaves of a document at the ends of their steps makes the part that they tell about. -/
theorem WellFormed.placeAll_positionedLeaves (h : document.WellFormed) :
    empty.placeAll document.positionedLeaves = document.toldByLeaves := by
  induction document using induction_on_containers with
  | leaf value => rfl
  | container document hcontainer ih =>
      have hbuilt : ∀ child ∈ document.children,
          empty.placeAll child.2.positionedLeaves = child.2.toldByLeaves :=
        fun child hchild => ih child hchild (h.of_mem_children hchild)
      rw [positionedLeaves_eq hcontainer, toldByLeaves_eq hcontainer]
      exact placeAll_children h.distinct_children (by simp) hbuilt

/-- Where the keys can be told from a path, placing leaves at their paths is placing them at the ends
of their steps. -/
theorem ofLeaves_leaves (hdotless : document.Dotless) (hnamed : document.NamedTop)
    (hcontainer : document.isContainer = true) :
    ofLeaves document.leaves = empty.placeAll document.positionedLeaves := by
  rw [ofLeaves, leaves_eq_positionedLeaves, List.foldl_map, placeAll]
  apply List.foldl_ext
  intro built leaf hmem
  have hleaf := mem_leafSteps_of_mem_positionedLeaves hmem
  have hsteps := steps_of_mem_leafSteps hdotless hnamed hleaf
  have hne : Path.steps (Path.ofSteps leaf.1) ≠ [] := by
    rw [hsteps]
    exact ne_nil_of_mem_leafSteps hcontainer hleaf
  rw [set, Path.segments_of_steps_ne_nil hne, hsteps]

/-- If no container is empty, there is a leaf. -/
theorem hasLeaf_of_filled (h : ∀ place ∈ document.places, place.node.isContainer = true →
    place.node.children ≠ []) : document.hasLeaf = true := by
  induction document using induction_on_containers with
  | leaf value => rfl
  | container document hcontainer ih =>
      obtain ⟨child, hchild⟩ := List.exists_mem_of_ne_nil _
        (h ⟨[], document⟩ (mem_places_nil_iff.mpr rfl) hcontainer)
      have hleaf : child.2.hasLeaf = true := by
        apply ih child hchild
        rintro ⟨steps, node⟩ hmem
        exact h ⟨child.1 :: steps, node⟩ (mem_places_cons_iff.mpr ⟨child.2, hchild, hmem⟩)
      rw [hasLeaf_iff] at hleaf ⊢
      rw [positionedLeaves_eq hcontainer, Ne, List.flatMap_eq_nil_iff]
      intro hnone
      exact hleaf (List.map_eq_nil_iff.mp (hnone child hchild))

/-- Leaves tell all of a document of mappings of which none is empty below the root. -/
theorem toldByLeaves_of_mappings (h : ∀ place ∈ document.places, place.node.kind ≠ .sequence ∧
    (place.steps ≠ [] → place.node.isContainer = true → place.node.children ≠ [])) :
    document.toldByLeaves = document := by
  induction document using induction_on_children with
  | step document ih =>
      cases document with
      | leaf value => rfl
      | seq items => exact absurd rfl (h ⟨[], .seq items⟩ (mem_places_nil_iff.mpr rfl)).1
      | map entries =>
          have hbelow : ∀ child ∈ entries, ∀ place ∈ child.2.places,
              place.node.kind ≠ .sequence ∧
                (place.node.isContainer = true → place.node.children ≠ []) := by
            rintro child hchild ⟨steps, node⟩ hmem
            obtain ⟨hkind, hfilled⟩ := h ⟨child.1 :: steps, node⟩
              (mem_places_cons_iff.mpr ⟨child.2, hchild, hmem⟩)
            exact ⟨hkind, hfilled (List.cons_ne_nil _ _)⟩
          have hkept : entries.filter (fun child => child.2.hasLeaf) = entries := by
            rw [List.filter_eq_self]
            intro child hchild
            exact hasLeaf_of_filled fun place hmem => (hbelow child hchild place hmem).2
          have hsame : entries.map (fun child => (child.1, child.2.toldByLeaves)) =
              entries.map id := by
            apply List.map_congr_left
            intro child hchild
            have htold : child.2.toldByLeaves = child.2 := by
              apply ih child hchild
              intro place hmem
              obtain ⟨hkind, hfilled⟩ := hbelow child hchild place hmem
              exact ⟨hkind, fun _ => hfilled⟩
            rw [htold]
            rfl
          rw [toldByLeaves_eq rfl, children, toldChildren, hkept, hsame, List.map_id]

/-- **Rebuilding from leaves.** Take a mapping or sequence whose keys can be told from a path. Placing
each leaf at its path, in document order and beginning with an empty mapping, rebuilds the part of the
document that the leaves tell about. That part is the document itself if it has no sequences, and no
empty mappings but perhaps its root. -/
theorem ofLeaves_spec (hformed : document.WellFormed) (hdotless : document.Dotless)
    (hnamed : document.NamedTop) (hcontainer : document.isContainer = true) :
    ofLeaves document.leaves = document.toldByLeaves ∧
      ((∀ place ∈ document.places, place.node.kind ≠ .sequence ∧
          (place.steps ≠ [] → place.node.isContainer = true → place.node.children ≠ [])) →
        ofLeaves document.leaves = document) := by
  have hrebuilt : ofLeaves document.leaves = document.toldByLeaves := by
    rw [ofLeaves_leaves hdotless hnamed hcontainer, hformed.placeAll_positionedLeaves]
  refine ⟨hrebuilt, fun hmappings => ?_⟩
  rw [hrebuilt, toldByLeaves_of_mappings hmappings]

/-- Tags of which the second is an empty list, a folder without drafts, and a title. -/
def tagsAndDrafts : Document :=
  .map [("tags", .seq [.leaf (.string "new"), .seq [],
      .map [("rank", .leaf (.int 1)), ("notes", .map [])]]),
    ("drafts", .map [("old", .seq [])]), ("title", .leaf .null)]

/-- What the three leaves tell about it. The position of the third tag is still the third. -/
def tagsAndDraftsTold : Document :=
  .map [("tags", .map [("0", .leaf (.string "new")), ("2", .map [("rank", .leaf (.int 1))])]),
    ("title", .leaf .null)]

theorem tagsAndDrafts_rebuilt :
    tagsAndDrafts.WellFormed ∧ tagsAndDrafts.Dotless ∧ tagsAndDrafts.NamedTop ∧
      tagsAndDrafts.isContainer = true ∧
      ofLeaves tagsAndDrafts.leaves = tagsAndDraftsTold ∧
      ofLeaves tagsAndDraftsTold.leaves = tagsAndDraftsTold := by
  have hformed : tagsAndDrafts.WellFormed := by decide
  have hdotless : tagsAndDrafts.Dotless := by decide
  have hnamed : tagsAndDrafts.NamedTop := by
    intro entries h
    cases h
    decide
  have hnamedTold : tagsAndDraftsTold.NamedTop := by
    intro entries h
    cases h
    decide
  have hmappings : ∀ place ∈ tagsAndDraftsTold.places, place.node.kind ≠ .sequence ∧
      (place.steps ≠ [] → place.node.isContainer = true → place.node.children ≠ []) := by
    decide
  refine ⟨hformed, hdotless, hnamed, rfl, ?_, ?_⟩
  · exact (ofLeaves_spec hformed hdotless hnamed rfl).1
  · exact (ofLeaves_spec (by decide) (by decide) hnamedTold rfl).2 hmappings

end DocRules.Document
