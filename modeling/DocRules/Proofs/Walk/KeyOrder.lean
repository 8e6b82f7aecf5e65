import DocRules.Proofs.Walk.Places

/-! Documents that differ in the order of keys. A walk meets the same nodes in them, under the same
paths and at the same depths, only in another order. Replacing each leaf by what its path and its
value give keeps the difference, for the leaves are then replaced in the same way. -/

namespace DocRules

namespace Document

/-- Documents that differ in the order of the keys of their mappings only, at any depth. -/
inductive Reordered : Document → Document → Prop where
  | refl (document : Document) : Reordered document document
  | keys {left right : List (String × Document)} (h : left.Perm right) :
      Reordered (.map left) (.map right)
  | entry (before : List (String × Document)) (key : String) {left right : Document}
      (after : List (String × Document)) (h : Reordered left right) :
      Reordered (.map (before ++ (key, left) :: after)) (.map (before ++ (key, right) :: after))
  | item (before : List Document) {left right : Document} (after : List Document)
      (h : Reordered left right) :
      Reordered (.seq (before ++ left :: after)) (.seq (before ++ right :: after))
  | trans {first second third : Document} (left : Reordered first second)
      (right : Reordered second third) : Reordered first third

mutual

/-- The node at a path with each leaf replaced by what its path and its value give. -/
def mapLeavesFrom (f : String → Value → Value) (path : String) : Document → Document
  | .leaf value => .leaf (f path value)
  | .seq items => .seq (mapItemLeaves f path 0 items)
  | .map entries => .map (mapEntryLeaves f path entries)

def mapItemLeaves (f : String → Value → Value) (path : String) (position : Nat) :
    List Document → List Document
  | [] => []
  | item :: rest =>
      mapLeavesFrom f (Path.join path (toString position)) item
        :: mapItemLeaves f path (position + 1) rest

def mapEntryLeaves (f : String → Value → Value) (path : String) :
    List (String × Document) → List (String × Document)
  | [] => []
  | (key, node) :: rest =>
      (key, mapLeavesFrom f (Path.join path key) node) :: mapEntryLeaves f path rest

end

/-- The document with each leaf replaced by what its path and its value give. -/
def mapLeaves (f : String → Value → Value) (document : Document) : Document :=
  document.mapLeavesFrom f ""

variable (f : String → Value → Value)

mutual

/-- Filling a document with what its leaves give is replacing each leaf by what it gives. -/
theorem refill_map_leavesFrom (path : String) (document : Document) :
    document.refill ((document.leavesFrom path).map fun leaf => f leaf.1 leaf.2) =
      document.mapLeavesFrom f path := by
  cases document with
  | leaf value => rfl
  | seq items => exact congrArg seq (fillItems_map_itemLeaves path 0 items)
  | map entries => exact congrArg map (fillEntries_map_entryLeaves path entries)

theorem fillItems_map_itemLeaves (path : String) (position : Nat) (items : List Document) :
    (fillItems items ((itemLeaves path position items).map fun leaf => f leaf.1 leaf.2)).1 =
      mapItemLeaves f path position items := by
  cases items with
  | nil => rfl
  | cons item rest =>
      rw [itemLeaves, List.map_append, fillItems,
        fill_append (Path.join path (toString position)) item (List.length_map _),
        refill_map_leavesFrom, fillItems_map_itemLeaves, mapItemLeaves]

theorem fillEntries_map_entryLeaves (path : String) (entries : List (String × Document)) :
    (fillEntries entries ((entryLeaves path entries).map fun leaf => f leaf.1 leaf.2)).1 =
      mapEntryLeaves f path entries := by
  cases entries with
  | nil => rfl
  | cons entry rest =>
      obtain ⟨key, node⟩ := entry
      rw [entryLeaves, List.map_append, fillEntries,
        fill_append (Path.join path key) node (List.length_map _), refill_map_leavesFrom,
        fillEntries_map_entryLeaves, mapEntryLeaves]

end

theorem refill_map_leaves (document : Document) :
    document.refill (document.leaves.map fun leaf => f leaf.1 leaf.2) = document.mapLeaves f :=
  refill_map_leavesFrom f "" document

theorem mapItemLeaves_eq (path : String) (position : Nat) (items : List Document) :
    mapItemLeaves f path position items = (numbered position items).map fun child =>
      child.2.mapLeavesFrom f (Path.join path child.1) := by
  induction items generalizing position with
  | nil => rfl
  | cons item rest ih => rw [mapItemLeaves, ih, numbered, List.map_cons]

theorem mapEntryLeaves_eq (path : String) (entries : List (String × Document)) :
    mapEntryLeaves f path entries = entries.map fun child =>
      (child.1, child.2.mapLeavesFrom f (Path.join path child.1)) := by
  induction entries with
  | nil => rfl
  | cons entry rest ih =>
      obtain ⟨key, node⟩ := entry
      rw [mapEntryLeaves, ih, List.map_cons]

theorem numbered_append (first : Nat) (before after : List Document) :
    numbered first (before ++ after) =
      numbered first before ++ numbered (first + before.length) after := by
  induction before generalizing first with
  | nil => rfl
  | cons item rest ih =>
      have hnext : first + 1 + rest.length = first + (rest.length + 1) := by omega
      rw [List.cons_append, numbered, numbered, ih, List.length_cons, hnext, List.cons_append]

variable {left right : Document}

/-- The events below a path in reordered documents are the same in another order. -/
theorem Reordered.eventsFrom_perm (h : left.Reordered right) (path : String) (depth : Nat) :
    (left.eventsFrom path depth).Perm (right.eventsFrom path depth) := by
  induction h generalizing path depth with
  | refl document => exact .refl _
  | keys h =>
      rw [eventsFrom, eventsFrom, entryEvents_eq, entryEvents_eq]
      exact (h.flatMap_right _).cons _
  | entry before key after _ ih =>
      rw [eventsFrom, eventsFrom, entryEvents_eq, entryEvents_eq, List.flatMap_append,
        List.flatMap_append, List.flatMap_cons, List.flatMap_cons]
      exact (((ih (Path.join path key) (depth + 1)).append_right _).append_left _).cons _
  | item before after _ ih =>
      rw [eventsFrom, eventsFrom, itemEvents_eq, itemEvents_eq, numbered_append, numbered_append,
        List.flatMap_append, List.flatMap_append, numbered, numbered, List.flatMap_cons,
        List.flatMap_cons]
      exact (((ih _ (depth + 1)).append_right _).append_left _).cons _
  | trans _ _ left right => exact (left path depth).trans (right path depth)

theorem Reordered.events_perm (h : left.Reordered right) : left.events.Perm right.events :=
  h.eventsFrom_perm "" 0

theorem Reordered.leaves_perm (h : left.Reordered right) : left.leaves.Perm right.leaves := by
  rw [← leaves_events, ← leaves_events]
  exact h.events_perm.filterMap Event.leaf?

theorem Reordered.mapLeavesFrom (h : left.Reordered right) (path : String) :
    (left.mapLeavesFrom f path).Reordered (right.mapLeavesFrom f path) := by
  induction h generalizing path with
  | refl document => exact .refl _
  | keys h =>
      rw [Document.mapLeavesFrom, Document.mapLeavesFrom, mapEntryLeaves_eq, mapEntryLeaves_eq]
      exact .keys (h.map _)
  | entry before key after _ ih =>
      rw [Document.mapLeavesFrom, Document.mapLeavesFrom, mapEntryLeaves_eq, mapEntryLeaves_eq,
        List.map_append, List.map_append, List.map_cons, List.map_cons]
      exact .entry _ key _ (ih (Path.join path key))
  | item before after _ ih =>
      rw [Document.mapLeavesFrom, Document.mapLeavesFrom, mapItemLeaves_eq, mapItemLeaves_eq,
        numbered_append, numbered_append, List.map_append, List.map_append, numbered, numbered,
        List.map_cons, List.map_cons]
      exact .item _ _ (ih _)
  | trans _ _ left right => exact .trans (left path) (right path)

/-- Replacing leaves in reordered documents gives reordered documents. -/
theorem Reordered.mapLeaves (h : left.Reordered right) :
    (left.mapLeaves f).Reordered (right.mapLeaves f) := h.mapLeavesFrom f ""

end Document

end DocRules
