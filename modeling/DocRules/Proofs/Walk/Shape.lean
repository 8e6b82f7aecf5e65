import DocRules.Proofs.Walk.Trace

/-! Documents of one shape: those that are equal once the values of their leaves are left out. A walk
meets the same containers in them, at the same places of the trace and equally deep, and leaves at the
same paths; only the values of the leaves differ. -/

namespace DocRules

namespace Event

/-- An event with null for the value of a leaf. -/
def blank : Event → Event
  | enter path kind depth => enter path kind depth
  | leaf path _ => leaf path .null

theorem eq_enter_of_blank {event : Event} {path : String} {kind : NodeKind} {depth : Nat}
    (h : event.blank = enter path kind depth) : event = enter path kind depth := by
  cases event with
  | enter => exact h
  | leaf => cases h

end Event

namespace Document

mutual

/-- The document with null for the value of each leaf: all that documents of one shape have in
common. -/
def blank : Document → Document
  | .leaf _ => .leaf .null
  | .seq items => .seq (blankItems items)
  | .map entries => .map (blankEntries entries)

def blankItems : List Document → List Document
  | [] => []
  | item :: rest => blank item :: blankItems rest

def blankEntries : List (String × Document) → List (String × Document)
  | [] => []
  | (key, node) :: rest => (key, blank node) :: blankEntries rest

end

mutual

/-- Documents are of one shape if they are equal once the values of their leaves are left out. -/
theorem sameShape_iff_blank {left right : Document} :
    left.sameShape right = true ↔ left.blank = right.blank := by
  cases left with
  | leaf value => cases right <;> simp [sameShape, blank]
  | seq items =>
      cases right with
      | leaf other => simp [sameShape, blank]
      | seq others => rw [sameShape, blank, blank, seq.injEq, sameShapes_iff_blankItems]
      | map entries => simp [sameShape, blank]
  | map entries =>
      cases right with
      | leaf other => simp [sameShape, blank]
      | seq items => simp [sameShape, blank]
      | map others => rw [sameShape, blank, blank, map.injEq, sameEntryShapes_iff_blankEntries]

theorem sameShapes_iff_blankItems {left right : List Document} :
    sameShapes left right = true ↔ blankItems left = blankItems right := by
  cases left with
  | nil => cases right <;> simp [sameShapes, blankItems]
  | cons item rest =>
      cases right with
      | nil => simp [sameShapes, blankItems]
      | cons other others =>
          rw [sameShapes, blankItems, blankItems, List.cons.injEq, Bool.and_eq_true,
            sameShape_iff_blank, sameShapes_iff_blankItems]

theorem sameEntryShapes_iff_blankEntries {left right : List (String × Document)} :
    sameEntryShapes left right = true ↔ blankEntries left = blankEntries right := by
  cases left with
  | nil => cases right <;> simp [sameEntryShapes, blankEntries]
  | cons entry rest =>
      cases right with
      | nil => simp [sameEntryShapes, blankEntries]
      | cons other others =>
          rw [sameEntryShapes, blankEntries, blankEntries, List.cons.injEq, Prod.mk.injEq,
            Bool.and_eq_true, Bool.and_eq_true, beq_iff_eq, sameShape_iff_blank,
            sameEntryShapes_iff_blankEntries]

end

/-- Being of one shape is an equivalence. -/
theorem sameShape_equivalence :
    Equivalence fun left right : Document => left.sameShape right = true := by
  simp only [sameShape_iff_blank]
  exact ⟨fun _ => rfl, Eq.symm, Eq.trans⟩

mutual

theorem eventsFrom_blank (path : String) (depth : Nat) (document : Document) :
    document.blank.eventsFrom path depth = (document.eventsFrom path depth).map Event.blank := by
  cases document with
  | leaf value => rfl
  | seq items =>
      rw [blank, eventsFrom, eventsFrom, List.map_cons, itemEvents_blankItems]
      rfl
  | map entries =>
      rw [blank, eventsFrom, eventsFrom, List.map_cons, entryEvents_blankEntries]
      rfl

theorem itemEvents_blankItems (path : String) (depth position : Nat) (items : List Document) :
    itemEvents path depth position (blankItems items) =
      (itemEvents path depth position items).map Event.blank := by
  cases items with
  | nil => rfl
  | cons item rest =>
      rw [blankItems, itemEvents, itemEvents, List.map_append, eventsFrom_blank,
        itemEvents_blankItems]

theorem entryEvents_blankEntries (path : String) (depth : Nat)
    (entries : List (String × Document)) :
    entryEvents path depth (blankEntries entries) =
      (entryEvents path depth entries).map Event.blank := by
  cases entries with
  | nil => rfl
  | cons entry rest =>
      rw [blankEntries, entryEvents, entryEvents, List.map_append, eventsFrom_blank,
        entryEvents_blankEntries]

end

/-- The traces of two documents of one shape agree up to the values of the leaves. -/
theorem blank_events_of_sameShape {left right : Document} (h : left.sameShape right = true) :
    left.events.map Event.blank = right.events.map Event.blank := by
  rw [events, events, ← eventsFrom_blank, ← eventsFrom_blank, sameShape_iff_blank.mp h]

theorem enter_mem_events_of_sameShape {left right : Document} (h : left.sameShape right = true)
    {path : String} {kind : NodeKind} {depth : Nat}
    (hmem : Event.enter path kind depth ∈ left.events) :
    Event.enter path kind depth ∈ right.events := by
  have hblank : Event.enter path kind depth ∈ left.events.map Event.blank :=
    List.mem_map.mpr ⟨_, hmem, rfl⟩
  rw [blank_events_of_sameShape h] at hblank
  obtain ⟨event, hevent, henter⟩ := List.mem_map.mp hblank
  rw [← Event.eq_enter_of_blank henter]
  exact hevent

mutual

theorem fill_leavesFrom (path : String) (document : Document) (more : List Value) :
    document.fill ((document.leavesFrom path).map Prod.snd ++ more) = (document, more) := by
  cases document with
  | leaf value => rfl
  | seq items => rw [leavesFrom, fill, fillItems_itemLeaves]
  | map entries => rw [leavesFrom, fill, fillEntries_entryLeaves]

theorem fillItems_itemLeaves (path : String) (position : Nat) (items : List Document)
    (more : List Value) :
    fillItems items ((itemLeaves path position items).map Prod.snd ++ more) = (items, more) := by
  cases items with
  | nil => rfl
  | cons item rest =>
      rw [itemLeaves, List.map_append, List.append_assoc, fillItems, fill_leavesFrom,
        fillItems_itemLeaves]

theorem fillEntries_entryLeaves (path : String) (entries : List (String × Document))
    (more : List Value) :
    fillEntries entries ((entryLeaves path entries).map Prod.snd ++ more) = (entries, more) := by
  cases entries with
  | nil => rfl
  | cons entry rest =>
      obtain ⟨key, node⟩ := entry
      rw [entryLeaves, List.map_append, List.append_assoc, fillEntries, fill_leavesFrom,
        fillEntries_entryLeaves]

end

/-- A document filled with its own leaves is the same document. -/
theorem refill_leaves (document : Document) :
    document.refill (document.leaves.map Prod.snd) = document := by
  have hfill := fill_leavesFrom "" document []
  rw [List.append_nil] at hfill
  rw [refill, leaves, hfill]

end Document

end DocRules
