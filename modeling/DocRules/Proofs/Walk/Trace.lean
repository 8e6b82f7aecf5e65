import DocRules.Walk

/-! The trace of a document: the containers and leaves that a walk meets, laid out in one list in
the order in which it meets them, each with its path. `play` shows a list of events to a visitor one
after another; `refill` puts the values that a visitor answers back into the places of the leaves. -/

namespace DocRules

/-- What a walk meets: a container that has `depth` containers around it, or a leaf. -/
inductive Event where
  | enter (path : String) (kind : NodeKind) (depth : Nat)
  | leaf (path : String) (value : Value)

namespace Event

/-- The path and value of a leaf. -/
def leaf? : Event → Option (String × Value)
  | enter _ _ _ => none
  | leaf path value => some (path, value)

variable {σ : Type}

/-- Shows an event to a visitor. A container that is nested too deeply is refused before the visitor
is asked; a leaf yields the value that takes its place. -/
def offer (options : WalkOptions) (visitor : Visitor σ) : Event → WalkM σ (List Value)
  | enter path kind depth =>
      if options.maxDepth ≤ depth then throw (.depthExceeded path options.maxDepth)
      else do
        visitor.enter path kind
        return []
  | leaf path value => return [← visitor.leaf path value]

end Event

variable {σ α β : Type}

/-- Shows events to a visitor in order, up to the first error, and collects the values that take the
places of the leaves. -/
def play (options : WalkOptions) (visitor : Visitor σ) : List Event → WalkM σ (List Value)
  | [] => return []
  | event :: rest => do
      let shown ← event.offer options visitor
      return shown ++ (← play options visitor rest)

namespace Document

mutual

/-- The events of the node at a path that has `depth` containers around it, in preorder. -/
def eventsFrom (path : String) (depth : Nat) : Document → List Event
  | .leaf value => [.leaf path value]
  | .seq items => .enter path .sequence depth :: itemEvents path (depth + 1) 0 items
  | .map entries => .enter path .mapping depth :: entryEvents path (depth + 1) entries

/-- The events of the items of the sequence at a path that start at a position. -/
def itemEvents (path : String) (depth position : Nat) : List Document → List Event
  | [] => []
  | item :: rest =>
      eventsFrom (Path.join path (toString position)) depth item
        ++ itemEvents path depth (position + 1) rest

/-- The events of the entries of the mapping at a path. -/
def entryEvents (path : String) (depth : Nat) : List (String × Document) → List Event
  | [] => []
  | (key, node) :: rest =>
      eventsFrom (Path.join path key) depth node ++ entryEvents path depth rest

end

/-- The trace of a document: its containers and leaves in preorder. -/
def events (document : Document) : List Event := document.eventsFrom "" 0

mutual

/-- Puts values into the places of the leaves in order, and answers what is left of them. A leaf for
which there is no value stays. -/
def fill : Document → List Value → Document × List Value
  | .leaf old, [] => (.leaf old, [])
  | .leaf _, value :: rest => (.leaf value, rest)
  | .seq items, values =>
      let filled := fillItems items values
      (.seq filled.1, filled.2)
  | .map entries, values =>
      let filled := fillEntries entries values
      (.map filled.1, filled.2)

/-- Fills the items of a sequence in order. -/
def fillItems : List Document → List Value → List Document × List Value
  | [], values => ([], values)
  | item :: rest, values =>
      let first := fill item values
      let others := fillItems rest first.2
      (first.1 :: others.1, others.2)

/-- Fills the entries of a mapping in order. -/
def fillEntries : List (String × Document) → List Value → List (String × Document) × List Value
  | [], values => ([], values)
  | (key, node) :: rest, values =>
      let first := fill node values
      let others := fillEntries rest first.2
      ((key, first.1) :: others.1, others.2)

end

/-- The document whose leaves hold the given values, the first leaf the first value and so on. -/
def refill (document : Document) (values : List Value) : Document := (document.fill values).1

mutual

theorem leaves_eventsFrom (path : String) (depth : Nat) (document : Document) :
    (document.eventsFrom path depth).filterMap Event.leaf? = document.leavesFrom path := by
  cases document with
  | leaf value => rfl
  | seq items =>
      rw [eventsFrom, leavesFrom, List.filterMap_cons_none rfl, leaves_itemEvents]
  | map entries =>
      rw [eventsFrom, leavesFrom, List.filterMap_cons_none rfl, leaves_entryEvents]

theorem leaves_itemEvents (path : String) (depth position : Nat) (items : List Document) :
    (itemEvents path depth position items).filterMap Event.leaf? =
      itemLeaves path position items := by
  cases items with
  | nil => rfl
  | cons item rest =>
      rw [itemEvents, itemLeaves, List.filterMap_append, leaves_eventsFrom, leaves_itemEvents]

theorem leaves_entryEvents (path : String) (depth : Nat) (entries : List (String × Document)) :
    (entryEvents path depth entries).filterMap Event.leaf? = entryLeaves path entries := by
  cases entries with
  | nil => rfl
  | cons entry rest =>
      obtain ⟨key, node⟩ := entry
      rw [entryEvents, entryLeaves, List.filterMap_append, leaves_eventsFrom, leaves_entryEvents]

end

/-- The leaves of a trace are the leaves of the document. -/
theorem leaves_events (document : Document) :
    document.events.filterMap Event.leaf? = document.leaves :=
  leaves_eventsFrom "" 0 document

theorem mem_leaves_iff (document : Document) (path : String) (value : Value) :
    (path, value) ∈ document.leaves ↔ Event.leaf path value ∈ document.events := by
  rw [← leaves_events, List.mem_filterMap]
  constructor
  · rintro ⟨event, hmem, hleaf⟩
    cases event with
    | enter => simp [Event.leaf?] at hleaf
    | leaf other held =>
        simp only [Event.leaf?, Option.some.injEq, Prod.mk.injEq] at hleaf
        obtain ⟨rfl, rfl⟩ := hleaf
        exact hmem
  · intro hmem
    exact ⟨_, hmem, rfl⟩

private theorem exists_append_of_length {values : List Value} {m n : Nat}
    (h : values.length = m + n) :
    ∃ left right, values = left ++ right ∧ left.length = m ∧ right.length = n :=
  ⟨values.take m, values.drop m, (List.take_append_drop m values).symm,
    by rw [List.length_take]; omega, by rw [List.length_drop]; omega⟩

mutual

/-- A document takes as many values as it has leaves and leaves the others. -/
theorem fill_append (path : String) (document : Document) {values : List Value}
    (h : values.length = (document.leavesFrom path).length) (more : List Value) :
    document.fill (values ++ more) = (document.refill values, more) := by
  cases document with
  | leaf old =>
      obtain ⟨value, rfl⟩ := List.length_eq_one_iff.mp h
      rfl
  | seq items =>
      have hitems := fillItems_append path 0 items h more
      simp only [fill, refill, hitems]
  | map entries =>
      have hentries := fillEntries_append path entries h more
      simp only [fill, refill, hentries]

theorem fillItems_append (path : String) (position : Nat) (items : List Document)
    {values : List Value} (h : values.length = (itemLeaves path position items).length)
    (more : List Value) :
    fillItems items (values ++ more) = ((fillItems items values).1, more) := by
  cases items with
  | nil =>
      have hnil : values = [] := List.length_eq_zero_iff.mp h
      simp [hnil, fillItems]
  | cons item rest =>
      rw [itemLeaves, List.length_append] at h
      obtain ⟨left, right, rfl, hleft, hright⟩ := exists_append_of_length h
      have hitem := fill_append (Path.join path (toString position)) item hleft
      have hrest := fillItems_append path (position + 1) rest hright more
      simp only [fillItems, List.append_assoc, hitem, hrest]

theorem fillEntries_append (path : String) (entries : List (String × Document))
    {values : List Value} (h : values.length = (entryLeaves path entries).length)
    (more : List Value) :
    fillEntries entries (values ++ more) = ((fillEntries entries values).1, more) := by
  cases entries with
  | nil =>
      have hnil : values = [] := List.length_eq_zero_iff.mp h
      simp [hnil, fillEntries]
  | cons entry rest =>
      obtain ⟨key, node⟩ := entry
      rw [entryLeaves, List.length_append] at h
      obtain ⟨left, right, rfl, hleft, hright⟩ := exists_append_of_length h
      have hnode := fill_append (Path.join path key) node hleft
      have hrest := fillEntries_append path rest hright more
      simp only [fillEntries, List.append_assoc, hnode, hrest]

end

mutual

/-- Filling changes nothing but leaf values. -/
theorem sameShape_refill (document : Document) (values : List Value) :
    (document.refill values).sameShape document = true := by
  cases document with
  | leaf old => cases values <;> rfl
  | seq items =>
      show sameShapes (fillItems items values).1 items = true
      exact sameShapes_fillItems items values
  | map entries =>
      show sameEntryShapes (fillEntries entries values).1 entries = true
      exact sameEntryShapes_fillEntries entries values

theorem sameShapes_fillItems (items : List Document) (values : List Value) :
    sameShapes (fillItems items values).1 items = true := by
  cases items with
  | nil => rfl
  | cons item rest =>
      rw [fillItems, sameShapes, Bool.and_eq_true]
      exact ⟨sameShape_refill item values, sameShapes_fillItems rest _⟩

theorem sameEntryShapes_fillEntries (entries : List (String × Document)) (values : List Value) :
    sameEntryShapes (fillEntries entries values).1 entries = true := by
  cases entries with
  | nil => rfl
  | cons entry rest =>
      obtain ⟨key, node⟩ := entry
      rw [fillEntries, sameEntryShapes, beq_self_eq_true, Bool.true_and, Bool.and_eq_true]
      exact ⟨sameShape_refill node values, sameEntryShapes_fillEntries rest _⟩

end

mutual

/-- The leaves of a filled document stand at the old paths and hold the new values. -/
theorem leavesFrom_refill (path : String) (document : Document) {values : List Value}
    (h : values.length = (document.leavesFrom path).length) :
    (document.refill values).leavesFrom path =
      ((document.leavesFrom path).map Prod.fst).zip values := by
  cases document with
  | leaf old =>
      obtain ⟨value, rfl⟩ := List.length_eq_one_iff.mp h
      rfl
  | seq items =>
      show itemLeaves path 0 (fillItems items values).1 = _
      exact itemLeaves_fillItems path 0 items h
  | map entries =>
      show entryLeaves path (fillEntries entries values).1 = _
      exact entryLeaves_fillEntries path entries h

theorem itemLeaves_fillItems (path : String) (position : Nat) (items : List Document)
    {values : List Value} (h : values.length = (itemLeaves path position items).length) :
    itemLeaves path position (fillItems items values).1 =
      ((itemLeaves path position items).map Prod.fst).zip values := by
  cases items with
  | nil => rfl
  | cons item rest =>
      rw [itemLeaves, List.length_append] at h
      obtain ⟨left, right, rfl, hleft, hright⟩ := exists_append_of_length h
      have hitem := fill_append (Path.join path (toString position)) item hleft right
      simp only [fillItems, itemLeaves, hitem, List.map_append]
      rw [leavesFrom_refill _ item hleft, itemLeaves_fillItems path (position + 1) rest hright,
        List.zip_append (by rw [List.length_map, hleft])]

theorem entryLeaves_fillEntries (path : String) (entries : List (String × Document))
    {values : List Value} (h : values.length = (entryLeaves path entries).length) :
    entryLeaves path (fillEntries entries values).1 =
      ((entryLeaves path entries).map Prod.fst).zip values := by
  cases entries with
  | nil => rfl
  | cons entry rest =>
      obtain ⟨key, node⟩ := entry
      rw [entryLeaves, List.length_append] at h
      obtain ⟨left, right, rfl, hleft, hright⟩ := exists_append_of_length h
      have hnode := fill_append (Path.join path key) node hleft right
      simp only [fillEntries, entryLeaves, hnode, List.map_append]
      rw [leavesFrom_refill _ node hleft, entryLeaves_fillEntries path rest hright,
        List.zip_append (by rw [List.length_map, hleft])]

end

end Document

end DocRules
