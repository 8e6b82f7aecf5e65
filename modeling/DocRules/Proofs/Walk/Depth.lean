import DocRules.Proofs.Walk.Addressing

/-! The limit on nested containers. A walk goes through exactly if no more containers lie inside one
another than the limit allows. Otherwise it stops at the first container with as many containers around
it as are allowed, after all that comes before. A walk that does not get to such a container is the
same under any larger limit. -/

namespace DocRules

namespace Document

/-- At most so many containers of the document lie inside one another. -/
def NestsAtMost (limit : Nat) (document : Document) : Prop :=
  ∀ place ∈ document.places, place.node.isContainer = true → place.steps.length < limit

mutual

/-- How many containers of a document lie inside one another: none in a leaf, and in a container one
more than in any of its children. -/
def nesting : Document → Nat
  | .leaf _ => 0
  | .seq items => itemsNesting items + 1
  | .map entries => entriesNesting entries + 1

def itemsNesting : List Document → Nat
  | [] => 0
  | item :: rest => max (nesting item) (itemsNesting rest)

def entriesNesting : List (String × Document) → Nat
  | [] => 0
  | (_, node) :: rest => max (nesting node) (entriesNesting rest)

end

variable {document : Document} {limit : Nat}

theorem nestsAtMost_leaf (value : Value) (limit : Nat) : (leaf value).NestsAtMost limit := by
  intro place hmem hcontainer
  rw [List.mem_singleton.mp hmem] at hcontainer
  cases hcontainer

theorem nestsAtMost_iff_of_isContainer (h : document.isContainer = true) :
    document.NestsAtMost limit ↔
      0 < limit ∧ ∀ child ∈ document.children, child.2.NestsAtMost (limit - 1) := by
  constructor
  · intro hnests
    refine ⟨hnests ⟨[], document⟩ (mem_places_nil_iff.mpr rfl) h, ?_⟩
    rintro ⟨step, child⟩ hchild ⟨steps, node⟩ hmem hcontainer
    have hbelow : steps.length + 1 < limit :=
      hnests ⟨step :: steps, node⟩ (mem_places_cons_iff.mpr ⟨child, hchild, hmem⟩) hcontainer
    exact Nat.lt_sub_of_add_lt hbelow
  · rintro ⟨hlimit, hchildren⟩ ⟨steps, node⟩ hmem hcontainer
    cases steps with
    | nil => exact hlimit
    | cons step rest =>
        obtain ⟨child, hchild, hrest⟩ := mem_places_cons_iff.mp hmem
        exact Nat.add_lt_of_lt_sub (hchildren _ hchild _ hrest hcontainer)

theorem itemsNesting_le_iff (position : Nat) (items : List Document) :
    itemsNesting items ≤ limit ↔ ∀ child ∈ numbered position items, child.2.nesting ≤ limit := by
  induction items generalizing position with
  | nil => simp [itemsNesting, numbered]
  | cons item rest ih =>
      simp only [itemsNesting, numbered, Nat.max_le, ih (position + 1), List.forall_mem_cons]

theorem entriesNesting_le_iff (entries : Entries Document) :
    entriesNesting entries ≤ limit ↔ ∀ child ∈ entries, child.2.nesting ≤ limit := by
  induction entries with
  | nil => simp [entriesNesting]
  | cons entry rest ih => simp only [entriesNesting, Nat.max_le, ih, List.forall_mem_cons]

theorem nesting_le_succ_iff (h : document.isContainer = true) :
    document.nesting ≤ limit + 1 ↔ ∀ child ∈ document.children, child.2.nesting ≤ limit := by
  cases document with
  | leaf value => cases h
  | seq items => rw [nesting, Nat.add_le_add_iff_right, itemsNesting_le_iff 0, children]
  | map entries => rw [nesting, Nat.add_le_add_iff_right, entriesNesting_le_iff, children]

theorem nesting_pos_iff : 0 < document.nesting ↔ document.isContainer = true := by
  cases document <;> simp [nesting, isContainer]

/-- The nesting is the least number of containers that lie inside one another at most. -/
theorem nesting_le_iff : document.nesting ≤ limit ↔ document.NestsAtMost limit := by
  induction document using induction_on_containers generalizing limit with
  | leaf value => exact iff_of_true limit.zero_le (nestsAtMost_leaf value limit)
  | container document hcontainer ih =>
      rw [nestsAtMost_iff_of_isContainer hcontainer]
      cases limit with
      | zero =>
          have hpos := nesting_pos_iff.mpr hcontainer
          simp
          omega
      | succ limit =>
          rw [nesting_le_succ_iff hcontainer]
          simp only [Nat.zero_lt_succ, true_and, Nat.add_sub_cancel]
          exact forall₂_congr fun child hchild => ih child hchild

theorem exists_first_child_of_lt_nesting (hcontainer : document.isContainer = true)
    (h : limit + 1 < document.nesting) : ∃ first child later,
      document.children = first ++ child :: later ∧ limit < child.2.nesting ∧
        ∀ other ∈ first, other.2.nesting ≤ limit := by
  cases hfound : document.children.find? (fun child => limit < child.2.nesting) with
  | none =>
      have hshallow : ∀ child ∈ document.children, child.2.nesting ≤ limit := by
        simpa [List.find?_eq_none] using hfound
      have hle := (nesting_le_succ_iff hcontainer).mpr hshallow
      omega
  | some child =>
      obtain ⟨hdeep, first, later, hsplit, hfirst⟩ := List.find?_eq_some_iff_append.mp hfound
      refine ⟨first, child, later, hsplit, of_decide_eq_true hdeep, ?_⟩
      intro other hother
      simpa using hfirst other hother

/-- If more containers lie inside one another than a limit allows, there is a first container with as
many around it as the limit says, and those before it have fewer around them. -/
theorem exists_first_of_lt_nesting (h : limit < document.nesting) :
    ∃ before place after, document.places = before ++ place :: after ∧
      place.node.isContainer = true ∧ place.steps.length = limit ∧
      ∀ earlier ∈ before, earlier.node.isContainer = true → earlier.steps.length < limit := by
  induction document using induction_on_children generalizing limit with
  | step document ih =>
      have hcontainer : document.isContainer = true := nesting_pos_iff.mp (by omega)
      cases limit with
      | zero => exact ⟨[], ⟨[], document⟩, _, places_eq document, hcontainer, rfl, by simp⟩
      | succ limit =>
          -- The container is below the first child in which it can be, and what comes before it is the
          -- root, all that is below earlier children, and the beginning of that child.
          obtain ⟨first, child, later, hsplit, hdeep, hfirst⟩ :=
            exists_first_child_of_lt_nesting hcontainer h
          have hchild : child ∈ document.children := by simp [hsplit]
          obtain ⟨before, place, after, hplaces, hplace, hlength, hbefore⟩ :=
            ih child hchild hdeep
          refine ⟨⟨[], document⟩ :: (first.flatMap (fun child =>
              child.2.places.map (Place.below child.1)) ++ before.map (Place.below child.1)),
            place.below child.1, after.map (Place.below child.1) ++ later.flatMap (fun child =>
              child.2.places.map (Place.below child.1)), ?_, hplace, ?_, ?_⟩
          · rw [places_eq, hsplit, List.flatMap_append, List.flatMap_cons, hplaces]
            simp
          · simp [Place.below, hlength]
          · intro earlier hearlier hnode
            rcases List.mem_cons.mp hearlier with rfl | hbelow
            · simp
            rcases List.mem_append.mp hbelow with hmem | hmem
            · obtain ⟨other, hother, hmem⟩ := List.mem_flatMap.mp hmem
              obtain ⟨inner, hinner, rfl⟩ := List.mem_map.mp hmem
              have hlt := nesting_le_iff.mp (hfirst other hother) inner hinner hnode
              simpa [Place.below] using hlt
            · obtain ⟨inner, hinner, rfl⟩ := List.mem_map.mp hmem
              have hlt := hbefore inner hinner hnode
              simpa [Place.below] using hlt

end Document

variable {σ : Type} {options : WalkOptions} {visitor : Visitor σ}

/-- A visitor that never stops a walk. -/
structure Visitor.NeverFails (visitor : Visitor σ) : Prop where
  leaf : ∀ path value state, ∃ answer reached,
    (visitor.leaf path value).execute state = (.ok answer, reached)
  enter : ∀ path kind state, ∃ reached, (visitor.enter path kind).execute state = (.ok (), reached)

/-- A container that is nested too deeply. -/
def Event.TooDeep (options : WalkOptions) : Event → Prop
  | enter _ _ depth => options.maxDepth ≤ depth
  | leaf _ _ => False

theorem Visitor.NeverFails.offer (h : visitor.NeverFails) {event : Event}
    (hdepth : ¬ event.TooDeep options) (state : σ) :
    ∃ shown reached, (event.offer options visitor).execute state = (.ok shown, reached) := by
  cases event with
  | enter path kind depth =>
      obtain ⟨reached, henter⟩ := h.enter path kind state
      have hshallow : ¬ options.maxDepth ≤ depth := hdepth
      refine ⟨[], reached, ?_⟩
      rw [Event.offer, if_neg hshallow]
      exact WalkM.execute_bind_ok_iff.mpr ⟨(), reached, henter, rfl⟩
  | leaf path value =>
      obtain ⟨answer, reached, hleaf⟩ := h.leaf path value state
      exact ⟨[answer], reached, WalkM.execute_bind_ok_iff.mpr ⟨answer, reached, hleaf, rfl⟩⟩

theorem Visitor.NeverFails.play (h : visitor.NeverFails) {events : List Event}
    (hdepth : ∀ event ∈ events, ¬ event.TooDeep options) (state : σ) :
    ∃ answers reached, (play options visitor events).execute state = (.ok answers, reached) := by
  induction events generalizing state with
  | nil => exact ⟨[], state, rfl⟩
  | cons event rest ih =>
      obtain ⟨hfirst, hrest⟩ := List.forall_mem_cons.mp hdepth
      obtain ⟨shown, reached, hoffer⟩ := h.offer hfirst state
      obtain ⟨others, final, hothers⟩ := ih hrest reached
      exact ⟨shown ++ others, final,
        play_cons_ok_iff.mpr ⟨shown, others, reached, rfl, hoffer, hothers⟩⟩

theorem Place.tooDeep_event_iff (place : Place) : place.event.TooDeep options ↔
    place.node.isContainer = true ∧ options.maxDepth ≤ place.steps.length := by
  obtain ⟨steps, node⟩ := place
  cases node <;>
    simp [Place.event, Place.eventFrom, Event.TooDeep, Document.isContainer]

/-- The event of a container names its path and the number of containers around it. -/
theorem Place.event_of_isContainer {place : Place} (h : place.node.isContainer = true) :
    place.event = .enter place.path place.node.kind place.steps.length := by
  obtain ⟨steps, node⟩ := place
  cases node with
  | leaf value => cases h
  | seq items => simp [Place.event, Place.eventFrom, Place.path, Path.ofSteps]
  | map entries => simp [Place.event, Place.eventFrom, Place.path, Path.ofSteps]

/-- Whether showing events gets to a container that is nested too deeply: none of the events before it
stops it. -/
def ReachesLimit (options : WalkOptions) (visitor : Visitor σ) (state : σ) (events : List Event) :
    Prop :=
  ∃ before event after answers reached, events = before ++ event :: after ∧
    (play options visitor before).execute state = (.ok answers, reached) ∧ event.TooDeep options

theorem offer_enter_of_le {path : String} {kind : NodeKind} {depth : Nat}
    (h : options.maxDepth ≤ depth) (state : σ) :
    ((Event.enter path kind depth).offer options visitor).execute state =
      (.error (.depthExceeded path options.maxDepth), state) := by
  rw [Event.offer, if_pos h, WalkM.execute_throw]

theorem offer_tooDeep {event : Event} (h : event.TooDeep options) (state : σ) :
    ∃ path, (event.offer options visitor).execute state =
      (.error (.depthExceeded path options.maxDepth), state) := by
  cases event with
  | enter path kind depth => exact ⟨path, offer_enter_of_le h state⟩
  | leaf path value => cases h

theorem offer_of_le {larger : WalkOptions} (hle : options.maxDepth ≤ larger.maxDepth) {event : Event}
    (h : ¬ event.TooDeep options) : event.offer larger visitor = event.offer options visitor := by
  cases event with
  | enter path kind depth =>
      have hsmall : ¬ options.maxDepth ≤ depth := h
      have hlarge : ¬ larger.maxDepth ≤ depth := by omega
      rw [Event.offer, Event.offer, if_neg hsmall, if_neg hlarge]
  | leaf path value => rfl

/-- A run that does not get to the limit is the same under a larger one. -/
theorem execute_play_of_le {larger : WalkOptions} (hle : options.maxDepth ≤ larger.maxDepth)
    {events : List Event} {state : σ} (h : ¬ ReachesLimit options visitor state events) :
    (play larger visitor events).execute state = (play options visitor events).execute state := by
  induction events generalizing state with
  | nil => rfl
  | cons event rest ih =>
      have hdepth : ¬ event.TooDeep options :=
        fun hdeep => h ⟨[], event, rest, [], state, rfl, rfl, hdeep⟩
      rw [play, play, offer_of_le hle hdepth, WalkM.execute_bind, WalkM.execute_bind]
      cases hoffer : (event.offer options visitor).execute state with
      | mk result reached =>
          cases result with
          | error error => rfl
          | ok shown =>
              have hrest : ¬ ReachesLimit options visitor reached rest := by
                rintro ⟨before, deep, after, answers, final, rfl, hbefore, hdeep⟩
                exact h ⟨event :: before, deep, after, shown ++ answers, final, rfl,
                  play_cons_ok_iff.mpr ⟨shown, answers, reached, rfl, hoffer, hbefore⟩, hdeep⟩
              simp only [WalkM.execute_bind, ih hrest]

/-- Writing the calls down changes neither the answers nor the visitor's own state. -/
theorem execute_play_logged (options : WalkOptions) (visitor : Visitor σ) (events : List Event)
    (state : σ) (log : List Call) :
    ∃ calls, (play options visitor.logged events).execute (state, log) =
      (((play options visitor events).execute state).1,
        ((play options visitor events).execute state).2, log ++ calls) := by
  induction events generalizing state log with
  | nil => exact ⟨[], by simp [play]⟩
  | cons event rest ih =>
      rw [play, play, WalkM.execute_bind, WalkM.execute_bind, offer_logged]
      cases (event.offer options visitor).execute state with
      | mk result reached =>
          cases result with
          | error error => exact ⟨event.calls options, rfl⟩
          | ok shown =>
              obtain ⟨calls, hcalls⟩ := ih reached (log ++ event.calls options)
              refine ⟨event.calls options ++ calls, ?_⟩
              simp only [WalkM.execute_bind, hcalls]
              cases (play options visitor rest).execute reached with
              | mk others final => cases others <;> simp

theorem ReachesLimit.of_logged {state : σ} {log : List Call} {events : List Event}
    (h : ReachesLimit options visitor.logged (state, log) events) :
    ReachesLimit options visitor state events := by
  obtain ⟨before, event, after, answers, ⟨reached, calls⟩, rfl, hbefore, hdeep⟩ := h
  obtain ⟨more, hmore⟩ := execute_play_logged options visitor before state log
  rw [hbefore, Prod.mk.injEq, Prod.mk.injEq] at hmore
  exact ⟨before, event, after, answers, reached, rfl, Prod.ext hmore.1.symm hmore.2.1.symm, hdeep⟩

namespace Document

/-- A visitor that never fails goes through a document whose containers nest at most as the limit
allows. -/
theorem exists_ok_of_nesting_le (h : visitor.NeverFails) {document : Document}
    (hnesting : document.nesting ≤ options.maxDepth) (state : σ) :
    ∃ output final, document.walk options visitor state = (.ok output, final) := by
  have hshallow : ∀ event ∈ document.events, ¬ event.TooDeep options := by
    rw [events_eq_places, List.forall_mem_map]
    intro place hmem
    rw [Place.tooDeep_event_iff]
    rintro ⟨hcontainer, hdeep⟩
    have hlt := nesting_le_iff.mp hnesting place hmem hcontainer
    omega
  obtain ⟨answers, final, hplay⟩ := h.play hshallow state
  exact ⟨document.refill answers, final, walk_ok_iff.mpr ⟨answers, hplay, rfl⟩⟩

/-- In a document whose containers nest deeper, it stops at the first container at the limit. -/
theorem walk_of_lt_nesting (h : visitor.NeverFails) {document : Document}
    (hnesting : options.maxDepth < document.nesting) (state : σ) :
    ∃ before place after reached, document.places = before ++ place :: after ∧
      place.node.isContainer = true ∧ place.steps.length = options.maxDepth ∧
      (∀ earlier ∈ before, earlier.node.isContainer = true →
        earlier.steps.length < options.maxDepth) ∧
      document.walk options visitor state =
        (.error (.depthExceeded place.path options.maxDepth), reached) ∧
      document.walk options visitor.logged (state, []) =
        (.error (.depthExceeded place.path options.maxDepth), reached,
          before.map fun earlier => earlier.event.call) := by
  obtain ⟨before, place, after, hsplit, hcontainer, hlength, hbefore⟩ :=
    exists_first_of_lt_nesting hnesting
  have hevents : document.events =
      before.map Place.event ++ place.event :: after.map Place.event := by
    rw [events_eq_places, hsplit, List.map_append, List.map_cons]
  have hshallow : ∀ event ∈ before.map Place.event, ¬ event.TooDeep options := by
    rw [List.forall_mem_map]
    intro earlier hmem
    rw [Place.tooDeep_event_iff]
    rintro ⟨hearlier, hdeep⟩
    have hlt := hbefore earlier hmem hearlier
    omega
  obtain ⟨answers, reached, hplay⟩ := h.play hshallow state
  have hdepth : options.maxDepth ≤ place.steps.length := by omega
  have hevent := Place.event_of_isContainer hcontainer
  have hoffer : (place.event.offer options visitor).execute reached =
      (.error (.depthExceeded place.path options.maxDepth), reached) := by
    rw [hevent, offer_enter_of_le hdepth]
  have hcalls : place.event.calls options = [] := by
    rw [hevent, Event.calls, if_pos hdepth]
  refine ⟨before, place, after, reached, hsplit, hcontainer, hlength, hbefore, ?_, ?_⟩
  · exact walk_error_iff.mpr
      (play_error_iff.mpr ⟨_, _, _, answers, reached, hevents, hplay, hoffer⟩)
  · rw [walk_logged_error hevents hplay hoffer, hcalls, List.append_nil, List.map_map]
    rfl

/-- **The limit on nested containers.** For a visitor that never fails, a walk goes through exactly if
the nesting of the document is within the limit. Otherwise the error names the first container that has
as many containers around it as the limit says, after the visitor has been shown exactly what comes
before that container. For any visitor, a walk that gets to a container at the limit fails there, and
one that gets to none has the same outcome and makes the same calls under any larger limit. -/
theorem walk_depth_limit (options : WalkOptions) (visitor : Visitor σ) (state : σ)
    (document : Document) :
    (visitor.NeverFails →
      ((∃ output final, document.walk options visitor state = (.ok output, final)) ↔
        document.nesting ≤ options.maxDepth) ∧
      (options.maxDepth < document.nesting →
        ∃ before place after reached, document.places = before ++ place :: after ∧
          place.node.isContainer = true ∧ place.steps.length = options.maxDepth ∧
          (∀ earlier ∈ before, earlier.node.isContainer = true →
            earlier.steps.length < options.maxDepth) ∧
          document.walk options visitor state =
            (.error (.depthExceeded place.path options.maxDepth), reached) ∧
          document.walk options visitor.logged (state, []) =
            (.error (.depthExceeded place.path options.maxDepth), reached,
              before.map fun earlier => earlier.event.call))) ∧
    (ReachesLimit options visitor state document.events → ∃ path final,
      document.walk options visitor state =
        (.error (.depthExceeded path options.maxDepth), final)) ∧
    ∀ larger : WalkOptions, options.maxDepth ≤ larger.maxDepth →
      ¬ ReachesLimit options visitor state document.events →
        document.walk larger visitor state = document.walk options visitor state ∧
        document.walk larger visitor.logged (state, []) =
          document.walk options visitor.logged (state, []) := by
  refine ⟨fun hvisitor => ⟨⟨?_, ?_⟩, ?_⟩, ?_, ?_⟩
  · rintro ⟨output, final, hok⟩
    rcases Nat.lt_or_ge options.maxDepth document.nesting with hdeep | hle
    · obtain ⟨before, place, after, reached, -, -, -, -, hfails, -⟩ :=
        walk_of_lt_nesting hvisitor hdeep state
      rw [hok] at hfails
      cases hfails
    · exact hle
  · exact fun hle => exists_ok_of_nesting_le hvisitor hle state
  · exact fun hdeep => walk_of_lt_nesting hvisitor hdeep state
  · rintro ⟨before, event, after, answers, reached, hsplit, hplay, hdeep⟩
    obtain ⟨path, hoffer⟩ := offer_tooDeep hdeep reached
    exact ⟨path, reached, walk_error_iff.mpr
      (play_error_iff.mpr ⟨before, event, after, answers, reached, hsplit, hplay, hoffer⟩)⟩
  · intro larger hle hnot
    have hlogged : ¬ ReachesLimit options visitor.logged (state, []) document.events :=
      fun hreaches => hnot hreaches.of_logged
    simp only [walk_eq_execute, WalkM.execute_map, execute_play_of_le hle hnot,
      execute_play_of_le hle hlogged, and_self]

/-- The visitor that counts leaves. -/
def leafCounter : Visitor Nat :=
  .ofLeaf fun _ value => do
    modify (· + 1)
    return value

/-- With a limit of two, the tag with a rank stops the walk after the three leaves before it. -/
theorem sizesAndTags_limits :
    leafCounter.NeverFails ∧ sizesAndTags.nesting = 3 ∧
      (∃ output final, sizesAndTags.walk ⟨3⟩ leafCounter 0 = (.ok output, final)) ∧
      sizesAndTags.walk ⟨2⟩ leafCounter 0 = (.error (.depthExceeded "tags.1" 2), 3) ∧
      (∃ before place after reached, sizesAndTags.places = before ++ place :: after ∧
        sizesAndTags.walk ⟨2⟩ leafCounter 0 = (.error (.depthExceeded place.path 2), reached)) ∧
      ¬ ReachesLimit ⟨3⟩ leafCounter 0 sizesAndTags.events ∧
      sizesAndTags.walk .default leafCounter 0 = sizesAndTags.walk ⟨3⟩ leafCounter 0 := by
  have hvisitor : leafCounter.NeverFails :=
    ⟨fun _ value state => ⟨value, state + 1, rfl⟩, fun _ _ state => ⟨state, rfl⟩⟩
  obtain ⟨hthree, hreaches, hlarger⟩ := walk_depth_limit ⟨3⟩ leafCounter 0 sizesAndTags
  have hok := (hthree hvisitor).1.mpr (by decide)
  have hnot : ¬ ReachesLimit ⟨3⟩ leafCounter 0 sizesAndTags.events := by
    intro hreaches'
    obtain ⟨path, final, hfails⟩ := hreaches hreaches'
    obtain ⟨output, reached, hwalk⟩ := hok
    rw [hwalk] at hfails
    cases hfails
  obtain ⟨before, place, after, reached, hsplit, -, -, -, hfails, -⟩ :=
    ((walk_depth_limit ⟨2⟩ leafCounter 0 sizesAndTags).1 hvisitor).2 (by decide)
  exact ⟨hvisitor, rfl, hok, rfl, ⟨before, place, after, reached, hsplit, hfails⟩, hnot,
    (hlarger .default (by decide) hnot).1⟩

end Document

end DocRules
