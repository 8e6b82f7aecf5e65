import DocRules.Proofs.Walk.Trace

/-! A walk is the playing of its trace. The recursion over a document meets its nodes as the flat list
of events does, and the values that the visitor answers go into the places of the leaves. What
playing does is then read off the list: it goes through all events, or up to the first one that
fails. -/

namespace DocRules

variable {σ α β : Type}

section Play

variable (options : WalkOptions) (visitor : Visitor σ)

/-- What follows an event may rely on a leaf yielding one value and a container none. -/
theorem offer_bind_congr (event : Event) {f g : List Value → WalkM σ β}
    (h : ∀ shown, shown.length = event.leaf?.toList.length → f shown = g shown) :
    event.offer options visitor >>= f = event.offer options visitor >>= g := by
  cases event with
  | enter path kind depth =>
      have hnil : f [] = g [] := h [] rfl
      rw [Event.offer]
      split
      · rfl
      · simp only [bind_assoc, pure_bind, hnil]
  | leaf path value =>
      have hone : ∀ answer, f [answer] = g [answer] := fun answer => h [answer] rfl
      simp only [Event.offer, bind_assoc, pure_bind, hone]

/-- What follows a list of events may rely on getting one value for each leaf. -/
theorem play_bind_congr (events : List Event) {f g : List Value → WalkM σ β}
    (h : ∀ values, values.length = (events.filterMap Event.leaf?).length → f values = g values) :
    play options visitor events >>= f = play options visitor events >>= g := by
  induction events generalizing f g with
  | nil =>
      rw [play, pure_bind, pure_bind]
      exact h [] rfl
  | cons event rest ih =>
      simp only [play, bind_assoc, pure_bind]
      apply offer_bind_congr
      intro shown hshown
      apply ih
      intro values hvalues
      apply h
      rw [List.length_append, hshown, hvalues]
      cases event with
      | enter => exact Nat.zero_add _
      | leaf => exact Nat.add_comm _ _

theorem play_append (before after : List Event) :
    play options visitor (before ++ after) = do
      let shown ← play options visitor before
      return shown ++ (← play options visitor after) := by
  induction before with
  | nil => simp [play]
  | cons event rest ih =>
      simp only [List.cons_append, play, ih, bind_assoc, pure_bind, List.append_assoc]

end Play

namespace WalkM

/-- What a step answers when it starts in a state, and the state that it leaves. -/
def execute (step : WalkM σ α) (state : σ) : Except WalkError α × σ := step.run.run state

@[simp] theorem execute_pure (answer : α) (state : σ) :
    (pure answer : WalkM σ α).execute state = (.ok answer, state) := rfl

@[simp] theorem execute_throw (error : WalkError) (state : σ) :
    (throw error : WalkM σ α).execute state = (.error error, state) := rfl

@[simp] theorem execute_modify (f : σ → σ) (state : σ) :
    (modify f : WalkM σ PUnit).execute state = (.ok (), f state) := rfl

@[simp] theorem execute_ofExcept (result : Except WalkError α) (state : σ) :
    (ofExcept result : WalkM σ α).execute state = (result, state) := rfl

/-- The second step goes on from the state that the first one left, unless the first one failed. -/
theorem execute_bind (step : WalkM σ α) (next : α → WalkM σ β) (state : σ) :
    (step >>= next).execute state =
      match step.execute state with
      | (.ok answer, reached) => (next answer).execute reached
      | (.error error, reached) => (.error error, reached) := by
  have hstep : step.run.run state = step.execute state := rfl
  rw [execute, ExceptT.run_bind, StateT.run_bind, hstep]
  cases step.execute state with
  | mk result reached => cases result <;> rfl

theorem execute_map (f : α → β) (step : WalkM σ α) (state : σ) :
    (f <$> step).execute state =
      ((step.execute state).1.map f, (step.execute state).2) := by
  rw [map_eq_pure_bind, execute_bind]
  cases step.execute state with
  | mk result reached => cases result <;> rfl

theorem execute_bind_ok_iff {step : WalkM σ α} {next : α → WalkM σ β} {state final : σ}
    {answer : β} :
    (step >>= next).execute state = (.ok answer, final) ↔
      ∃ first reached, step.execute state = (.ok first, reached) ∧
        (next first).execute reached = (.ok answer, final) := by
  rw [execute_bind]
  cases step.execute state with
  | mk result reached => cases result <;> simp [and_assoc]

theorem execute_bind_error_iff {step : WalkM σ α} {next : α → WalkM σ β} {state final : σ}
    {error : WalkError} :
    (step >>= next).execute state = (.error error, final) ↔
      step.execute state = (.error error, final) ∨
      ∃ first reached, step.execute state = (.ok first, reached) ∧
        (next first).execute reached = (.error error, final) := by
  rw [execute_bind]
  cases step.execute state with
  | mk result reached => cases result <;> simp [and_assoc]

end WalkM

section Runs

variable {options : WalkOptions} {visitor : Visitor σ}

/-- An event that does not fail yields one value if it is a leaf and none otherwise. -/
theorem length_of_offer {event : Event} {state reached : σ} {shown : List Value}
    (h : (event.offer options visitor).execute state = (.ok shown, reached)) :
    shown.length = event.leaf?.toList.length := by
  cases event with
  | enter path kind depth =>
      rw [Event.offer] at h
      split at h
      · cases h
      · obtain ⟨-, middle, -, hnil⟩ := WalkM.execute_bind_ok_iff.mp h
        cases hnil
        rfl
  | leaf path value =>
      obtain ⟨answer, middle, -, hone⟩ := WalkM.execute_bind_ok_iff.mp h
      cases hone
      rfl

/-- A run of an event and others does not fail if neither the event nor the run of the others does.
-/
theorem play_cons_ok_iff {event : Event} {rest : List Event} {state final : σ}
    {answers : List Value} :
    (play options visitor (event :: rest)).execute state = (.ok answers, final) ↔
      ∃ shown others reached, answers = shown ++ others ∧
        (event.offer options visitor).execute state = (.ok shown, reached) ∧
        (play options visitor rest).execute reached = (.ok others, final) := by
  simp only [play, WalkM.execute_bind_ok_iff, WalkM.execute_pure, Prod.mk.injEq, Except.ok.injEq]
  constructor
  · rintro ⟨shown, reached, hoffer, others, last, hrest, rfl, rfl⟩
    exact ⟨shown, others, reached, rfl, hoffer, hrest⟩
  · rintro ⟨shown, others, reached, rfl, hoffer, hrest⟩
    exact ⟨shown, reached, hoffer, others, final, hrest, rfl, rfl⟩

/-- A run of an event and others fails if the event does, or if it does not and the run of the others
does. -/
theorem play_cons_error_iff {event : Event} {rest : List Event} {state final : σ}
    {error : WalkError} :
    (play options visitor (event :: rest)).execute state = (.error error, final) ↔
      (event.offer options visitor).execute state = (.error error, final) ∨
      ∃ shown reached, (event.offer options visitor).execute state = (.ok shown, reached) ∧
        (play options visitor rest).execute reached = (.error error, final) := by
  simp [play, WalkM.execute_bind_error_iff, -bind_pure_comp]

/-- A run that does not fail yields one value for each leaf. -/
theorem length_of_play {events : List Event} {state final : σ} {answers : List Value}
    (h : (play options visitor events).execute state = (.ok answers, final)) :
    answers.length = (events.filterMap Event.leaf?).length := by
  induction events generalizing state answers with
  | nil =>
      cases h
      rfl
  | cons event rest ih =>
      obtain ⟨shown, others, reached, rfl, hoffer, hrest⟩ := play_cons_ok_iff.mp h
      have hshown := length_of_offer hoffer
      have hothers := ih hrest
      rw [List.length_append, hshown, hothers]
      cases event with
      | enter => exact Nat.zero_add _
      | leaf => exact Nat.add_comm _ _

/-- A run fails where an event fails after a run of those before it that did not. What comes after
that event has no part in it. -/
theorem play_error_iff {events : List Event} {state final : σ} {error : WalkError} :
    (play options visitor events).execute state = (.error error, final) ↔
      ∃ before event after answers reached, events = before ++ event :: after ∧
        (play options visitor before).execute state = (.ok answers, reached) ∧
        (event.offer options visitor).execute reached = (.error error, final) := by
  induction events generalizing state with
  | nil =>
      constructor
      · intro h
        cases h
      · rintro ⟨before, event, after, -, -, hsplit, -⟩
        simp at hsplit
  | cons first rest ih =>
      rw [play_cons_error_iff]
      constructor
      · rintro (hfirst | ⟨shown, middle, hfirst, hrest⟩)
        · exact ⟨[], first, rest, [], state, rfl, rfl, hfirst⟩
        · obtain ⟨before, event, after, answers, reached, rfl, hbefore, hevent⟩ := ih.mp hrest
          exact ⟨first :: before, event, after, shown ++ answers, reached, rfl,
            play_cons_ok_iff.mpr ⟨shown, answers, middle, rfl, hfirst, hbefore⟩, hevent⟩
      · rintro ⟨before, event, after, answers, reached, hsplit, hbefore, hevent⟩
        cases before with
        | nil =>
            obtain ⟨rfl, rfl⟩ := List.cons.inj hsplit
            cases hbefore
            exact Or.inl hevent
        | cons head before =>
            obtain ⟨rfl, rfl⟩ := List.cons.inj hsplit
            obtain ⟨shown, others, middle, rfl, hfirst, hothers⟩ := play_cons_ok_iff.mp hbefore
            exact Or.inr ⟨shown, middle, hfirst,
              ih.mpr ⟨before, event, after, others, reached, rfl, hothers, hevent⟩⟩

end Runs

/-- A call of a visitor. What a visitor is asked can be seen from a visitor that writes its calls down
and is otherwise the same. -/
inductive Call where
  | enter (path : String) (kind : NodeKind)
  | leaf (path : String) (value : Value)

/-- The path of a leaf that a visitor is asked about. -/
def Call.leafPath? : Call → Option String
  | enter _ _ => none
  | leaf path _ => some path

/-- The call that shows an event to a visitor. -/
def Event.call : Event → Call
  | enter path kind _ => .enter path kind
  | leaf path value => .leaf path value

/-- The calls that an event leads to: none if it is a container that is nested too deeply. -/
def Event.calls (options : WalkOptions) : Event → List Call
  | enter path kind depth => if options.maxDepth ≤ depth then [] else [.enter path kind]
  | leaf path value => [.leaf path value]

/-- The step that also writes down a call. -/
def WalkM.logging (call : Call) (step : WalkM σ α) : WalkM (σ × List Call) α :=
  ExceptT.mk fun (state, log) =>
    let (result, reached) := step.execute state
    (result, (reached, log ++ [call]))

/-- The visitor that writes down each of its calls. -/
def Visitor.logged (visitor : Visitor σ) : Visitor (σ × List Call) where
  leaf path value := WalkM.logging (.leaf path value) (visitor.leaf path value)
  enter path kind := WalkM.logging (.enter path kind) (visitor.enter path kind)

section Calls

variable {options : WalkOptions} {visitor : Visitor σ}

theorem execute_logging (call : Call) (step : WalkM σ α) (state : σ) (log : List Call) :
    (WalkM.logging call step).execute (state, log) =
      ((step.execute state).1, (step.execute state).2, log ++ [call]) := rfl

theorem offer_logged (event : Event) (state : σ) (log : List Call) :
    (event.offer options visitor.logged).execute (state, log) =
      (((event.offer options visitor).execute state).1,
        ((event.offer options visitor).execute state).2, log ++ event.calls options) := by
  cases event with
  | enter path kind depth =>
      rw [Event.offer, Event.offer, Event.calls]
      split
      · rw [List.append_nil]
        rfl
      · rw [WalkM.execute_bind, WalkM.execute_bind]
        simp only [Visitor.logged, execute_logging]
        cases (visitor.enter path kind).execute state with
        | mk result reached => cases result <;> rfl
  | leaf path value =>
      rw [Event.offer, Event.offer, Event.calls, WalkM.execute_bind, WalkM.execute_bind]
      simp only [Visitor.logged, execute_logging]
      cases (visitor.leaf path value).execute state with
      | mk result reached => cases result <;> rfl

/-- An event that does not fail has reached the visitor. -/
theorem calls_of_offer {event : Event} {state reached : σ} {shown : List Value}
    (h : (event.offer options visitor).execute state = (.ok shown, reached)) :
    event.calls options = [event.call] := by
  cases event with
  | enter path kind depth =>
      rw [Event.offer] at h
      split at h
      · cases h
      · rename_i hdepth
        rw [Event.calls, if_neg hdepth]
        rfl
  | leaf path value => rfl

/-- A run that does not fail has shown every event to the visitor, once and in order. -/
theorem play_logged {events : List Event} {state final : σ} {answers : List Value}
    (h : (play options visitor events).execute state = (.ok answers, final)) (log : List Call) :
    (play options visitor.logged events).execute (state, log) =
      (.ok answers, final, log ++ events.map Event.call) := by
  induction events generalizing state answers log with
  | nil =>
      cases h
      rw [List.map_nil, List.append_nil]
      rfl
  | cons event rest ih =>
      obtain ⟨shown, others, reached, rfl, hoffer, hrest⟩ := play_cons_ok_iff.mp h
      refine play_cons_ok_iff.mpr ⟨shown, others, (reached, log ++ [event.call]), rfl, ?_, ?_⟩
      · rw [offer_logged, hoffer, calls_of_offer hoffer]
      · rw [ih hrest, List.append_assoc, List.map_cons, List.singleton_append]

end Calls

namespace Document

variable (options : WalkOptions) (visitor : Visitor σ)

mutual

theorem walkFrom_eq_play (path : String) (depth : Nat) (document : Document) :
    document.walkFrom options visitor path depth =
      document.refill <$> play options visitor (document.eventsFrom path depth) := by
  cases document with
  | leaf value =>
      simp [walkFrom, eventsFrom, play, Event.offer, refill, fill]
  | seq items =>
      simp only [walkFrom, enterAt, eventsFrom, play, Event.offer, walkItems_eq_play]
      split
      · rfl
      · simp only [map_eq_pure_bind, bind_assoc, pure_bind, List.nil_append]
        rfl
  | map entries =>
      simp only [walkFrom, enterAt, eventsFrom, play, Event.offer, walkEntries_eq_play]
      split
      · rfl
      · simp only [map_eq_pure_bind, bind_assoc, pure_bind, List.nil_append]
        rfl

theorem walkItems_eq_play (path : String) (depth position : Nat) (items : List Document) :
    walkItems options visitor path depth position items =
      (fun values => (fillItems items values).1) <$>
        play options visitor (itemEvents path depth position items) := by
  cases items with
  | nil => simp [walkItems, itemEvents, play, fillItems]
  | cons item rest =>
      simp only [walkItems, itemEvents, play_append, walkFrom_eq_play, walkItems_eq_play,
        map_eq_pure_bind, bind_assoc, pure_bind]
      apply play_bind_congr
      intro values hvalues
      rw [leaves_eventsFrom] at hvalues
      have hitem := fill_append (Path.join path (toString position)) item hvalues
      simp only [fillItems, hitem]

theorem walkEntries_eq_play (path : String) (depth : Nat) (entries : List (String × Document)) :
    walkEntries options visitor path depth entries =
      (fun values => (fillEntries entries values).1) <$>
        play options visitor (entryEvents path depth entries) := by
  cases entries with
  | nil => simp [walkEntries, entryEvents, play, fillEntries]
  | cons entry rest =>
      obtain ⟨key, node⟩ := entry
      simp only [walkEntries, entryEvents, play_append, walkFrom_eq_play, walkEntries_eq_play,
        map_eq_pure_bind, bind_assoc, pure_bind]
      apply play_bind_congr
      intro values hvalues
      rw [leaves_eventsFrom] at hvalues
      have hnode := fill_append (Path.join path key) node hvalues
      simp only [fillEntries, hnode]

end

theorem walk_eq_execute (state : σ) (document : Document) :
    document.walk options visitor state =
      (document.refill <$> play options visitor document.events).execute state := by
  rw [events, ← walkFrom_eq_play]
  rfl

variable {options visitor}

theorem walk_ok_iff {state final : σ} {document output : Document} :
    document.walk options visitor state = (.ok output, final) ↔
      ∃ answers, (play options visitor document.events).execute state = (.ok answers, final) ∧
        output = document.refill answers := by
  rw [walk_eq_execute, WalkM.execute_map]
  cases (play options visitor document.events).execute state with
  | mk result reached =>
      cases result with
      | error error => simp [Except.map]
      | ok answers =>
          constructor
          · intro h
            cases h
            exact ⟨answers, rfl, rfl⟩
          · rintro ⟨_, hrun, rfl⟩
            cases hrun
            rfl

theorem walk_error_iff {state final : σ} {document : Document} {error : WalkError} :
    document.walk options visitor state = (.error error, final) ↔
      (play options visitor document.events).execute state = (.error error, final) := by
  rw [walk_eq_execute, WalkM.execute_map]
  cases (play options visitor document.events).execute state with
  | mk result reached => cases result <;> simp [Except.map]

/-- A walk that does not fail has made the calls for all events. -/
theorem walk_logged_ok {document output : Document} {state final : σ}
    (h : document.walk options visitor state = (.ok output, final)) :
    document.walk options visitor.logged (state, []) =
      (.ok output, final, document.events.map Event.call) := by
  obtain ⟨answers, hplay, houtput⟩ := walk_ok_iff.mp h
  exact walk_ok_iff.mpr ⟨answers, play_logged hplay [], houtput⟩

/-- A walk that is stopped by an event has made the calls for the events before it, and the call for
the event itself unless that is a container that is nested too deeply. -/
theorem walk_logged_error {document : Document} {before after : List Event} {event : Event}
    {state reached final : σ} {answers : List Value} {error : WalkError}
    (hsplit : document.events = before ++ event :: after)
    (hbefore : (play options visitor before).execute state = (.ok answers, reached))
    (hevent : (event.offer options visitor).execute reached = (.error error, final)) :
    document.walk options visitor.logged (state, []) =
      (.error error, final, before.map Event.call ++ event.calls options) := by
  refine walk_error_iff.mpr (play_error_iff.mpr ⟨before, event, after, answers,
    (reached, before.map Event.call), hsplit, play_logged hbefore [], ?_⟩)
  rw [offer_logged, hevent]

/-- The calls for all events ask about the leaves in the order of the document. -/
theorem leafPaths_of_calls (document : Document) :
    (document.events.map Event.call).filterMap Call.leafPath? = document.leafPaths := by
  have hcall : ∀ event : Event, Call.leafPath? event.call = event.leaf?.map Prod.fst := by
    intro event
    cases event <;> rfl
  rw [leafPaths, ← leaves_events, List.filterMap_map, List.map_filterMap]
  exact congrArg (document.events.filterMap ·) (funext hcall)

theorem leafPaths_of_walk_ok {document output : Document} {state final : σ}
    (h : document.walk options visitor state = (.ok output, final)) :
    (document.walk options visitor.logged (state, [])).2.2.filterMap Call.leafPath? =
      document.leafPaths := by
  rw [walk_logged_ok h]
  exact leafPaths_of_calls document

/-- A walk is the playing of the trace of its document, with the answers put into the places of the
leaves. If it does not fail, every event has been shown to the visitor, once and in order, and the
output differs from the document in leaf values only. If it fails, the error is that of the first
event that fails, in the state that those before it led to, and no later event has been shown. -/
theorem walk_eq_play (options : WalkOptions) (visitor : Visitor σ) (state : σ)
    (document : Document) :
    document.walk options visitor state =
        (document.refill <$> play options visitor document.events).execute state ∧
      document.events.filterMap Event.leaf? = document.leaves ∧
      (document.events.map Event.call).filterMap Call.leafPath? = document.leafPaths ∧
      (∀ output final, document.walk options visitor state = (.ok output, final) →
        ∃ answers, (play options visitor document.events).execute state = (.ok answers, final) ∧
          answers.length = document.leafPaths.length ∧
          output = document.refill answers ∧
          output.sameShape document = true ∧
          output.leaves = document.leafPaths.zip answers ∧
          document.walk options visitor.logged (state, []) =
            (.ok output, final, document.events.map Event.call)) ∧
      (∀ error final, document.walk options visitor state = (.error error, final) →
        ∃ before event after answers reached, document.events = before ++ event :: after ∧
          (play options visitor before).execute state = (.ok answers, reached) ∧
          (event.offer options visitor).execute reached = (.error error, final) ∧
          document.walk options visitor.logged (state, []) =
            (.error error, final, before.map Event.call ++ event.calls options)) := by
  refine ⟨walk_eq_execute options visitor state document, leaves_events document,
    leafPaths_of_calls document, ?_, ?_⟩
  · intro output final h
    have hlogged := walk_logged_ok h
    obtain ⟨answers, hplay, rfl⟩ := walk_ok_iff.mp h
    have hlength : answers.length = document.leaves.length := by
      rw [length_of_play hplay, leaves_events]
    refine ⟨answers, hplay, ?_, rfl, sameShape_refill document answers, ?_, hlogged⟩
    · rw [hlength, leafPaths, List.length_map]
    · exact leavesFrom_refill "" document hlength
  · intro error final h
    obtain ⟨before, event, after, answers, reached, hsplit, hbefore, hevent⟩ :=
      play_error_iff.mp (walk_error_iff.mp h)
    exact ⟨before, event, after, answers, reached, hsplit, hbefore, hevent,
      walk_logged_error hsplit hbefore hevent⟩

end Document

end DocRules
