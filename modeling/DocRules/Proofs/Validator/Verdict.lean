import DocRules.Proofs.Walk.Sequential
import DocRules.Validator

/-! The verdict of a validator on a document. What is wrong with one node is said by `Offends`, and
what a document has to be for a validator by `Fits`, both by the rules alone and without a walk. The
main statement is that a validation has a report exactly for the documents that fit, that the report
is put together from the verdicts on the single leaves, and that the error is otherwise that of the
first node in preorder that offends. -/

namespace DocRules

namespace Validator

variable (validator : Validator)

/-- Some registered path goes on from a path by a dot and more. Below the root is every registered
path. -/
def RuleBelow (path : String) : Prop :=
  ∃ rest, Path.join path rest ∈ Entries.keys validator.rules

theorem hasRulesBelow_iff (path : String) :
    validator.hasRulesBelow path = true ↔ validator.RuleBelow path := by
  rw [hasRulesBelow, RuleBelow]
  split
  · rename_i hroot
    subst hroot
    cases hrules : validator.rules with
    | nil => simp
    | cons pair rest => exact iff_of_true rfl ⟨pair.1, by simp⟩
  · rename_i hroot
    rw [List.any_eq_true]
    constructor
    · rintro ⟨key, hkey, hprefix⟩
      obtain ⟨tail, htail⟩ := List.isPrefixOf_iff_prefix.mp hprefix
      refine ⟨String.ofList tail, ?_⟩
      have hjoin : Path.join path (String.ofList tail) = key := by
        rw [Path.join, if_neg hroot, ← String.toList_inj, ← htail]
        simp
      rw [hjoin]
      exact hkey
    · rintro ⟨rest, hrest⟩
      refine ⟨_, hrest, List.isPrefixOf_iff_prefix.mpr ⟨rest.toList, ?_⟩⟩
      rw [Path.join, if_neg hroot]
      simp

/-- What is wrong with a node under a validator. A container must not be nested too deeply, which is
looked at first, and must not have a rule. A leaf must have a rule, and unless it is null the
transformer of the rule, if there is one, has to accept it. -/
inductive Offends : Event → WalkError → Prop where
  | tooDeep {path kind depth} : validator.options.maxDepth ≤ depth →
      Offends (.enter path kind depth) (.depthExceeded path validator.options.maxDepth)
  | containerWithRule {path kind depth} : depth < validator.options.maxDepth →
      path ∈ Entries.keys validator.rules →
      Offends (.enter path kind depth) (.structuralMismatch path "leaf" kind.name)
  | leafAboveRule {path value} : path ∉ Entries.keys validator.rules →
      validator.RuleBelow path →
      Offends (.leaf path value) (.structuralMismatch path "container" "leaf")
  | leafWithoutRule {path value} : path ∉ Entries.keys validator.rules →
      ¬validator.RuleBelow path → Offends (.leaf path value) (.missingRule path)
  | declined {path value rule transformer} : validator.rule? path = some rule →
      rule.transformer = some transformer → value ≠ .null → transformer.accepts value = false →
      Offends (.leaf path value) (.transformFailure path transformer.name)

/-- Nothing is wrong with a node. -/
def Passes (event : Event) : Prop := ∀ error, ¬validator.Offends event error

/-- The value of a leaf that is evaluated: the leaf after its transformer. Null and leaves without a
transformer are evaluated as they are. -/
def prepared (path : String) (value : Value) : Value :=
  match (validator.rule? path).bind FieldRule.transformer with
  | none => value
  | some transformer => if value.isNull then value else transformer.apply value

/-- What the evaluator finds about a leaf. -/
def findings (path : String) (value : Value) : List Violation :=
  match validator.rule? path with
  | none => []
  | some rule => validator.evaluator path (validator.prepared path value) rule.predicate

/-- The value that takes the place of a leaf: null if the evaluator finds anything about it. -/
def verdict (path : String) (value : Value) : Value :=
  if (validator.findings path value).isEmpty then validator.prepared path value else .null

variable {validator}

theorem Offends.evaluate {path : String} {value : Value} {error : WalkError}
    (h : validator.Offends (.leaf path value) error) :
    validator.evaluate path value = .error error := by
  rw [Validator.evaluate]
  cases h with
  | leafAboveRule hkey hbelow =>
      rw [rule?, Entries.lookup_eq_none_iff_not_mem.mpr hkey]
      exact if_pos ((hasRulesBelow_iff validator path).mpr hbelow)
  | leafWithoutRule hkey hbelow =>
      rw [rule?, Entries.lookup_eq_none_iff_not_mem.mpr hkey]
      exact if_neg fun h => hbelow ((hasRulesBelow_iff validator path).mp h)
  | declined hrule htransformer hnull haccepts =>
      have hvalue : value.isNull = false := Value.isNull_eq_false_iff.mpr hnull
      simp [hrule, transformed, htransformer, hvalue, haccepts, bind, Except.bind]

/-- A leaf about which nothing is wrong is evaluated, to its findings and its verdict. -/
theorem Passes.evaluate {path : String} {value : Value}
    (h : validator.Passes (.leaf path value)) :
    ∃ evaluation, validator.evaluate path value = .ok evaluation ∧
      evaluation.outcome = validator.verdict path value ∧
      evaluation.violations = validator.findings path value := by
  cases hrule : validator.rule? path with
  | none =>
      have hkey := Entries.lookup_eq_none_iff_not_mem.mp hrule
      by_cases hbelow : validator.RuleBelow path
      · exact absurd (.leafAboveRule hkey hbelow) (h _)
      · exact absurd (.leafWithoutRule hkey hbelow) (h _)
  | some rule =>
      have htransformed : transformed path rule value = .ok (validator.prepared path value) := by
        rw [transformed, prepared, hrule, Option.bind_some]
        cases htransformer : rule.transformer with
        | none => rfl
        | some transformer =>
            by_cases hnull : value.isNull
            · simp [hnull]
            · cases haccepts : transformer.accepts value with
              | true => simp [hnull, haccepts]
              | false =>
                  have hvalue : value ≠ .null := fun heq => hnull (heq ▸ rfl)
                  exact absurd (.declined hrule htransformer hvalue haccepts) (h _)
      refine ⟨⟨path, validator.prepared path value, rule.predicate,
        validator.findings path value⟩, ?_, rfl, rfl⟩
      simp [Validator.evaluate, hrule, htransformed, findings, bind, Except.bind, pure, Except.pure]

theorem Offends.offer {event : Event} {error : WalkError} (h : validator.Offends event error)
    (record : Array Evaluation) :
    (event.offer validator.options validator.visitor).execute record = (.error error, record) := by
  cases event with
  | enter path kind depth =>
      rw [Event.offer]
      cases h with
      | tooDeep hdepth =>
          rw [if_pos hdepth]
          rfl
      | containerWithRule hdepth hkey =>
          have hrule : validator.rule? path ≠ none := by
            rw [Ne, rule?, Entries.lookup_eq_none_iff_not_mem]
            exact not_not_intro hkey
          obtain ⟨rule, hrule⟩ := Option.ne_none_iff_exists'.mp hrule
          rw [if_neg (Nat.not_le.mpr hdepth), WalkM.execute_bind]
          simp [visitor, checkContainer, hrule]
  | leaf path value =>
      rw [Event.offer, WalkM.execute_bind]
      simp [visitor, WalkM.execute_bind, h.evaluate]

/-- A record that goes on from another with evaluations of the given leaves. -/
structure Recorded (validator : Validator) (leaves : List (String × Value))
    (before after : Array Evaluation) : Prop where
  violations : after.toList.flatMap Evaluation.violations =
    before.toList.flatMap Evaluation.violations ++
      leaves.flatMap fun leaf => validator.findings leaf.1 leaf.2
  size : after.size = before.size + leaves.length

theorem Recorded.refl (record : Array Evaluation) : validator.Recorded [] record record :=
  ⟨by simp, rfl⟩

theorem Recorded.trans {first second : List (String × Value)} {before middle after : Array Evaluation}
    (left : validator.Recorded first before middle)
    (right : validator.Recorded second middle after) :
    validator.Recorded (first ++ second) before after where
  violations := by
    rw [right.violations, left.violations, List.flatMap_append, List.append_assoc]
  size := by
    rw [right.size, left.size, List.length_append]
    omega

theorem Passes.offer {event : Event} (h : validator.Passes event) (record : Array Evaluation) :
    ∃ after, validator.Recorded event.leaf?.toList record after ∧
      (event.offer validator.options validator.visitor).execute record =
        (.ok (event.leaf?.toList.map fun leaf => validator.verdict leaf.1 leaf.2), after) := by
  cases event with
  | enter path kind depth =>
      refine ⟨record, Recorded.refl record, ?_⟩
      have hdepth : ¬validator.options.maxDepth ≤ depth := fun hdeep => h _ (.tooDeep hdeep)
      have hrule : validator.rule? path = none := by
        rw [rule?, Entries.lookup_eq_none_iff_not_mem]
        exact fun hkey => h _ (.containerWithRule (Nat.not_le.mp hdepth) hkey)
      rw [Event.offer, if_neg hdepth, WalkM.execute_bind]
      simp [visitor, checkContainer, hrule, Event.leaf?]
  | leaf path value =>
      obtain ⟨evaluation, hevaluate, houtcome, hviolations⟩ := h.evaluate
      refine ⟨record.push evaluation, ⟨?_, ?_⟩, ?_⟩
      · simp [Event.leaf?, hviolations]
      · rw [Array.size_push]
        rfl
      · rw [Event.offer, WalkM.execute_bind]
        simp [visitor, WalkM.execute_bind, WalkM.execute_map, hevaluate, houtcome, Event.leaf?,
          Except.map]

/-- Playing nodes about which nothing is wrong does not fail. It answers their verdicts and records
their findings. -/
theorem play_of_passes {events : List Event} (h : ∀ event ∈ events, validator.Passes event)
    (record : Array Evaluation) :
    ∃ after, validator.Recorded (events.filterMap Event.leaf?) record after ∧
      (play validator.options validator.visitor events).execute record =
        (.ok ((events.filterMap Event.leaf?).map fun leaf => validator.verdict leaf.1 leaf.2),
          after) := by
  induction events generalizing record with
  | nil => exact ⟨record, Recorded.refl record, rfl⟩
  | cons event rest ih =>
      obtain ⟨middle, hfirst, hoffer⟩ := (h event List.mem_cons_self).offer record
      obtain ⟨after, hothers, hplay⟩ := ih (fun other hmem => h other (List.mem_cons_of_mem _ hmem))
        middle
      have hleaves : (event :: rest).filterMap Event.leaf? =
          event.leaf?.toList ++ rest.filterMap Event.leaf? := by
        cases event <;> rfl
      refine ⟨after, ?_, ?_⟩
      · rw [hleaves]
        exact hfirst.trans hothers
      · rw [hleaves, List.map_append]
        exact play_cons_ok_iff.mpr ⟨_, _, middle, rfl, hoffer, hplay⟩

/-- Playing fails with the error of the first node that offends. -/
theorem play_of_offends {before : List Event} (after : List Event) {event : Event}
    {error : WalkError} (hbefore : ∀ earlier ∈ before, validator.Passes earlier)
    (h : validator.Offends event error) (record : Array Evaluation) :
    ∃ final, (play validator.options validator.visitor (before ++ event :: after)).execute record =
      (.error error, final) := by
  obtain ⟨reached, -, hplay⟩ := play_of_passes hbefore record
  exact ⟨reached, play_error_iff.mpr
    ⟨before, event, after, _, reached, rfl, hplay, h.offer reached⟩⟩

/-- In a list of nodes, none offends or there is a first one that does. -/
theorem passes_or_first_offends (validator : Validator) (events : List Event) :
    (∀ event ∈ events, validator.Passes event) ∨
      ∃ before event after error, events = before ++ event :: after ∧
        (∀ earlier ∈ before, validator.Passes earlier) ∧ validator.Offends event error := by
  induction events with
  | nil => exact Or.inl (by simp)
  | cons event rest ih =>
      by_cases hevent : ∃ error, validator.Offends event error
      · obtain ⟨error, herror⟩ := hevent
        exact Or.inr ⟨[], event, rest, error, rfl, by simp, herror⟩
      · have hpasses : validator.Passes event := not_exists.mp hevent
        rcases ih with hrest | ⟨before, first, after, error, rfl, hbefore, hfirst⟩
        · exact Or.inl (List.forall_mem_cons.mpr ⟨hpasses, hrest⟩)
        · exact Or.inr ⟨event :: before, first, after, error, rfl,
            List.forall_mem_cons.mpr ⟨hpasses, hbefore⟩, hfirst⟩

/-- What a document has to be for a validator to report on it. -/
structure Fits (validator : Validator) (document : Document) : Prop where
  shallow : ∀ path kind depth, Event.enter path kind depth ∈ document.events →
    depth < validator.options.maxDepth
  containersWithoutRule : ∀ path kind depth, Event.enter path kind depth ∈ document.events →
    path ∉ Entries.keys validator.rules
  leavesWithRule : ∀ path value, (path, value) ∈ document.leaves →
    path ∈ Entries.keys validator.rules
  accepted : ∀ path value rule transformer, (path, value) ∈ document.leaves →
    validator.rule? path = some rule → rule.transformer = some transformer → value ≠ .null →
    transformer.accepts value = true

/-- A document fits if nothing is wrong with any of its nodes. -/
theorem fits_iff_passes {document : Document} :
    validator.Fits document ↔ ∀ event ∈ document.events, validator.Passes event := by
  constructor
  · intro hfits event hmem error hoffends
    cases hoffends with
    | tooDeep hdepth => exact Nat.not_lt.mpr hdepth (hfits.shallow _ _ _ hmem)
    | containerWithRule _ hkey => exact hfits.containersWithoutRule _ _ _ hmem hkey
    | leafAboveRule hkey _ =>
        exact hkey (hfits.leavesWithRule _ _ ((document.mem_leaves_iff _ _).mpr hmem))
    | leafWithoutRule hkey _ =>
        exact hkey (hfits.leavesWithRule _ _ ((document.mem_leaves_iff _ _).mpr hmem))
    | declined hrule htransformer hnull haccepts =>
        have hmem := (document.mem_leaves_iff _ _).mpr hmem
        have h := hfits.accepted _ _ _ _ hmem hrule htransformer hnull
        rw [haccepts] at h
        cases h
  · intro hpasses
    have hshallow : ∀ path kind depth, Event.enter path kind depth ∈ document.events →
        depth < validator.options.maxDepth := fun path kind depth hmem =>
      Nat.not_le.mp fun hdeep => hpasses _ hmem _ (.tooDeep hdeep)
    refine ⟨hshallow, ?_, ?_, ?_⟩
    · intro path kind depth hmem hkey
      exact hpasses _ hmem _ (.containerWithRule (hshallow _ _ _ hmem) hkey)
    · intro path value hmem
      have hpass := hpasses _ ((document.mem_leaves_iff _ _).mp hmem)
      refine Classical.byContradiction fun hkey => ?_
      by_cases hbelow : validator.RuleBelow path
      · exact hpass _ (.leafAboveRule hkey hbelow)
      · exact hpass _ (.leafWithoutRule hkey hbelow)
    · intro path value rule transformer hmem hrule htransformer hnull
      have hpass := hpasses _ ((document.mem_leaves_iff _ _).mp hmem)
      cases haccepts : transformer.accepts value with
      | true => rfl
      | false => exact absurd (.declined hrule htransformer hnull haccepts) (hpass _)

/-- The report on a document that fits: each leaf is replaced by its verdict, and the findings follow
one another in the order of the leaves. -/
def reportOf (validator : Validator) (document : Document) : Report where
  document := document.refill (document.leaves.map fun leaf => validator.verdict leaf.1 leaf.2)
  violations := document.leaves.flatMap fun leaf => validator.findings leaf.1 leaf.2
  leaves := document.leaves.length

theorem validate_of_fits {document : Document} (h : validator.Fits document) :
    validator.validate document = .ok (validator.reportOf document) := by
  obtain ⟨record, hrecord, hplay⟩ := play_of_passes (fits_iff_passes.mp h) #[]
  rw [Document.leaves_events] at hrecord hplay
  have hrun : validator.run document =
      (.ok (validator.reportOf document).document, record) :=
    Document.walk_ok_iff.mpr ⟨_, hplay, rfl⟩
  have hviolations := hrecord.violations
  have hsize := hrecord.size
  simp only [List.flatMap_nil, List.nil_append, Array.size_empty, Nat.zero_add]
    at hviolations hsize
  rw [validate, hrun]
  simp only [Except.map, hviolations, hsize]
  rfl

theorem validate_of_offends {document : Document} {before after : List Event} {event : Event}
    {error : WalkError} (hsplit : document.events = before ++ event :: after)
    (hbefore : ∀ earlier ∈ before, validator.Passes earlier)
    (h : validator.Offends event error) : validator.validate document = .error error := by
  obtain ⟨record, hplay⟩ := play_of_offends after hbefore h #[]
  rw [← hsplit] at hplay
  have hrun : validator.run document = (.error error, record) :=
    Document.walk_error_iff.mpr hplay
  rw [validate, hrun]
  rfl

/-- A validation has a report exactly for the documents that fit. -/
theorem validate_ok_iff {document : Document} {report : Report} :
    validator.validate document = .ok report ↔
      validator.Fits document ∧ report = validator.reportOf document := by
  constructor
  · intro h
    rcases passes_or_first_offends validator document.events with
      hpasses | ⟨before, event, after, error, hsplit, hbefore, hevent⟩
    · have hfits := fits_iff_passes.mpr hpasses
      rw [validate_of_fits hfits] at h
      exact ⟨hfits, (Except.ok.inj h).symm⟩
    · rw [validate_of_offends hsplit hbefore hevent] at h
      cases h
  · rintro ⟨hfits, rfl⟩
    exact validate_of_fits hfits

/-- The error of a validation is that of the first node in preorder that offends. -/
theorem validate_error_iff {document : Document} {error : WalkError} :
    validator.validate document = .error error ↔
      ∃ before event after, document.events = before ++ event :: after ∧
        (∀ earlier ∈ before, validator.Passes earlier) ∧ validator.Offends event error := by
  constructor
  · intro h
    rcases passes_or_first_offends validator document.events with
      hpasses | ⟨before, event, after, found, hsplit, hbefore, hevent⟩
    · rw [validate_of_fits (fits_iff_passes.mpr hpasses)] at h
      cases h
    · have hfound := validate_of_offends hsplit hbefore hevent
      rw [h] at hfound
      cases hfound
      exact ⟨before, event, after, hsplit, hbefore, hevent⟩
  · rintro ⟨before, event, after, hsplit, hbefore, hevent⟩
    exact validate_of_offends hsplit hbefore hevent

/-- The leaves of the reported document are the verdicts on the leaves, at the same paths. -/
theorem leaves_reportOf (validator : Validator) (document : Document) :
    (validator.reportOf document).document.leaves =
      document.leaves.map fun leaf => (leaf.1, validator.verdict leaf.1 leaf.2) := by
  have hlength : (document.leaves.map fun leaf => validator.verdict leaf.1 leaf.2).length =
      document.leaves.length := List.length_map _
  show (document.refill _).leavesFrom "" = _
  rw [Document.leavesFrom_refill "" document hlength]
  show (document.leaves.map _).zip (document.leaves.map _) = _
  rw [List.zip_map']

end Validator

end DocRules
