import DocRules.Proofs.Transformer.Conversion
import DocRules.Proofs.Validator.Verdict
import DocRules.Proofs.Walk.Shape

/-! Validating what a validation has answered. A transformer of the library accepts what it has made
and leaves it as it is, so a verdict stands when it is judged again; a null in the place of a
rejected leaf passes by the transformer and may be rejected once more. The second validation thus
repeats the document of the first one and finds fault with its nulls only. -/

namespace DocRules

namespace Transformer

/-- A transformer settles if it accepts what it makes of the values that it accepts, and does not
change it again. -/
structure Settles (transformer : Transformer) : Prop where
  accepts_apply : ∀ value, transformer.accepts value = true →
    transformer.accepts (transformer.apply value) = true
  apply_apply : ∀ value, transformer.accepts value = true →
    transformer.apply (transformer.apply value) = transformer.apply value

/-- A transformer that converts to a type settles. -/
theorem Converts.settles {α : Type} {transformer : Transformer} {make : α → Value}
    (h : transformer.Converts make) : transformer.Settles where
  accepts_apply _ haccepts := h.accepts_apply haccepts
  apply_apply value _ := h.apply_apply value

theorem settles_of_mem_stock {transformer : Transformer} (h : transformer ∈ stock) :
    transformer.Settles := by
  obtain ⟨α, make, hconverts⟩ := exists_converts_of_mem_stock h
  exact hconverts.settles

end Transformer

namespace Validator

/-- All transformers of a validator are transformers of the library. -/
def UsesStock (validator : Validator) : Prop :=
  ∀ pair ∈ validator.rules, ∀ transformer, pair.2.transformer = some transformer →
    transformer ∈ Transformer.stock

/-- The rule of a leaf, if it has one, does not refuse to transform it. -/
def Accepts (validator : Validator) (path : String) (value : Value) : Prop :=
  ∀ rule transformer, validator.rule? path = some rule →
    rule.transformer = some transformer → value ≠ .null → transformer.accepts value = true

variable {validator : Validator} {path : String} {value : Value} {document : Document}

theorem UsesStock.settles (hstock : validator.UsesStock) {rule : FieldRule}
    {transformer : Transformer} (hrule : validator.rule? path = some rule)
    (htransformer : rule.transformer = some transformer) : transformer.Settles := by
  have hmem : (path, rule) ∈ validator.rules := Entries.mem_of_lookup hrule
  exact Transformer.settles_of_mem_stock (hstock _ hmem transformer htransformer)

theorem prepared_null : validator.prepared path .null = .null := by
  rw [prepared]
  split
  · rfl
  · rfl

theorem prepared_of_no_transformer (h : (validator.rule? path).bind FieldRule.transformer = none) :
    validator.prepared path value = value := by
  rw [prepared, h]

theorem prepared_of_transformer {transformer : Transformer}
    (h : (validator.rule? path).bind FieldRule.transformer = some transformer)
    (hvalue : value ≠ .null) : validator.prepared path value = transformer.apply value := by
  have hnull : ¬value.isNull = true := fun h => hvalue (Value.isNull_iff.mp h)
  rw [prepared, h]
  exact if_neg hnull

/-- What is prepared is accepted, and is prepared already. -/
theorem UsesStock.prepared_again (hstock : validator.UsesStock) (h : validator.Accepts path value) :
    validator.Accepts path (validator.prepared path value) ∧
      validator.prepared path (validator.prepared path value) = validator.prepared path value := by
  by_cases hvalue : value = .null
  · subst hvalue
    rw [prepared_null]
    exact ⟨h, prepared_null⟩
  cases htransformer : (validator.rule? path).bind FieldRule.transformer with
  | none =>
      rw [prepared_of_no_transformer htransformer]
      exact ⟨h, prepared_of_no_transformer htransformer⟩
  | some transformer =>
      obtain ⟨rule, hrule, hof⟩ := Option.bind_eq_some_iff.mp htransformer
      have hsettles : transformer.Settles := hstock.settles hrule hof
      have haccepts : transformer.accepts value = true := h rule transformer hrule hof hvalue
      rw [prepared_of_transformer htransformer hvalue]
      constructor
      · intro again other hagain hother _
        rw [hrule] at hagain
        cases hagain
        rw [hof] at hother
        cases hother
        exact hsettles.accepts_apply value haccepts
      · -- a null that a transformer has made would pass by it like any other null
        by_cases hmade : transformer.apply value = .null
        · rw [hmade, prepared_null]
        · rw [prepared_of_transformer htransformer hmade, hsettles.apply_apply value haccepts]

theorem verdict_of_findings_nil (h : validator.findings path value = []) :
    validator.verdict path value = validator.prepared path value := by
  rw [verdict, h]
  rfl

theorem verdict_of_findings_ne_nil (h : validator.findings path value ≠ []) :
    validator.verdict path value = .null := by
  rw [verdict, if_neg]
  rwa [List.isEmpty_iff]

theorem verdict_null : validator.verdict path .null = .null := by
  rw [verdict, prepared_null, ite_self]

/-- Where nothing is found, nothing is found about the verdict. -/
theorem UsesStock.findings_verdict (hstock : validator.UsesStock)
    (h : validator.Accepts path value) (hfindings : validator.findings path value = []) :
    validator.findings path (validator.verdict path value) = [] := by
  have hprepared := (hstock.prepared_again h).2
  rw [verdict_of_findings_nil hfindings]
  calc validator.findings path (validator.prepared path value)
      = validator.findings path value := by rw [findings, findings, hprepared]
    _ = [] := hfindings

/-- A verdict is accepted, and stands when it is judged again. -/
theorem UsesStock.verdict_again (hstock : validator.UsesStock) (h : validator.Accepts path value) :
    validator.Accepts path (validator.verdict path value) ∧
      validator.verdict path (validator.verdict path value) = validator.verdict path value := by
  by_cases hfindings : validator.findings path value = []
  · obtain ⟨haccepts, hprepared⟩ := hstock.prepared_again h
    have hagain := hstock.findings_verdict h hfindings
    rw [verdict_of_findings_nil hagain, verdict_of_findings_nil hfindings]
    exact ⟨haccepts, hprepared⟩
  · rw [verdict_of_findings_ne_nil hfindings]
    exact ⟨fun _ _ _ _ hnull => absurd rfl hnull, verdict_null⟩

/-- Nothing is found about a verdict that is not null. -/
theorem UsesStock.findings_verdict_of_ne_null (hstock : validator.UsesStock)
    (h : validator.Accepts path value) (hverdict : validator.verdict path value ≠ .null) :
    validator.findings path (validator.verdict path value) = [] := by
  apply hstock.findings_verdict h
  exact Classical.byContradiction fun hfindings => hverdict (verdict_of_findings_ne_nil hfindings)

theorem Fits.accepts (h : validator.Fits document) (hmem : (path, value) ∈ document.leaves) :
    validator.Accepts path value :=
  fun rule transformer => h.accepted path value rule transformer hmem

theorem mem_leaves_reportOf (hmem : (path, value) ∈ (validator.reportOf document).document.leaves) :
    ∃ given, (path, given) ∈ document.leaves ∧ value = validator.verdict path given := by
  rw [leaves_reportOf] at hmem
  obtain ⟨leaf, hleaf, heq⟩ := List.mem_map.mp hmem
  cases heq
  exact ⟨leaf.2, hleaf, rfl⟩

/-- The document of a report fits the validator that has reported it. -/
theorem Fits.reportOf (h : validator.Fits document) (hstock : validator.UsesStock) :
    validator.Fits (validator.reportOf document).document := by
  have hshape : (validator.reportOf document).document.sameShape document = true :=
    Document.sameShape_refill document _
  -- containers are judged by place alone, and they stand where they stood
  refine ⟨?_, ?_, ?_, ?_⟩
  · intro path kind depth hmem
    exact h.shallow path kind depth (Document.enter_mem_events_of_sameShape hshape hmem)
  · intro path kind depth hmem
    exact h.containersWithoutRule path kind depth
      (Document.enter_mem_events_of_sameShape hshape hmem)
  · intro path value hmem
    obtain ⟨given, hgiven, -⟩ := mem_leaves_reportOf hmem
    exact h.leavesWithRule path given hgiven
  · intro path value rule transformer hmem
    obtain ⟨given, hgiven, rfl⟩ := mem_leaves_reportOf hmem
    exact (hstock.verdict_again (h.accepts hgiven)).1 rule transformer

/-- The leaves of a reported document are the verdicts on themselves. -/
theorem Fits.verdict_reported (h : validator.Fits document) (hstock : validator.UsesStock)
    (hmem : (path, value) ∈ (validator.reportOf document).document.leaves) :
    validator.verdict path value = value := by
  obtain ⟨given, hgiven, rfl⟩ := mem_leaves_reportOf hmem
  exact (hstock.verdict_again (h.accepts hgiven)).2

/-- The report on a reported document has the same document. -/
theorem Fits.document_reportOf (h : validator.Fits document) (hstock : validator.UsesStock) :
    (validator.reportOf (validator.reportOf document).document).document =
      (validator.reportOf document).document := by
  have hverdicts : (validator.reportOf document).document.leaves.map
        (fun leaf => validator.verdict leaf.1 leaf.2) =
      (validator.reportOf document).document.leaves.map Prod.snd :=
    List.map_congr_left fun _ hmem => h.verdict_reported hstock hmem
  show Document.refill _ _ = _
  rw [hverdicts, Document.refill_leaves]

/-- Only nulls of a reported document are found fault with. -/
theorem Fits.findings_reported (h : validator.Fits document) (hstock : validator.UsesStock)
    (hmem : (path, value) ∈ (validator.reportOf document).document.leaves)
    (hvalue : value ≠ .null) : validator.findings path value = [] := by
  obtain ⟨given, hgiven, rfl⟩ := mem_leaves_reportOf hmem
  exact hstock.findings_verdict_of_ne_null (h.accepts hgiven) hvalue

/-- The evaluator accepts the other leaves of a reported document as they are. -/
theorem Fits.evaluator_reported (h : validator.Fits document) (hstock : validator.UsesStock)
    (hmem : (path, value) ∈ (validator.reportOf document).document.leaves)
    (hvalue : value ≠ .null) :
    ∃ rule, validator.rule? path = some rule ∧
      validator.evaluator path value rule.predicate = [] := by
  have hfindings := h.findings_reported hstock hmem hvalue
  have hprepared : validator.prepared path value = value := by
    rw [← verdict_of_findings_nil hfindings, h.verdict_reported hstock hmem]
  have hkey := (h.reportOf hstock).leavesWithRule path value hmem
  cases hrule : validator.rule? path with
  | none => exact absurd hkey (Entries.lookup_eq_none_iff_not_mem.mp hrule)
  | some rule =>
      rw [findings, hrule, hprepared] at hfindings
      exact ⟨rule, rfl, hfindings⟩

/-- Elements that yield nothing may be passed over. -/
theorem flatMap_filter_of_nil {α β : Type} {f : α → List β} {p : α → Bool} (l : List α)
    (h : ∀ a ∈ l, p a = false → f a = []) : (l.filter p).flatMap f = l.flatMap f := by
  induction l with
  | nil => rfl
  | cons a rest ih =>
      have hrest := ih fun b hb => h b (List.mem_cons_of_mem a hb)
      cases hp : p a with
      | true => rw [List.filter_cons_of_pos hp, List.flatMap_cons, List.flatMap_cons, hrest]
      | false =>
          rw [List.filter_cons_of_neg (by simp [hp]), List.flatMap_cons, h a List.mem_cons_self hp,
            List.nil_append, hrest]

/-- The violations of a reported document are those of its nulls. -/
theorem Fits.violations_reportOf (h : validator.Fits document) (hstock : validator.UsesStock) :
    (validator.reportOf (validator.reportOf document).document).violations =
      ((validator.reportOf document).document.leaves.filter fun leaf => leaf.2.isNull).flatMap
        fun leaf => validator.findings leaf.1 leaf.2 := by
  refine (flatMap_filter_of_nil _ fun leaf hmem hnull => ?_).symm
  apply h.findings_reported hstock hmem
  intro heq
  rw [heq] at hnull
  cases hnull

/-- A document without violations is reported without violations again. -/
theorem Fits.violations_reportOf_nil (h : validator.Fits document) (hstock : validator.UsesStock)
    (hclean : (validator.reportOf document).violations = []) :
    (validator.reportOf (validator.reportOf document).document).violations = [] := by
  refine List.flatMap_eq_nil_iff.mpr fun leaf hmem => ?_
  obtain ⟨given, hgiven, heq⟩ := mem_leaves_reportOf hmem
  rw [heq]
  exact hstock.findings_verdict (h.accepts hgiven) (List.flatMap_eq_nil_iff.mp hclean _ hgiven)

/-- Validating twice is validating once. If all transformers are of the library and a document has a
report, then the document of the report has a report too, with the same document and as many leaves.
Its violations are those of the nulls in the document; every other leaf is accepted by the evaluator
under its rule. A document without violations has none the second time. -/
theorem validate_idempotent {first : Report} (hstock : validator.UsesStock)
    (h : validator.validate document = .ok first) :
    (∃ second, validator.validate first.document = .ok second ∧
      second.document = first.document ∧
      second.leaves = first.leaves ∧
      second.violations = (first.document.leaves.filter fun leaf => leaf.2.isNull).flatMap
        (fun leaf => validator.findings leaf.1 leaf.2) ∧
      (first.violations = [] → second.violations = [])) ∧
    ∀ path value, (path, value) ∈ first.document.leaves → value ≠ .null →
      ∃ rule, validator.rule? path = some rule ∧
        validator.evaluator path value rule.predicate = [] := by
  obtain ⟨hfits, rfl⟩ := validate_ok_iff.mp h
  have hagain : validator.Fits (validator.reportOf document).document := hfits.reportOf hstock
  have hcount : (validator.reportOf document).document.leaves.length = document.leaves.length := by
    rw [leaves_reportOf, List.length_map]
  refine ⟨⟨_, validate_of_fits hagain, hfits.document_reportOf hstock, hcount,
    hfits.violations_reportOf hstock, hfits.violations_reportOf_nil hstock⟩, ?_⟩
  intro path value hmem hvalue
  exact hfits.evaluator_reported hstock hmem hvalue

/-- A validator of sign-ups: a name, an age and a consent, the latter two also as text. -/
def signUps : Validator where
  rules := [
    ("name", ⟨.required (some (.leaf .notBlank)), none⟩),
    ("age", ⟨.required (some (.leaf (.type .integer))), some Transformer.stringToInt⟩),
    ("consent.given", ⟨.optional (some (.leaf (.type .bool))), some Transformer.stringToBool⟩)]
  evaluator := Evaluator.strict
  options := .default

/-- A sign-up without a name. -/
def nameless : Document :=
  .map [("name", .leaf (.string "")), ("age", .leaf (.string "42")),
    ("consent", .map [("given", .leaf (.string "1"))])]

def namelessReport : Report where
  document := .map [("name", .leaf .null), ("age", .leaf (.int 42)),
    ("consent", .map [("given", .leaf (.bool true))])]
  violations := [⟨"name", .custom "IS_BLANK_ERROR", "This value should not be blank."⟩]
  leaves := 3

/-- The name that is missing is found missing again, and the other leaves stay. -/
theorem nameless_again :
    signUps.UsesStock ∧ signUps.validate nameless = .ok namelessReport ∧
      ∃ second, signUps.validate namelessReport.document = .ok second ∧
        second.document = namelessReport.document ∧ second.leaves = 3 ∧
        second.violations = namelessReport.violations := by
  have hstock : signUps.UsesStock := by
    simp [UsesStock, signUps, Transformer.stock]
  have h : signUps.validate nameless = .ok namelessReport := by rfl
  obtain ⟨⟨second, hsecond, hdocument, hleaves, hviolations, -⟩, -⟩ := validate_idempotent hstock h
  exact ⟨hstock, h, second, hsecond, hdocument, hleaves, hviolations⟩

end Validator

end DocRules
