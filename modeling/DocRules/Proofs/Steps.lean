/-! Steps that may fail, one after another. What a sequence of steps answers is what its single steps
answer, and its failure is that of the first step that fails. -/

namespace DocRules.Steps

variable {ε α β : Type}

theorem bind_ok_iff {step : Except ε α} {next : α → Except ε β} {answer : β} :
    step >>= next = .ok answer ↔ ∃ first, step = .ok first ∧ next first = .ok answer := by
  cases step <;> simp [bind, Except.bind]

theorem bind_error_iff {step : Except ε α} {next : α → Except ε β} {error : ε} :
    step >>= next = .error error ↔
      step = .error error ∨ ∃ first, step = .ok first ∧ next first = .error error := by
  cases step <;> simp [bind, Except.bind]

theorem pure_ne_error {answer : α} {error : ε} : (pure answer : Except ε α) ≠ .error error := nofun

/-- A step answers unless it fails. -/
theorem exists_ok_iff {step : Except ε α} :
    (∃ answer, step = .ok answer) ↔ ∀ error, step ≠ .error error := by
  cases step <;> simp

theorem toOption_bind (step : Except ε α) (next : α → Except ε β) :
    (step >>= next).toOption = step.toOption.bind fun first => (next first).toOption := by
  cases step <;> rfl

theorem toOption_map (f : α → β) (step : Except ε α) :
    (f <$> step).toOption = step.toOption.map f := by
  cases step <;> rfl

theorem toOption_eq_some_iff {step : Except ε α} {answer : α} :
    step.toOption = some answer ↔ step = .ok answer := by
  cases step <;> simp [Except.toOption]

variable {f : α → Except ε β}

theorem mapM_of_forall {answer : α → β} {elements : List α}
    (h : ∀ element ∈ elements, f element = .ok (answer element)) :
    elements.mapM f = .ok (elements.map answer) := by
  induction elements with
  | nil => rfl
  | cons element rest ih =>
      obtain ⟨hfirst, hrest⟩ := List.forall_mem_cons.mp h
      rw [List.mapM_cons, hfirst, ih hrest]
      rfl

/-- If the steps for all elements together answer, each of them does. -/
theorem exists_ok_of_mapM {elements : List α} {answers : List β}
    (h : elements.mapM f = .ok answers) : ∀ element ∈ elements, ∃ answer, f element = .ok answer := by
  induction elements generalizing answers with
  | nil => simp
  | cons element rest ih =>
      rw [List.mapM_cons] at h
      obtain ⟨first, hfirst, hothers⟩ := bind_ok_iff.mp h
      obtain ⟨others, hrest, -⟩ := bind_ok_iff.mp hothers
      exact List.forall_mem_cons.mpr ⟨⟨first, hfirst⟩, ih hrest⟩

theorem mapM_cons_error_iff {element : α} {rest : List α} {error : ε} :
    (element :: rest).mapM f = .error error ↔
      f element = .error error ∨
        (∃ answer, f element = .ok answer) ∧ rest.mapM f = .error error := by
  rw [List.mapM_cons]
  simp only [bind_error_iff, pure_ne_error, and_false, exists_false, or_false, exists_and_right]

/-- The steps for the elements of a list fail where one fails after others that did not. -/
theorem mapM_error_iff {elements : List α} {error : ε} :
    elements.mapM f = .error error ↔
      ∃ before element after, elements = before ++ element :: after ∧
        (∀ earlier ∈ before, ∃ answer, f earlier = .ok answer) ∧ f element = .error error := by
  induction elements with
  | nil =>
      constructor
      · intro h
        cases h
      · rintro ⟨before, element, after, hsplit, -⟩
        simp at hsplit
  | cons first rest ih =>
      rw [mapM_cons_error_iff, ih]
      constructor
      · rintro (hfirst | ⟨hfirst, before, element, after, rfl, hbefore, helement⟩)
        · exact ⟨[], first, rest, rfl, by simp, hfirst⟩
        · exact ⟨first :: before, element, after, rfl,
            List.forall_mem_cons.mpr ⟨hfirst, hbefore⟩, helement⟩
      · rintro ⟨before, element, after, hsplit, hbefore, helement⟩
        cases before with
        | nil =>
            obtain ⟨rfl, rfl⟩ := List.cons.inj hsplit
            exact .inl helement
        | cons head before =>
            obtain ⟨rfl, rfl⟩ := List.cons.inj hsplit
            obtain ⟨hfirst, hothers⟩ := List.forall_mem_cons.mp hbefore
            exact .inr ⟨hfirst, before, element, after, rfl, hothers, helement⟩

end DocRules.Steps
