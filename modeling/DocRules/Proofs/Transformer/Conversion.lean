import DocRules.Proofs.Decimal.Integer
import DocRules.Transformer

/-! What the transformers of the library make. Each of them converts to one type: what it accepts it
turns into a value of that type, values of that type it accepts and leaves alone, and it leaves alone
what it does not accept. To apply it twice is therefore to apply it once. -/

namespace DocRules.Transformer

/-- A transformer converts to a type of values other than null: it makes a value of that type of
whatever it accepts, accepts the values of that type but does not change them, and changes nothing that
it does not accept. -/
structure Converts {α : Type} (transformer : Transformer) (make : α → Value) : Prop where
  make_ne_null : ∀ made, make made ≠ .null
  makes : ∀ value, transformer.accepts value = true → ∃ made, transformer.apply value = make made
  accepts_made : ∀ made, transformer.accepts (make made) = true
  apply_made : ∀ made, transformer.apply (make made) = make made
  apply_declined : ∀ value, transformer.accepts value = false → transformer.apply value = value

section Laws

variable {α : Type} {transformer : Transformer} {make : α → Value} {value : Value}
  (h : transformer.Converts make)
include h

theorem Converts.accepts_apply (haccepts : transformer.accepts value = true) :
    transformer.accepts (transformer.apply value) = true := by
  obtain ⟨made, hmade⟩ := h.makes value haccepts
  rw [hmade]
  exact h.accepts_made made

theorem Converts.apply_ne_null (haccepts : transformer.accepts value = true) :
    transformer.apply value ≠ .null := by
  obtain ⟨made, hmade⟩ := h.makes value haccepts
  rw [hmade]
  exact h.make_ne_null made

/-- To apply a transformer twice is to apply it once, to whatever value. -/
theorem Converts.apply_apply (value : Value) :
    transformer.apply (transformer.apply value) = transformer.apply value := by
  cases haccepts : transformer.accepts value with
  | true =>
      obtain ⟨made, hmade⟩ := h.makes value haccepts
      rw [hmade, h.apply_made]
  | false =>
      have hsame := h.apply_declined value haccepts
      rw [hsame, hsame]

theorem Converts.accepts_of_apply_ne (hne : transformer.apply value ≠ value) :
    transformer.accepts value = true := by
  cases haccepts : transformer.accepts value with
  | true => rfl
  | false => exact absurd (h.apply_declined value haccepts) hne

end Laws

section Texts

variable {α : Type} {read : Option α} {make : α → Value} {value : Value}

theorem exists_made_of_isSome (h : read.isSome = true) :
    ∃ made, (read.map make).getD value = make made := by
  obtain ⟨made, rfl⟩ := Option.isSome_iff_exists.mp h
  exact ⟨made, rfl⟩

theorem getD_of_isSome_eq_false (h : read.isSome = false) : (read.map make).getD value = value := by
  cases read with
  | none => rfl
  | some made => cases h

end Texts

theorem converts_stringToInt : stringToInt.Converts Value.int where
  make_ne_null _ := nofun
  makes value h := by
    cases value with
    | int n => exact ⟨n, rfl⟩
    | string text => exact exists_made_of_isSome h
    | null | bool | float => cases h
  accepts_made _ := rfl
  apply_made _ := rfl
  apply_declined value h := by
    cases value with
    | string text => exact getD_of_isSome_eq_false h
    | null | bool | int | float => rfl

theorem converts_stringToFloat : stringToFloat.Converts Value.float where
  make_ne_null _ := nofun
  makes value h := by
    cases value with
    | int n => exact ⟨n.toFloat, rfl⟩
    | float x => exact ⟨x, rfl⟩
    | string text => exact exists_made_of_isSome h
    | null | bool => cases h
  accepts_made _ := rfl
  apply_made _ := rfl
  apply_declined value h := by
    cases value with
    | int n => cases h  -- an integer is accepted, though it does not stay what it is
    | string text => exact getD_of_isSome_eq_false h
    | null | bool | float => rfl

theorem converts_stringToBool : stringToBool.Converts Value.bool where
  make_ne_null _ := nofun
  makes value h := by
    cases value with
    | bool b => exact ⟨b, rfl⟩
    | string text => exact exists_made_of_isSome h
    | null | int | float => cases h
  accepts_made _ := rfl
  apply_made _ := rfl
  apply_declined value h := by
    cases value with
    | string text => exact getD_of_isSome_eq_false h
    | null | bool | int | float => rfl

theorem exists_converts_of_mem_stock {transformer : Transformer} (h : transformer ∈ stock) :
    ∃ (α : Type) (make : α → Value), transformer.Converts make := by
  simp only [stock, List.mem_cons, List.not_mem_nil, or_false] at h
  obtain rfl | rfl | rfl := h
  · exact ⟨_, _, converts_stringToInt⟩
  · exact ⟨_, _, converts_stringToFloat⟩
  · exact ⟨_, _, converts_stringToBool⟩

theorem accepts_bool_iff {text : String} : stringToBool.accepts (.string text) = true ↔
    text ∈ ["true", "false", "1", "0"] := by
  change (bool? text).isSome = true ↔ _
  unfold bool?
  split <;> simp_all

/-- A text that is turned into an integer could be turned into a floating-point number too. -/
theorem accepts_float_of_accepts_int {text : String}
    (h : stringToInt.accepts (.string text) = true) :
    stringToFloat.accepts (.string text) = true := by
  obtain ⟨n, hn⟩ := Decimal.accepts_int_iff.mp h
  exact Decimal.accepts_string_iff.mpr (Decimal.integerForm_iff.mpr ⟨n, hn.1⟩).decimalForm

/-- **Conversions.** The transformers of the library convert to integers, floating-point numbers and
booleans. What one of them makes of a value that it accepts is accepted again, is not null and is not
changed by applying the transformer again; a value that it does not accept it does not change. So to
apply it twice is to apply it once, and only what is accepted is changed. All texts that can be turned
into integers can be turned into floating-point numbers. -/
theorem stock_conversions :
    (stringToInt.Converts Value.int ∧ stringToFloat.Converts Value.float ∧
      stringToBool.Converts Value.bool) ∧
    (∀ transformer ∈ stock, ∀ value,
      (transformer.accepts value = true →
        transformer.accepts (transformer.apply value) = true ∧ transformer.apply value ≠ .null ∧
        transformer.apply (transformer.apply value) = transformer.apply value) ∧
      (transformer.accepts value = false → transformer.apply value = value) ∧
      transformer.apply (transformer.apply value) = transformer.apply value ∧
      (transformer.apply value ≠ value → transformer.accepts value = true)) ∧
    (∀ text, stringToBool.accepts (.string text) = true ↔
      text ∈ ["true", "false", "1", "0"]) ∧
    ∀ text, stringToInt.accepts (.string text) = true →
      stringToFloat.accepts (.string text) = true := by
  refine ⟨⟨converts_stringToInt, converts_stringToFloat, converts_stringToBool⟩, ?_,
    fun text => accepts_bool_iff, fun text => accepts_float_of_accepts_int⟩
  intro transformer hmem value
  obtain ⟨α, make, h⟩ := exists_converts_of_mem_stock hmem
  refine ⟨fun haccepts => ?_, h.apply_declined value, h.apply_apply value, h.accepts_of_apply_ne⟩
  exact ⟨h.accepts_apply haccepts, h.apply_ne_null haccepts, h.apply_apply value⟩

end DocRules.Transformer
