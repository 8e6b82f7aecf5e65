import DocRules.Proofs.Decimal.Numeral
import DocRules.Proofs.RuleSet.Contribution
import Mathlib.Algebra.Group.Int.Defs
import Mathlib.Tactic.TFAE

/-! Integers of 64 bits as texts. The texts from which a rule takes an integer parameter and those
that are turned into integers are the same: the decimal renderings of the integers of 64 bits, each of
which is read as the integer that it renders. Every one of them is a decimal string with a digit. -/

namespace DocRules.Decimal

/-- The grammar of canonical integers: zero, or digits that do not start with zero, which may stand
behind a minus sign. -/
def IntegerForm (chars : List Char) : Prop :=
  chars = ['0'] ∨ ∃ sign c rest, chars = sign ++ c :: rest ∧ (sign = [] ∨ sign = ['-']) ∧
    c ≠ '0' ∧ ∀ digit ∈ c :: rest, digit.isDigit = true

/-- The text is the decimal rendering of an integer, which has 64 bits. -/
def Renders (text : String) (n : Int) : Prop :=
  text = toString n ∧ -2 ^ 63 ≤ n ∧ n ≤ 2 ^ 63 - 1

variable {text : String} {chars : List Char} {n : Int}

theorem integerForm_toString (n : Int) : IntegerForm (toString n).toList := by
  cases n with
  | ofNat m =>
      rw [toList_toString_ofNat]
      rcases Nat.eq_zero_or_pos m with rfl | hm
      · exact .inl rfl
      · obtain ⟨c, rest, hdigits, hc, hall⟩ := exists_toDigits_eq hm
        exact .inr ⟨[], c, rest, hdigits, .inl rfl, hc, hall⟩
  | negSucc m =>
      rw [toList_toString_negSucc]
      obtain ⟨c, rest, hdigits, hc, hall⟩ := exists_toDigits_eq m.succ_pos
      exact .inr ⟨['-'], c, rest, congrArg ('-' :: ·) hdigits, .inr rfl, hc, hall⟩

/-- A text is of the grammar exactly if it is what is written for some integer. -/
theorem integerForm_iff : IntegerForm text.toList ↔ ∃ n : Int, text = toString n := by
  constructor
  · intro h
    obtain hzero | ⟨sign, c, rest, htext, hsign, hc, hall⟩ := h
    · exact ⟨0, String.toList_inj.mp hzero⟩
    have hdigits : Nat.toDigits 10 (ofDigits (c :: rest)) = c :: rest := toDigits_ofDigits hc hall
    obtain rfl | rfl := hsign
    · refine ⟨Int.ofNat (ofDigits (c :: rest)), String.toList_inj.mp ?_⟩
      rw [toList_toString_ofNat, hdigits, htext, List.nil_append]
    · cases hvalue : ofDigits (c :: rest) with
      | zero =>
          rw [hvalue] at hdigits
          exact absurd (List.cons.inj hdigits).1.symm hc
      | succ m =>
          refine ⟨Int.negSucc m, String.toList_inj.mp ?_⟩
          rw [toList_toString_negSucc, ← hvalue, hdigits, htext, List.singleton_append]
  · rintro ⟨n, rfl⟩
    exact integerForm_toString n

/-- Canonical integers are decimal strings with a digit. -/
theorem IntegerForm.decimalForm (h : IntegerForm text.toList) :
    DecimalForm text ∧ ∃ c ∈ text.toList, c.isDigit = true := by
  obtain hzero | ⟨sign, c, rest, htext, hsign, hc, hall⟩ := h
  · rw [show text = "0" from String.toList_inj.mp hzero]
    exact ⟨⟨by decide, by decide, [], ['0'], [], rfl, .inl rfl, .inr (.inl rfl), .inl rfl⟩,
      '0', by decide, rfl⟩
  · have hdigit : c.isDigit = true := hall c List.mem_cons_self
    have hmem : c ∈ text.toList := by rw [htext]; simp
    refine ⟨⟨?_, ?_, sign, c :: rest, [], by rw [htext, List.append_nil], hsign, ?_, .inl rfl⟩,
      c, hmem, hdigit⟩
    · rintro rfl
      cases hmem
    · rintro rfl
      rw [List.mem_singleton.mp hmem] at hdigit
      cases hdigit
    · exact .inr (.inr ⟨c, rest, rfl, hc, hall⟩)

theorem toInt_ofInt_of_renders (h : Renders text n) : (Int64.ofInt n).toInt = n :=
  Int64.toInt_ofInt_of_le h.2.1 (Int.lt_of_le_sub_one h.2.2)

/-- A text is read as the integer that it renders. -/
theorem int64?_of_renders (h : Renders text n) : int64? text = some (Int64.ofInt n) := by
  rw [int64?_eq_some_iff, h.1]
  exact congrArg toString (toInt_ofInt_of_renders h).symm

theorem renders_of_int64? {m : Int64} (h : int64? text = some m) : Renders text m.toInt :=
  ⟨int64?_eq_some_iff.mp h, m.minValue_le_toInt, m.toInt_le⟩

/-- A text that renders no integer of 64 bits is not read. -/
theorem int64?_eq_none_iff : int64? text = none ↔ ¬∃ n, Renders text n := by
  constructor
  · rintro hnone ⟨n, hn⟩
    rw [int64?_of_renders hn] at hnone
    cases hnone
  · intro hrenders
    exact Option.eq_none_iff_forall_ne_some.mpr fun m hm => hrenders ⟨_, renders_of_int64? hm⟩

theorem Renders.isDecimal (h : Renders text n) : isDecimal text = true :=
  isDecimal_iff.mpr (integerForm_iff.mpr ⟨n, h.1⟩).decimalForm.1

variable {rule : Rule} {index : Nat}

theorem intParameter_of_renders (h : Renders text n)
    (hparameter : rule.parameters[index]? = some text) :
    rule.intParameter index = .ok (Int64.ofInt n) := by
  rw [Rule.intParameter_eq_ok_iff, hparameter, int64?_eq_some_iff.mp (int64?_of_renders h)]

theorem intParameter_of_not_renders (h : ¬∃ n, Renders text n)
    (hparameter : rule.parameters[index]? = some text) :
    rule.intParameter index = .error (.invalidParameterType rule.name index text) := by
  refine Rule.intParameter_eq_error_iff.mpr (.malformed hparameter fun m hm => ?_)
  exact h ⟨_, renders_of_int64? (int64?_eq_some_iff.mpr hm)⟩

/-- The transformer to integers accepts the renderings of integers of 64 bits. -/
theorem accepts_int_iff :
    Transformer.stringToInt.accepts (.string text) = true ↔ ∃ n, Renders text n := by
  change (int64? text).isSome = true ↔ _
  rw [← Option.ne_none_iff_isSome, Ne, int64?_eq_none_iff, not_not]

theorem apply_int_of_renders (h : Renders text n) :
    Transformer.stringToInt.apply (.string text) = .int (Int64.ofInt n) := by
  change ((int64? text).map Value.int).getD (.string text) = _
  rw [int64?_of_renders h]
  rfl

theorem apply_int_of_not_renders (h : ¬∃ n, Renders text n) :
    Transformer.stringToInt.apply (.string text) = .string text := by
  change ((int64? text).map Value.int).getD (.string text) = _
  rw [int64?_eq_none_iff.mpr h]
  rfl

/-- **Integers of 64 bits.** A text renders an integer of 64 bits exactly if every rule takes an integer
from it where it is a parameter, and exactly if the transformer to integers accepts it. Both then give
the integer that is rendered, whose text is the given one again, and the text is a decimal string.
Otherwise the rule complains about the parameter by its own name, the position and the text, and the
transformer leaves the text alone. Where a rule has no parameter the complaint is that it is missing. -/
theorem int64_text_spec (text : String) :
    (IntegerForm text.toList ↔ ∃ n : Int, text = toString n) ∧
      List.TFAE [∃ n, Renders text n,
        ∀ (rule : Rule) (index : Nat), rule.parameters[index]? = some text →
          ∃ n, rule.intParameter index = .ok n,
        Transformer.stringToInt.accepts (.string text) = true] ∧
      (∀ n, Renders text n →
        (∀ (rule : Rule) (index : Nat), rule.parameters[index]? = some text →
          rule.intParameter index = .ok (Int64.ofInt n)) ∧
        Transformer.stringToInt.apply (.string text) = .int (Int64.ofInt n) ∧
        (Int64.ofInt n).toInt = n ∧ toString (Int64.ofInt n) = text ∧ isDecimal text = true) ∧
      ((¬∃ n, Renders text n) →
        (∀ (rule : Rule) (index : Nat), rule.parameters[index]? = some text →
          rule.intParameter index = .error (.invalidParameterType rule.name index text)) ∧
        Transformer.stringToInt.apply (.string text) = .string text) ∧
      ∀ (rule : Rule) (index : Nat), rule.parameters.length ≤ index →
        rule.intParameter index = .error (.missingParameter rule.name index) := by
  refine ⟨integerForm_iff, ?_, ?_, ?_, ?_⟩
  · tfae_have 1 → 2 := by
      rintro ⟨n, hn⟩ rule index hparameter
      exact ⟨_, intParameter_of_renders hn hparameter⟩
    tfae_have 2 → 1 := by
      intro h
      -- a rule with the text as its only parameter
      obtain ⟨m, hm⟩ := h ⟨"", [text]⟩ 0 rfl
      have htext := Option.some.inj (Rule.intParameter_eq_ok_iff.mp hm)
      exact ⟨_, renders_of_int64? (int64?_eq_some_iff.mpr htext)⟩
    tfae_have 3 ↔ 1 := accepts_int_iff
    tfae_finish
  · intro n hn
    refine ⟨fun _ _ => intParameter_of_renders hn, apply_int_of_renders hn,
      toInt_ofInt_of_renders hn, ?_, hn.isDecimal⟩
    exact (int64?_eq_some_iff.mp (int64?_of_renders hn)).symm
  · intro hn
    exact ⟨fun _ _ => intParameter_of_not_renders hn, apply_int_of_not_renders hn⟩
  · intro rule index hlength
    exact Rule.intParameter_eq_error_iff.mpr (.missing (List.getElem?_eq_none hlength))

example : int64? "-9223372036854775808" = some Int64.minValue ∧
    int64? "9223372036854775808" = none := by decide

end DocRules.Decimal
