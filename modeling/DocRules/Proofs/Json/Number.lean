import DocRules.Json.Token
import DocRules.Proofs.Decimal.Canonical
import Mathlib.Data.List.TakeWhile

/-! Integers as JSON numbers. An integer that is written is read back exactly. What a number without
fraction and exponent stands for is an integer, minus zero apart; and where that integer is beyond 64
bits with a sign but not without one, reading it as a floating-point number rounds it once. -/

namespace DocRules.Json

namespace Number

/-- An integer as it is written. -/
def ofInteger (n : Int) : Number := ⟨n < 0, Nat.toDigits 10 n.natAbs, [], none⟩

/-- Whether a number is written as an integer: without fraction and exponent, and not as minus zero. -/
structure IsInteger (written : Number) (n : Int) : Prop where
  fraction : written.fraction = []
  exponent : written.exponent = none
  zero : written.negative = true → n ≠ 0
  value : n = if written.negative then -(Decimal.ofDigits written.whole : Int)
    else Decimal.ofDigits written.whole

variable {written : Number} {n : Int}

theorem integer?_eq_some_iff : written.integer? = some n ↔ written.IsInteger n := by
  unfold integer?
  constructor
  · intro h
    split at h
    · rename_i hplain
      obtain ⟨hfraction, hexponent⟩ := Bool.and_eq_true_iff.mp hplain
      rw [List.isEmpty_iff] at hfraction
      rw [Option.isNone_iff_eq_none] at hexponent
      cases hsign : written.negative with
      | false =>
          simp only [hsign, Bool.false_eq_true, if_false, Option.some.injEq] at h
          exact ⟨hfraction, hexponent, by simp [hsign], by simp [hsign, h]⟩
      | true =>
          simp only [hsign, if_true] at h
          split at h
          · cases h
          · rename_i hzero
            cases h
            exact ⟨hfraction, hexponent, fun _ => by omega, by simp [hsign]⟩
    · cases h
  · intro h
    rw [if_pos (by simp [h.fraction, h.exponent])]
    cases hsign : written.negative with
    | false =>
        have hvalue := h.value
        simp only [hsign, Bool.false_eq_true, if_false] at hvalue ⊢
        rw [hvalue]
    | true =>
        have hvalue := h.value
        have hzero := h.zero hsign
        simp only [hsign, if_true] at hvalue ⊢
        rw [if_neg (by omega), hvalue]

theorem int64?_eq_some_iff {n : Int64} : written.int64? = some n ↔ written.IsInteger n.toInt := by
  rw [int64?, Option.bind_eq_some_iff, ← integer?_eq_some_iff]
  simp only [Decimal.narrow_eq_some_iff, exists_eq_right]

theorem isInteger_ofInteger (n : Int) : (ofInteger n).IsInteger n := by
  have hdigits : Decimal.ofDigits (Nat.toDigits 10 n.natAbs) = n.natAbs := by
    rw [Decimal.ofDigits, Nat.ofDigitChars_ten_toDigits]
  refine ⟨rfl, rfl, ?_, ?_⟩
  · intro hsign
    have hnegative : n < 0 := of_decide_eq_true hsign
    omega
  · by_cases hsign : n < 0
    · simp only [ofInteger, hsign, decide_true, if_true, hdigits]
      omega
    · simp only [ofInteger, hsign, decide_false, Bool.false_eq_true, if_false, hdigits]
      omega

@[simp] theorem int64?_ofInteger (n : Int64) : (ofInteger n.toInt).int64? = some n :=
  int64?_eq_some_iff.mpr (isInteger_ofInteger n.toInt)

theorem isDigit_of_mem {n : Nat} {c : Char} (h : c ∈ Nat.toDigits 10 n) : c.isDigit = true :=
  Nat.isDigit_of_mem_toDigits (by decide) (by decide) h

theorem isWhole_toDigits (n : Nat) : isWhole (Nat.toDigits 10 n) = true := by
  rcases Nat.eq_zero_or_pos n with rfl | hn
  · rfl
  · obtain ⟨c, rest, hdigits⟩ :=
      List.exists_cons_of_ne_nil (Nat.toDigits_ne_nil (b := 10) (n := n))
    have hc := Decimal.head_toDigits_ne_zero hn hdigits
    rw [hdigits]
    unfold isWhole
    split
    · rename_i heq
      cases heq
    · rename_i heq
      cases heq
      exact absurd rfl hc
    · rfl

/-- The digits of a natural number are a whole number after its sign. -/
theorem unsigned?_toDigits (negative : Bool) (n : Nat) :
    unsigned? negative (Nat.toDigits 10 n) = some ⟨negative, Nat.toDigits 10 n, [], none⟩ := by
  have htake : (Nat.toDigits 10 n).takeWhile Char.isDigit = Nat.toDigits 10 n :=
    List.takeWhile_eq_self_iff.mpr fun _ h => isDigit_of_mem h
  have hdrop : (Nat.toDigits 10 n).dropWhile Char.isDigit = [] :=
    List.dropWhile_eq_nil_iff.mpr fun _ h => isDigit_of_mem h
  simp only [unsigned?, htake, hdrop, isWhole_toDigits, if_true]
  rfl

theorem toList_toString (n : Int) :
    (toString n).toList = (if n < 0 then ['-'] else []) ++ Nat.toDigits 10 n.natAbs := by
  cases n with
  | ofNat m =>
      rw [Decimal.toList_toString_ofNat, if_neg (by simp)]
      rfl
  | negSucc m =>
      rw [Decimal.toList_toString_negSucc, if_pos (Int.negSucc_lt_zero m)]
      rfl

/-- A written integer is read back as it was written. -/
theorem ofChars?_toString (n : Int) : ofChars? (toString n).toList = some (ofInteger n) := by
  rw [toList_toString]
  by_cases hsign : n < 0
  · rw [if_pos hsign, List.singleton_append, ofChars?, unsigned?_toDigits, ofInteger,
      decide_eq_true hsign]
  · rw [if_neg hsign, List.nil_append]
    have hminus : ∀ rest, Nat.toDigits 10 n.natAbs ≠ '-' :: rest := fun _ =>
      Decimal.head_toDigits_ne_minus
    unfold ofChars?
    split
    · rename_i rest heq
      exact absurd heq (hminus rest)
    · rw [unsigned?_toDigits, ofInteger, decide_eq_false hsign]

/-- A written integer starts with a digit or a minus sign, and all its characters belong to a number. -/
theorem toString_chars (n : Int) :
    ∃ first rest, (toString n).toList = first :: rest ∧
      (first.isDigit = true ∨ first = '-') ∧ ∀ c ∈ rest, isNumberChar c = true := by
  have hdigits : ∀ c ∈ Nat.toDigits 10 n.natAbs, isNumberChar c = true := by
    intro c hc
    simp [isNumberChar, isDigit_of_mem hc]
  rw [toList_toString]
  by_cases hsign : n < 0
  · exact ⟨'-', _, by rw [if_pos hsign, List.singleton_append], .inr rfl, hdigits⟩
  · obtain ⟨first, rest, hlist⟩ :=
      List.exists_cons_of_ne_nil (Nat.toDigits_ne_nil (b := 10) (n := n.natAbs))
    refine ⟨first, rest, by rw [if_neg hsign, List.nil_append, hlist], .inl ?_, ?_⟩
    · exact isDigit_of_mem (hlist ▸ List.mem_cons_self)
    · exact fun c hc => hdigits c (hlist ▸ List.mem_cons_of_mem first hc)

/-- Digits behind a number do not make it smaller. -/
theorem le_ofDigitChars (value : Nat) (digits : List Char) :
    value ≤ Nat.ofDigitChars 10 digits value := by
  induction digits generalizing value with
  | nil => exact Nat.le_of_eq Nat.ofDigitChars_nil.symm
  | cons c rest ih =>
      rw [Nat.ofDigitChars_cons]
      exact Nat.le_trans (by omega) (ih _)

/-- Digits that stand for a number below `2 ^ 64` are all taken. -/
theorem absorb_of_lt {digits : List Char} {start : Nat}
    (h : Nat.ofDigitChars 10 digits start < Nat.pow 2 64) :
    absorb start digits = (Nat.ofDigitChars 10 digits start, []) := by
  induction digits generalizing start with
  | nil => rw [absorb, Nat.ofDigitChars_nil]
  | cons c rest ih =>
      rw [Nat.ofDigitChars_cons] at h ⊢
      rw [absorb, if_pos (Nat.lt_of_le_of_lt (le_ofDigitChars _ rest) h), ih h]

/-- A natural number below `2 ^ 64` is rounded once. -/
theorem IsInteger.float? (h : written.IsInteger n) (hpositive : 0 < n)
    (hfits : n.toNat < Nat.pow 2 64) : written.float? = some (Float.ofInt n) := by
  have hsign : written.negative = false := by
    cases hnegative : written.negative with
    | false => rfl
    | true =>
        have hvalue := h.value
        rw [hnegative, if_pos rfl] at hvalue
        omega
  have hvalue : n = (Decimal.ofDigits written.whole : Nat) := by
    rw [h.value, hsign]
    rfl
  have hwhole : absorb 0 written.whole = (Decimal.ofDigits written.whole, []) :=
    absorb_of_lt (by rw [hvalue, Int.toNat_natCast] at hfits; exact hfits)
  simp only [Number.float?, hwhole, h.fraction, h.exponent, hsign, absorb]
  rw [hvalue]
  rfl

end Number

end DocRules.Json
