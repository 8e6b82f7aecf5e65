import DocRules.Decimal.Integer

/-! Canonical decimal text. A text is read as a whole number exactly when it is the text that is
written for that number, so that no number is read from two texts. -/

namespace DocRules.Decimal

theorem isDigit_iff {c : Char} : c.isDigit = true ↔ 48 ≤ c.toNat ∧ c.toNat ≤ 57 := by
  simp only [Char.isDigit, Bool.and_eq_true, decide_eq_true_eq]
  exact Iff.rfl

/-- A digit is the one that is written for its value. -/
theorem digitChar_of_isDigit {c : Char} (h : c.isDigit = true) :
    Nat.digitChar (c.toNat - '0'.toNat) = c := by
  obtain ⟨hlow, hhigh⟩ := isDigit_iff.mp h
  have hzero : '0'.toNat = 48 := rfl
  apply Char.toNat_inj.mp
  rw [Nat.toNat_digitChar_of_lt_ten (by omega)]
  omega

/-- Digits behind the digits of a number other than zero are the last digits of a larger number. -/
theorem toDigits_append {digits : List Char} (h : ∀ c ∈ digits, c.isDigit = true) {n : Nat}
    (hn : 0 < n) : Nat.toDigits 10 n ++ digits = Nat.toDigits 10 (Nat.ofDigitChars 10 digits n) := by
  induction digits generalizing n with
  | nil => rw [List.append_nil, Nat.ofDigitChars_nil]
  | cons c rest ih =>
      obtain ⟨hc, hrest⟩ := List.forall_mem_cons.mp h
      obtain ⟨hlow, hhigh⟩ := isDigit_iff.mp hc
      have hzero : '0'.toNat = 48 := rfl
      have hvalue : c.toNat - '0'.toNat < 10 := by omega
      have hone : Nat.toDigits 10 n ++ [c] = Nat.toDigits 10 (10 * n + (c.toNat - '0'.toNat)) := by
        rw [← Nat.toDigits_append_toDigits (by decide) hn hvalue, Nat.toDigits_of_lt_base hvalue,
          digitChar_of_isDigit hc]
      calc
        Nat.toDigits 10 n ++ c :: rest = (Nat.toDigits 10 n ++ [c]) ++ rest := by
          rw [List.append_assoc, List.singleton_append]
        _ = Nat.toDigits 10 (Nat.ofDigitChars 10 (c :: rest) n) := by
          rw [hone, ih hrest (by omega), Nat.ofDigitChars_cons]

/-- Digits of which the first is not zero are those of the number that they stand for. -/
theorem toDigits_ofDigits {c : Char} {rest : List Char} (hc : c ≠ '0')
    (h : ∀ digit ∈ c :: rest, digit.isDigit = true) :
    Nat.toDigits 10 (ofDigits (c :: rest)) = c :: rest := by
  obtain ⟨hdigit, hrest⟩ := List.forall_mem_cons.mp h
  obtain ⟨hlow, hhigh⟩ := isDigit_iff.mp hdigit
  have hzero : '0'.toNat = 48 := rfl
  have hne : c.toNat ≠ 48 := fun heq => hc (Char.toNat_inj.mp heq)
  have hvalue : c.toNat - '0'.toNat < 10 := by omega
  have hmore := toDigits_append hrest (n := c.toNat - '0'.toNat) (by omega)
  rw [Nat.toDigits_of_lt_base hvalue, digitChar_of_isDigit hdigit, List.singleton_append] at hmore
  rw [ofDigits, Nat.ofDigitChars_cons, Nat.mul_zero, Nat.zero_add, ← hmore]

/-- The digits of a number other than zero do not start with zero. -/
theorem head_toDigits_ne_zero {n : Nat} (hn : 0 < n) {c : Char} {rest : List Char}
    (h : Nat.toDigits 10 n = c :: rest) : c ≠ '0' := by
  induction n using Nat.strongRecOn generalizing rest with
  | ind n ih =>
      rw [Nat.toDigits_eq_if (by decide)] at h
      split at h
      · rename_i hlt
        obtain ⟨rfl, -⟩ := List.cons.inj h
        have hvalue := Nat.toNat_digitChar_of_lt_ten hlt
        intro hzero
        rw [hzero] at hvalue
        have hchar : '0'.toNat = 48 := rfl
        omega
      · obtain ⟨first, others, hdigits⟩ :=
          List.exists_cons_of_ne_nil (Nat.toDigits_ne_nil (b := 10) (n := n / 10))
        rw [hdigits] at h
        obtain ⟨rfl, -⟩ := List.cons.inj h
        exact ih (n / 10) (by omega) (by omega) hdigits

/-- A number other than zero is written with digits of which the first is not zero. -/
theorem exists_toDigits_eq {n : Nat} (hn : 0 < n) : ∃ c rest, Nat.toDigits 10 n = c :: rest ∧
    c ≠ '0' ∧ ∀ digit ∈ c :: rest, digit.isDigit = true := by
  obtain ⟨c, rest, hdigits⟩ :=
    List.exists_cons_of_ne_nil (Nat.toDigits_ne_nil (b := 10) (n := n))
  refine ⟨c, rest, hdigits, head_toDigits_ne_zero hn hdigits, fun digit hmem => ?_⟩
  exact Nat.isDigit_of_mem_toDigits (by decide) (by decide) (hdigits ▸ hmem)

theorem natural?_eq_some_iff {chars : List Char} {n : Nat} :
    natural? chars = some n ↔ chars = Nat.toDigits 10 n := by
  constructor
  · intro h
    unfold natural? at h
    split at h
    · cases h
    · cases h
      rfl
    · rename_i c rest _
      split at h
      · rename_i hdigits
        cases h
        exact (toDigits_ofDigits hdigits.1 (List.all_eq_true.mp hdigits.2)).symm
      · cases h
  · rintro rfl
    rcases Nat.eq_zero_or_pos n with rfl | hn
    · rfl
    · obtain ⟨c, rest, hdigits, hc, hall⟩ := exists_toDigits_eq hn
      have hvalue : ofDigits (c :: rest) = n := by
        rw [ofDigits, ← hdigits, Nat.ofDigitChars_ten_toDigits]
      rw [hdigits, natural?, if_pos ⟨hc, List.all_eq_true.mpr hall⟩, hvalue]
      exact fun hzero _ => hc hzero

theorem toList_toString_ofNat (n : Nat) : (toString (Int.ofNat n)).toList = Nat.toDigits 10 n :=
  Nat.toList_repr

theorem toList_toString_negSucc (n : Nat) :
    (toString (Int.negSucc n)).toList = '-' :: Nat.toDigits 10 (n + 1) := by
  show ("-" ++ (n + 1).repr).toList = _
  rw [String.toList_append, Nat.toList_repr]
  rfl

/-- The digits of a number do not start with a minus sign. -/
theorem head_toDigits_ne_minus {n : Nat} {rest : List Char} : Nat.toDigits 10 n ≠ '-' :: rest := by
  intro h
  have hdigit := Nat.isDigit_of_mem_toDigits (b := 10) (n := n) (c := '-') (by decide) (by decide)
    (h ▸ List.mem_cons_self)
  exact absurd hdigit (by decide)

/-- Behind a minus sign stand the digits of a number other than zero. -/
theorem integer?_minus_eq_some_iff {rest : List Char} {n : Int} :
    integer? ('-' :: rest) = some n ↔ ∃ m, n = Int.negSucc m ∧ rest = Nat.toDigits 10 (m + 1) := by
  rw [integer?, Option.bind_eq_some_iff]
  constructor
  · rintro ⟨k, hk, hn⟩
    cases k with
    | zero => cases hn
    | succ m =>
        rw [if_neg (Nat.succ_ne_zero m)] at hn
        cases hn
        exact ⟨m, rfl, natural?_eq_some_iff.mp hk⟩
  · rintro ⟨m, rfl, rfl⟩
    exact ⟨m + 1, natural?_eq_some_iff.mpr rfl, if_neg (Nat.succ_ne_zero m)⟩

/-- A text without a minus sign in front is read as a natural number. -/
theorem integer?_eq_natural? {chars : List Char} (h : ∀ rest, chars ≠ '-' :: rest) :
    integer? chars = (natural? chars).map Int.ofNat := by
  unfold integer?
  split
  · rename_i rest
    exact absurd rfl (h rest)
  · rfl

theorem integer?_eq_some_iff {chars : List Char} {n : Int} :
    integer? chars = some n ↔ chars = (toString n).toList := by
  by_cases hminus : ∃ rest, chars = '-' :: rest
  · obtain ⟨rest, rfl⟩ := hminus
    rw [integer?_minus_eq_some_iff]
    cases n with
    | ofNat m =>
        rw [toList_toString_ofNat]
        exact iff_of_false (fun ⟨_, h, _⟩ => nomatch h) fun h => head_toDigits_ne_minus h.symm
    | negSucc m =>
        rw [toList_toString_negSucc, List.cons.injEq]
        constructor
        · rintro ⟨k, hk, rfl⟩
          cases hk
          exact ⟨rfl, rfl⟩
        · rintro ⟨-, rfl⟩
          exact ⟨m, rfl, rfl⟩
  · rw [integer?_eq_natural? (not_exists.mp hminus), Option.map_eq_some_iff]
    cases n with
    | ofNat m =>
        rw [toList_toString_ofNat]
        constructor
        · rintro ⟨k, hk, hn⟩
          cases hn
          exact natural?_eq_some_iff.mp hk
        · intro h
          exact ⟨m, natural?_eq_some_iff.mpr h, rfl⟩
    | negSucc m =>
        rw [toList_toString_negSucc]
        exact iff_of_false (fun ⟨_, _, h⟩ => nomatch h) fun h => hminus ⟨_, h⟩

/-- An integer that is kept if it fits 64 bits is kept as itself. -/
theorem narrow_eq_some_iff {k : Int} {n : Int64} :
    (if Int64.minValue.toInt ≤ k ∧ k ≤ Int64.maxValue.toInt then some (Int64.ofInt k) else none) =
      some n ↔ k = n.toInt := by
  rw [Option.ite_none_right_eq_some, Option.some.injEq]
  constructor
  · rintro ⟨⟨hlow, hhigh⟩, rfl⟩
    exact (Int64.toInt_ofInt_of_le hlow (Int.lt_add_one_of_le hhigh)).symm
  · rintro rfl
    exact ⟨⟨n.minValue_le_toInt, n.toInt_le⟩, Int64.ofInt_toInt n⟩

/-- **Canonical integers.** A text is read as an integer of 64 bits exactly when it is the text that
is written for that integer. -/
theorem int64?_eq_some_iff {text : String} {n : Int64} :
    int64? text = some n ↔ text = toString n := by
  have htext : text.toList = (toString n.toInt).toList ↔ text = toString n := String.toList_inj
  rw [int64?, Option.bind_eq_some_iff, ← htext, ← integer?_eq_some_iff]
  simp only [narrow_eq_some_iff, exists_eq_right]

end DocRules.Decimal
