import DocRules.Proofs.Decimal.Canonical
import DocRules.Text.Reader
import DocRules.Transformer
import DocRules.Violation
import Mathlib.Data.List.Basic

/-! Which texts are decimal strings. The texts that are read as decimal strings, those that pass the
check of numeric values, and those that are turned into floating-point numbers are given by one
grammar. They are the same texts except for the lone decimal point and the one behind a minus sign,
which have no digit. -/

namespace DocRules.Decimal

/-- The integer part of a decimal string: nothing, zero, or digits that do not start with zero. -/
def WholeForm (chars : List Char) : Prop :=
  chars = [] ∨ chars = ['0'] ∨
    ∃ c rest, chars = c :: rest ∧ c ≠ '0' ∧ ∀ digit ∈ c :: rest, digit.isDigit = true

/-- The fraction of a decimal string: nothing, or a decimal point with digits behind it. -/
def FractionForm (chars : List Char) : Prop :=
  chars = [] ∨ ∃ digits, chars = '.' :: digits ∧ ∀ digit ∈ digits, digit.isDigit = true

/-- The grammar of decimal strings: a sign, an integer part and a fraction, each of which may be
missing, but neither the empty text nor a lone minus sign. -/
def DecimalForm (text : String) : Prop :=
  text ≠ "" ∧ text ≠ "-" ∧
    ∃ sign whole fraction, text.toList = sign ++ whole ++ fraction ∧
      (sign = [] ∨ sign = ['-']) ∧ WholeForm whole ∧ FractionForm fraction

def SignForm (chars : List Char) : Prop := chars = [] ∨ chars = ['-'] ∨ chars = ['+']

/-- The exponent of a floating-point number: nothing, or the letter with an integer behind it. -/
def ExponentForm (chars : List Char) : Prop :=
  chars = [] ∨ ∃ letter sign digits, chars = letter :: (sign ++ digits) ∧
    (letter = 'e' ∨ letter = 'E') ∧ SignForm sign ∧ digits ≠ [] ∧
    ∀ digit ∈ digits, digit.isDigit = true

/-- The grammar of floating-point numbers. Behind a sign stands either a word, or digits with a
decimal point that may be missing and at least one digit among them, and then an exponent. -/
def FloatForm (chars : List Char) : Prop :=
  ∃ sign body, chars = sign ++ body ∧ SignForm sign ∧
    (String.ofList (body.map Char.toLower) ∈ ["inf", "infinity", "nan"] ∨
      ∃ whole fraction exponent, body = whole ++ fraction ++ exponent ∧
        (∀ digit ∈ whole, digit.isDigit = true) ∧ FractionForm fraction ∧
        (∃ digit ∈ whole ++ fraction, digit.isDigit = true) ∧ ExponentForm exponent)

theorem wholeForm_iff {chars : List Char} :
    WholeForm chars ↔
      Numeral.isWhole chars = true ∧ ∀ digit ∈ chars, digit.isDigit = true := by
  constructor
  · intro h
    obtain rfl | rfl | ⟨c, rest, rfl, hc, hdigits⟩ := h
    · exact ⟨rfl, by simp⟩
    · exact ⟨rfl, List.forall_mem_singleton.mpr rfl⟩
    · refine ⟨?_, hdigits⟩
      unfold Numeral.isWhole
      split
      · rename_i heq
        exact absurd (List.cons.inj heq).1 hc
      · rfl
  · intro h
    obtain ⟨hwhole, hdigits⟩ := h
    unfold Numeral.isWhole at hwhole
    split at hwhole
    · cases hwhole
    · rename_i hzero
      cases chars with
      | nil => exact .inl rfl
      | cons c rest =>
          by_cases hc : c = '0'
          · cases rest with
            | nil => exact .inr (.inl (by rw [hc]))
            | cons next others => exact absurd (by rw [hc]) (hzero next others)
          · exact .inr (.inr ⟨c, rest, rfl, hc, hdigits⟩)

namespace Numeral

/-- The numerals that decimal strings stand for. At least one of the two parts is there, if only as
a bare decimal point. -/
structure Proper (numeral : Numeral) : Prop where
  whole_form : WholeForm numeral.whole
  fraction_digits : ∀ digits ∈ numeral.fraction, ∀ digit ∈ digits, digit.isDigit = true
  has_part : numeral.whole = [] → numeral.fraction ≠ none

def sign (numeral : Numeral) : List Char := if numeral.negative then ['-'] else []

def pointed (numeral : Numeral) : List Char :=
  match numeral.fraction with
  | none => []
  | some digits => '.' :: digits

/-- What is written for a numeral. -/
def chars (numeral : Numeral) : List Char := numeral.sign ++ numeral.whole ++ numeral.pointed

variable {numeral : Numeral}

theorem sign_form (numeral : Numeral) : numeral.sign = [] ∨ numeral.sign = ['-'] := by
  unfold sign
  split
  · exact .inr rfl
  · exact .inl rfl

theorem eq_minus_of_mem_sign {c : Char} (h : c ∈ numeral.sign) : c = '-' := by
  obtain hnone | hminus := numeral.sign_form
  · rw [hnone] at h
    cases h
  · rw [hminus] at h
    exact List.mem_singleton.mp h

theorem Proper.whole_digits (h : numeral.Proper) : ∀ digit ∈ numeral.whole, digit.isDigit = true :=
  (wholeForm_iff.mp h.whole_form).2

theorem Proper.pointed_form (h : numeral.Proper) : FractionForm numeral.pointed := by
  unfold pointed
  split
  · exact .inl rfl
  · rename_i digits hfraction
    exact .inr ⟨digits, rfl, h.fraction_digits digits hfraction⟩

theorem head_pointed (numeral : Numeral) : ∀ c ∈ numeral.pointed.head?, c.isDigit = false := by
  unfold pointed
  split
  · simp
  · intro c hc
    cases hc
    rfl

/-- The unsigned part starts with a digit or the decimal point. -/
theorem Proper.unsigned_ne_minus (h : numeral.Proper) (rest : List Char) :
    numeral.whole ++ numeral.pointed ≠ '-' :: rest := by
  intro heq
  cases hwhole : numeral.whole with
  | nil =>
      obtain hnone | ⟨digits, hdigits, -⟩ := h.pointed_form
      · simp [hwhole, hnone] at heq
      · simp [hwhole, hdigits] at heq
  | cons c others =>
      rw [hwhole, List.cons_append] at heq
      have hdigit := h.whole_digits c (hwhole ▸ List.mem_cons_self)
      rw [(List.cons.inj heq).1] at hdigit
      cases hdigit

theorem Proper.unsigned_ne_nil (h : numeral.Proper) : numeral.whole ++ numeral.pointed ≠ [] := by
  intro hnil
  obtain ⟨hwhole, hpointed⟩ := List.append_eq_nil_iff.mp hnil
  obtain ⟨digits, hfraction⟩ := Option.ne_none_iff_exists'.mp (h.has_part hwhole)
  rw [pointed, hfraction] at hpointed
  cases hpointed

/-- Parts of the grammar, of which one is there, are those of a numeral. -/
theorem exists_proper {sign whole fraction : List Char} (hsign : sign = [] ∨ sign = ['-'])
    (hwhole : WholeForm whole) (hfraction : FractionForm fraction)
    (hpart : whole ++ fraction ≠ []) :
    ∃ numeral : Numeral, numeral.Proper ∧ numeral.chars = sign ++ whole ++ fraction := by
  obtain ⟨negative, hnegative⟩ : ∃ negative : Bool, (if negative then ['-'] else []) = sign := by
    obtain rfl | rfl := hsign
    · exact ⟨false, rfl⟩
    · exact ⟨true, rfl⟩
  obtain rfl | ⟨digits, rfl, hdigits⟩ := hfraction
  · refine ⟨⟨negative, whole, none⟩, ⟨hwhole, by simp, fun hnil => ?_⟩, ?_⟩
    · exact absurd (by simpa using hnil) hpart
    · rw [← hnegative]
      rfl
  · refine ⟨⟨negative, whole, some digits⟩, ⟨hwhole, ?_, by simp⟩, ?_⟩
    · rintro _ ⟨⟩
      exact hdigits
    · rw [← hnegative]
      rfl

/-- Behind the sign, a text is read as the numeral for which it is written. -/
theorem unsigned?_eq_some_iff {negative : Bool} {chars : List Char} :
    unsigned? negative chars = some numeral ↔
      numeral.Proper ∧ numeral.negative = negative ∧ chars = numeral.whole ++ numeral.pointed := by
  constructor
  · intro h
    have hsplit : chars.takeWhile Char.isDigit ++ chars.dropWhile Char.isDigit = chars :=
      List.takeWhile_append_dropWhile
    have hdigits : ∀ digit ∈ chars.takeWhile Char.isDigit, digit.isDigit = true :=
      List.all_eq_true.mp List.all_takeWhile
    simp only [unsigned?] at h
    -- from here on only the two pieces of the text matter, not how they were found
    generalize chars.takeWhile Char.isDigit = whole at h hsplit hdigits
    generalize chars.dropWhile Char.isDigit = rest at h hsplit
    subst hsplit
    split at h
    · cases h
    · rename_i hwhole
      have hform : WholeForm whole := wholeForm_iff.mpr ⟨by simpa using hwhole, hdigits⟩
      split at h
      · split at h
        · cases h
        · rename_i hne
          cases h
          exact ⟨⟨hform, by simp, fun hnil => absurd (List.isEmpty_iff.mpr hnil) hne⟩, rfl, rfl⟩
      · rename_i c rest
        split at h
        · rename_i hpoint
          obtain ⟨rfl, hall⟩ := hpoint
          cases h
          have hfraction : ∀ digits ∈ some rest, ∀ digit ∈ digits, digit.isDigit = true := by
            rintro digits ⟨⟩
            exact List.all_eq_true.mp hall
          exact ⟨⟨hform, hfraction, by simp⟩, rfl, rfl⟩
        · cases h
  · rintro ⟨hproper, rfl, rfl⟩
    obtain ⟨htake, hdrop⟩ :=
      Reader.takeWhile_append_of_stop hproper.whole_digits numeral.head_pointed
    have hwhole := (wholeForm_iff.mp hproper.whole_form).1
    simp only [unsigned?, htake, hdrop, hwhole]
    obtain ⟨negative, whole, fraction⟩ := numeral
    cases fraction with
    | none =>
        have hne : whole ≠ [] := fun hnil => hproper.has_part hnil rfl
        simp [pointed, hne]
    | some digits =>
        have hall := List.all_eq_true.mpr (hproper.fraction_digits digits rfl)
        simp [pointed, hall]

/-- A text is read as the numeral for which it is written. -/
theorem ofText?_eq_some_iff {text : String} :
    ofText? text = some numeral ↔ numeral.Proper ∧ text.toList = numeral.chars := by
  unfold ofText?
  split
  · rename_i rest htext
    rw [unsigned?_eq_some_iff, htext, chars, sign]
    cases hnegative : numeral.negative with
    | true => simp
    | false =>
        refine iff_of_false (by simp) fun ⟨hproper, heq⟩ => ?_
        exact hproper.unsigned_ne_minus rest (by simpa using heq.symm)
  · rename_i hminus
    rw [unsigned?_eq_some_iff, chars, sign]
    cases hnegative : numeral.negative with
    | false => simp
    | true => exact iff_of_false (by simp) fun ⟨_, heq⟩ => hminus _ (by simpa using heq)

/-- The digits of a numeral are the digits that are written for it. -/
theorem Proper.mem_digits_iff (h : numeral.Proper) {c : Char} :
    c ∈ numeral.digits ↔ c ∈ numeral.whole ++ numeral.pointed ∧ c.isDigit = true := by
  have hwhole := h.whole_digits
  have hfraction := h.fraction_digits
  obtain ⟨negative, whole, fraction⟩ := numeral
  cases fraction with
  | none =>
      simp only [digits, pointed, Option.getD_none, List.append_nil]
      exact ⟨fun hc => ⟨hc, hwhole c hc⟩, fun hc => hc.1⟩
  | some behind =>
      simp only [digits, pointed, Option.getD_some, List.mem_append, List.mem_cons]
      constructor
      · intro hc
        obtain hc | hc := hc
        · exact ⟨.inl hc, hwhole c hc⟩
        · exact ⟨.inr (.inr hc), hfraction behind rfl c hc⟩
      · intro hc
        obtain ⟨hc | rfl | hc, hdigit⟩ := hc
        · exact .inl hc
        · cases hdigit
        · exact .inr hc

/-- What is written for a numeral beside its digits. -/
theorem Proper.digit_or_mark (h : numeral.Proper) {c : Char} (hc : c ∈ numeral.chars) :
    c.isDigit = true ∨ c = '-' ∨ c = '.' := by
  rw [chars, List.mem_append, List.mem_append] at hc
  obtain (hsign | hwhole) | hpointed := hc
  · exact .inr (.inl (eq_minus_of_mem_sign hsign))
  · exact .inl (h.whole_digits c hwhole)
  · obtain hnone | ⟨digits, hdigits, hall⟩ := h.pointed_form
    · rw [hnone] at hpointed
      cases hpointed
    · rw [hdigits, List.mem_cons] at hpointed
      obtain hpoint | hmem := hpointed
      · exact .inr (.inr hpoint)
      · exact .inl (hall c hmem)

theorem Proper.digits_ne_nil_iff (h : numeral.Proper) :
    numeral.digits ≠ [] ↔ ∃ c ∈ numeral.chars, c.isDigit = true := by
  constructor
  · intro hne
    obtain ⟨c, hc⟩ := List.exists_mem_of_ne_nil _ hne
    obtain ⟨hmem, hdigit⟩ := h.mem_digits_iff.mp hc
    refine ⟨c, ?_, hdigit⟩
    rw [chars, List.append_assoc]
    exact List.mem_append_right _ hmem
  · intro ⟨c, hc, hdigit⟩
    rw [chars, List.append_assoc, List.mem_append] at hc
    obtain hsign | hmem := hc
    · rw [eq_minus_of_mem_sign hsign] at hdigit
      cases hdigit
    · exact List.ne_nil_of_mem (h.mem_digits_iff.mpr ⟨hmem, hdigit⟩)

/-- What is written for a numeral without digits is the decimal point, alone or behind a minus
sign. -/
theorem Proper.digits_eq_nil_iff (h : numeral.Proper) :
    numeral.digits = [] ↔ numeral.chars = ['.'] ∨ numeral.chars = ['-', '.'] := by
  constructor
  · intro hnil
    obtain ⟨hwhole, hbehind⟩ := List.append_eq_nil_iff.mp hnil
    obtain ⟨digits, hfraction⟩ := Option.ne_none_iff_exists'.mp (h.has_part hwhole)
    rw [hfraction, Option.getD_some] at hbehind
    rw [chars, hwhole, pointed, hfraction, hbehind, sign]
    cases numeral.negative <;> simp
  · intro hchars
    by_contra hne
    obtain ⟨c, hc, hdigit⟩ := h.digits_ne_nil_iff.mp hne
    obtain hpoint | hpoint := hchars
    · simp only [hpoint, List.mem_singleton] at hc
      rw [hc] at hdigit
      cases hdigit
    · simp only [hpoint, List.mem_cons, List.not_mem_nil, or_false] at hc
      obtain rfl | rfl := hc <;> cases hdigit

/-- Every word among the floating-point numbers has a letter that is in no numeral. -/
theorem exists_letter_of_word {body : List Char}
    (h : String.ofList (body.map Char.toLower) ∈ ["inf", "infinity", "nan"]) :
    ∃ c ∈ body, c.toLower = 'n' := by
  have hletter : ∀ word ∈ ["inf", "infinity", "nan"], 'n' ∈ word.toList := by decide
  have hn := hletter _ h
  rw [String.toList_ofList] at hn
  exact List.mem_map.mp hn

/-- A numeral is written as a floating-point number is if it has a digit. -/
theorem Proper.floatForm_iff (h : numeral.Proper) :
    FloatForm numeral.chars ↔ ∃ c ∈ numeral.chars, c.isDigit = true := by
  constructor
  · intro hform
    obtain ⟨sign, body, hchars, -, hword | hnumber⟩ := hform
    · obtain ⟨c, hc, hlower⟩ := exists_letter_of_word hword
      have hmem : c ∈ numeral.chars := by
        rw [hchars]
        exact List.mem_append_right _ hc
      obtain hdigit | rfl | rfl := h.digit_or_mark hmem
      · exact ⟨c, hmem, hdigit⟩
      · cases hlower
      · cases hlower
    · obtain ⟨whole, fraction, exponent, rfl, -, -, ⟨c, hc, hdigit⟩, -⟩ := hnumber
      refine ⟨c, ?_, hdigit⟩
      rw [hchars]
      exact List.mem_append_right _ (List.mem_append_left _ hc)
  · intro hdigit
    obtain ⟨c, hc⟩ := List.exists_mem_of_ne_nil _ (h.digits_ne_nil_iff.mpr hdigit)
    have hsign : SignForm numeral.sign := numeral.sign_form.imp_right .inl
    refine ⟨numeral.sign, numeral.whole ++ numeral.pointed, List.append_assoc _ _ _, hsign, .inr ?_⟩
    exact ⟨numeral.whole, numeral.pointed, [], (List.append_nil _).symm, h.whole_digits,
      h.pointed_form, ⟨c, h.mem_digits_iff.mp hc⟩, .inl rfl⟩

theorem isSome_toFloat?_iff : numeral.toFloat?.isSome = true ↔ numeral.digits ≠ [] := by
  unfold toFloat?
  split <;> simp_all

end Numeral

variable {text : String}

theorem isDecimal_iff_exists :
    isDecimal text = true ↔ ∃ numeral : Numeral, numeral.Proper ∧ text.toList = numeral.chars := by
  simp only [isDecimal, Option.isSome_iff_exists, Numeral.ofText?_eq_some_iff]

/-- The texts that are read as decimal strings are those of the grammar. -/
theorem isDecimal_iff : isDecimal text = true ↔ DecimalForm text := by
  have hempty : text = "" ↔ text.toList = [] := String.toList_inj.symm
  have hminus : text = "-" ↔ text.toList = ['-'] := String.toList_inj.symm
  -- either side asks for the same parts, but only the grammar has to rule out texts without any
  rw [isDecimal_iff_exists, DecimalForm, Ne, hempty, Ne, hminus]
  constructor
  · intro ⟨numeral, hproper, htext⟩
    refine ⟨?_, ?_, numeral.sign, numeral.whole, numeral.pointed, htext, numeral.sign_form,
      hproper.whole_form, hproper.pointed_form⟩
    · simp [htext, Numeral.chars, hproper.unsigned_ne_nil]
    · rw [htext, Numeral.chars, List.append_assoc]
      obtain hnone | hsign := numeral.sign_form
      · rw [hnone]
        exact hproper.unsigned_ne_minus []
      · rw [hsign]
        intro hlone
        exact hproper.unsigned_ne_nil (List.cons.inj hlone).2
  · intro ⟨hne, hlone, sign, whole, fraction, htext, hsign, hwhole, hfraction⟩
    have hpart : whole ++ fraction ≠ [] := by
      intro hnil
      rw [List.append_assoc, hnil, List.append_nil] at htext
      obtain rfl | rfl := hsign
      · exact hne htext
      · exact hlone htext
    obtain ⟨numeral, hproper, hchars⟩ := Numeral.exists_proper hsign hwhole hfraction hpart
    exact ⟨numeral, hproper, htext.trans hchars.symm⟩

/-- The transformer to floating-point numbers accepts the decimal strings with a digit. -/
theorem accepts_string_iff :
    Transformer.stringToFloat.accepts (.string text) = true ↔
      DecimalForm text ∧ ∃ c ∈ text.toList, c.isDigit = true := by
  change (float? text).isSome = true ↔ _
  rw [← isDecimal_iff, isDecimal_iff_exists, float?, Option.isSome_bind, Option.any_eq_true]
  simp only [Numeral.ofText?_eq_some_iff, Numeral.isSome_toFloat?_iff]
  constructor
  · intro ⟨numeral, ⟨hproper, htext⟩, hdigits⟩
    refine ⟨⟨numeral, hproper, htext⟩, ?_⟩
    rw [htext]
    exact hproper.digits_ne_nil_iff.mp hdigits
  · intro ⟨⟨numeral, hproper, htext⟩, hdigit⟩
    rw [htext] at hdigit
    exact ⟨numeral, ⟨hproper, htext⟩, hproper.digits_ne_nil_iff.mpr hdigit⟩

theorem DecimalForm.exists_digit_iff (h : DecimalForm text) :
    (∃ c ∈ text.toList, c.isDigit = true) ↔ text ≠ "." ∧ text ≠ "-." := by
  obtain ⟨numeral, hproper, htext⟩ := isDecimal_iff_exists.mp (isDecimal_iff.mpr h)
  have hpoint : text = "." ↔ text.toList = ['.'] := String.toList_inj.symm
  have hminus : text = "-." ↔ text.toList = ['-', '.'] := String.toList_inj.symm
  rw [Ne, hpoint, Ne, hminus, ← not_or, htext, ← hproper.digits_eq_nil_iff,
    ← hproper.digits_ne_nil_iff]

theorem DecimalForm.floatForm_iff (h : DecimalForm text) :
    FloatForm text.toList ↔ ∃ c ∈ text.toList, c.isDigit = true := by
  obtain ⟨numeral, hproper, htext⟩ := isDecimal_iff_exists.mp (isDecimal_iff.mpr h)
  rw [htext, hproper.floatForm_iff]

/-- The check of numeric values passes the decimal strings and reports all others. -/
theorem numericFault?_string (text : String) :
    ((Value.string text).numericFault? = none ↔ DecimalForm text) ∧
      ((Value.string text).numericFault? = some .invalidDecimal ↔ ¬DecimalForm text) := by
  rw [← isDecimal_iff, Value.numericFault?]
  cases isDecimal text <;> simp

/-- **Decimal strings.** A text is read as a decimal string exactly if it is one of the grammar. The
check of numeric values passes these texts and reports the others as invalid decimal strings. The
transformer to floating-point numbers accepts those of them that have a digit, which are all but
two; in other words those that are written as floating-point numbers are. -/
theorem isDecimal_spec (text : String) :
    (isDecimal text = true ↔ DecimalForm text) ∧
      ((Value.string text).numericFault? = none ↔ DecimalForm text) ∧
      ((Value.string text).numericFault? = some .invalidDecimal ↔ ¬DecimalForm text) ∧
      (Transformer.stringToFloat.accepts (.string text) = true ↔
        DecimalForm text ∧ ∃ c ∈ text.toList, c.isDigit = true) ∧
      (Transformer.stringToFloat.accepts (.string text) = true ↔
        DecimalForm text ∧ text ≠ "." ∧ text ≠ "-.") ∧
      (Transformer.stringToFloat.accepts (.string text) = true ↔
        DecimalForm text ∧ FloatForm text.toList) := by
  obtain ⟨hpass, hreport⟩ := numericFault?_string text
  refine ⟨isDecimal_iff, hpass, hreport, accepts_string_iff, ?_, ?_⟩
  · rw [accepts_string_iff]
    exact and_congr_right DecimalForm.exists_digit_iff
  · rw [accepts_string_iff]
    exact and_congr_right fun h => h.floatForm_iff.symm

example : isDecimal "-." = true ∧ float? "-." = none := by decide

end DocRules.Decimal
