import DocRules.Json.Number

/-! Floating-point numbers that are no numbers or infinite. They are those whose exponent field is
full, so their bits stand for no finite number and they have no text in JSON. -/

namespace DocRules

theorem isFinite_eq (x : Float) : x.isFinite = !(x.isNaN || x.isInf) := by
  change x.toModel.unpack.isFinite = !(x.toModel.unpack.isNaN || x.toModel.unpack.isInf)
  cases x.toModel.unpack <;> rfl

namespace Decimal

open Float.Model Float.Model.UnpackedFloat

/-- The exponent field of a floating-point number. -/
theorem toNat_unpackExponent (x : Float) :
    (@unpackExponent Format.binary64 x.toModel.toBits.toBitVec).toNat =
      x.toBits.toNat / Nat.pow 2 52 % Nat.pow 2 11 := by
  have hbits : x.toModel.toBits.toBitVec.toNat = x.toBits.toNat := rfl
  rw [unpackExponent, BitVec.toNat_cast, BitVec.extractLsb_toNat, hbits, Nat.shiftRight_eq_div_pow]
  rfl

/-- The exponent field of what is not finite is full. -/
theorem exponent_of_not_isFinite {x : Float} (h : x.isFinite = false) :
    x.toBits.toNat / Nat.pow 2 52 % Nat.pow 2 11 = 2047 := by
  rw [← toNat_unpackExponent]
  by_cases hfull : @unpackExponent Format.binary64 x.toModel.toBits.toBitVec = -1#_
  · rw [hfull]
    rfl
  · change UnpackedFloat.isFinite (ite (_ = _) _ (ite (_ = _) _ _)) = false at h
    rw [if_neg hfull, apply_ite UnpackedFloat.isFinite, apply_dite UnpackedFloat.isFinite] at h
    change ite _ (dite _ (fun _ => true) fun _ => true) true = false at h
    rw [dite_eq_ite, ite_self, ite_self] at h
    cases h

theorem Reading.ofFloat_ne_finite {x : Float} (h : x.isFinite = false) (negative : Bool)
    (magnitude : Magnitude) : Reading.ofFloat x ≠ .finite negative magnitude := by
  simp only [Reading.ofFloat, Reading.ofBits, exponent_of_not_isFinite h]
  split
  · rename_i hlt
    exact absurd hlt (Nat.lt_irrefl 2047)
  · split <;> exact fun heq => nomatch heq

end Decimal

/-- What is not a finite number has no text. -/
theorem Json.floatText?_eq_none {x : Float} (h : x.isFinite = false) : Json.floatText? x = none := by
  unfold Json.floatText?
  split
  · rename_i negative magnitude heq
    exact absurd heq (Decimal.Reading.ofFloat_ne_finite h negative magnitude)
  · rfl

end DocRules
