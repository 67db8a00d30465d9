import Mathlib
import MeshTrace.Number.Binary64

namespace MeshTrace.Binary64

open Float.Model

/-- Bits are kept as they are unless they are one of the many forms of the undefined value. -/
theorem toBits_ofBits {bits : UInt64} (finite : bits.toNat / 2 ^ 52 % 2 ^ 11 ≠ 2 ^ 11 - 1) :
    (Float.ofBits bits).toBits = bits := by
  have exponent : @UnpackedFloat.unpackExponent Format.binary64 bits.toBitVec ≠ -1#11 := by
    intro full
    apply finite
    have value := congrArg BitVec.toNat full
    rw [UnpackedFloat.unpackExponent_def] at value
    simpa [Nat.shiftRight_eq_div_pow] using value
  have number : @UnpackedFloat.isNaNBits Format.binary64 bits.toBitVec = false :=
    decide_eq_false fun undefined => exponent undefined.1
  have kept : UnpackedFloat.pack Format.binary64 (UnpackedFloat.unpack Format.binary64 bits.toBitVec) =
      bits.toBitVec := by
    rw [UnpackedFloat.pack_unpack, number]
    rfl
  exact congrArg UInt64.ofBitVec kept

/-- What stands for the number with the other sign. -/
def neg : Binary64 → Binary64
  | nan => nan
  | infinite negative => infinite !negative
  | finite negative mantissa exponent => finite (!negative) mantissa exponent

/-- The bits of a float are those of its sign, its exponent and its mantissa. -/
theorem toNat_packComponents (sign : UnpackedFloat.Sign) (exponent : BitVec 11) (mantissa : BitVec 52) :
    (UnpackedFloat.packComponents Format.binary64 sign exponent mantissa).toNat =
      sign.toBitVec.toNat * 2 ^ 63 + exponent.toNat * 2 ^ 52 + mantissa.toNat := by
  simp only [UnpackedFloat.packComponents, BitVec.toNat_append]
  rw [← Nat.shiftLeft_add_eq_or_of_lt exponent.isLt, ← Nat.shiftLeft_add_eq_or_of_lt mantissa.isLt]
  simp only [Nat.shiftLeft_eq]
  omega

/-- The sign of the components is the sign of what they stand for. -/
theorem ofBits_packComponents_neg (sign : UnpackedFloat.Sign) (exponent : BitVec 11) (mantissa : BitVec 52) :
    ofBits (UnpackedFloat.packComponents Format.binary64 (-sign) exponent mantissa).toNat =
      (ofBits (UnpackedFloat.packComponents Format.binary64 sign exponent mantissa).toNat).neg := by
  have low := exponent.isLt
  have lower := mantissa.isLt
  have parts (s : Nat) : (s * 2 ^ 63 + exponent.toNat * 2 ^ 52 + mantissa.toNat) / 2 ^ 63 % 2 = s % 2 ∧
      (s * 2 ^ 63 + exponent.toNat * 2 ^ 52 + mantissa.toNat) / 2 ^ 52 % 2 ^ 11 = exponent.toNat ∧
      (s * 2 ^ 63 + exponent.toNat * 2 ^ 52 + mantissa.toNat) % 2 ^ 52 = mantissa.toNat := by omega
  simp only [toNat_packComponents, ofBits, Nat.pow_eq, parts]
  cases sign <;> split_ifs <;> rfl

theorem ofFloat_neg (x : Float) : ofFloat (-x) = (ofFloat x).neg := by
  have kept : UnpackedFloat.pack Format.binary64
      (UnpackedFloat.unpack Format.binary64 x.toModel.toBits.toBitVec) = x.toModel.toBits.toBitVec :=
    UnpackedFloat.pack_unpack_of_valid x.toModel.valid
  have packed (u : UnpackedFloat) : ofBits (UnpackedFloat.pack Format.binary64 u.neg).toNat =
      (ofBits (UnpackedFloat.pack Format.binary64 u).toNat).neg := by
    cases u with
    | notANumber => rfl
    | infinity sign => exact ofBits_packComponents_neg ..
    | zero sign => exact ofBits_packComponents_neg ..
    | finite sign mantissa exponent positive =>
      simp only [UnpackedFloat.neg, UnpackedFloat.pack]
      split
      · exact ofBits_packComponents_neg ..
      · split <;> exact ofBits_packComponents_neg ..
  have same := packed (UnpackedFloat.unpack Format.binary64 x.toModel.toBits.toBitVec)
  rwa [kept] at same

end MeshTrace.Binary64
