import Mathlib
import PlaneNet.Binary.Machine

set_option autoImplicit false

namespace PlaneNet.Binary

open Float.Model (UnpackedFloat)
open Float.Model.UnpackedFloat

def Format.ofMachine (m : Float.Model.Format) : Format := .ofWidths (m.mantissaBitsWithoutImplicit + 1) m.exponentBits

example : Format.ofMachine .binary32 = single ∧ Format.ofMachine .binary64 = double := ⟨rfl, rfl⟩

section Fields

variable {m : Float.Model.Format} (b : BitVec m.numBits)

omit b in
theorem binade_pos : 0 < (Format.ofMachine m).binade := Nat.two_pow_pos _

theorem toNat_unpackMantissa : (unpackMantissa b).toNat = b.toNat % (Format.ofMachine m).binade := by
  rw [unpackMantissa_def, BitVec.extractLsb'_toNat, Nat.shiftRight_zero]
  rfl

theorem toNat_unpackExponent :
    (unpackExponent b).toNat = b.toNat / (Format.ofMachine m).binade % 2 ^ m.exponentBits := by
  rw [unpackExponent_def, BitVec.extractLsb'_toNat, Nat.shiftRight_eq_div_pow]
  rfl

def encoded (b : BitVec m.numBits) : Encoded :=
  let half := (Format.ofMachine m).binade * 2 ^ m.exponentBits
  ⟨half ≤ b.toNat, b.toNat % half⟩

def signOf (negative : Bool) : Sign := if negative then .negative else .positive

theorem ofBitVec_unpackSign : Sign.ofBitVec (unpackSign b) = signOf (encoded b).negative := by
  have half : 0 < (Format.ofMachine m).binade * 2 ^ m.exponentBits :=
    Nat.mul_pos (Nat.two_pow_pos _) (Nat.two_pow_pos _)
  have bound : b.toNat < 2 * ((Format.ofMachine m).binade * 2 ^ m.exponentBits) := by
    refine b.isLt.trans_eq ?_
    rw [Float.Model.Format.numBits, Nat.add_assoc, Nat.pow_add, Nat.pow_add, Nat.mul_comm (2 ^ m.exponentBits)]
    rfl
  have bit : (unpackSign b).toNat = b.toNat / ((Format.ofMachine m).binade * 2 ^ m.exponentBits) := by
    rw [unpackSign_def, BitVec.extractLsb'_toNat, Nat.shiftRight_eq_div_pow, Nat.pow_add]
    exact Nat.mod_eq_of_lt (Nat.div_lt_of_lt_mul (Nat.mul_comm .. ▸ bound))
  have clear : unpackSign b = 0#1 ↔ b.toNat < (Format.ofMachine m).binade * 2 ^ m.exponentBits := by
    rw [← BitVec.toNat_inj, bit, BitVec.toNat_zero, Nat.div_eq_zero_iff_lt half]
  simp only [Sign.ofBitVec, clear, signOf, encoded, decide_eq_true_eq]
  split <;> split <;> first | rfl | omega

/-- What the machine makes of a number that is counted in the power of two minus `scale`. -/
def Datum.unpacked (scale : Nat) : Datum → UnpackedFloat
  | .nan => .notANumber
  | .infinite negative => .infinity (signOf negative)
  | .finite negative significand shift =>
    if positive : 0 < significand then .finite (signOf negative) significand (shift - scale) positive
    else .zero (signOf negative)

theorem encoded_div_binade :
    (encoded b).magnitude / (Format.ofMachine m).binade = (unpackExponent b).toNat := by
  rw [toNat_unpackExponent, encoded, Nat.mod_mul_right_div_self]

theorem encoded_mod_binade :
    (encoded b).magnitude % (Format.ofMachine m).binade = (unpackMantissa b).toNat := by
  rw [toNat_unpackMantissa, encoded, Nat.mod_mul_right_mod]

theorem encoded_magnitude :
    (encoded b).magnitude = (unpackExponent b).toNat * (Format.ofMachine m).binade + (unpackMantissa b).toNat := by
  have whole := Nat.div_add_mod (encoded b).magnitude (Format.ofMachine m).binade
  rw [encoded_div_binade, encoded_mod_binade, Nat.mul_comm] at whole
  exact whole.symm

theorem unpackExponent_eq_top_iff : unpackExponent b = -1#_ ↔ (unpackExponent b).toNat = 2 ^ m.exponentBits - 1 := by
  rw [← BitVec.toNat_inj, BitVec.neg_one_eq_allOnes, BitVec.toNat_allOnes]

theorem unpackExponent_eq_zero_iff : unpackExponent b = 0#_ ↔ (unpackExponent b).toNat = 0 := by
  rw [← BitVec.toNat_inj, BitVec.toNat_zero]

theorem unpackMantissa_eq_zero_iff : unpackMantissa b = 0#_ ↔ (unpackMantissa b).toNat = 0 := by
  rw [← BitVec.toNat_inj, BitVec.toNat_zero]

theorem toNat_implicit :
    (1#1 ++ unpackMantissa b).toNat = (Format.ofMachine m).binade + (unpackMantissa b).toNat := by
  rw [BitVec.toNat_append, ← Nat.shiftLeft_add_eq_or_of_lt (unpackMantissa b).isLt, Nat.shiftLeft_eq, BitVec.toNat_ofNat,
    Nat.mod_eq_of_lt (by decide), Nat.one_mul]
  rfl

omit b in
theorem infinity_ofMachine :
    (Format.ofMachine m).infinity = (2 ^ m.exponentBits - 1) * (Format.ofMachine m).binade := rfl

omit b in
theorem scale_ofMachine :
    (Format.ofMachine m).scale + 1 = m.exponentBias + m.mantissaBitsWithoutImplicit := by
  have := m.hm
  have := Nat.one_le_two_pow (n := m.exponentBits - 1)
  simp only [Format.ofMachine, Format.ofWidths, Float.Model.Format.exponentBias, Nat.pow_eq]
  omega

theorem unpack_eq :
    unpack m b = ((Format.ofMachine m).decode (encoded b)).unpacked (Format.ofMachine m).scale := by
  have scale := scale_ofMachine (m := m)
  have small := (unpackMantissa b).isLt
  rw [unpack, Format.decode]
  simp only [encoded_div_binade, encoded_mod_binade, ofBitVec_unpackSign, unpackExponent_eq_top_iff,
    unpackExponent_eq_zero_iff, unpackMantissa_eq_zero_iff, infinity_ofMachine]
  by_cases top : (unpackExponent b).toNat = 2 ^ m.exponentBits - 1
  · rw [if_pos top, encoded_magnitude, top]
    by_cases none : (unpackMantissa b).toNat = 0
    · simp [none, Datum.unpacked]
    · simp [none, Nat.pos_of_ne_zero none, Datum.unpacked]
  · have below : (encoded b).magnitude < (2 ^ m.exponentBits - 1) * (Format.ofMachine m).binade := by
      have bound := (unpackExponent b).isLt
      have next : (unpackExponent b).toNat + 1 ≤ 2 ^ m.exponentBits - 1 := by omega
      refine Nat.lt_of_lt_of_le ?_ (Nat.mul_le_mul_right _ next)
      rw [encoded_magnitude, Nat.succ_mul]
      exact Nat.add_lt_add_left small _
    rw [if_neg top, if_neg (Nat.lt_asymm below), if_neg (Nat.ne_of_lt below)]
    by_cases subnormal : (unpackExponent b).toNat = 0
    · by_cases zero : (unpackMantissa b).toNat = 0
      · simp [subnormal, zero, Datum.unpacked]
      · rw [if_pos subnormal, dif_neg zero, if_pos subnormal, Datum.unpacked, dif_pos (Nat.pos_of_ne_zero zero),
          subnormal]
        congr 1
        omega
    · rw [if_neg subnormal, if_neg subnormal, Datum.unpacked, dif_pos (Nat.add_pos_left binade_pos _)]
      simp only [toNat_implicit]
      congr 1
      omega

-- Only the payload of a value that is not a number is lost on the way back.
theorem pack_unpack_of_number (wide : 2 ≤ m.exponentBits)
    (number : (encoded b).magnitude ≤ (Format.ofMachine m).infinity) : pack m (unpack m b) = b := by
  have proper : isNaNBits b = false := by
    rw [encoded_magnitude, infinity_ofMachine] at number
    rw [isNaNBits, decide_eq_false_iff_not, unpackExponent_eq_top_iff, ne_eq, unpackMantissa_eq_zero_iff]
    rintro ⟨top, payload⟩
    rw [top] at number
    omega
  rw [pack_unpack b wide, proper]
  rfl

end Fields

section Stored

theorem or_add {width n : Nat} (small : n < 2 ^ width) (negative : Bool) :
    (if negative then 2 ^ width else 0) ||| n = (if negative then 2 ^ width else 0) + n := by
  cases negative with
  | false => simp
  | true => simpa using (Nat.two_pow_add_eq_or_of_lt small 1).symm

theorem encoded_of_toNat {m : Float.Model.Format} {b : BitVec m.numBits} {x : Encoded}
    (small : x.magnitude < (Format.ofMachine m).binade * 2 ^ m.exponentBits)
    (value : b.toNat = (if x.negative then (Format.ofMachine m).binade * 2 ^ m.exponentBits else 0) + x.magnitude) :
    encoded b = x := by
  obtain ⟨negative, magnitude⟩ := x
  cases negative with
  | false => simp_all [encoded, Nat.mod_eq_of_lt]
  | true => simp_all [encoded, Nat.mod_eq_of_lt]

theorem ofDouble_eq (x : Float) : ofDouble x = encoded (m := .binary64) x.toBits.toBitVec := by
  have top : x.toBits >>> 63 ≠ 0 ↔ 2 ^ 63 ≤ x.toBits.toNat := by
    rw [ne_eq, ← UInt64.toNat_inj, UInt64.toNat_shiftRight, Nat.shiftRight_eq_div_pow]
    exact (Nat.div_eq_zero_iff_lt (by decide)).not.trans Nat.not_lt
  have rest : (x.toBits &&& 0x7fffffffffffffff).toNat = x.toBits.toNat % 2 ^ 63 := by
    rw [UInt64.toNat_and]
    exact Nat.and_two_pow_sub_one_eq_mod _ 63
  simp only [ofDouble, top, rest]
  rfl

theorem ofSingle_eq (x : Float32) : ofSingle x = encoded (m := .binary32) x.toBits.toBitVec := by
  have top : x.toBits >>> 31 ≠ 0 ↔ 2 ^ 31 ≤ x.toBits.toNat := by
    rw [ne_eq, ← UInt32.toNat_inj, UInt32.toNat_shiftRight, Nat.shiftRight_eq_div_pow]
    exact (Nat.div_eq_zero_iff_lt (by decide)).not.trans Nat.not_lt
  have rest : (x.toBits &&& 0x7fffffff).toNat = x.toBits.toNat % 2 ^ 31 := by
    rw [UInt32.toNat_and]
    exact Nat.and_two_pow_sub_one_eq_mod _ 31
  simp only [ofSingle, top, rest]
  rfl

variable {x : Encoded}

theorem ofDouble_toDouble (number : x.magnitude ≤ double.infinity) : ofDouble (toDouble x) = x := by
  let bits : UInt64 := (if x.negative then 0x8000000000000000 else 0) ||| UInt64.ofNat x.magnitude
  have small : x.magnitude < 2 ^ 63 := Nat.lt_of_le_of_lt number (by decide)
  have value : bits.toNat = (if x.negative then 2 ^ 63 else 0) + x.magnitude := by
    rw [UInt64.toNat_or, UInt64.toNat_ofNat', Nat.mod_eq_of_lt (by omega), ← or_add small]
    cases x.negative <;> rfl
  have self : encoded (m := .binary64) bits.toBitVec = x := encoded_of_toNat small value
  have packed : (toDouble x).toBits.toBitVec = bits.toBitVec :=
    pack_unpack_of_number (m := .binary64) bits.toBitVec (by decide) (self ▸ number)
  rw [ofDouble_eq, packed, self]

theorem ofSingle_toSingle (number : x.magnitude ≤ single.infinity) : ofSingle (toSingle x) = x := by
  let bits : UInt32 := (if x.negative then 0x80000000 else 0) ||| UInt32.ofNat x.magnitude
  have small : x.magnitude < 2 ^ 31 := Nat.lt_of_le_of_lt number (by decide)
  have value : bits.toNat = (if x.negative then 2 ^ 31 else 0) + x.magnitude := by
    rw [UInt32.toNat_or, UInt32.toNat_ofNat', Nat.mod_eq_of_lt (by omega), ← or_add small]
    cases x.negative <;> rfl
  have self : encoded (m := .binary32) bits.toBitVec = x := encoded_of_toNat small value
  have packed : (toSingle x).toBits.toBitVec = bits.toBitVec :=
    pack_unpack_of_number (m := .binary32) bits.toBitVec (by decide) (self ▸ number)
  rw [ofSingle_eq, packed, self]

end Stored

section Order

theorem double_unpack (x : Float) : x.toModel.unpack = (double.decode (ofDouble x)).unpacked double.scale :=
  ofDouble_eq x ▸ unpack_eq (m := .binary64) _

theorem single_unpack (x : Float32) : x.toModel.unpack = (single.decode (ofSingle x)).unpacked single.scale :=
  ofSingle_eq x ▸ unpack_eq (m := .binary32) _

def Datum.Positive : Datum → Prop
  | .nan => False
  | .infinite negative => negative = false
  | .finite negative significand _ => negative = false ∧ 0 < significand

theorem Datum.Positive.finite_or_infinite {d : Datum} (positive : d.Positive) :
    d = .infinite false ∨ ∃ significand shift, 0 < significand ∧ d = .finite false significand shift := by
  cases d with
  | nan => cases positive
  | infinite negative => exact .inl (congrArg Datum.infinite positive)
  | finite negative significand shift =>
    obtain ⟨rfl, present⟩ := positive
    exact .inr ⟨significand, shift, present, rfl⟩

theorem lt_unpacked_of_zero (d : Datum) (scale : Nat) :
    UnpackedFloat.lt (.zero .positive) (d.unpacked scale) = true ↔ d.Positive := by
  cases d with
  | nan => simp [Datum.unpacked, Datum.Positive, UnpackedFloat.lt, UnpackedFloat.compare]
  | infinite negative =>
    cases negative <;> simp [Datum.unpacked, Datum.Positive, UnpackedFloat.lt, UnpackedFloat.compare, signOf]
  | finite negative significand shift =>
    rw [Datum.unpacked]
    split <;> cases negative <;> simp_all [Datum.Positive, UnpackedFloat.lt, UnpackedFloat.compare, signOf]

theorem double_lt_iff (x y : Float) : x < y ↔ UnpackedFloat.lt x.toModel.unpack y.toModel.unpack = true :=
  decide_eq_true_iff

theorem single_lt_iff (x y : Float32) : x < y ↔ UnpackedFloat.lt x.toModel.unpack y.toModel.unpack = true :=
  decide_eq_true_iff

theorem double_pos_iff (x : Float) : 0 < x ↔ (double.decode (ofDouble x)).Positive := by
  have zero : (0 : Float).toModel.unpack = .zero .positive := by rfl
  rw [double_lt_iff, zero, double_unpack, lt_unpacked_of_zero]

theorem single_pos_iff (x : Float32) : 0 < x ↔ (single.decode (ofSingle x)).Positive := by
  have zero : (0 : Float32).toModel.unpack = .zero .positive := by rfl
  rw [single_lt_iff, zero, single_unpack, lt_unpacked_of_zero]

theorem decode_finite {f : Format} (base : 0 < f.binade) {x : Encoded} {negative : Bool} {significand shift : Nat}
    (found : f.decode x = .finite negative significand shift) :
    negative = x.negative ∧ significand < 2 * f.binade ∧ (0 < shift → f.binade ≤ significand) := by
  have fraction := Nat.mod_lt x.magnitude base
  rw [Format.decode] at found
  split at found
  next => cases found
  split at found
  next => cases found
  split at found
  next =>
    cases found
    exact ⟨rfl, by omega, by omega⟩
  next =>
    cases found
    exact ⟨rfl, by omega, fun _ => Nat.le_add_right _ _⟩

theorem shifted_lt_iff {base s k s' k' : Nat} (small : s < 2 * base) (small' : s' < 2 * base)
    (full : 0 < k → base ≤ s) (full' : 0 < k' → base ≤ s') :
    s * 2 ^ k < s' * 2 ^ k' ↔ k < k' ∨ k = k' ∧ s < s' := by
  have below {s k s' k' : Nat} (small : s < 2 * base) (full' : 0 < k' → base ≤ s') (less : k < k') :
      s * 2 ^ k < s' * 2 ^ k' :=
    calc s * 2 ^ k
      _ < 2 * base * 2 ^ k := Nat.mul_lt_mul_of_pos_right small (Nat.two_pow_pos k)
      _ = base * 2 ^ (k + 1) := by ring
      _ ≤ s' * 2 ^ k' :=
        Nat.mul_le_mul (full' (Nat.zero_lt_of_lt less)) (Nat.pow_le_pow_right Nat.two_pos less)
  rcases Nat.lt_trichotomy k k' with less | rfl | greater
  · exact iff_of_true (below small full' less) (.inl less)
  · simp
  · exact iff_of_false (Nat.lt_asymm (below small' full greater)) (by omega)

theorem lt_unpacked_of_finite (scale : Nat) {s k s' k' : Nat} (positive : 0 < s) (positive' : 0 < s') :
    UnpackedFloat.lt ((Datum.finite false s k).unpacked scale) ((Datum.finite false s' k').unpacked scale) = true ↔
      k < k' ∨ k = k' ∧ s < s' := by
  simp [Datum.unpacked, positive, positive', signOf, UnpackedFloat.lt, UnpackedFloat.compare, Ordering.then_eq_lt,
    compare_lt_iff_lt]

theorem double_lt_of_finite {x y : Float} {s k s' k' : Nat} (positive : 0 < s) (positive' : 0 < s')
    (first : double.decode (ofDouble x) = .finite false s k)
    (second : double.decode (ofDouble y) = .finite false s' k') : x < y ↔ s * 2 ^ k < s' * 2 ^ k' := by
  obtain ⟨-, small, full⟩ := decode_finite (by decide) first
  obtain ⟨-, small', full'⟩ := decode_finite (by decide) second
  rw [double_lt_iff, double_unpack, double_unpack, first, second, lt_unpacked_of_finite _ positive positive',
    shifted_lt_iff small small' full full']

end Order

end PlaneNet.Binary
