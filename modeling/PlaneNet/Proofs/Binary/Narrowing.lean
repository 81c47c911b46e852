import PlaneNet.Proofs.Binary.Reading

set_option autoImplicit false

namespace PlaneNet.Binary

section Rounding

theorem roundHalfEven_eq_zero_iff {num den : Nat} (positive : 0 < den) :
    roundHalfEven num den = 0 ↔ 2 * num ≤ den := by
  rcases Nat.lt_or_ge num den with below | above
  · simp only [roundHalfEven, Nat.div_eq_of_lt below, Nat.mod_eq_of_lt below]
    grind
  · have quotient : 0 < num / den := Nat.div_pos above positive
    simp only [roundHalfEven]
    grind

variable {f : Format}

theorem pack_eq_zero_iff (base : 0 < f.binade) (finite : 0 < f.infinity) {shift significand : Nat} :
    f.pack shift significand = 0 ↔ shift = 0 ∧ significand = 0 := by
  have apart : shift * f.binade = 0 ↔ shift = 0 := by rw [Nat.mul_eq_zero, or_iff_left base.ne']
  rw [Format.pack, ← apart]
  omega

theorem nearestDyadic_le_infinity (n up down : Nat) : f.nearestDyadic n up down ≤ f.infinity := by
  rw [Format.nearestDyadic]
  split
  · exact Nat.zero_le _
  · exact Nat.min_le_right _ _

theorem two_pow_lt_mul {n up down : Nat} (positive : n ≠ 0) (long : down < n.log2 + (up + 1)) :
    2 ^ down < n * 2 ^ (up + 1) :=
  calc 2 ^ down
    _ < 2 ^ (n.log2 + (up + 1)) := Nat.pow_lt_pow_right (by decide) long
    _ = 2 ^ n.log2 * 2 ^ (up + 1) := Nat.pow_add ..
    _ ≤ n * 2 ^ (up + 1) := Nat.mul_le_mul_right _ (Nat.log2_self_le positive)

theorem nearestDyadic_eq_zero_iff (base : 0 < f.binade) (finite : 0 < f.infinity) (n up down : Nat) :
    f.nearestDyadic n up down = 0 ↔ n * 2 ^ (up + 1) ≤ 2 ^ down := by
  rw [Format.nearestDyadic]
  split
  next zero => simp [zero]
  next positive =>
    simp only [pack_eq_zero_iff base finite]
    -- Without a shift the result is the rounded quotient; with one the number is too long to be near zero.
    rcases Nat.eq_zero_or_pos (n.log2 + 1 + up - (down + f.precision)) with small | large
    · simp only [small, true_and, Nat.add_zero, Nat.shiftLeft_eq, Nat.one_mul]
      rw [roundHalfEven_eq_zero_iff (Nat.two_pow_pos _)]
      rcases Nat.le_total up down with below | above
      · obtain ⟨rest, rfl⟩ := Nat.exists_eq_add_of_le below
        rw [Nat.sub_eq_zero_of_le below, Nat.pow_zero, Nat.mul_one, Nat.add_sub_cancel_left, Nat.pow_succ,
          Nat.pow_add, Nat.mul_comm (2 ^ up) (2 ^ rest), Nat.mul_comm (2 ^ up) 2, ← Nat.mul_assoc, Nat.mul_comm n 2,
          Nat.mul_le_mul_right_iff (Nat.two_pow_pos up)]
      · have whole : 0 < n * 2 ^ (up - down) := Nat.mul_pos (Nat.pos_of_ne_zero positive) (Nat.two_pow_pos _)
        have long := two_pow_lt_mul positive (show down < n.log2 + (up + 1) by omega)
        rw [Nat.sub_eq_zero_of_le above, Nat.pow_zero]
        exact iff_of_false (by omega) (Nat.not_le.mpr long)
    · have long := two_pow_lt_mul positive (show down < n.log2 + (up + 1) by omega)
      exact iff_of_false (fun zero => Nat.ne_of_gt large zero.1) (Nat.not_le.mpr long)

end Rounding

def halfLeast : Float := widen (toSingle ⟨false, 1⟩) / 2

theorem decode_halfLeast : double.decode (ofDouble halfLeast) = .finite false (2 ^ 52) 872 := by decide +kernel

section Storing

variable {x : Float}

theorem convert_finite {f g : Format} {e : Encoded} {negative : Bool} {significand shift : Nat}
    (datum : f.decode e = .finite negative significand shift) :
    f.convert g e = ⟨negative, g.nearestDyadic significand (shift + g.scale) f.scale⟩ := by
  rw [Format.convert, datum]

theorem two_pow_lt_shifted_iff (a b c n k : Nat) : 2 ^ (a + b + c) < n * 2 ^ (k + c) ↔ 2 ^ a * 2 ^ b < n * 2 ^ k := by
  rw [Nat.pow_add, Nat.pow_add, Nat.pow_add 2 k, ← Nat.mul_assoc, Nat.mul_lt_mul_right (Nat.two_pow_pos c)]

theorem narrow_of_pos (positive : 0 < x) :
    ∃ magnitude ≤ single.infinity, narrow x = toSingle ⟨false, magnitude⟩ ∧ (0 < magnitude ↔ halfLeast < x) := by
  rcases ((double_pos_iff x).mp positive).finite_or_infinite with datum | ⟨significand, shift, present, datum⟩
  · have above : halfLeast < x := by
      rw [double_lt_iff, double_unpack, double_unpack, decode_halfLeast, datum]
      rfl
    refine ⟨single.infinity, Nat.le_refl _, ?_, iff_of_true (by decide) above⟩
    rw [narrow, Format.convert, datum]
    rfl
  · refine ⟨_, nearestDyadic_le_infinity .., congrArg toSingle (convert_finite datum), ?_⟩
    rw [Nat.pos_iff_ne_zero, ne_eq, nearestDyadic_eq_zero_iff (by decide) (by decide), Nat.not_le,
      double_lt_of_finite (by decide) present decode_halfLeast datum,
      show double.scale = 52 + 872 + (single.scale + 1) from rfl, Nat.add_assoc shift]
    exact two_pow_lt_shifted_iff ..

theorem decode_positive {f : Format} (base : 0 < f.binade) (finite : 0 < f.infinity) {magnitude : Nat}
    (number : magnitude ≤ f.infinity) : (f.decode ⟨false, magnitude⟩).Positive ↔ 0 < magnitude := by
  rw [Format.decode]
  simp only [if_neg (Nat.not_lt.mpr number)]
  by_cases infinite : magnitude = f.infinity
  · rw [if_pos infinite]
    exact iff_of_true rfl (infinite ▸ finite)
  rw [if_neg infinite]
  by_cases subnormal : magnitude / f.binade = 0
  · have below : magnitude < f.binade := (Nat.div_eq_zero_iff_lt base).mp subnormal
    simp [subnormal, Datum.Positive, Nat.mod_eq_of_lt below]
  · rw [if_neg subnormal]
    refine iff_of_true ⟨rfl, Nat.add_pos_left base _⟩ (Nat.pos_of_ne_zero fun zero => subnormal ?_)
    rw [zero, Nat.zero_div]

theorem narrow_pos_iff (positive : 0 < x) : 0 < narrow x ↔ halfLeast < x := by
  obtain ⟨magnitude, number, stored, left⟩ := narrow_of_pos positive
  rw [single_pos_iff, stored, ofSingle_toSingle number, decode_positive (by decide) (by decide) number, left]

theorem narrow_eq_zero (positive : 0 < x) (small : ¬ halfLeast < x) : narrow x = 0 := by
  obtain ⟨magnitude, -, stored, left⟩ := narrow_of_pos positive
  obtain rfl : magnitude = 0 := Nat.eq_zero_of_not_pos (mt left.mp small)
  rw [stored]
  rfl

end Storing

section Widening

theorem binade_le_nearestDyadic {f : Format} (room : f.binade ≤ f.infinity) {n up down : Nat} (positive : n ≠ 0)
    (long : down + f.precision ≤ n.log2 + up) : f.binade ≤ f.nearestDyadic n up down := by
  rw [Format.nearestDyadic, if_neg positive, Format.pack]
  have shift : 1 ≤ n.log2 + 1 + up - (down + f.precision) := by omega
  have scaled := Nat.mul_le_mul_right f.binade shift
  rw [Nat.one_mul] at scaled
  exact Nat.le_min.mpr ⟨Nat.le_add_right_of_le scaled, room⟩

theorem widen_of_pos {w : Float32} (positive : 0 < w) :
    ∃ magnitude, double.binade ≤ magnitude ∧ magnitude ≤ double.infinity ∧ widen w = toDouble ⟨false, magnitude⟩ := by
  rcases ((single_pos_iff w).mp positive).finite_or_infinite with datum | ⟨significand, shift, present, datum⟩
  · refine ⟨double.infinity, by decide, Nat.le_refl _, ?_⟩
    rw [widen, Format.convert, datum]
    rfl
  · refine ⟨_, ?_, nearestDyadic_le_infinity .., congrArg toDouble (convert_finite datum)⟩
    refine binade_le_nearestDyadic (by decide) present.ne' ?_
    have scales : single.scale + double.precision ≤ double.scale := by decide
    omega

end Widening

section Doubling

open Float.Model (UnpackedFloat)
open Float.Model.UnpackedFloat

theorem shiftRight_exact (n k : Nat) :
    ((⟨n * 2 ^ k, false, false⟩ : ExtendedMantissa) >>> k) = ⟨n, false, false⟩ := by
  induction k generalizing n with
  | zero => rw [Nat.pow_zero, Nat.mul_one]; rfl
  | succ k ih =>
    have step := congrArg ExtendedMantissa.shiftRightOne (ih (n * 2))
    rw [Nat.pow_succ, Nat.mul_comm (2 ^ k), ← Nat.mul_assoc]
    refine step.trans ?_
    simp [ExtendedMantissa.shiftRightOne]

theorem log2_add {base k rest : Nat} (power : base = 2 ^ k) (small : rest < base) : (base + rest).log2 = k := by
  subst power
  rw [Nat.log2_eq_iff (Nat.add_pos_left (Nat.two_pow_pos k) _).ne', Nat.pow_succ, Nat.mul_two]
  exact ⟨Nat.le_add_right _ _, Nat.add_lt_add_left small _⟩

theorem log2_mul_two_pow {n : Nat} (positive : 0 < n) (k : Nat) : (n * 2 ^ k).log2 = n.log2 + k := by
  rw [Nat.log2_eq_iff (Nat.mul_pos positive (Nat.two_pow_pos k)).ne', Nat.pow_add, Nat.add_right_comm, Nat.pow_add]
  exact ⟨Nat.mul_le_mul_right _ (Nat.log2_self_le positive.ne'),
    Nat.mul_lt_mul_of_pos_right Nat.lt_log2_self (Nat.two_pow_pos k)⟩

theorem shiftToTargetExponent_full {m : Float.Model.Format} {significand : Nat} (positive : 0 < significand)
    (full : significand.log2 + 1 = m.mantissaBits) (shift : Nat) (exponent : Int)
    (least : m.minExponent ≤ exponent + shift) :
    shiftToTargetExponent m (significand * 2 ^ shift) exponent .exact =
      (⟨significand, false, false⟩, exponent + shift) := by
  have target : m.targetExponent (Float.Model.totalExponent (significand * 2 ^ shift) exponent) = exponent + shift := by
    rw [Float.Model.Format.targetExponent, Float.Model.totalExponent, log2_mul_two_pow positive]
    omega
  have steps : (exponent + shift - exponent).toNat = shift := by omega
  simp only [shiftToTargetExponent, target, shiftToExponent, steps, ExtendedMantissa.ofMantissaAndAccuracy,
    shiftRight_exact]

theorem roundWithAccuracy_full {m : Float.Model.Format} {significand : Nat} (positive : 0 < significand)
    (full : significand.log2 + 1 = m.mantissaBits) (sign : Sign) (shift : Nat) (exponent : Int)
    (least : m.minExponent ≤ exponent + shift) :
    roundWithAccuracy m sign (significand * 2 ^ shift) exponent .exact =
      .finite sign significand (exponent + shift) positive := by
  have again := shiftToTargetExponent_full positive full 0 (exponent + shift) (by omega)
  rw [Nat.pow_zero, Nat.mul_one, Int.natCast_zero, Int.add_zero] at again
  rw [roundWithAccuracy]
  simp only [shiftToTargetExponent_full positive full shift exponent least, ExtendedMantissa.roundedMantissa,
    ExtendedMantissa.accuracy, Accuracy.roundToNearestEven, again, dif_neg positive.ne']

theorem unpack_toDouble {magnitude : Nat} (normal : double.binade ≤ magnitude) (finite : magnitude < double.infinity) :
    (toDouble ⟨false, magnitude⟩).toModel.unpack =
      .finite .positive (double.binade + magnitude % double.binade)
        ((magnitude / double.binade : Nat) - (double.scale + 1 : Int)) (Nat.add_pos_left (by decide) _) := by
  have field : 0 < magnitude / double.binade := Nat.div_pos normal (by decide)
  rw [double_unpack, ofDouble_toDouble (Nat.le_of_lt finite), Format.decode]
  simp only [if_neg (Nat.lt_asymm finite), if_neg (Nat.ne_of_lt finite), if_neg field.ne', Datum.unpacked]
  rw [dif_pos (Nat.add_pos_left (by decide) _)]
  congr 1
  omega

theorem encoded_pack_of_finite {magnitude : Nat} (normal : double.binade ≤ magnitude)
    (finite : magnitude < double.infinity) (present : 0 < double.binade + magnitude % double.binade) :
    encoded (pack .binary64 (.finite .positive (double.binade + magnitude % double.binade)
      ((magnitude / double.binade : Nat) - (double.scale + 1 : Int)) present)) = ⟨false, magnitude⟩ := by
  have stored := ofDouble_toDouble (x := ⟨false, magnitude⟩) (Nat.le_of_lt finite)
  rw [ofDouble_eq] at stored
  have packed := pack_unpack_of_number (m := .binary64) (toDouble ⟨false, magnitude⟩).toBits.toBitVec (by decide)
    (by rw [stored]; exact Nat.le_of_lt finite)
  refine Eq.trans (congrArg encoded ?_) stored
  rw [← unpack_toDouble normal finite]
  exact packed

theorem encoded_pack_of_infinite {significand : Nat} {exponent : Int} (present : 0 < significand)
    (large : 2047 ≤ exponent + (double.scale + 1)) :
    encoded (pack .binary64 (.finite .positive significand exponent present)) = ⟨false, double.infinity⟩ := by
  have biased : 2 ^ 11 ≤ (exponent + Float.Model.Format.exponentBias .binary64 + (52 : Nat)).toNat + 1 := by
    rw [show double.scale = 1074 from rfl] at large
    rw [show Float.Model.Format.exponentBias .binary64 = 1023 from rfl]
    omega
  rw [pack]
  simp only [if_pos biased]
  decide +kernel

theorem unpack_two_mul {magnitude : Nat} (normal : double.binade ≤ magnitude) (finite : magnitude < double.infinity) :
    UnpackedFloat.mul .binary64 (2 : Float).toModel.unpack (toDouble ⟨false, magnitude⟩).toModel.unpack =
      .finite .positive (double.binade + magnitude % double.binade)
        ((magnitude / double.binade + 1 : Nat) - (double.scale + 1 : Int)) (Nat.add_pos_left (by decide) _) := by
  have two : (2 : Float).toModel.unpack = .finite .positive (2 ^ 52) (-51) (by decide) := by rfl
  have small := Nat.mod_lt magnitude (show 0 < double.binade by decide)
  have field : 0 < magnitude / double.binade := Nat.div_pos normal (by decide)
  have full : (double.binade + magnitude % double.binade).log2 = 52 := log2_add rfl small
  have least : Float.Model.Format.minExponent .binary64 ≤
      -51 + ((magnitude / double.binade : Nat) - (double.scale + 1 : Int)) + (52 : Nat) := by
    rw [show Float.Model.Format.minExponent .binary64 = -double.scale from rfl]
    omega
  rw [two, unpack_toDouble normal finite, UnpackedFloat.mul, Nat.mul_comm,
    roundWithAccuracy_full (Nat.add_pos_left (by decide) _) (full ▸ rfl) _ 52 _ least]
  congr 1
  omega

theorem ofDouble_two_mul {magnitude : Nat} (normal : double.binade ≤ magnitude) (number : magnitude ≤ double.infinity) :
    ofDouble (2 * toDouble ⟨false, magnitude⟩) = ⟨false, min (magnitude + double.binade) double.infinity⟩ := by
  rcases Nat.eq_or_lt_of_le number with rfl | finite
  · decide +kernel
  -- The significand stays as it is, so nothing is rounded; only the exponent can run out.
  have product : (2 * toDouble ⟨false, magnitude⟩).toBits.toBitVec = pack .binary64
      (UnpackedFloat.mul .binary64 (2 : Float).toModel.unpack (toDouble ⟨false, magnitude⟩).toModel.unpack) := rfl
  rw [ofDouble_eq, product, unpack_two_mul normal finite]
  rcases Nat.lt_or_ge (magnitude + double.binade) double.infinity with below | above
  · have next := encoded_pack_of_finite (Nat.le_add_left double.binade magnitude) below (Nat.add_pos_left (by decide) _)
    simp only [Nat.add_mod_right, Nat.add_div_right _ (show 0 < double.binade by decide)] at next
    rw [Nat.min_eq_left (Nat.le_of_lt below)]
    exact next
  · have top : double.infinity = 2046 * double.binade + double.binade := by decide
    have last : 2046 ≤ magnitude / double.binade := (Nat.le_div_iff_mul_le (by decide)).mpr (by omega)
    rw [Nat.min_eq_right above]
    exact encoded_pack_of_infinite _ (by omega)

theorem two_mul_widen_pos {w : Float32} (positive : 0 < w) : 0 < 2 * widen w := by
  obtain ⟨magnitude, normal, number, widened⟩ := widen_of_pos positive
  have room : 0 < double.binade := by decide
  have finite : 0 < double.infinity := by decide
  rw [double_pos_iff, widened, ofDouble_two_mul normal number, decode_positive room finite (Nat.min_le_right _ _)]
  omega

end Doubling

end PlaneNet.Binary
