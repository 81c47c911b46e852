import Mathlib.Analysis.SpecialFunctions.Sigmoid
import PlaneNet.Activation
import PlaneNet.Proofs.Exact

set_option autoImplicit false

namespace PlaneNet.Activation

/-- The sigmoid of steepness `k`, stretched to `(-1, 1)`. -/
noncomputable def curve (k x : ℝ) : ℝ := Real.sigmoid (k * x) - Real.sigmoid (-(k * x))

noncomputable def curveSlope (k x : ℝ) : ℝ := (k + k) * (Real.sigmoid (k * x) * Real.sigmoid (-(k * x)))

section Curve

variable {k : ℝ}

theorem curve_monotone (steep : 0 ≤ k) : Monotone (curve k) := by
  intro x y least
  have arguments : k * x ≤ k * y := mul_le_mul_of_nonneg_left least steep
  exact sub_le_sub (Real.sigmoid_monotone arguments) (Real.sigmoid_monotone (neg_le_neg arguments))

theorem curve_neg (k x : ℝ) : curve k (-x) = -curve k x := by
  rw [curve, curve, mul_neg, neg_neg, neg_sub]

theorem abs_curve_le (k x : ℝ) : |curve k x| ≤ 1 := by
  have low (u : ℝ) := Real.sigmoid_nonneg u
  have high (u : ℝ) := Real.sigmoid_le_one u
  exact abs_sub_le_of_nonneg_of_le (low _) (high _) (low _) (high _)

theorem hasDerivAt_curve (k x : ℝ) : HasDerivAt (curve k) (curveSlope k x) x := by
  have argument : HasDerivAt (fun u => k * u) (k * 1) x := (hasDerivAt_id x).const_mul k
  have rises := (Real.hasDerivAt_sigmoid (k * x)).comp x argument
  have falls := (Real.hasDerivAt_sigmoid (-(k * x))).comp x argument.neg
  refine (rises.sub falls).congr_deriv ?_
  rw [curveSlope, Real.sigmoid_neg]
  ring

theorem curveSlope_neg (k x : ℝ) : curveSlope k (-x) = curveSlope k x := by
  rw [curveSlope, curveSlope, mul_neg, neg_neg, mul_comm (Real.sigmoid _)]

theorem curveSlope_eq (k x : ℝ) : curveSlope k x = k * (1 - curve k x ^ 2) / 2 := by
  rw [curveSlope, curve, Real.sigmoid_neg]
  ring

theorem curveSlope_nonneg (steep : 0 ≤ k) (x : ℝ) : 0 ≤ curveSlope k x := by
  have sigmoid (u : ℝ) := Real.sigmoid_nonneg u
  exact mul_nonneg (add_nonneg steep steep) (mul_nonneg (sigmoid _) (sigmoid _))

theorem curveSlope_le (steep : 0 ≤ k) (x : ℝ) : curveSlope k x ≤ k / 2 := by
  rw [curveSlope_eq]
  have square := mul_nonneg steep (sq_nonneg (curve k x))
  linarith

theorem curve_two (x : ℝ) : curve 2 x = (Real.exp (2 * x) - 1) / (Real.exp (2 * x) + 1) := by
  have positive := Real.exp_pos (2 * x)
  rw [curve, Real.sigmoid_neg, Real.sigmoid_def, Real.exp_neg]
  field_simp
  ring

theorem curve_one (x : ℝ) : curve 1 x = 2 / (1 + Real.exp (-x)) - 1 := by
  rw [curve, Real.sigmoid_neg, Real.sigmoid_def, one_mul, div_eq_mul_inv]
  ring

theorem curveSlope_two (x : ℝ) : curveSlope 2 x = 4 / (Real.exp x + Real.exp (-x)) ^ 2 := by
  have positive := Real.exp_pos x
  have double : Real.exp (2 * x) = Real.exp x * Real.exp x := by rw [two_mul, Real.exp_add]
  rw [curveSlope, Real.sigmoid_neg, Real.sigmoid_def, Real.exp_neg, Real.exp_neg, double]
  field_simp
  ring

theorem curveSlope_one (x : ℝ) : curveSlope 1 x = 2 / ((1 + Real.exp (-x)) * (1 + Real.exp x)) := by
  have positive := Real.exp_pos x
  rw [curveSlope, Real.sigmoid_neg, Real.sigmoid_def, one_mul, Real.exp_neg]
  field_simp
  ring

end Curve

/-- The curve up to magnitude `clamp` and a sign beyond. Its slope is cut off at the same magnitude for every curve. -/
structure Squashes (a : Activation) (k clamp : ℝ) : Prop where
  steep : 0 ≤ k ∧ k ≤ 2
  clamp_bounds : 0 ≤ clamp ∧ clamp ≤ 84
  apply_eq : ∀ x, a.apply x = if clamp < x then 1 else if x < -clamp then -1 else curve k x
  derive_eq : ∀ x, a.derive x = if |x| ≤ 84 then curveSlope k x else 0

section Formula

variable (x : ℝ)

theorem tanhClamp_eq : (tanhClamp : ℝ) = 42 := real_nat 42

theorem logisticClamp_eq : (logisticClamp : ℝ) = 84 := real_nat 84

theorem within_clamp_iff : Scalar.within (-logisticClamp) logisticClamp x = true ↔ |x| ≤ 84 := by
  simp only [logisticClamp_eq, Scalar.within, Scalar.le, Bool.and_eq_true, decide_eq_true_eq, abs_le]

theorem step_apply_eq : step.apply x = if x < 0 then -1 else 1 := by
  simp only [apply, Scalar.lt, real_zero, real_one, decide_eq_true_eq]

theorem step_derive_eq : step.derive x = 1 := real_one

theorem linear_derive_eq : linear.derive x = 1 := real_one

theorem tanh_squashes : tanh.Squashes 2 42 where
  steep := by norm_num
  clamp_bounds := by norm_num
  apply_eq x := by
    simp only [apply, Scalar.lt, decide_eq_true_eq, tanhClamp_eq, real_one, curve_two]
    rfl
  derive_eq x := by
    simp only [derive, Bool.not_eq_true', ← Bool.not_eq_true, within_clamp_iff, ite_not, real_one, real_zero,
      mul_one_div, ← sq, curveSlope_two]
    rfl

theorem logistic_squashes : logistic.Squashes 1 84 where
  steep := by norm_num
  clamp_bounds := by norm_num
  apply_eq x := by
    simp only [apply, Scalar.lt, decide_eq_true_eq, logisticClamp_eq, real_one, curve_one]
    rfl
  derive_eq x := by
    simp only [derive, Bool.not_eq_true', ← Bool.not_eq_true, within_clamp_iff, ite_not, real_one, real_zero,
      curveSlope_one]
    rfl

end Formula

namespace Squashes

variable {a : Activation} {k clamp x : ℝ}

theorem apply_inside (curved : a.Squashes k clamp) (inside : |x| ≤ clamp) : a.apply x = curve k x := by
  obtain ⟨low, high⟩ := abs_le.mp inside
  rw [curved.apply_eq, if_neg high.not_gt, if_neg low.not_gt]

theorem apply_above (curved : a.Squashes k clamp) (above : clamp < x) : a.apply x = 1 := by
  rw [curved.apply_eq, if_pos above]

theorem apply_below (curved : a.Squashes k clamp) (below : x < -clamp) : a.apply x = -1 := by
  have := curved.clamp_bounds.1
  rw [curved.apply_eq, if_neg (by linarith), if_pos below]

theorem abs_apply_le (curved : a.Squashes k clamp) (x : ℝ) : |a.apply x| ≤ 1 := by
  rw [curved.apply_eq]
  split_ifs
  · rw [abs_one]
  · rw [abs_neg, abs_one]
  · exact abs_curve_le k x

theorem apply_monotone (curved : a.Squashes k clamp) : Monotone (a.apply : ℝ → ℝ) := by
  intro x y least
  by_cases above : clamp < y
  · rw [curved.apply_above above]
    exact (abs_le.mp (curved.abs_apply_le x)).2
  by_cases below : x < -clamp
  · rw [curved.apply_below below]
    exact (abs_le.mp (curved.abs_apply_le y)).1
  -- Neither clamp is between the two numbers and zero.
  rw [curved.apply_inside (abs_le.mpr ⟨by linarith, by linarith⟩),
    curved.apply_inside (abs_le.mpr ⟨by linarith, by linarith⟩)]
  exact curve_monotone curved.steep.1 least

theorem apply_neg (curved : a.Squashes k clamp) (x : ℝ) : a.apply (-x) = -a.apply x := by
  by_cases above : clamp < x
  · rw [curved.apply_above above, curved.apply_below (neg_lt_neg above)]
  by_cases below : x < -clamp
  · rw [curved.apply_below below, curved.apply_above (lt_neg_of_lt_neg below), neg_neg]
  have inside : |x| ≤ clamp := abs_le.mpr ⟨not_lt.mp below, not_lt.mp above⟩
  rw [curved.apply_inside inside, curved.apply_inside ((abs_neg x).trans_le inside), curve_neg]

theorem derive_neg (curved : a.Squashes k clamp) (x : ℝ) : a.derive (-x) = a.derive x := by
  rw [curved.derive_eq, curved.derive_eq, abs_neg, curveSlope_neg]

theorem derive_bounds (curved : a.Squashes k clamp) (x : ℝ) : 0 ≤ a.derive x ∧ a.derive x ≤ 1 := by
  rw [curved.derive_eq]
  split
  next =>
    have := curved.steep.2
    exact ⟨curveSlope_nonneg curved.steep.1 x, (curveSlope_le curved.steep.1 x).trans (by linarith)⟩
  next => norm_num

theorem derive_inside (curved : a.Squashes k clamp) (inside : |x| ≤ clamp) : a.derive x = curveSlope k x := by
  rw [curved.derive_eq, if_pos (inside.trans curved.clamp_bounds.2)]

theorem derive_eq_of_inside (curved : a.Squashes k clamp) (inside : |x| ≤ clamp) :
    a.derive x = k * (1 - a.apply x ^ 2) / 2 := by
  rw [curved.derive_inside inside, curved.apply_inside inside, curveSlope_eq]

theorem hasDerivAt (curved : a.Squashes k clamp) (inside : |x| < clamp) : HasDerivAt a.apply (a.derive x) x := by
  -- The curve agrees around the point, so it has the same derivative.
  have near : ∀ᶠ u in nhds x, a.apply u = curve k u := by
    filter_upwards [continuous_abs.continuousAt.eventually_lt_const inside] with u close
    exact curved.apply_inside close.le
  rw [curved.derive_inside inside.le]
  exact (hasDerivAt_curve k x).congr_of_eventuallyEq near

end Squashes

section Shape

theorem apply_monotone (a : Activation) : Monotone (a.apply : ℝ → ℝ) := by
  cases a with
  | tanh => exact tanh_squashes.apply_monotone
  | logistic => exact logistic_squashes.apply_monotone
  | linear => exact monotone_id
  | step =>
    intro x y least
    rw [step_apply_eq, step_apply_eq]
    split_ifs <;> linarith

theorem abs_apply_le {a : Activation} (bounded : a ≠ linear) (x : ℝ) : |a.apply x| ≤ 1 := by
  cases a with
  | tanh => exact tanh_squashes.abs_apply_le x
  | logistic => exact logistic_squashes.abs_apply_le x
  | linear => exact absurd rfl bounded
  | step =>
    rw [step_apply_eq]
    split
    next => rw [abs_neg, abs_one]
    next => rw [abs_one]

theorem apply_neg_iff (a : Activation) (x : ℝ) : a.apply (-x) = -a.apply x ↔ ¬(a = step ∧ x = 0) := by
  cases a with
  | tanh => exact iff_of_true (tanh_squashes.apply_neg x) (by simp)
  | logistic => exact iff_of_true (logistic_squashes.apply_neg x) (by simp)
  | linear => exact iff_of_true rfl (by simp)
  | step =>
    rw [step_apply_eq, step_apply_eq]
    rcases lt_trichotomy x 0 with below | rfl | above
    · rw [if_pos below, if_neg (by linarith), neg_neg]
      exact iff_of_true rfl fun zero => below.ne zero.2
    · norm_num
    · rw [if_neg above.not_gt, if_pos (by linarith)]
      exact iff_of_true rfl fun zero => above.ne' zero.2

theorem derive_neg (a : Activation) (x : ℝ) : a.derive (-x) = a.derive x := by
  cases a with
  | tanh => exact tanh_squashes.derive_neg x
  | logistic => exact logistic_squashes.derive_neg x
  | step => rfl
  | linear => rfl

theorem derive_bounds (a : Activation) (x : ℝ) : 0 ≤ a.derive x ∧ a.derive x ≤ 1 := by
  cases a with
  | tanh => exact tanh_squashes.derive_bounds x
  | logistic => exact logistic_squashes.derive_bounds x
  | step =>
    rw [step_derive_eq]
    norm_num
  | linear =>
    rw [linear_derive_eq]
    norm_num

end Shape

end PlaneNet.Activation
