import PlaneNet.Proofs.Activation

set_option autoImplicit false

namespace PlaneNet

/-- Real numbers with an exponential up to magnitude 84 only and without division by zero. -/
def Guarded : Type := Option ℝ

namespace Guarded

def of : ℝ → Guarded := some

-- Nothing undefined compares with anything.
noncomputable instance : Scalar Guarded where
  add := Option.map₂ (· + ·)
  sub := Option.map₂ (· - ·)
  mul := Option.map₂ (· * ·)
  div := fun a b => Option.bind a fun u => Option.bind b fun v => if v = 0 then none else some (u / v)
  neg := Option.map (- ·)
  nat n := of (nat n)
  decimal m k := of (Scalar.decimal m k)
  lt a b := (Option.map₂ Scalar.lt a b).getD false
  le a b := (Option.map₂ Scalar.le a b).getD false
  isFinite := Option.isSome
  belowInfinity := Option.isSome
  text _ := ""

noncomputable instance : Exponential Guarded where
  exp a := Option.bind a fun u => if |u| ≤ 84 then some (Real.exp u) else none

open Exponential (exp)

theorem add_of (u v : ℝ) : of u + of v = of (u + v) := rfl

theorem sub_of (u v : ℝ) : of u - of v = of (u - v) := rfl

theorem mul_of (u v : ℝ) : of u * of v = of (u * v) := rfl

theorem neg_of (u : ℝ) : -of u = of (-u) := rfl

theorem nat_of (n : Nat) : (nat n : Guarded) = of (nat n) := rfl

theorem one_of : (Scalar.one : Guarded) = of Scalar.one := rfl

theorem zero_of : (Scalar.zero : Guarded) = of Scalar.zero := rfl

theorem lt_of (u v : ℝ) : Scalar.lt (of u) (of v) = Scalar.lt u v := rfl

theorem within_of (lo hi u : ℝ) : Scalar.within (of lo) (of hi) (of u) = Scalar.within lo hi u := rfl

theorem div_of (u : ℝ) {v : ℝ} (nonzero : v ≠ 0) : of u / of v = of (u / v) := if_neg nonzero

theorem exp_of {u : ℝ} (small : |u| ≤ 84) : exp (of u) = of (exp u) := if_pos small

end Guarded

namespace Activation

open Guarded (of add_of sub_of mul_of neg_of nat_of one_of zero_of lt_of within_of div_of exp_of)
open Exponential (exp)

theorem tanhClamp_of : (tanhClamp : Guarded) = of tanhClamp := rfl

theorem logisticClamp_of : (logisticClamp : Guarded) = of logisticClamp := rfl

theorem exp_positive (x : ℝ) : 0 < exp x := Real.exp_pos x

theorem one_positive : (0 : ℝ) < Scalar.one := real_one ▸ one_pos

theorem apply_of (a : Activation) (x : ℝ) : a.apply (of x) = of (a.apply x) := by
  cases a with
  | tanh =>
    simp only [apply, tanhClamp_of, neg_of, lt_of, one_of, apply_ite of]
    refine ite_congr rfl (fun _ => rfl) fun high => ite_congr rfl (fun _ => rfl) fun low => ?_
    have small : |nat 2 * x| ≤ 84 := by
      simp only [Scalar.lt, decide_eq_true_eq, tanhClamp_eq, not_lt] at low high
      rw [real_nat]
      exact abs_le.mpr ⟨by linarith, by linarith⟩
    have nonzero : exp (nat 2 * x) + Scalar.one ≠ 0 := (add_pos (exp_positive _) one_positive).ne'
    rw [nat_of, mul_of, exp_of small, sub_of, add_of, div_of _ nonzero]
  | logistic =>
    simp only [apply, logisticClamp_of, neg_of, lt_of, one_of, apply_ite of]
    refine ite_congr rfl (fun _ => rfl) fun high => ite_congr rfl (fun _ => rfl) fun low => ?_
    have small : |-x| ≤ 84 := by
      simp only [Scalar.lt, decide_eq_true_eq, logisticClamp_eq, not_lt] at low high
      rw [abs_neg]
      exact abs_le.mpr ⟨low, high⟩
    have nonzero : Scalar.one + exp (-x) ≠ 0 := (add_pos one_positive (exp_positive _)).ne'
    rw [nat_of, exp_of small, add_of, div_of _ nonzero, sub_of]
  | step =>
    simp only [apply, zero_of, lt_of, one_of, neg_of, apply_ite of]
    exact ite_congr rfl (fun _ => rfl) fun _ => rfl
  | linear => rfl

theorem derive_of (a : Activation) (x : ℝ) : a.derive (of x) = of (a.derive x) := by
  cases a with
  | tanh =>
    simp only [derive, logisticClamp_of, neg_of, within_of, one_of, zero_of, Bool.not_eq_true', ← Bool.not_eq_true,
      within_clamp_iff, ite_not]
    split
    next inside =>
      have nonzero : (exp x + exp (-x)) * (exp x + exp (-x)) ≠ 0 :=
        have positive := add_pos (exp_positive x) (exp_positive (-x))
        (mul_pos positive positive).ne'
      rw [exp_of inside, exp_of ((abs_neg x).trans_le inside), add_of, mul_of, div_of _ nonzero, nat_of, mul_of]
    next => rfl
  | logistic =>
    simp only [derive, logisticClamp_of, neg_of, within_of, one_of, zero_of, Bool.not_eq_true', ← Bool.not_eq_true,
      within_clamp_iff, ite_not]
    split
    next inside =>
      have nonzero : (Scalar.one + exp (-x)) * (Scalar.one + exp x) ≠ 0 :=
        (mul_pos (add_pos one_positive (exp_positive _)) (add_pos one_positive (exp_positive _))).ne'
      rw [exp_of inside, exp_of ((abs_neg x).trans_le inside), add_of, add_of, mul_of, nat_of, div_of _ nonzero]
    next => rfl
  | step => rfl
  | linear => rfl

theorem derive_fits_apply (a : Activation) :
    Monotone (a.apply : ℝ → ℝ) ∧ (a ≠ linear → ∀ x : ℝ, |a.apply x| ≤ 1) ∧
    ∀ x : ℝ,
      (a.apply (-x) = -a.apply x ↔ ¬(a = step ∧ x = 0)) ∧
      a.derive (-x) = a.derive x ∧ 0 ≤ a.derive x ∧ a.derive x ≤ 1 ∧
      (a = tanh → |x| < tanhClamp →
        HasDerivAt a.apply (a.derive x) x ∧ a.derive x = 1 - a.apply x ^ 2) ∧
      (a = logistic → |x| < logisticClamp →
        HasDerivAt a.apply (a.derive x) x ∧ a.derive x = (1 - a.apply x ^ 2) / 2) ∧
      a.apply (of x) = of (a.apply x) ∧ a.derive (of x) = of (a.derive x) := by
  refine ⟨apply_monotone a, abs_apply_le, fun x => ⟨apply_neg_iff a x, derive_neg a x, (derive_bounds a x).1,
    (derive_bounds a x).2, ?tanh, ?logistic, apply_of a x, derive_of a x⟩⟩
  case tanh =>
    rintro rfl inside
    rw [tanhClamp_eq] at inside
    refine ⟨tanh_squashes.hasDerivAt inside, ?_⟩
    rw [tanh_squashes.derive_eq_of_inside inside.le]
    ring
  case logistic =>
    rintro rfl inside
    rw [logisticClamp_eq] at inside
    refine ⟨logistic_squashes.hasDerivAt inside, ?_⟩
    rw [logistic_squashes.derive_eq_of_inside inside.le, one_mul]

theorem derive_fits_apply_of_one :
    tanh ≠ linear ∧ |(1 : ℝ)| < tanhClamp ∧ |(1 : ℝ)| < logisticClamp ∧
    |tanh.apply (1 : ℝ)| ≤ 1 ∧
    HasDerivAt tanh.apply (tanh.derive (1 : ℝ)) 1 ∧ tanh.derive (1 : ℝ) = 1 - tanh.apply 1 ^ 2 ∧
    HasDerivAt logistic.apply (logistic.derive (1 : ℝ)) 1 ∧ logistic.derive (1 : ℝ) = (1 - logistic.apply 1 ^ 2) / 2 ∧
    tanh.apply (of 1) = of (tanh.apply 1) ∧ ¬step.apply (-(0 : ℝ)) = -step.apply 0 := by
  have small : |(1 : ℝ)| < tanhClamp := by
    rw [tanhClamp_eq, abs_one]
    norm_num
  have smaller : |(1 : ℝ)| < logisticClamp := by
    rw [logisticClamp_eq, abs_one]
    norm_num
  obtain ⟨-, bounded, fits⟩ := derive_fits_apply tanh
  obtain ⟨-, -, -, -, slope, -, defined, -⟩ := fits 1
  obtain ⟨-, -, -, -, -, slower, -, -⟩ := (derive_fits_apply logistic).2.2 1
  obtain ⟨odd, -⟩ := (derive_fits_apply step).2.2 0
  exact ⟨by decide, small, smaller, bounded (by decide) 1, (slope rfl small).1, (slope rfl small).2,
    (slower rfl smaller).1, (slower rfl smaller).2, defined, fun equal => odd.mp equal ⟨rfl, rfl⟩⟩

end Activation

end PlaneNet
