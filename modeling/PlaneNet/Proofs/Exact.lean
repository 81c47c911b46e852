import Mathlib.Analysis.Complex.Exponential
import PlaneNet.Scalar

set_option autoImplicit false

namespace PlaneNet

-- Messages about exact numbers show no digits.
noncomputable instance : Scalar ℝ where
  nat n := n
  decimal m k := m / 10 ^ k
  lt x y := decide (x < y)
  le x y := decide (x ≤ y)
  isFinite _ := true
  belowInfinity _ := true
  text _ := ""

noncomputable instance : Exponential ℝ := ⟨Real.exp⟩

noncomputable instance : Storage ℝ ℝ where
  widen := id
  narrow := id
  ofRandomWord w := nat w.toNat / nat (2 ^ 32) - Scalar.half

instance : Scalar ℚ where
  nat n := n
  decimal m k := m / 10 ^ k
  lt x y := decide (x < y)
  le x y := decide (x ≤ y)
  isFinite _ := true
  belowInfinity _ := true
  text _ := ""

instance : Storage ℚ ℚ where
  widen := id
  narrow := id
  ofRandomWord w := nat w.toNat / nat (2 ^ 32) - Scalar.half

theorem real_zero : (Scalar.zero : ℝ) = 0 := Nat.cast_zero

theorem real_one : (Scalar.one : ℝ) = 1 := Nat.cast_one

theorem real_nat (n : Nat) [n.AtLeastTwo] : (nat (OfNat.ofNat n) : ℝ) = OfNat.ofNat n := Nat.cast_ofNat

theorem zero_add_mul_one (v : ℝ) : Scalar.zero + v * Scalar.one = v := by
  rw [real_zero, real_one]
  exact (zero_add _).trans (mul_one v)

theorem foldl_add_eq_sum {α : Type} (f : α → ℚ) (xs : List α) :
    xs.foldl (fun sum a => sum + f a) (Scalar.zero : ℚ) = (xs.map f).sum := by
  have zero : (Scalar.zero : ℚ) = 0 := Nat.cast_zero
  rw [zero, List.sum_eq_foldl, List.foldl_map]

end PlaneNet
