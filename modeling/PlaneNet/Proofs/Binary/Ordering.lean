import Mathlib.Data.Prod.Lex
import PlaneNet.Proofs.Binary.Reading

set_option autoImplicit false

namespace PlaneNet.Binary

open Float.Model (UnpackedFloat)

def signed : UnpackedFloat.Sign → ℤ → ℤ
  | .positive, n => n
  | .negative, n => -n

/-- The side of zero, then exponent and mantissa. Both zeros have one rank. -/
def rankOf : UnpackedFloat → ℤ ×ₗ ℤ ×ₗ ℤ
  | .infinity s => toLex (signed s 2, toLex (0, 0))
  | .finite s mantissa exponent _ => toLex (signed s 1, toLex (signed s exponent, signed s mantissa))
  | .zero _ => toLex (0, toLex (0, 0))
  | .notANumber => toLex (0, toLex (0, 0))

section Unpacked

theorem compare_toLex {α β : Type} [LinearOrder α] [LinearOrder β] (a a' : α) (b b' : β) :
    compare (toLex (a, b)) (toLex (a', b')) = (compare a a').then (compare b b') := by
  rw [Prod.Lex.compare_def]
  rfl

theorem compare_natCast (m n : ℕ) : compare (m : ℤ) n = compare m n := by
  simp only [← cmp_eq_compare, Nat.strictMono_cast.cmp_map_eq]

theorem compare_neg (m n : ℤ) : compare (-m) (-n) = (compare m n).swap := by
  have reversed : StrictAnti fun n : ℤ => -n := fun _ _ less => neg_lt_neg less
  simp only [← cmp_eq_compare, cmp_swap]
  exact reversed.cmp_map_eq m n

theorem compare_finite (s : UnpackedFloat.Sign) {m m' : ℕ} {e e' : ℤ} (positive : 0 < m) (positive' : 0 < m') :
    UnpackedFloat.compare (.finite s m e positive) (.finite s m' e' positive') =
      some (compare (rankOf (.finite s m e positive)) (rankOf (.finite s m' e' positive'))) := by
  cases s with
  | positive =>
    simp only [UnpackedFloat.compare, rankOf, signed, compare_toLex, compare_natCast]
    rfl
  | negative =>
    simp only [UnpackedFloat.compare, rankOf, signed, compare_toLex, compare_neg, compare_natCast, Ordering.swap_then]
    rfl

-- Only two finite numbers on one side of zero need more than their sides and kinds.
theorem compare_eq {a b : UnpackedFloat} (number : a.isNaN = false) (number' : b.isNaN = false) :
    a.compare b = some (compare (rankOf a) (rankOf b)) := by
  cases a with
  | notANumber => cases number
  | infinity s =>
    cases b with
    | notANumber => cases number'
    | infinity s' => cases s <;> cases s' <;> rfl
    | zero s' => cases s <;> rfl
    | finite s' m' e' positive' => cases s <;> cases s' <;> rfl
  | zero s =>
    cases b with
    | notANumber => cases number'
    | infinity s' => cases s' <;> rfl
    | zero s' => rfl
    | finite s' m' e' positive' => cases s' <;> rfl
  | finite s m e positive =>
    cases b with
    | notANumber => cases number'
    | infinity s' => cases s <;> cases s' <;> rfl
    | zero s' => cases s <;> rfl
    | finite s' m' e' positive' =>
      cases s with
      | positive =>
        cases s' with
        | positive => exact compare_finite .positive positive positive'
        | negative => rfl
      | negative =>
        cases s' with
        | positive => rfl
        | negative => exact compare_finite .negative positive positive'

theorem rankOf_le_infinity (a : UnpackedFloat) : rankOf a ≤ rankOf (.infinity .positive) := by
  cases a with
  | notANumber => decide
  | infinity s => cases s <;> decide
  | zero s => cases s <;> decide
  | finite s m e positive =>
    have side : signed s 1 < 2 := by cases s <;> decide
    exact (Prod.Lex.toLex_lt_toLex.mpr (.inl side)).le

end Unpacked

section Numbers

def rank (x : Float) : ℤ ×ₗ ℤ ×ₗ ℤ := rankOf x.toModel.unpack

theorem rank_le_infinity (x : Float) : rank x ≤ rank infinity := rankOf_le_infinity _

theorem infinity_isNaN : infinity.isNaN = false := rfl

theorem double_le_iff (x y : Float) : x ≤ y ↔ UnpackedFloat.le x.toModel.unpack y.toModel.unpack = true :=
  decide_eq_true_iff

variable {x y : Float} (number : x.isNaN = false) (number' : y.isNaN = false)

include number number'

theorem lt_iff_rank : x < y ↔ rank x < rank y := by
  rw [double_lt_iff, UnpackedFloat.lt, compare_eq number number', beq_iff_eq, Option.some_inj]
  exact compare_lt_iff_lt

theorem le_iff_rank : x ≤ y ↔ rank x ≤ rank y := by
  rw [double_le_iff, UnpackedFloat.le, compare_eq number number', Option.any_some, Ordering.isLE_iff_ne_gt]
  exact compare_le_iff_le

end Numbers

end PlaneNet.Binary
