import PlaneNet.Proofs.Exact
import PlaneNet.Sample

set_option autoImplicit false

namespace PlaneNet

structure Line where
  bias : ℝ
  x : ℝ
  y : ℝ

namespace Line

noncomputable def value (l : Line) (x y : ℝ) : ℝ := l.bias + l.x * x + l.y * y

noncomputable def dot (l u : Line) : ℝ := l.bias * u.bias + l.x * u.x + l.y * u.y

noncomputable def normSq (l : Line) : ℝ := l.dot l

noncomputable def moved (l : Line) (amount x y : ℝ) : Line :=
  ⟨l.bias + amount, l.x + amount * x, l.y + amount * y⟩

noncomputable def minus (l u : Line) : Line := ⟨l.bias - u.bias, l.x - u.x, l.y - u.y⟩

def ofWeights (weights : List ℝ) : Line := ⟨weights.getD 0 0, weights.getD 1 0, weights.getD 2 0⟩

theorem moved_zero (l : Line) (x y : ℝ) : l.moved 0 x y = l := by simp [moved]

theorem dot_moved (l u : Line) (amount x y : ℝ) : (l.moved amount x y).dot u = l.dot u + amount * u.value x y := by
  simp only [dot, moved, value]
  ring

theorem normSq_moved (l : Line) (amount x y : ℝ) :
    (l.moved amount x y).normSq =
      l.normSq + 2 * (amount * l.value x y) + amount ^ 2 * (1 + x ^ 2 + y ^ 2) := by
  simp only [normSq, dot, moved, value]
  ring

theorem dot_minus (l start u : Line) : (l.minus start).dot u = l.dot u - start.dot u := by
  simp only [dot, minus]
  ring

theorem normSq_nonneg (l : Line) : 0 ≤ l.normSq := by
  simp only [normSq, dot]
  nlinarith [mul_self_nonneg l.bias, mul_self_nonneg l.x, mul_self_nonneg l.y]

theorem normSq_minus_le (l start : Line) : (l.minus start).normSq ≤ 2 * l.normSq + 2 * start.normSq := by
  simp only [normSq, dot, minus]
  nlinarith [sq_nonneg (l.bias + start.bias), sq_nonneg (l.x + start.x), sq_nonneg (l.y + start.y)]

theorem dot_sq_le (l u : Line) : l.dot u ^ 2 ≤ l.normSq * u.normSq := by
  simp only [normSq, dot]
  nlinarith [sq_nonneg (l.bias * u.x - l.x * u.bias), sq_nonneg (l.bias * u.y - l.y * u.bias),
    sq_nonneg (l.x * u.y - l.y * u.x)]

end Line

def Separates (u : Line) (margin : ℝ) (samples : List (Sample ℝ)) : Prop :=
  ∀ s ∈ samples, margin ≤ s.target * u.value s.x s.y

/-- The greatest squared length of a sample, its bias input included. -/
noncomputable def reachSq : List (Sample ℝ) → ℝ
  | [] => 0
  | s :: rest => max (1 + s.x ^ 2 + s.y ^ 2) (reachSq rest)

noncomputable def mistakeBound (start : Line) (samples : List (Sample ℝ)) (u : Line) (margin rate : ℝ) : ℝ :=
  u.normSq / margin ^ 2 * (start.normSq / rate ^ 2 + 2 * reachSq samples)

theorem le_reachSq {samples : List (Sample ℝ)} {s : Sample ℝ} (member : s ∈ samples) :
    1 + s.x ^ 2 + s.y ^ 2 ≤ reachSq samples := by
  induction samples with
  | nil => cases member
  | cons first rest ih =>
    rcases List.mem_cons.mp member with rfl | later
    · exact le_max_left _ _
    · exact (ih later).trans (le_max_right _ _)

theorem reachSq_nonneg (samples : List (Sample ℝ)) : 0 ≤ reachSq samples := by
  cases samples with
  | nil => exact le_refl _
  | cons s rest =>
    have length : 0 ≤ 1 + s.x ^ 2 + s.y ^ 2 := by positivity
    exact length.trans (le_max_left _ _)

theorem mistakeBound_nonneg (start : Line) (samples : List (Sample ℝ)) (u : Line) (margin rate : ℝ) :
    0 ≤ mistakeBound start samples u margin rate := by
  have reach := reachSq_nonneg samples
  have first := start.normSq_nonneg
  have separator := u.normSq_nonneg
  rw [mistakeBound]
  positivity

/--
After so many mistakes: every mistake turns the line towards the separating one by a fixed amount, and
lengthens it by no more than a fixed amount.
-/
structure Line.Turned (start u : Line) (margin rate reach : ℝ) (mistakes : Nat) (now : Line) : Prop where
  towards : start.dot u + 2 * rate * margin * mistakes ≤ now.dot u
  length : now.normSq ≤ start.normSq + 4 * rate ^ 2 * reach * mistakes

namespace Line.Turned

variable {start u now : Line} {margin rate reach : ℝ} {mistakes : Nat}

theorem refl (start u : Line) (margin rate reach : ℝ) : start.Turned u margin rate reach 0 start where
  towards := by simp
  length := by simp

theorem next (turned : start.Turned u margin rate reach mistakes now) (positive : 0 < rate) {s : Sample ℝ}
    (unit : (s.target : ℝ) ^ 2 = 1) (separated : margin ≤ s.target * u.value s.x s.y)
    (wrong : s.target * now.value s.x s.y ≤ 0) (near : 1 + s.x ^ 2 + s.y ^ 2 ≤ reach) :
    start.Turned u margin rate reach (mistakes + 1) (now.moved (rate * (2 * s.target)) s.x s.y) where
  towards := by
    have gain := mul_le_mul_of_nonneg_left separated (show 0 ≤ 2 * rate by positivity)
    have before := turned.towards
    rw [dot_moved]
    push_cast
    nlinarith
  length := by
    have turn : 2 * (rate * (2 * s.target) * now.value s.x s.y) ≤ 0 := by
      nlinarith [mul_nonneg positive.le (neg_nonneg.mpr wrong)]
    have growth : (rate * (2 * s.target)) ^ 2 * (1 + s.x ^ 2 + s.y ^ 2) ≤ 4 * rate ^ 2 * reach := by
      have square : (rate * (2 * s.target)) ^ 2 = 4 * rate ^ 2 := by
        rw [mul_pow, mul_pow, unit]
        ring
      rw [square]
      exact mul_le_mul_of_nonneg_left near (by positivity)
    have before := turned.length
    rw [normSq_moved]
    push_cast
    linarith

/-- The gain grows with the mistakes and the length with their root only, so there cannot be many. -/
theorem sq_le (turned : start.Turned u margin rate reach mistakes now) (positive : 0 < margin)
    (rising : 0 < rate) :
    (mistakes : ℝ) ^ 2 ≤ u.normSq / margin ^ 2 * (start.normSq / rate ^ 2 + 2 * reach * mistakes) := by
  have gain : 2 * rate * margin * mistakes ≤ (now.minus start).dot u := by
    rw [dot_minus]
    linarith [turned.towards]
  have count : (0 : ℝ) ≤ mistakes := Nat.cast_nonneg _
  have squares : (2 * rate * margin * mistakes) ^ 2 ≤ (now.minus start).dot u ^ 2 :=
    pow_le_pow_left₀ (by positivity) gain 2
  have apart : (now.minus start).normSq ≤ 4 * start.normSq + 8 * rate ^ 2 * reach * mistakes := by
    have := normSq_minus_le now start
    linarith [turned.length]
  have product : (now.minus start).normSq * u.normSq ≤
      (4 * start.normSq + 8 * rate ^ 2 * reach * mistakes) * u.normSq :=
    mul_le_mul_of_nonneg_right apart u.normSq_nonneg
  have all := (squares.trans (dot_sq_le _ u)).trans product
  have cleared : u.normSq / margin ^ 2 * (start.normSq / rate ^ 2 + 2 * reach * mistakes) =
      (4 * start.normSq + 8 * rate ^ 2 * reach * mistakes) * u.normSq / (4 * rate ^ 2 * margin ^ 2) := by
    field_simp
    ring
  rw [cleared, le_div_iff₀ (by positivity)]
  linarith

theorem mistakes_le {samples : List (Sample ℝ)}
    (turned : start.Turned u margin rate (reachSq samples) mistakes now) (positive : 0 < margin)
    (rising : 0 < rate) : (mistakes : ℝ) ≤ mistakeBound start samples u margin rate := by
  rcases Nat.eq_zero_or_pos mistakes with rfl | some
  · simpa using mistakeBound_nonneg start samples u margin rate
  · have one : (1 : ℝ) ≤ mistakes := by exact_mod_cast some
    have first : start.normSq / rate ^ 2 ≤ start.normSq / rate ^ 2 * mistakes :=
      le_mul_of_one_le_right (div_nonneg start.normSq_nonneg (by positivity)) one
    have scale : 0 ≤ u.normSq / margin ^ 2 := div_nonneg u.normSq_nonneg (by positivity)
    have square := turned.sq_le positive rising
    have linear : (mistakes : ℝ) * mistakes ≤ mistakeBound start samples u margin rate * mistakes := by
      rw [mistakeBound]
      calc (mistakes : ℝ) * mistakes = (mistakes : ℝ) ^ 2 := (sq _).symm
        _ ≤ _ := square
        _ ≤ u.normSq / margin ^ 2 * (start.normSq / rate ^ 2 * mistakes + 2 * reachSq samples * mistakes) := by
          gcongr
        _ = _ := by ring
    exact le_of_mul_le_mul_right linear (by linarith)

end Line.Turned

end PlaneNet
