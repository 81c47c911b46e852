import PlaneNet.Proofs.Network.Gradient
import PlaneNet.Proofs.Network.Perceptron
import PlaneNet.Proofs.Trainer.Sessions

set_option autoImplicit false

namespace PlaneNet

theorem Scalar.sum_eq (xs : List ℝ) : Scalar.sum xs = xs.sum := by
  rw [Scalar.sum, real_zero, neg_zero, List.sum_eq_foldl]

theorem Network.answer_of_step {n : Network ℝ ℝ} (sound : n.Sound) (step : n.activation = .step) (x y : ℝ) :
    n.answer x y = 1 ∨ n.answer x y = -1 := by
  have sums := sound.accepted.outputLayer_holdsSums
  have within := sound.accepted.outputLayer_lt
  have only := sound.accepted.lt_width_outputLayer_iff.mpr rfl
  rw [answer_eq_valueAt, valueAt_succ n.activation x y sound.accepted sound.weights sums within only, step,
    Activation.step_apply_eq]
  split
  next => exact .inr rfl
  next => exact .inl rfl

namespace Trainer

theorem loss_of_side (s : Sample ℝ) {out : ℝ} (side : out = 1 ∨ out = -1) :
    loss (s.target - out) = if agrees s out then 0 else 2 := by
  rw [Network.loss_eq, agrees]
  rcases side with rfl | rfl
  · rcases s.target_eq with positive | negative
    · simp [positive, Scalar.le, Scalar.lt, real_zero]
    · norm_num [negative, Scalar.le, Scalar.lt, real_zero]
  · rcases s.target_eq with positive | negative
    · norm_num [positive, Scalar.le, Scalar.lt, real_zero]
    · norm_num [negative, Scalar.le, Scalar.lt, real_zero]

theorem sum_losses {α : Type} (right : α → Bool) (xs : List α) :
    (xs.map fun a => if right a then (0 : ℝ) else 2).sum = 2 * (xs.length - xs.countP right) := by
  induction xs with
  | nil => simp
  | cons a rest ih =>
    rw [List.map_cons, List.sum_cons, ih, List.length_cons, List.countP_cons]
    cases right a with
    | true => simp
    | false =>
      simp only [Bool.false_eq_true, if_false]
      push_cast
      ring

theorem meanLoss_of_step {G : Type} {t : Trainer ℝ ℝ G} (sound : t.Sound) (step : t.network.activation = .step) :
    ∃ rate, t.accuracy = .ok rate ∧ t.meanLoss = .ok (2 * (1 - rate)) := by
  refine ⟨_, accuracy_eq_ok sound, ?_⟩
  have size : t.data.samples.toList.length = t.data.size := Array.length_toList
  have whole : (t.data.size : ℝ) / nat t.data.size = 1 := div_self (Nat.cast_ne_zero.mpr sound.positive.ne')
  have each (s : Sample ℝ) := loss_of_side s (Network.answer_of_step sound.network step s.x s.y)
  rw [meanLoss_eq_ok sound, Scalar.sum_eq]
  simp only [each, sum_losses, size, mul_div_assoc, sub_div, whole]
  rfl

theorem step_loss_is_twice_error_rate {G : Type} [Random.Source G] {t : Trainer ℝ ℝ G} (reachable : t.Reachable)
    (step : t.network.activation = .step) :
    ∃ mean rate, t.meanLoss = .ok mean ∧ t.accuracy = .ok rate ∧ mean = 2 * (1 - rate) ∧ (mean = 0 ↔ rate = 1) := by
  obtain ⟨rate, measured, mean⟩ := meanLoss_of_step reachable.sound step
  refine ⟨_, rate, mean, measured, rfl, ?_⟩
  rw [mul_eq_zero, or_iff_right two_ne_zero, sub_eq_zero, eq_comm]

-- The first sample lies on the line, on the side that it does not belong to.
theorem step_loss_is_twice_error_rate_of_perceptron :
    ∃ (n : Network ℝ ℝ) (t : Trainer ℝ ℝ Random.Stream), Network.ofWeights ⟨[2, 1], false⟩ .step [0, 1, 0] = .ok n ∧
      ofParts n (.ofSamples [⟨0, 1, .negative⟩, ⟨2, 3, .positive⟩]) .plain (.ofSeed 1) = .ok t ∧ t.Reachable ∧
      t.network.activation = .step ∧
      ∃ mean rate, t.meanLoss = .ok mean ∧ t.accuracy = .ok rate ∧ mean = 2 * (1 - rate) ∧ (mean = 0 ↔ rate = 1) := by
  have accepted : Topology.ofSizes [2, 1] false = .ok ⟨[2, 1], false⟩ := rfl
  have enough : ([0, 1, 0] : List ℝ).length = Topology.weightsBelow ⟨[2, 1], false⟩ 2 := rfl
  have filled : [(⟨0, 1, .negative⟩ : Sample ℝ), ⟨2, 3, .positive⟩] ≠ [] := List.cons_ne_nil _ _
  have valid : (TrainConfig.plain : TrainConfig ℝ).validate = .ok () := by
    rw [TrainConfig.validate_eq_ok_iff]
    norm_num [TrainConfig.plain, Scalar.decimal]
  obtain ⟨n, built, -, step, -, started, reachable⟩ :=
    exists_reachable accepted (by decide) enough .step filled valid (Random.Stream.ofSeed 1)
  exact ⟨n, _, built, started, reachable, step, step_loss_is_twice_error_rate reachable step⟩

end Trainer

end PlaneNet
