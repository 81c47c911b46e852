import PlaneNet.Proofs.Network.Momentum
import PlaneNet.Proofs.Trainer.Lessons

set_option autoImplicit false

namespace PlaneNet

open Network (momentumBound momentumBound_eq momentumBound_nonneg sourceBound PositiveVariances)

section Run

variable {topology : Topology} {samples : List (Sample ℝ)} {rate coefficient : ℝ} (rising : 0 ≤ rate)
  (nonneg : 0 ≤ coefficient) (shrinks : coefficient < 1)

include rising nonneg shrinks

theorem Network.Steady.trainMany {n : Network ℝ ℝ} (shape : n.topology = topology)
    (steady : n.Steady (momentumBound topology samples rate coefficient)) {visits : List (Sample ℝ)}
    (given : ∀ s ∈ visits, s ∈ samples) :
    ∃ errors after, n.trainMany rate coefficient visits = .ok (errors, after) ∧ after.topology = topology ∧
      after.Steady (momentumBound topology samples rate coefficient) := by
  induction visits generalizing n with
  | nil => exact ⟨[], n, rfl, shape, steady⟩
  | cons s rest ih =>
    subst shape
    have trained := train_eq_ok steady.sound s.x s.y s.target rate coefficient
    have next := (steady.trained rising nonneg shrinks (given s (by simp))).1
    have same : (n.trained s.x s.y s.target rate coefficient).topology = n.topology := rfl
    obtain ⟨errors, after, run, kept, final⟩ := ih same next fun other later => given other (by simp [later])
    exact ⟨_, after, trainMany_cons trained run, kept, final⟩

end Run

namespace Trainer

noncomputable def outputBound {G : Type} (t : Trainer ℝ ℝ G) : ℝ :=
  momentumBound t.network.topology t.data.samples.toList t.config.learnRate t.config.momentum

theorem output_steps_stay_bounded {G : Type} [Random.Source G] {t : Trainer ℝ ℝ G} (reachable : t.Reachable)
    (activation : t.network.activation ≠ .linear) (rest : ∀ m ∈ t.network.momentums, m = 0)
    (variances : PositiveVariances t.network.topology t.network.weights) (calls : Nat) :
    ∃ (lessons : List (Lesson ℝ ℝ)) (after : Trainer ℝ ℝ G),
      t.learnMany calls = (if t.epoch + calls < Word.limit then .ok (lessons.map Lesson.mean, after)
        else .error Word.overflow) ∧
      lessons.length = min calls (Word.limit - t.epoch) ∧
      (∀ lesson ∈ lessons, lesson.Covers t.config.mode t.data.samples.toList) ∧
      t.network.trainMany t.config.learnRate t.config.momentum (lessons.flatMap Lesson.visits) =
        .ok (lessons.flatMap Lesson.errors, after.network) ∧
      after.network.topology = t.network.topology ∧ after.network.OutputMomentumsWithin t.outputBound ∧
      ∀ done s later, lessons.flatMap Lesson.visits = done ++ s :: later → ∃ errors before e next,
        t.network.trainMany t.config.learnRate t.config.momentum done = .ok (errors, before) ∧
        before.train s.x s.y s.target t.config.learnRate t.config.momentum = .ok (e, next) ∧
        next.OutputMomentumsWithin t.outputBound ∧ before.OutputWeightsMoveWithin t.outputBound next := by
  have sound := reachable.sound
  obtain ⟨rising, nonneg, shrinks⟩ := (TrainConfig.validate_eq_ok_iff _).mp sound.config
  have positive : 0 ≤ t.outputBound := momentumBound_nonneg rising.le shrinks _ _
  have steady : t.network.Steady t.outputBound :=
    { sound := sound.network, bounded := activation, variances
      momentums := Network.outputMomentumsWithin_of_rest sound.network rest positive }
  obtain ⟨lessons, after, run, count, -, taught, covers⟩ := learnMany_lessons sound calls
  have visited (s : Sample ℝ) : s ∈ lessons.flatMap Lesson.visits → s ∈ t.data.samples.toList :=
    mem_of_mem_visits covers
  have whole := taught.trainMany
  obtain ⟨_, _, again, kept, final⟩ := steady.trainMany rising.le nonneg shrinks rfl visited
  cases whole.symm.trans again
  refine ⟨lessons, after, run, count, covers, whole, kept, final.momentums, fun done s later split => ?_⟩
  rw [split] at visited
  obtain ⟨errors, before, ran, shape, held⟩ := steady.trainMany rising.le nonneg shrinks rfl
    fun other earlier => visited other (List.mem_append_left _ earlier)
  have trained := Network.train_eq_ok held.sound s.x s.y s.target t.config.learnRate t.config.momentum
  rw [← shape] at held
  obtain ⟨next, moved⟩ := held.trained rising.le nonneg shrinks (visited s (by simp))
  rw [shape] at next moved
  exact ⟨errors, before, _, _, ran, trained, next.momentums, moved⟩

theorem output_steps_stay_bounded_of_gaussian_net :
    ∃ (n : Network ℝ ℝ) (t : Trainer ℝ ℝ Random.Stream),
      Network.ofWeights ⟨[2, 1, 1], true⟩ .tanh [0, 0, 1, 1 / 2, 1 / 2] = .ok n ∧
      ofParts n (.ofSamples [⟨1, 2, .positive⟩, ⟨3, 0, .negative⟩]) ⟨1, 9 / 10, .fullPass⟩ (.ofSeed 1) = .ok t ∧
      t.Reachable ∧ t.network.activation ≠ .linear ∧ (∀ m ∈ t.network.momentums, m = 0) ∧
      PositiveVariances t.network.topology t.network.weights ∧ t.outputBound = 20 ∧
      ∃ (lessons : List (Lesson ℝ ℝ)) (after : Trainer ℝ ℝ Random.Stream),
        t.learnMany 5 = .ok (lessons.map Lesson.mean, after) ∧ lessons.length = 5 ∧
        (∀ lesson ∈ lessons, lesson.Covers t.config.mode t.data.samples.toList) ∧
        t.network.trainMany t.config.learnRate t.config.momentum (lessons.flatMap Lesson.visits) =
          .ok (lessons.flatMap Lesson.errors, after.network) ∧
        after.network.topology = t.network.topology ∧ after.network.OutputMomentumsWithin t.outputBound ∧
        ∀ done s later, lessons.flatMap Lesson.visits = done ++ s :: later → ∃ errors before e next,
          t.network.trainMany t.config.learnRate t.config.momentum done = .ok (errors, before) ∧
          before.train s.x s.y s.target t.config.learnRate t.config.momentum = .ok (e, next) ∧
          next.OutputMomentumsWithin t.outputBound ∧ before.OutputWeightsMoveWithin t.outputBound next := by
  have accepted : Topology.ofSizes [2, 1, 1] true = .ok ⟨[2, 1, 1], true⟩ := rfl
  have enough : ([0, 0, 1, 1 / 2, 1 / 2] : List ℝ).length = Topology.weightsBelow ⟨[2, 1, 1], true⟩ 3 := rfl
  have valid : (⟨1, 9 / 10, .fullPass⟩ : TrainConfig ℝ).validate = .ok () := by
    rw [TrainConfig.validate_eq_ok_iff]
    norm_num
  have filled : ([⟨1, 2, .positive⟩, ⟨3, 0, .negative⟩] : List (Sample ℝ)) ≠ [] := List.cons_ne_nil _ _
  obtain ⟨n, built, topology, activation, weights, started, reachable⟩ :=
    exists_reachable accepted (by decide) enough .tanh filled valid (Random.Stream.ofSeed 1)
  have bounded : n.activation ≠ .linear := by
    rw [activation]
    decide
  have variances : PositiveVariances n.topology n.weights := by
    intro _ unit inLayer
    rw [topology] at inLayer ⊢
    obtain rfl : unit = 0 := Nat.lt_one_iff.mp inLayer
    rw [weights]
    exact zero_lt_one
  have bound : momentumBound n.topology [⟨1, 2, .positive⟩, ⟨3, 0, .negative⟩] 1 (9 / 10) = 20 := by
    have hidden : 2 < Topology.depth ⟨[2, 1, 1], true⟩ := by decide
    rw [momentumBound_eq, topology, sourceBound, if_pos hidden]
    norm_num
  exact ⟨n, _, built, started, reachable, bounded, Network.ofWeights_rests built, variances, bound,
    output_steps_stay_bounded reachable bounded (Network.ofWeights_rests built) variances 5⟩

end Trainer

end PlaneNet
