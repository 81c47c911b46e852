import PlaneNet.Proofs.Trainer.Sessions

set_option autoImplicit false

namespace PlaneNet.Trainer

variable {W R G : Type} [Scalar R] [Exponential R] [Storage W R]

open Scalar (zero lt le)

structure Evaluates (t : Trainer W R G) (predicted : W → W → R) : Prop where
  predicts : ∀ x y, t.network.predict x y = .ok (predicted x y)
  meanLoss : t.meanLoss = .ok
    (Scalar.sum (t.data.samples.toList.map fun s => loss (s.target - predicted s.x s.y)) / nat t.data.size)
  accuracy : t.accuracy = .ok
    (nat (t.data.samples.toList.countP fun s => le zero (predicted s.x s.y) == lt zero (s.target : R)) /
      nat t.data.size)

theorem evaluates {t : Trainer W R G} (sound : t.Sound) : t.Evaluates t.network.answer where
  predicts x y := by
    rw [Network.predict, Network.forward_eq_ok x y sound.network]
    rfl
  meanLoss := meanLoss_eq_ok sound
  accuracy := accuracy_eq_ok sound

variable [Random.Source G]

-- The order, the words, the epoch, the momentums and the buffers of the two trainers may differ.
theorem evaluation_predicts_each_sample {t : Trainer W R G} (reachable : t.Reachable) :
    ∃ predicted, t.Evaluates predicted ∧
      ∀ u : Trainer W R G, u.Reachable → u.network.topology = t.network.topology →
        u.network.activation = t.network.activation → u.network.weights = t.network.weights →
        u.data.samples = t.data.samples → u.meanLoss = t.meanLoss ∧ u.accuracy = t.accuracy := by
  have alone := evaluates reachable.sound
  refine ⟨_, alone, fun u reachable' topology activation weights samples => ?_⟩
  have alone' := evaluates reachable'.sound
  have same : u.network.answer = t.network.answer := by
    funext x y
    simp only [Network.answer, topology, activation, weights]
  rw [alone.meanLoss, alone'.meanLoss, alone.accuracy, alone'.accuracy, same, Dataset.size, Dataset.size, samples]
  exact ⟨rfl, rfl⟩

theorem evaluation_predicts_each_sample_of_two_samples :
    ∃ (n : Network Float32 Float) (t : Trainer Float32 Float Random.Stream),
      Network.ofWeights ⟨[2, 2, 1], true⟩ .tanh (List.replicate 9 1) = .ok n ∧
      ofParts n (.ofSamples [⟨0, 1, .negative⟩, ⟨2, 3, .positive⟩]) .gaussian (.ofSeed 1) = .ok t ∧ t.Reachable ∧
      ∃ predicted, t.Evaluates predicted ∧
        ∀ u : Trainer Float32 Float Random.Stream, u.Reachable → u.network.topology = t.network.topology →
          u.network.activation = t.network.activation → u.network.weights = t.network.weights →
          u.data.samples = t.data.samples → u.meanLoss = t.meanLoss ∧ u.accuracy = t.accuracy := by
  have accepted : Topology.ofSizes [2, 2, 1] true = .ok ⟨[2, 2, 1], true⟩ := rfl
  have enough : (List.replicate 9 1 : List Float32).length = Topology.weightsBelow ⟨[2, 2, 1], true⟩ 3 := rfl
  have filled : [(⟨0, 1, .negative⟩ : Sample Float32), ⟨2, 3, .positive⟩] ≠ [] := List.cons_ne_nil _ _
  have valid : (TrainConfig.gaussian : TrainConfig Float).validate = .ok () := by decide +kernel
  obtain ⟨n, built, -, -, -, started, reachable⟩ :=
    exists_reachable accepted (by decide) enough .tanh filled valid (Random.Stream.ofSeed 1)
  exact ⟨n, _, built, started, reachable, evaluation_predicts_each_sample reachable⟩

end PlaneNet.Trainer
