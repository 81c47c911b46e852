import PlaneNet.Proofs.Activation
import PlaneNet.Proofs.Line
import PlaneNet.Proofs.Network.Sums

set_option autoImplicit false

namespace PlaneNet

theorem Sample.target_eq (s : Sample ℝ) : (s.target : ℝ) = 1 ∨ (s.target : ℝ) = -1 := by
  rw [Sample.target]
  cases s.label with
  | negative => exact .inr (congrArg Neg.neg real_one)
  | positive => exact .inl real_one

/-- How far the side of a line is from the class of a sample: nothing, or twice the target. -/
noncomputable def Line.error (l : Line) (s : Sample ℝ) : ℝ := s.target - Activation.step.apply (l.value s.x s.y)

-- A point on the line counts as positive, so a negative sample there is a mistake.
theorem Line.error_eq_zero_or (l : Line) (s : Sample ℝ) :
    l.error s = 0 ∨ l.error s = 2 * s.target ∧ s.target * l.value s.x s.y ≤ 0 := by
  rw [Line.error, Activation.step_apply_eq]
  rcases s.target_eq with positive | negative
  · rw [positive]
    split
    next below => exact .inr ⟨by norm_num, by linarith⟩
    next => exact .inl (by norm_num)
  · rw [negative]
    split
    next => exact .inl (by norm_num)
    next above => exact .inr ⟨by norm_num, by linarith⟩

namespace Network

structure Perceptron (n : Network ℝ ℝ) (l : Line) : Prop where
  sound : n.Sound
  topology : n.topology = ⟨[2, 1], false⟩
  activation : n.activation = .step
  weights : n.weights = [l.bias, l.x, l.y]

namespace Perceptron

variable {n : Network ℝ ℝ} {l : Line}

theorem valueAt_input (t : Topology) (a : Activation) (weights : List ℝ) (x y : ℝ) (input : Nat) :
    valueAt t a weights x y 0 input = ([1, x, y] : List ℝ).getD input 0 := by
  simp only [valueAt, response, real_one, widen, id]

theorem ofWeights (sound : n.Sound) (topology : n.topology = ⟨[2, 1], false⟩) (activation : n.activation = .step) :
    n.Perceptron (.ofWeights n.weights) where
  sound := sound
  topology := topology
  activation := activation
  weights := by
    have count : n.weights.length = 3 := by
      rw [sound.weights, topology]
      rfl
    obtain ⟨bias, x, y, same⟩ := List.length_eq_three.mp count
    rw [same]
    rfl

variable (perceptron : n.Perceptron l) (x y : ℝ)

include perceptron

theorem wired {input : Nat} (inRow : input ≤ 2) : n.topology.Wired 1 0 input := by
  rw [perceptron.topology]
  exact ⟨by decide, by decide, by decide, inRow⟩

theorem place_eq (input : Nat) : n.topology.place 1 0 input = input := by
  have none : Topology.weightsBelow ⟨[2, 1], false⟩ 1 = 0 := rfl
  rw [perceptron.topology, Topology.place, none, Nat.zero_mul, Nat.zero_add, Nat.zero_add]

theorem sumAt_eq : sumAt n.topology n.activation n.weights x y 1 0 = l.value x y := by
  have width : n.topology.width 0 = 2 := by
    rw [perceptron.topology]
    rfl
  simp only [sumAt, Nat.sub_self, width, Finset.sum_range_succ, Finset.sum_range_zero, weightAt,
    perceptron.place_eq, valueAt_input, perceptron.weights, List.getD_cons_zero, List.getD_cons_succ, Line.value]
  ring

theorem answer_eq : n.answer x y = Activation.step.apply (l.value x y) := by
  have wired := perceptron.wired (Nat.zero_le 2)
  have last : n.topology.outputLayer = 1 := by
    rw [perceptron.topology]
    rfl
  rw [answer_eq_valueAt, last, valueAt_succ n.activation x y perceptron.sound.accepted perceptron.sound.weights
    wired.sums wired.within wired.inLayer, perceptron.sumAt_eq, perceptron.activation]

theorem getElem?_trained (target rate : ℝ) {input : Nat} (inRow : input ≤ 2) :
    (n.trained x y target rate 0).weights[input]? = some
      (n.weights.getD input 0 + (target - n.answer x y) * rate * ([1, x, y] : List ℝ).getD input 0) := by
  obtain ⟨m, step, -, rfl, -, -, -, moved⟩ :=
    connection_trained perceptron.sound x y target rate 0 (perceptron.wired inRow)
  have last : n.topology.outputLayer = 1 := by
    rw [perceptron.topology]
    rfl
  have blamed : errorAt n.topology n.weights (target - n.answer x y) 1 0 = target - n.answer x y := by
    have output := errorAt_output (target - n.answer x y) n.topology n.weights
    rwa [last] at output
  have slope (z : ℝ) : n.activation.derive z = 1 := by
    rw [perceptron.activation]
    exact Nat.cast_one
  rw [perceptron.place_eq, blamed, slope, Nat.sub_self, valueAt_input, weightAt, perceptron.place_eq, one_mul, zero_mul,
    add_zero] at moved
  exact moved

theorem train_eq_ok (s : Sample ℝ) (rate : ℝ) :
    ∃ after, n.train s.x s.y s.target rate 0 = .ok (l.error s, after) ∧
      after.Perceptron (l.moved (rate * l.error s) s.x s.y) := by
  have run := Network.train_eq_ok perceptron.sound s.x s.y s.target rate 0
  have sound := train_sound perceptron.sound run
  have count : (n.trained s.x s.y s.target rate 0).weights.length = 3 := by
    have topology : (n.trained s.x s.y s.target rate 0).topology = ⟨[2, 1], false⟩ := perceptron.topology
    rw [sound.weights, topology]
    rfl
  have first := perceptron.getElem?_trained s.x s.y s.target rate (show 0 ≤ 2 by omega)
  have second := perceptron.getElem?_trained s.x s.y s.target rate (show 1 ≤ 2 by omega)
  have third := perceptron.getElem?_trained s.x s.y s.target rate (show 2 ≤ 2 by omega)
  rw [perceptron.answer_eq] at run first second third
  refine ⟨_, run, sound, perceptron.topology, perceptron.activation, ?_⟩
  obtain ⟨bias, x, y, same⟩ := List.length_eq_three.mp count
  rw [same] at first second third ⊢
  simp only [perceptron.weights, List.getElem?_cons_zero, List.getElem?_cons_succ, List.getD_cons_zero,
    List.getD_cons_succ, Option.some.injEq] at first second third
  simp only [first, second, third, Line.moved, Line.error, List.cons.injEq, and_true]
  refine ⟨?_, ?_, ?_⟩ <;> ring

end Perceptron

end Network

end PlaneNet
