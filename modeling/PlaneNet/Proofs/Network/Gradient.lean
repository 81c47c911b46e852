import Mathlib.Analysis.Calculus.Deriv.Pow
import PlaneNet.Proofs.Activation
import PlaneNet.Proofs.Network.Perturbation
import PlaneNet.Trainer

set_option autoImplicit false

namespace PlaneNet.Network

section Loss

variable {W R : Type} [Scalar R] [Exponential R] [Storage W R]

def outputAt (n : Network W R) (x y : W) (i : Nat) (w : W) : Except Error R := do
  (← n.setWeight i w).predict x y

def lossAt (n : Network W R) (x y : W) (target : R) (i : Nat) (w : W) : Except Error R := do
  return Trainer.loss (target - (← n.outputAt x y i w))

end Loss

def HasSlope (n : Network ℝ ℝ) (x y target : ℝ) (i : Nat) (slope : ℝ) : Prop :=
  ∃ w loss, n.weights[i]? = some w ∧ (∀ v, n.lossAt x y target i v = .ok (loss v)) ∧ HasDerivAt loss slope w

/--
What a step with rate one and without momentum says about the loss. The output has pre-activation `z`.
-/
structure Descends (n : Network ℝ ℝ) (x y target z : ℝ) (after : Network ℝ ℝ) : Prop where
  output : ∀ unit input, n.topology.Wired n.topology.outputLayer unit input → ∃ i m,
    n.layout.weightIndex n.topology.outputLayer unit input = .ok i ∧ after.momentums[i]? = some m ∧
    n.HasSlope x y target i (-m)
  hidden : ∀ layer unit input, layer + 1 = n.topology.outputLayer → n.topology.Wired layer unit input → ∃ i m,
    n.layout.weightIndex layer unit input = .ok i ∧ after.momentums[i]? = some m ∧
    n.HasSlope x y target i (-(m * n.activation.derive z))
  gaussians : n.topology.rbf = true → ∃ spans, n.layout.layer 1 = .ok spans ∧
    ∀ i, spans.weights.offset ≤ i → i < spans.weights.stop → after.momentums[i]? = some 0

theorem loss_eq (e : ℝ) : Trainer.loss e = 1 / 2 * e ^ 2 := by
  have half : (Scalar.half : ℝ) = 1 / 2 := by norm_num [Scalar.half, Scalar.decimal]
  rw [Trainer.loss, half, sq]
  exact mul_assoc _ _ _

section Output

variable {n : Network ℝ ℝ} (sound : n.Sound) (x y target : ℝ) {layer unit input : Nat}
  (wired : n.topology.Wired layer unit input)

include sound wired

theorem outputAt_eq_ok (w : ℝ) :
    n.outputAt x y (n.topology.place layer unit input) w =
      .ok (outcome n.topology n.activation n.weights x y layer unit input w) := by
  have written := Buffer.write_cell_eq_ok w (place_lt wired sound.weights)
  have run : n.setWeight (n.topology.place layer unit input) w =
      .ok { n with weights := changed n.topology n.weights layer unit input w } := by
    rw [setWeight, written]
    rfl
  rw [outputAt, run, ok_bind, predict, forward_eq_ok x y (setWeight_sound sound run), ok_bind, answer_eq_valueAt]
  rfl

theorem outcome_weightAt :
    outcome n.topology n.activation n.weights x y layer unit input (weightAt n.topology n.weights layer unit input) =
      n.answer x y := by
  rw [outcome, changed_weightAt wired sound.weights, answer_eq_valueAt]

theorem hasSlope_of_hasDerivAt {g : ℝ}
    (deriv : HasDerivAt (outcome n.topology n.activation n.weights x y layer unit input) g
      (weightAt n.topology n.weights layer unit input)) :
    n.HasSlope x y target (n.topology.place layer unit input) (-((target - n.answer x y) * g)) := by
  have lost (w : ℝ) : n.lossAt x y target (n.topology.place layer unit input) w =
      .ok (1 / 2 * (target - outcome n.topology n.activation n.weights x y layer unit input w) ^ 2) := by
    rw [lossAt, outputAt_eq_ok sound x y wired, ok_bind, loss_eq]
    rfl
  refine ⟨_, _, getElem?_place wired sound.weights, lost,
    (((deriv.const_sub target).pow 2).const_mul (1 / 2)).congr_deriv ?_⟩
  rw [outcome_weightAt sound x y wired]
  ring

end Output

section Derivatives

variable {t : Topology} {a : Activation} {weights : List ℝ} (x y : ℝ) {layer unit input : Nat}
  (wired : t.Wired layer unit input) (accepted : t.Accepted) (full : weights.length = t.weightsBelow t.depth)
  (smooth : HasDerivAt a.apply (a.derive (sumAt t a weights x y layer unit)) (sumAt t a weights x y layer unit))

include wired accepted full smooth

theorem hasDerivAt_shift :
    HasDerivAt (fun w => shift t a weights x y layer unit input w layer unit)
      (a.derive (sumAt t a weights x y layer unit) * valueAt t a weights x y (layer - 1) input)
      (weightAt t weights layer unit input) := by
  let w := weightAt t weights layer unit input
  have moved : HasDerivAt
      (fun u => sumAt t a weights x y layer unit + (u - w) * valueAt t a weights x y (layer - 1) input)
      (1 * valueAt t a weights x y (layer - 1) input) w :=
    (((hasDerivAt_id w).sub_const w).mul_const _).const_add _
  have through := (smooth.comp_of_eq w moved (by simp)).sub_const (a.apply (sumAt t a weights x y layer unit))
  rw [one_mul] at through
  exact through.congr_of_eventuallyEq (.of_forall fun u => shift_self a x y wired accepted full u)

theorem hasDerivAt_outcome_output (last : layer = t.outputLayer) :
    HasDerivAt (outcome t a weights x y layer unit input)
      (a.derive (sumAt t a weights x y layer unit) * valueAt t a weights x y (layer - 1) input)
      (weightAt t weights layer unit input) := by
  subst last
  obtain rfl := accepted.lt_width_outputLayer_iff.mp wired.inLayer
  have moved := (hasDerivAt_shift x y wired accepted full smooth).const_add
    (valueAt t a weights x y t.outputLayer 1)
  exact moved.congr_of_eventuallyEq (.of_forall fun u => (add_sub_cancel _ _).symm)

-- From a unit of the last hidden layer a single edge leads to the output.
theorem hasDerivAt_outcome_hidden (last : layer + 1 = t.outputLayer)
    (smoothOutput : HasDerivAt a.apply (a.derive (sumAt t a weights x y t.outputLayer 0))
      (sumAt t a weights x y t.outputLayer 0)) :
    HasDerivAt (outcome t a weights x y layer unit input)
      (a.derive (sumAt t a weights x y t.outputLayer 0) * (weightAt t weights t.outputLayer 0 (unit + 1) *
        (a.derive (sumAt t a weights x y layer unit) * valueAt t a weights x y (layer - 1) input)))
      (weightAt t weights layer unit input) := by
  have inOutput := accepted.lt_width_outputLayer_iff.mpr rfl
  have moved := ((hasDerivAt_shift x y wired accepted full smooth).const_mul
    (weightAt t weights t.outputLayer 0 (unit + 1))).const_add (sumAt t a weights x y t.outputLayer 0)
  have through := smoothOutput.comp_of_eq _ moved (by simp [shift_self a x y wired accepted full])
  refine through.congr_of_eventuallyEq (.of_forall fun w => ?_)
  have above := sumAt_changed_above a x y wired weights w le_rfl (last ▸ accepted.outputLayer_lt) (last ▸ inOutput)
  rw [sum_shift a x y wired accepted full w fun k => weightAt t weights (layer + 1) 0 (k + 1), last] at above
  exact (valueAt_succ a x y accepted (length_changed full layer unit input w) accepted.outputLayer_holdsSums
    accepted.outputLayer_lt inOutput).trans (congrArg a.apply above)

end Derivatives

theorem sumAt_mem_answered {n : Network ℝ ℝ} (sound : n.Sound) (x y : ℝ) {layer unit : Nat}
    (sums : n.topology.HoldsSums layer) (within : layer < n.topology.depth) (inLayer : unit < n.topology.width layer) :
    sumAt n.topology n.activation n.weights x y layer unit ∈ (n.answered x y).preActivations :=
  List.mem_flatMap.mpr ⟨layer, List.mem_range.mpr within,
    List.mem_of_getElem? (getElem?_responseSums n.activation x y sound.accepted sound.weights sums within inLayer)⟩

theorem trained_descends {n : Network ℝ ℝ} (sound : n.Sound) (x y target : ℝ)
    (smooth : ∀ z ∈ (n.answered x y).preActivations, HasDerivAt n.activation.apply (n.activation.derive z) z) :
    n.Descends x y target (sumAt n.topology n.activation n.weights x y n.topology.outputLayer 0)
      (n.trained x y target 1 0) := by
  have inOutput := sound.accepted.lt_width_outputLayer_iff.mpr rfl
  have atSum {layer unit : Nat} (sums : n.topology.HoldsSums layer) (within : layer < n.topology.depth)
      (inLayer : unit < n.topology.width layer) := smooth _ (sumAt_mem_answered sound x y sums within inLayer)
  constructor
  case output =>
    intro unit input wired
    obtain ⟨index, -, momentum⟩ := momentum_trained sound x y target wired
    have slope := hasSlope_of_hasDerivAt sound x y target wired (hasDerivAt_outcome_output x y wired sound.accepted
      sound.weights (atSum wired.sums wired.within wired.inLayer) rfl)
    obtain rfl := sound.accepted.lt_width_outputLayer_iff.mp wired.inLayer
    rw [errorAt_output] at momentum
    refine ⟨_, _, index, momentum, ?_⟩
    convert slope using 2
    ring
  case hidden =>
    intro layer unit input last wired
    obtain ⟨index, -, momentum⟩ := momentum_trained sound x y target wired
    have slope := hasSlope_of_hasDerivAt sound x y target wired (hasDerivAt_outcome_hidden x y wired sound.accepted
      sound.weights (atSum wired.sums wired.within wired.inLayer) last
        (atSum sound.accepted.outputLayer_holdsSums sound.accepted.outputLayer_lt inOutput))
    have below := errorAt_below (target - n.answer x y) sound.accepted sound.weights wired.sums
      (last ▸ Nat.lt_succ_self layer) wired.inLayer
    rw [last, sound.accepted.output, Finset.sum_range_one, errorAt_output] at below
    refine ⟨_, _, index, momentum, ?_⟩
    rw [below]
    convert slope using 2
    ring
  case gaussians =>
    intro rbf
    obtain ⟨spans, placed, kept⟩ := (trained_backpropagates sound x y target 1 0).gaussians rbf
    refine ⟨spans, placed, fun i first last => ?_⟩
    cases (sound.layer_eq sound.accepted.two_le_depth).symm.trans placed
    have start : n.topology.weightsBelow 1 = 0 := rfl
    have inside := last
    simp only [Topology.spans_weights, Topology.weightSpan, Span.stop, start, Nat.zero_add] at inside
    rw [(kept i first last).2, sound.rested rbf i inside]
    exact congrArg some Nat.cast_zero

theorem train_descends {n : Network ℝ ℝ} (reachable : n.Reachable) (x y target : ℝ)
    (smooth : ∀ out passed, n.forward x y = .ok (out, passed) → ∀ z ∈ passed.preActivations,
      HasDerivAt n.activation.apply (n.activation.derive z) z) :
    ∃ out passed after z, n.forward x y = .ok (out, passed) ∧ n.train x y target 1 0 = .ok (target - out, after) ∧
      passed.layerSums n.topology.outputLayer = .ok [z] ∧ n.Descends x y target z after := by
  have sound := reachable.sound
  have run := forward_eq_ok x y sound
  have last := sound.accepted.outputLayer_holdsSums
  have within := sound.accepted.outputLayer_lt
  have sums : (n.answered x y).layerSums n.topology.outputLayer =
      .ok [sumAt n.topology n.activation n.weights x y n.topology.outputLayer 0] := by
    rw [layerSums_answered sound x y last within, responseSums, if_pos last, sound.accepted.output]
    exact congrArg (Except.ok [·]) (weightedSum_row n.activation x y sound.accepted sound.weights last within
      (sound.accepted.lt_width_outputLayer_iff.mpr rfl))
  exact ⟨_, _, _, _, run, train_eq_ok sound x y target 1 0, sums, trained_descends sound x y target (smooth _ _ run)⟩

theorem train_descends_of_tanh_net :
    ∃ n : Network ℝ ℝ, ofWeights ⟨[2, 2, 1], false⟩ .tanh (List.replicate 9 (1 / 2)) = .ok n ∧ n.Reachable ∧
      (∀ out passed, n.forward 1 2 = .ok (out, passed) → ∀ z ∈ passed.preActivations,
        HasDerivAt n.activation.apply (n.activation.derive z) z) ∧
      ∃ out passed after z, n.forward 1 2 = .ok (out, passed) ∧ n.train 1 2 1 1 0 = .ok (1 - out, after) ∧
        passed.layerSums n.topology.outputLayer = .ok [z] ∧ n.Descends 1 2 1 z after := by
  have accepted : Topology.ofSizes [2, 2, 1] false = .ok ⟨[2, 2, 1], false⟩ := rfl
  have enough : (List.replicate 9 (1 / 2) : List ℝ).length = Topology.weightsBelow ⟨[2, 2, 1], false⟩ 3 := rfl
  obtain ⟨n, built, reachable, topology, activation, weights⟩ :=
    exists_ofWeights accepted (by decide) enough .tanh
  have smooth (out : ℝ) (passed : Network ℝ ℝ) (run : n.forward 1 2 = .ok (out, passed)) (z : ℝ)
      (member : z ∈ passed.preActivations) : HasDerivAt n.activation.apply (n.activation.derive z) z := by
    cases (forward_eq_ok 1 2 reachable.sound).symm.trans run
    let hidden : ℝ := Scalar.zero + 1 / 2 * Scalar.one + 1 / 2 * 1 + 1 / 2 * 2
    have sums : (n.answered 1 2).preActivations = [hidden, hidden,
        Scalar.zero + 1 / 2 * Scalar.one + 1 / 2 * Activation.tanh.apply hidden
          + 1 / 2 * Activation.tanh.apply hidden] := by
      simp only [answered, topology, activation, weights]
      rfl
    have two : hidden = 2 := by
      simp only [hidden, real_zero, real_one]
      norm_num
    have bounded := abs_le.mp (Activation.tanh_squashes.abs_apply_le 2)
    rw [sums, two, real_zero, real_one] at member
    rw [activation]
    apply Activation.tanh_squashes.hasDerivAt
    simp only [List.mem_cons, List.not_mem_nil, or_false] at member
    rcases member with rfl | rfl | rfl
    · norm_num
    · norm_num
    · exact abs_lt.mpr ⟨by linarith, by linarith⟩
  exact ⟨n, built, reachable, smooth, train_descends reachable 1 2 1 smooth⟩

end PlaneNet.Network
