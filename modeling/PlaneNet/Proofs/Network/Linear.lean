import PlaneNet.Proofs.Network.Gradient

set_option autoImplicit false

namespace PlaneNet.Network

open Finset (range)

section Errors

variable {t : Topology} {weights : List ℝ} (accepted : t.Accepted)
  (full : weights.length = t.weightsBelow t.depth)

include accepted full

theorem errorAt_eq_mul (e : ℝ) {layer unit : Nat} (sums : t.HoldsSums layer) (within : layer ≤ t.outputLayer)
    (inLayer : unit < t.width layer) : errorAt t weights e layer unit = e * errorAt t weights 1 layer unit := by
  induction within using Nat.decreasingInduction generalizing unit with
  | self =>
    obtain rfl := accepted.lt_width_outputLayer_iff.mp inLayer
    rw [errorAt_output, errorAt_output, mul_one]
  | of_succ layer hidden ih =>
    rw [errorAt_below e accepted full sums hidden inLayer, errorAt_below 1 accepted full sums hidden inLayer,
      Finset.mul_sum]
    refine Finset.sum_congr rfl fun next member => ?_
    rw [ih (Topology.holdsSums_succ sums) (Finset.mem_range.mp member)]
    ring

end Errors

/-- How far another number in place of a weight moves the output, as seen from a layer above. -/
noncomputable def effect (t : Topology) (weights : List ℝ) (x y : ℝ) (layer unit input : Nat) (w : ℝ)
    (higher : Nat) : ℝ :=
  ∑ k ∈ range (t.width higher), errorAt t weights 1 higher k *
    shift t .linear weights x y layer unit input w higher k

section Change

variable {t : Topology} {weights : List ℝ} (x y : ℝ) {layer unit input : Nat} (wired : t.Wired layer unit input)
  (accepted : t.Accepted) (full : weights.length = t.weightsBelow t.depth) (w : ℝ)

include wired accepted full

theorem shift_succ {lower next : Nat} (higher : layer ≤ lower) (hidden : lower < t.outputLayer)
    (inLayer : next < t.width (lower + 1)) :
    shift t .linear weights x y layer unit input w (lower + 1) next =
      ∑ k ∈ range (t.width lower), weightAt t weights (lower + 1) next (k + 1) *
        shift t .linear weights x y layer unit input w lower k := by
  have sums := Topology.holdsSums_of_le wired.sums (Nat.le_succ_of_le higher)
  have within := accepted.hidden_add_one_lt hidden
  have passed (z : ℝ) : Activation.linear.apply z = z := rfl
  rw [shift, valueAt_succ .linear x y accepted (length_changed full layer unit input w) sums within inLayer,
    valueAt_succ .linear x y accepted full sums within inLayer, passed, passed,
    sumAt_changed_above .linear x y wired weights w higher within inLayer, add_sub_cancel_left]

-- Summed over the units of one layer, errors times shifts are the same as in the next: both add up the same edges.
theorem effect_succ {lower : Nat} (higher : layer ≤ lower) (hidden : lower < t.outputLayer) :
    effect t weights x y layer unit input w (lower + 1) = effect t weights x y layer unit input w lower := by
  have sums := Topology.holdsSums_of_le wired.sums higher
  calc effect t weights x y layer unit input w (lower + 1)
    _ = ∑ next ∈ range (t.width (lower + 1)), ∑ k ∈ range (t.width lower),
          errorAt t weights 1 (lower + 1) next * (weightAt t weights (lower + 1) next (k + 1) *
            shift t .linear weights x y layer unit input w lower k) := by
      refine Finset.sum_congr rfl fun next member => ?_
      rw [shift_succ x y wired accepted full w higher hidden (Finset.mem_range.mp member), Finset.mul_sum]
    _ = ∑ k ∈ range (t.width lower), ∑ next ∈ range (t.width (lower + 1)),
          errorAt t weights 1 (lower + 1) next * (weightAt t weights (lower + 1) next (k + 1) *
            shift t .linear weights x y layer unit input w lower k) := Finset.sum_comm
    _ = effect t weights x y layer unit input w lower := by
      refine Finset.sum_congr rfl fun k member => ?_
      rw [errorAt_below 1 accepted full sums hidden (Finset.mem_range.mp member), Finset.sum_mul]
      refine Finset.sum_congr rfl fun next _ => ?_
      ring

theorem effect_eq {higher : Nat} (above : layer ≤ higher) (within : higher ≤ t.outputLayer) :
    effect t weights x y layer unit input w higher = effect t weights x y layer unit input w layer := by
  induction above with
  | refl => rfl
  | step above ih => exact (effect_succ x y wired accepted full w above within).trans (ih (Nat.le_of_succ_le within))

theorem outcome_linear :
    outcome t .linear weights x y layer unit input w =
      valueAt t .linear weights x y t.outputLayer 1 + (w - weightAt t weights layer unit input) *
        (errorAt t weights 1 layer unit * valueAt t .linear weights x y (layer - 1) input) := by
  have below := accepted.le_outputLayer wired.within
  have passed (z : ℝ) : Activation.linear.apply z = z := rfl
  have here : effect t weights x y layer unit input w layer = errorAt t weights 1 layer unit *
      ((w - weightAt t weights layer unit input) * valueAt t .linear weights x y (layer - 1) input) := by
    rw [effect, sum_shift .linear x y wired accepted full w, shift_self .linear x y wired accepted full w, passed,
      passed, add_sub_cancel_left]
  have top : effect t weights x y layer unit input w t.outputLayer =
      outcome t .linear weights x y layer unit input w - valueAt t .linear weights x y t.outputLayer 1 := by
    rw [effect, accepted.output, Finset.sum_range_one, errorAt_output, one_mul, shift, outcome]
  rw [effect_eq x y wired accepted full w below le_rfl, here] at top
  linarith

end Change

theorem train_linear_is_gradient {n : Network ℝ ℝ} (reachable : n.Reachable) (linear : n.activation = .linear)
    (x y target : ℝ) :
    ∃ out passed after, n.forward x y = .ok (out, passed) ∧ n.train x y target 1 0 = .ok (target - out, after) ∧
      ∀ layer unit input, n.topology.Wired layer unit input → ∃ i w g,
        n.layout.weightIndex layer unit input = .ok i ∧ n.weights[i]? = some w ∧
        (∀ h, n.outputAt x y i (w + h) = .ok (out + h * g)) ∧
        after.momentums[i]? = some ((target - out) * g) ∧ n.HasSlope x y target i (-((target - out) * g)) := by
  have sound := reachable.sound
  refine ⟨_, _, _, forward_eq_ok x y sound, train_eq_ok sound x y target 1 0, ?_⟩
  intro layer unit input wired
  have below := sound.accepted.le_outputLayer wired.within
  obtain ⟨index, weight, momentum⟩ := momentum_trained sound x y target wired
  let w := weightAt n.topology n.weights layer unit input
  let g := errorAt n.topology n.weights 1 layer unit *
    valueAt n.topology n.activation n.weights x y (layer - 1) input
  have affine (v : ℝ) : outcome n.topology n.activation n.weights x y layer unit input v =
      n.answer x y + (v - w) * g := by
    simp only [g, answer_eq_valueAt, linear]
    exact outcome_linear x y wired sound.accepted sound.weights v
  have slope : HasDerivAt (outcome n.topology n.activation n.weights x y layer unit input) g w := by
    have line : HasDerivAt (fun v => n.answer x y + (v - w) * g) (1 * g) w :=
      (((hasDerivAt_id w).sub_const w).mul_const g).const_add (n.answer x y)
    rw [one_mul] at line
    exact line.congr_of_eventuallyEq (.of_forall affine)
  refine ⟨_, w, g, index, weight, fun h => ?_, ?_, hasSlope_of_hasDerivAt sound x y target wired slope⟩
  · rw [outputAt_eq_ok sound x y wired, affine, add_sub_cancel_left]
  · have flat (z : ℝ) : Activation.linear.derive z = 1 := Nat.cast_one
    rw [momentum, linear, flat, one_mul, errorAt_eq_mul sound.accepted sound.weights _ wired.sums below wired.inLayer,
      ← linear, mul_assoc]

theorem train_linear_is_gradient_of_gaussian_net :
    ∃ n : Network ℝ ℝ, ofWeights ⟨[2, 2, 2, 2, 1], true⟩ .linear (List.replicate 21 (1 / 2)) = .ok n ∧
      n.Reachable ∧ n.activation = .linear ∧
      ∃ out passed after, n.forward 1 2 = .ok (out, passed) ∧ n.train 1 2 1 1 0 = .ok (1 - out, after) ∧
        ∀ layer unit input, n.topology.Wired layer unit input → ∃ i w g,
          n.layout.weightIndex layer unit input = .ok i ∧ n.weights[i]? = some w ∧
          (∀ h, n.outputAt 1 2 i (w + h) = .ok (out + h * g)) ∧
          after.momentums[i]? = some ((1 - out) * g) ∧ n.HasSlope 1 2 1 i (-((1 - out) * g)) := by
  have accepted : Topology.ofSizes [2, 2, 2, 2, 1] true = .ok ⟨[2, 2, 2, 2, 1], true⟩ := rfl
  have enough : (List.replicate 21 (1 / 2) : List ℝ).length = Topology.weightsBelow ⟨[2, 2, 2, 2, 1], true⟩ 5 := rfl
  obtain ⟨n, built, reachable, -, linear, -⟩ := exists_ofWeights accepted (by decide) enough .linear
  exact ⟨n, built, reachable, linear, train_linear_is_gradient reachable linear 1 2 1⟩

end PlaneNet.Network
