import Mathlib.Algebra.BigOperators.Ring.Finset
import PlaneNet.Proofs.Exact
import PlaneNet.Proofs.Network.Training

set_option autoImplicit false

namespace PlaneNet

namespace Network

open Finset (range)

section Lists

theorem weightedSum_eq_sum (start : ℝ) {ws vs : List ℝ} (same : ws.length = vs.length) :
    weightedSum start ws vs = start + ∑ i ∈ range vs.length, ws.getD i 0 * vs.getD i 0 := by
  induction ws generalizing start vs with
  | nil =>
    cases vs with
    | nil => exact (add_zero start).symm
    | cons v vs => cases same
  | cons w ws ih =>
    cases vs with
    | nil => cases same
    | cons v vs =>
      rw [weightedSum, ih _ (Nat.succ.inj same), List.length_cons, Finset.sum_range_succ']
      simp only [List.getD_cons_zero, List.getD_cons_succ]
      exact (add_assoc start (w * v) _).trans (congrArg (start + ·) (add_comm _ _))

theorem getD_passedDown {rows : List (List ℝ)} {above errors : List ℝ} {unit : Nat}
    (inside : unit < errors.length) (long : ∀ row ∈ rows, row.length = errors.length + 1)
    (same : rows.length = above.length) :
    (passedDown rows above errors).getD unit 0 =
      errors.getD unit 0 +
        ∑ next ∈ range above.length, (rows.getD next []).getD (unit + 1) 0 * above.getD next 0 := by
  induction rows generalizing above errors with
  | nil =>
    cases above with
    | nil => exact (add_zero _).symm
    | cons e above => cases same
  | cons row rows ih =>
    cases above with
    | nil => cases same
    | cons e above =>
      have here : row.length = errors.length + 1 := long row (by simp)
      have length : (addErrors errors (row, e)).length = errors.length := by simp [addErrors, here]
      have weight : row[unit + 1]? = some (row.getD (unit + 1) 0) := by
        rw [List.getD_eq_getElem row 0 (by omega), List.getElem?_eq_getElem]
      have before : errors[unit]? = some (errors.getD unit 0) := by
        rw [List.getD_eq_getElem errors 0 inside, List.getElem?_eq_getElem]
      have first : (addErrors errors (row, e)).getD unit 0 =
          errors.getD unit 0 + row.getD (unit + 1) 0 * e := by
        rw [List.getD_eq_getElem?_getD, getElem?_addErrors e before weight]
        rfl
      have rest := @ih above (addErrors errors (row, e)) (length ▸ inside)
        (fun other member => length ▸ long other (by simp [member])) (Nat.succ.inj same)
      rw [List.length_cons, Finset.sum_range_succ']
      simp only [List.getD_cons_zero, List.getD_cons_succ]
      rw [first] at rest
      exact rest.trans (by ring)

end Lists

section Cells

variable (t : Topology) (a : Activation) (weights : List ℝ)

/-- The weight from `input` into a unit; input `0` is the bias. -/
noncomputable def weightAt (layer unit input : Nat) : ℝ :=
  weights.getD (t.place layer unit input) 0

noncomputable def valueAt (x y : ℝ) (layer input : Nat) : ℝ := (response t a weights x y layer).getD input 0

noncomputable def sumAt (x y : ℝ) (layer unit : Nat) : ℝ :=
  ∑ input ∈ range (t.width (layer - 1) + 1),
    weightAt t weights layer unit input * valueAt t a weights x y (layer - 1) input

noncomputable def errorAt (e : ℝ) (layer unit : Nat) : ℝ := (blameOf t weights e layer).getD unit 0

end Cells

section Laws

variable {t : Topology} (a : Activation) {weights : List ℝ} (x y e : ℝ) {layer unit input : Nat}

theorem valueAt_bias (t : Topology) (weights : List ℝ) (layer : Nat) : valueAt t a weights x y layer 0 = 1 := by
  rw [valueAt, List.getD_eq_getElem?_getD, response_bias]
  exact Nat.cast_one

theorem errorAt_output (t : Topology) (weights : List ℝ) : errorAt t weights e t.outputLayer 0 = e := by
  rw [errorAt, blameOf_output]
  rfl

theorem getD_row (weights : List ℝ) (unit : Nat) (inRow : input < t.rowLength layer) :
    (t.row weights layer unit).getD input 0 = weightAt t weights layer unit input := by
  rw [weightAt, Topology.place, List.getD_eq_getElem?_getD, List.getD_eq_getElem?_getD,
    Topology.getElem?_row _ _ inRow, Nat.add_assoc]

variable (accepted : t.Accepted) (full : weights.length = t.weightsBelow t.depth) (sums : t.HoldsSums layer)

include accepted full sums

theorem weightedSum_row (within : layer < t.depth) (inLayer : unit < t.width layer) :
    weightedSum Scalar.zero (t.row weights layer unit) (response t a weights x y (layer - 1)) =
      sumAt t a weights x y layer unit := by
  have wide := length_response a weights x y accepted (layer - 1)
  have long := Topology.length_row full sums.1 within inLayer
  rw [Topology.rowLength_of_sums sums] at long
  rw [weightedSum_eq_sum _ (long.trans wide.symm), real_zero, zero_add, wide, sumAt]
  refine Finset.sum_congr rfl fun input member => ?_
  have inRow : input < t.rowLength layer := by
    rw [Topology.rowLength_of_sums sums]
    exact Finset.mem_range.mp member
  rw [getD_row weights unit inRow, valueAt]

theorem getElem?_responseSums (within : layer < t.depth) (inLayer : unit < t.width layer) :
    (responseSums t a weights x y layer)[unit]? = some (sumAt t a weights x y layer unit) := by
  rw [responseSums, if_pos sums, List.getElem?_map, List.getElem?_range inLayer,
    ← weightedSum_row a x y accepted full sums within inLayer]
  rfl

theorem valueAt_succ (within : layer < t.depth) (inLayer : unit < t.width layer) :
    valueAt t a weights x y layer (unit + 1) = a.apply (sumAt t a weights x y layer unit) := by
  rw [valueAt, response_of_sums a weights x y sums, List.getD_cons_succ, List.getD_eq_getElem?_getD,
    List.getElem?_map, getElem?_responseSums a x y accepted full sums within inLayer]
  rfl

theorem errorAt_below (hidden : layer < t.outputLayer) (inLayer : unit < t.width layer) :
    errorAt t weights e layer unit =
      ∑ next ∈ range (t.width (layer + 1)),
        weightAt t weights (layer + 1) next (unit + 1) * errorAt t weights e (layer + 1) next := by
  have above := Topology.holdsSums_succ sums
  have within := accepted.hidden_add_one_lt hidden
  have length := length_blameOf e accepted full above within
  have wide : t.rowLength (layer + 1) = t.width layer + 1 := Topology.rowLength_of_sums above
  have long (row : List ℝ) (member : row ∈ (List.range (t.width (layer + 1))).map (t.row weights (layer + 1))) :
      row.length = (List.replicate (t.width layer) (Scalar.zero : ℝ)).length + 1 := by
    obtain ⟨next, inAbove, rfl⟩ := List.mem_map.mp member
    rw [Topology.length_row full above.1 within (List.mem_range.mp inAbove), wide, List.length_replicate]
  have start : (List.replicate (t.width layer) (Scalar.zero : ℝ)).getD unit 0 = 0 := by
    rw [List.getD_eq_getElem?_getD, List.getElem?_replicate_of_lt inLayer]
    exact Nat.cast_zero
  rw [errorAt, blameOf_below weights e hidden, getD_passedDown (by simpa using inLayer) long (by simp [length]),
    start, zero_add, length]
  refine Finset.sum_congr rfl fun next member => ?_
  have inAbove := Finset.mem_range.mp member
  have row : ((List.range (t.width (layer + 1))).map (t.row weights (layer + 1))).getD next [] =
      t.row weights (layer + 1) next := by
    simp [List.getD_eq_getElem?_getD, inAbove]
  rw [row, getD_row weights next (by rw [wide]; omega), errorAt]

end Laws

section Training

theorem answer_eq_valueAt (n : Network ℝ ℝ) (x y : ℝ) :
    n.answer x y = valueAt n.topology n.activation n.weights x y n.topology.outputLayer 1 := by
  rw [answer, real_zero, valueAt]

variable {n : Network ℝ ℝ} (sound : n.Sound) (x y target : ℝ)

include sound

theorem connection_trained (rate coefficient : ℝ) {layer unit input : Nat}
    (wired : n.topology.Wired layer unit input) :
    ∃ m step, n.momentums[n.topology.place layer unit input]? = some m ∧
      step = n.activation.derive (sumAt n.topology n.activation n.weights x y layer unit)
        * errorAt n.topology n.weights (target - n.answer x y) layer unit * rate
        * valueAt n.topology n.activation n.weights x y (layer - 1) input + coefficient * m ∧
      n.layout.weightIndex layer unit input = .ok (n.topology.place layer unit input) ∧
      n.weights[n.topology.place layer unit input]? = some (weightAt n.topology n.weights layer unit input) ∧
      (n.trained x y target rate coefficient).momentums[n.topology.place layer unit input]? = some step ∧
      (n.trained x y target rate coefficient).weights[n.topology.place layer unit input]? =
        some (weightAt n.topology n.weights layer unit input + step) := by
  have sums := wired.sums
  have within := wired.within
  obtain ⟨inputs, zs, errors, readInputs, readSums, readErrors, each⟩ :=
    (trained_backpropagates sound x y target rate coefficient).connections layer sums within
  cases (layerValues_answered sound x y (by omega)).symm.trans readInputs
  cases (layerSums_answered sound x y sums within).symm.trans readSums
  cases (layerErrors_trained sound x y target rate coefficient sums within).symm.trans readErrors
  obtain ⟨i, v, z, d, w, m, m', index, value, sum, error, weight, momentum, rfl, stepped, moved⟩ :=
    each unit wired.inLayer input wired.inRow
  have place := sound.weightIndex_eq wired
  cases index.symm.trans place
  rw [getElem?_responseSums _ x y sound.accepted sound.weights sums within wired.inLayer, Option.some.injEq] at sum
  have held : weightAt n.topology n.weights layer unit input = w := by
    rw [weightAt, List.getD_eq_getElem?_getD, weight, Option.getD_some]
  have blamed : errorAt n.topology n.weights (target - n.answer x y) layer unit = d := by
    rw [errorAt, List.getD_eq_getElem?_getD, error, Option.getD_some]
  have source : valueAt n.topology n.activation n.weights x y (layer - 1) input = v := by
    rw [valueAt, List.getD_eq_getElem?_getD, value, Option.getD_some]
  rw [held, blamed, source, sum]
  exact ⟨m, _, momentum, rfl, place, weight, stepped, moved⟩

-- With rate 1 and without momentum, the new momentum is the step itself.
theorem momentum_trained {layer unit input : Nat} (wired : n.topology.Wired layer unit input) :
    n.layout.weightIndex layer unit input = .ok (n.topology.place layer unit input) ∧
      n.weights[n.topology.place layer unit input]? = some (weightAt n.topology n.weights layer unit input) ∧
      (n.trained x y target 1 0).momentums[n.topology.place layer unit input]? = some
        (n.activation.derive (sumAt n.topology n.activation n.weights x y layer unit)
          * errorAt n.topology n.weights (target - n.answer x y) layer unit
          * valueAt n.topology n.activation n.weights x y (layer - 1) input) := by
  obtain ⟨m, step, -, rfl, index, weight, stepped, -⟩ := connection_trained sound x y target 1 0 wired
  rw [mul_one, zero_mul, add_zero] at stepped
  exact ⟨index, weight, stepped⟩

end Training

end Network

end PlaneNet
