import PlaneNet.Proofs.Network.Errors
import PlaneNet.Proofs.Network.Forward
import PlaneNet.Proofs.Network.Update

set_option autoImplicit false

namespace PlaneNet.Network

variable {W R : Type} [Scalar R] [Storage W R]

open Scalar (zero one)

def layerErrors (n : Network W R) (layer : Nat) : Except Error (List R) := do
  Buffer.read (← n.layout.trained layer) n.errors

-- From zero and from the left over the units of the layer above, each by the weight of its edge to this unit.
def unitError (n : Network W R) (layer : Nat) (above : List R) (unit : Nat) : Except Error R :=
  (List.range above.length).foldlM (fun sum next => do
    let w ← Buffer.cell (← n.layout.weightIndex (layer + 1) next (unit + 1)) n.weights
    return sum + widen w * (← Buffer.cell next above)) zero

def unitErrorFrom (n : Network W R) (start : R) (layer : Nat) (above : List R) (unit : Nat) : Except Error R :=
  (List.range above.length).foldlM (fun sum next => do
    let w ← Buffer.cell (← n.layout.weightIndex (layer + 1) next (unit + 1)) n.weights
    return sum + widen w * (← Buffer.cell next above)) start

structure Backpropagates [Exponential R] (n passed : Network W R) (e rate coefficient : R)
    (after : Network W R) : Prop where
  output : after.layerErrors n.topology.outputLayer = .ok [e]
  hidden : ∀ layer, n.topology.HoldsSums layer → layer < n.topology.outputLayer → ∃ above errors,
    after.layerErrors (layer + 1) = .ok above ∧ above.length = n.topology.width (layer + 1) ∧
    (List.range (n.topology.width layer)).mapM (n.unitError layer above) = .ok errors ∧
    after.layerErrors layer = .ok errors
  connections : ∀ layer, n.topology.HoldsSums layer → layer < n.topology.depth → ∃ inputs sums errors,
    passed.layerValues (layer - 1) = .ok inputs ∧ passed.layerSums layer = .ok sums ∧
    after.layerErrors layer = .ok errors ∧
    ∀ unit < n.topology.width layer, ∀ input ≤ n.topology.width (layer - 1), ∃ i v z d w m m',
      n.layout.weightIndex layer unit input = .ok i ∧
      inputs[input]? = some v ∧ sums[unit]? = some z ∧ errors[unit]? = some d ∧
      n.weights[i]? = some w ∧ n.momentums[i]? = some m ∧
      m' = n.activation.derive z * d * rate * v + coefficient * m ∧
      after.momentums[i]? = some m' ∧ after.weights[i]? = some (narrow (widen w + m'))
  gaussians : n.topology.rbf = true → ∃ spans, n.layout.layer 1 = .ok spans ∧
    ∀ i, spans.weights.offset ≤ i → i < spans.weights.stop →
      after.weights[i]? = n.weights[i]? ∧ after.momentums[i]? = n.momentums[i]?
  bias : ∀ layer < n.topology.depth, ∃ spans, n.layout.layer layer = .ok spans ∧
    Buffer.cell spans.values.offset n.values = .ok one ∧ Buffer.cell spans.values.offset after.values = .ok one
  sizes : after.weights.length = n.weights.length ∧ after.momentums.length = n.momentums.length ∧
    after.errors.length = n.errors.length
  unchanged : after =
    { n with
      weights := after.weights, momentums := after.momentums, values := passed.values
      preActivations := passed.preActivations, errors := after.errors }

omit [Storage W R] in
theorem Sound.layerErrors_eq {n : Network W R} (sound : n.Sound) {layer : Nat} (sums : n.topology.HoldsSums layer)
    (within : layer < n.topology.depth) :
    n.layerErrors layer = .ok ((n.topology.slotSpan layer).slice n.errors) := by
  rw [layerErrors, sound.trained_eq sums within, ok_bind]
  exact Buffer.read_eq_ok _ _ (sound.slotSpan_stop_le_errors sums within)

section Errors

theorem getElem?_addErrors {errors : List R} {row : List W} {unit : Nat} {sum : R} {w : W} (e : R)
    (before : errors[unit]? = some sum) (weight : row[unit + 1]? = some w) :
    (addErrors errors (row, e))[unit]? = some (sum + widen w * e) := by
  simp [addErrors, List.getElem?_zipWith, before, weight]

variable {n : Network W R} (sound : n.Sound) {layer : Nat} (sums : n.topology.HoldsSums layer)
  (within : layer + 1 < n.topology.depth)

include sound sums within

theorem unitErrorFrom_eq_ok {above errors : List R} (wide : above.length = n.topology.width (layer + 1))
    {unit : Nat} {start : R} (inLayer : unit < n.topology.width layer) (held : errors[unit]? = some start) :
    ∃ sum, n.unitErrorFrom start layer above unit = .ok sum ∧
      (passedDown ((List.range (n.topology.width (layer + 1))).map (n.topology.row n.weights (layer + 1)))
        above errors)[unit]? = some sum := by
  have sumsAbove := Topology.holdsSums_succ sums
  have inRow : unit + 1 < n.topology.rowLength (layer + 1) := by
    rw [Topology.rowLength_of_sums sumsAbove, Nat.add_sub_cancel]
    omega
  let rows := (List.range (n.topology.width (layer + 1))).map (n.topology.row n.weights (layer + 1))
  have pairs : (rows.zip above).length = above.length := by simp [rows, wide]
  have step (next : Nat) (sum : R) (_ : 0 ≤ next) (inside : next < 0 + above.length)
      (before : (((rows.zip above).take next).foldl addErrors errors)[unit]? = some sum) :
      ∃ sum', (do
          let w ← Buffer.cell (← n.layout.weightIndex (layer + 1) next (unit + 1)) n.weights
          return sum + widen w * (← Buffer.cell next above) : Except Error R) = .ok sum' ∧
        (((rows.zip above).take (next + 1)).foldl addErrors errors)[unit]? = some sum' := by
    rw [Nat.zero_add] at inside
    have inAbove : next < n.topology.width (layer + 1) := wide ▸ inside
    obtain ⟨w, read, weight⟩ := cell_weightIndex sound sumsAbove within inAbove inRow
    have value : above[next]? = some above[next] := List.getElem?_eq_getElem inside
    have pair : (rows.zip above)[next]? = some (n.topology.row n.weights (layer + 1) next, above[next]) := by
      simp [rows, List.getElem?_zip_eq_some, inAbove, value]
    refine ⟨sum + widen w * above[next], ?_, ?_⟩
    · rw [← bind_assoc, read, ok_bind, Buffer.cell_eq_ok_iff.mpr value]
      rfl
    · rw [List.take_add_one, pair, Option.toList_some, List.foldl_append, List.foldl_cons, List.foldl_nil]
      exact getElem?_addErrors _ before weight
  obtain ⟨sum, run, final⟩ := foldlM_range' 0 above.length step start held
  rw [Nat.zero_add, ← pairs, List.take_length] at final
  exact ⟨sum, by rw [unitErrorFrom, List.range_eq_range', run], final⟩

theorem unitError_eq_ok {above : List R} (wide : above.length = n.topology.width (layer + 1)) {unit : Nat}
    (inLayer : unit < n.topology.width layer) :
    ∃ sum, n.unitError layer above unit = .ok sum ∧
      (passedDown ((List.range (n.topology.width (layer + 1))).map (n.topology.row n.weights (layer + 1)))
        above (List.replicate (n.topology.width layer) zero))[unit]? = some sum :=
  unitErrorFrom_eq_ok sound sums within wide inLayer (List.getElem?_replicate_of_lt inLayer)

omit within in
theorem unitErrors_eq_ok (hidden : layer < n.topology.outputLayer) (e : R) :
    (List.range (n.topology.width layer)).mapM
        (n.unitError layer (blameOf n.topology n.weights e (layer + 1))) =
      .ok (blameOf n.topology n.weights e layer) := by
  have within := sound.accepted.hidden_add_one_lt hidden
  have wide := length_blameOf e sound.accepted sound.weights (Topology.holdsSums_succ sums) within
  have length := length_blameOf e sound.accepted sound.weights sums (Nat.lt_of_succ_lt within)
  have each (unit : Nat) (member : unit ∈ List.range (n.topology.width layer)) :
      n.unitError layer (blameOf n.topology n.weights e (layer + 1)) unit =
        .ok ((blameOf n.topology n.weights e layer).getD unit zero) := by
    obtain ⟨sum, run, entry⟩ := unitError_eq_ok sound sums within wide (List.mem_range.mp member)
    rw [← blameOf_below n.weights e hidden] at entry
    rw [run, List.getD_eq_getElem?_getD, entry]
    rfl
  rw [mapM_eq_ok _ each]
  congr 1
  apply List.ext_getElem?
  intro unit
  by_cases inLayer : unit < n.topology.width layer
  · simp [inLayer, length]
  · simp [inLayer, length]

end Errors

section Step

variable [Exponential R] {n : Network W R} (sound : n.Sound) (x y : W) (target rate coefficient : R)

def trained (n : Network W R) (x y : W) (target rate coefficient : R) : Network W R :=
  ((n.answered x y).blamed (target - n.answer x y) n.topology.firstTrained).updatedTo rate coefficient
    n.topology.depth

include sound

theorem train_eq_ok :
    n.train x y target rate coefficient =
      .ok (target - n.answer x y, n.trained x y target rate coefficient) := by
  have answered := answered_sound x y sound
  have read := (answered_answers sound x y).output
  have passed := backward_cleared answered rfl target read
  have updated := update_eq_updatedTo (blamed_sound answered (target - n.answer x y) n.topology.firstTrained)
    rate coefficient
  simp only [train, forward_eq_ok x y sound, ok_bind, passed]
  exact congrArg (· >>= fun m => pure (target - n.answer x y, m)) updated

theorem layerErrors_trained {layer : Nat} (sums : n.topology.HoldsSums layer)
    (within : layer < n.topology.depth) :
    (n.trained x y target rate coefficient).layerErrors layer =
      .ok (blameOf n.topology n.weights (target - n.answer x y) layer) := by
  have first := sound.accepted.firstTrained_le sums within
  have blamed := blamed_sound (answered_sound x y sound) (target - n.answer x y) n.topology.firstTrained
  have slice := slice_errorBlock (target - n.answer x y) sound.accepted sound.weights n.topology.firstTrained
    sums within
  rw [errorBlock, if_pos sums, if_pos first] at slice
  exact (blamed.layerErrors_eq sums within).trans (congrArg Except.ok slice)

theorem trained_backpropagates :
    n.Backpropagates (n.answered x y) (target - n.answer x y) rate coefficient
      (n.trained x y target rate coefficient) := by
  have answered := answered_sound x y sound
  have blamed := blamed_sound answered (target - n.answer x y) n.topology.firstTrained
  have updated := update_eq_updatedTo blamed rate coefficient
  have kept := update_sound rate coefficient blamed updated
  have output := layerErrors_trained sound x y target rate coefficient sound.accepted.outputLayer_holdsSums
    sound.accepted.outputLayer_lt
  rw [blameOf_output] at output
  constructor
  case output => exact output
  case hidden =>
    intro layer sums hidden
    have sumsAbove := Topology.holdsSums_succ sums
    have within := sound.accepted.hidden_add_one_lt hidden
    exact ⟨_, _, layerErrors_trained sound x y target rate coefficient sumsAbove within,
      length_blameOf _ sound.accepted sound.weights sumsAbove within,
      unitErrors_eq_ok sound sums hidden _,
      layerErrors_trained sound x y target rate coefficient sums (Nat.lt_of_succ_lt within)⟩
  case connections =>
    intro layer sums within
    refine ⟨_, _, _, answered.layerValues_eq (show layer - 1 < n.topology.depth by omega),
      answered.layerSums_eq sums within, blamed.layerErrors_eq sums within, ?_⟩
    intro unit inLayer input inRow
    have wired : n.topology.Wired layer unit input := ⟨sums, within, inLayer, inRow⟩
    obtain ⟨v, z, d, w, m, value, sum, error, weight, momentum, newMomentum, newWeight⟩ :=
      connection_updatedTo blamed rate coefficient sums within inLayer wired.input_lt
    exact ⟨_, v, z, d, w, m, _, sound.weightIndex_eq wired, value, sum, error, weight, momentum, rfl, newMomentum, newWeight⟩
  case gaussians =>
    intro rbf
    exact ⟨n.topology.spans 1, sound.layer_eq sound.accepted.two_le_depth, fun i first last =>
      getElem?_updatedTo_gaussian blamed rate coefficient rbf first last⟩
  case bias => exact (answered_answers sound x y).bias
  case sizes =>
    exact ⟨kept.weights.trans sound.weights.symm, kept.momentums.trans sound.momentums.symm,
      kept.errors.trans sound.errors.symm⟩
  case unchanged => rfl

end Step

variable [Exponential R]

theorem train_backpropagates {n : Network W R} (reachable : n.Reachable) (x y : W)
    (target rate coefficient : R) :
    ∃ out passed after, n.forward x y = .ok (out, passed) ∧
      n.train x y target rate coefficient = .ok (target - out, after) ∧
      n.Backpropagates passed (target - out) rate coefficient after ∧
      ∀ m : Network W R, m.Reachable → m.topology = n.topology → m.activation = n.activation →
        m.weights = n.weights → m.momentums = n.momentums →
        m.train x y target rate coefficient = .ok (target - out, after) := by
  have sound := reachable.sound
  have run := train_eq_ok sound x y target rate coefficient
  refine ⟨_, _, _, forward_eq_ok x y sound, run, trained_backpropagates sound x y target rate coefficient, ?_⟩
  intro m reachable' topology activation weights momentums
  have layout : m.layout = n.layout := by
    rw [reachable'.sound.layout, sound.layout, topology]
  -- The forward pass leaves nothing of what the two networks held before it.
  have same : m.answered x y = n.answered x y := by
    simp only [answered, topology, activation, weights, momentums, layout]
  have out : m.answer x y = n.answer x y := by
    simp only [answer, topology, activation, weights]
  rw [← run, train, train, forward_eq_ok x y reachable'.sound, forward_eq_ok x y sound, same, out]

theorem train_backpropagates_of_gaussian_net :
    ∃ n : Network Float32 Float, ofWeights ⟨[2, 2, 3, 1], true⟩ .tanh (List.replicate 19 0.5) = .ok n ∧
      n.Reachable ∧ ∃ out passed after, n.forward 1 2 = .ok (out, passed) ∧
        n.train 1 2 1 0.1 0.9 = .ok (1 - out, after) ∧ n.Backpropagates passed (1 - out) 0.1 0.9 after ∧
        ∀ m : Network Float32 Float, m.Reachable → m.topology = n.topology → m.activation = n.activation →
          m.weights = n.weights → m.momentums = n.momentums → m.train 1 2 1 0.1 0.9 = .ok (1 - out, after) := by
  have accepted : Topology.ofSizes [2, 2, 3, 1] true = .ok ⟨[2, 2, 3, 1], true⟩ := rfl
  have fits : (⟨[2, 2, 3, 1], true⟩ : Topology).Fits := by decide
  have enough : (List.replicate 19 0.5 : List Float32).length =
      Topology.weightsBelow ⟨[2, 2, 3, 1], true⟩ 4 := rfl
  obtain ⟨n, built, -⟩ := ofWeights_eq_ok (R := Float) (a := .tanh)
    ((Topology.ofSizes_eq_ok_iff _ _ _).mp accepted).2 fits enough
  have reachable : n.Reachable := .ofWeights accepted built
  exact ⟨n, built, reachable, train_backpropagates reachable 1 2 1 0.1 0.9⟩

end PlaneNet.Network
