import PlaneNet.Binary.Machine
import PlaneNet.Proofs.Layout.Naming
import PlaneNet.Proofs.Network.Reachable

set_option autoImplicit false

namespace PlaneNet.Network

variable {W R : Type} [Scalar R] [Storage W R]

open Scalar (zero one)

def unitGaussian [Exponential R] (n : Network W R) (x y : W) (unit : Nat) : Except Error R := do
  let meanX ← Buffer.cell (3 * unit) n.weights
  let meanY ← Buffer.cell (3 * unit + 1) n.weights
  let variance ← Buffer.cell (3 * unit + 2) n.weights
  return gaussian (widen x) (widen y) (widen meanX) (widen meanY) (widen variance)

-- From zero and from the left, with the bias weight first.
def unitSum (n : Network W R) (layer : Nat) (below : List R) (unit : Nat) : Except Error R :=
  (List.range below.length).foldlM (fun sum input => do
    let w ← Buffer.cell (← n.layout.weightIndex layer unit input) n.weights
    return sum + widen w * (← Buffer.cell input below)) zero

section Sums

theorem weightedSum_append (start : R) (ws ws' : List W) (vs vs' : List R) (same : ws.length = vs.length) :
    weightedSum start (ws ++ ws') (vs ++ vs') = weightedSum (weightedSum start ws vs) ws' vs' := by
  induction ws generalizing start vs with
  | nil =>
    cases vs with
    | nil => rfl
    | cons v vs => cases same
  | cons w ws ih =>
    cases vs with
    | nil => cases same
    | cons v vs => exact ih (start + widen w * v) vs (Nat.succ.inj same)

theorem weightedSum_take_succ (start : R) {ws : List W} {vs : List R} {i : Nat} {w : W} {v : R}
    (weight : ws[i]? = some w) (value : vs[i]? = some v) :
    weightedSum start (ws.take (i + 1)) (vs.take (i + 1)) =
      weightedSum start (ws.take i) (vs.take i) + widen w * v := by
  obtain ⟨inWeights, _⟩ := List.getElem?_eq_some_iff.mp weight
  obtain ⟨inValues, _⟩ := List.getElem?_eq_some_iff.mp value
  have same : (ws.take i).length = (vs.take i).length := by
    simp only [List.length_take]
    omega
  rw [List.take_add_one, List.take_add_one, weight, value, Option.toList_some, Option.toList_some,
    weightedSum_append start _ _ _ _ same]
  rfl

omit [Storage W R] in
theorem Sound.weightIndex_eq {n : Network W R} (sound : n.Sound) {layer unit input : Nat}
    (wired : n.topology.Wired layer unit input) :
    n.layout.weightIndex layer unit input = .ok (n.topology.place layer unit input) :=
  sound.layout ▸ Layout.weightIndex_place sound.fits wired

omit [Storage W R] in
theorem cell_weightIndex {n : Network W R} (sound : n.Sound) {layer unit input : Nat}
    (sums : n.topology.HoldsSums layer) (within : layer < n.topology.depth)
    (inLayer : unit < n.topology.width layer) (inRow : input < n.topology.rowLength layer) :
    ∃ w, (n.layout.weightIndex layer unit input >>= fun i => Buffer.cell i n.weights) = .ok w ∧
      (n.topology.row n.weights layer unit)[input]? = some w := by
  have index := (Layout.weightIndex_eq sound.fits sums within inLayer inRow).1
  rw [← sound.layout] at index
  have long := Topology.length_row sound.weights sums.1 within inLayer
  have weight := List.getElem?_eq_getElem (long.symm ▸ inRow)
  have stored := Topology.getElem?_row n.weights unit inRow
  refine ⟨_, ?_, weight⟩
  rw [index, ok_bind, Buffer.cell_eq_ok_iff, ← Nat.add_assoc]
  exact stored.symm.trans weight

theorem unitSum_eq_ok {n : Network W R} (sound : n.Sound) {layer unit : Nat} {below : List R}
    (sums : n.topology.HoldsSums layer) (within : layer < n.topology.depth)
    (inLayer : unit < n.topology.width layer) (wide : below.length = n.topology.rowLength layer) :
    n.unitSum layer below unit = .ok (weightedSum zero (n.topology.row n.weights layer unit) below) := by
  have long := Topology.length_row sound.weights sums.1 within inLayer
  have step (input : Nat) (sum : R) (_ : 0 ≤ input) (inside : input < 0 + below.length)
      (before : sum = weightedSum zero ((n.topology.row n.weights layer unit).take input) (below.take input)) :
      ∃ next, (do
          let w ← Buffer.cell (← n.layout.weightIndex layer unit input) n.weights
          return sum + widen w * (← Buffer.cell input below) : Except Error R) = .ok next ∧
        next = weightedSum zero ((n.topology.row n.weights layer unit).take (input + 1))
          (below.take (input + 1)) := by
    rw [Nat.zero_add] at inside
    obtain ⟨w, read, weight⟩ := cell_weightIndex sound sums within inLayer (wide ▸ inside)
    have value : below[input]? = some below[input] := List.getElem?_eq_getElem inside
    refine ⟨_, ?_, (weightedSum_take_succ zero weight value).symm⟩
    rw [← bind_assoc, read, ok_bind, Buffer.cell_eq_ok_iff.mpr value, ← before]
    rfl
  obtain ⟨last, run, final⟩ := foldlM_range' 0 below.length step zero rfl
  rw [Nat.zero_add, List.take_length, wide, ← long, List.take_length] at final
  rw [unitSum, List.range_eq_range', run, final]

end Sums

variable [Exponential R]

theorem unitGaussian_eq_ok {n : Network W R} (sound : n.Sound) (rbf : n.topology.rbf = true) (x y : W)
    {unit : Nat} (inLayer : unit < n.topology.width 1) :
    n.unitGaussian x y unit = .ok (gaussianOf (widen x) (widen y) (n.topology.row n.weights 1 unit)) := by
  have within : 1 < n.topology.depth := sound.accepted.two_le_depth
  have three : n.topology.rowLength 1 = 3 :=
    Topology.rowLength_of_gaussian (Topology.isGaussianLayer_one.trans rbf)
  have long := Topology.length_row sound.weights Nat.one_pos within inLayer
  have entry (input : Nat) (inRow : input < 3) :
      (n.topology.row n.weights 1 unit)[input]? = n.weights[3 * unit + input]? := by
    have stored := Topology.getElem?_row n.weights unit (three.symm ▸ inRow)
    have start : n.topology.weightsBelow 1 + unit * n.topology.rowLength 1 = 3 * unit := by
      have none : n.topology.weightsBelow 1 = 0 := rfl
      rw [none, three]
      omega
    rw [← start]
    exact stored
  rw [three] at long
  obtain ⟨meanX, meanY, variance, row⟩ := List.length_eq_three.mp long
  rw [row] at entry ⊢
  have first := Buffer.cell_eq_ok_iff.mpr (entry 0 (by omega)).symm
  have second := Buffer.cell_eq_ok_iff.mpr (entry 1 (by omega)).symm
  have third := Buffer.cell_eq_ok_iff.mpr (entry 2 (by omega)).symm
  rw [Nat.add_zero] at first
  simp only [unitGaussian, first, second, third, ok_bind, pure_eq_ok, gaussianOf]

structure Answers (n : Network W R) (x y : W) (out : R) (after : Network W R) : Prop where
  output : after.output = .ok out
  inputs : after.layerValues 0 = .ok [one, widen x, widen y]
  gaussians : n.topology.rbf = true → ∃ units,
    (List.range (n.topology.width 1)).mapM (n.unitGaussian x y) = .ok units ∧
    after.layerValues 1 = .ok (one :: units)
  sums : ∀ layer, n.topology.HoldsSums layer → layer < n.topology.depth → ∃ below sums,
    after.layerValues (layer - 1) = .ok below ∧ below.length = n.topology.width (layer - 1) + 1 ∧
    (List.range (n.topology.width layer)).mapM (n.unitSum layer below) = .ok sums ∧
    after.layerSums layer = .ok sums ∧
    after.layerValues layer = .ok (one :: sums.map n.activation.apply)
  errors : after.errors.length = n.errors.length ∧ ∀ e ∈ after.errors, e = zero
  bias : ∀ layer < n.topology.depth, ∃ spans, n.layout.layer layer = .ok spans ∧
    Buffer.cell spans.values.offset n.values = .ok one ∧ Buffer.cell spans.values.offset after.values = .ok one
  unchanged : after =
    { n with values := after.values, preActivations := after.preActivations, errors := after.errors }

section Answered

variable {n : Network W R} (sound : n.Sound) (x y : W)

include sound

theorem layerValues_answered {layer : Nat} (within : layer < n.topology.depth) :
    (n.answered x y).layerValues layer = .ok (response n.topology n.activation n.weights x y layer) := by
  have slice := slice_blocks (response n.topology n.activation n.weights x y) [] within
  rw [List.append_nil, length_blocks_response _ _ _ _ sound.accepted, length_response _ _ _ _ sound.accepted]
    at slice
  rw [(answered_sound x y sound).layerValues_eq within]
  exact congrArg Except.ok slice

theorem layerSums_answered {layer : Nat} (sums : n.topology.HoldsSums layer)
    (within : layer < n.topology.depth) :
    (n.answered x y).layerSums layer =
      .ok (responseSums n.topology n.activation n.weights x y layer) := by
  have slice := slice_blocks (responseSums n.topology n.activation n.weights x y) [] within
  rw [List.append_nil, length_blocks_responseSums, length_responseSums, Topology.slotCount_of_sums sums]
    at slice
  rw [(answered_sound x y sound).layerSums_eq sums within]
  exact congrArg Except.ok slice

theorem answered_answers : n.Answers x y (n.answer x y) (n.answered x y) where
  output := by
    have run := forward_eq_ok x y sound
    obtain ⟨shown, presented, rest⟩ := (bind_eq_ok_iff _ _ _).mp run
    obtain ⟨last, passed, rest⟩ := (bind_eq_ok_iff _ _ _).mp rest
    obtain ⟨out, read, done⟩ := (bind_eq_ok_iff _ _ _).mp rest
    cases done
    exact read
  inputs := layerValues_answered sound x y (Nat.lt_of_succ_lt sound.accepted.two_le_depth)
  gaussians := by
    intro rbf
    refine ⟨_, mapM_eq_ok _ fun unit member =>
      unitGaussian_eq_ok sound rbf x y (List.mem_range.mp member), ?_⟩
    rw [layerValues_answered sound x y sound.accepted.two_le_depth,
      response_of_gaussian _ _ _ _ (Topology.isGaussianLayer_one.trans rbf)]
  sums := by
    intro layer sums within
    have below : layer - 1 < n.topology.depth := by omega
    have wide := length_response n.activation n.weights x y sound.accepted (layer - 1)
    have each (unit : Nat) (member : unit ∈ List.range (n.topology.width layer)) :=
      unitSum_eq_ok sound sums within (List.mem_range.mp member)
        (wide.trans (Topology.rowLength_of_sums sums).symm)
    refine ⟨_, responseSums n.topology n.activation n.weights x y layer, layerValues_answered sound x y below,
      wide, ?_, layerSums_answered sound x y sums within, ?_⟩
    · rw [mapM_eq_ok _ each, responseSums, if_pos sums]
    · rw [layerValues_answered sound x y within, response_of_sums _ _ _ _ sums]
  errors := ⟨List.length_replicate.trans sound.errors.symm, fun _ member => List.eq_of_mem_replicate member⟩
  bias := by
    intro layer within
    refine ⟨n.topology.spans layer, sound.layer_eq within, ?_, ?_⟩
    · exact Buffer.cell_eq_ok_iff.mpr (sound.bias layer within)
    · exact Buffer.cell_eq_ok_iff.mpr ((answered_sound x y sound).bias layer within)
  unchanged := rfl

end Answered

theorem forward_answers {n : Network W R} (reachable : n.Reachable) (x y : W) :
    ∃ out after, n.forward x y = .ok (out, after) ∧ n.Answers x y out after ∧
      ∀ m : Network W R, m.Reachable → m.topology = n.topology → m.activation = n.activation →
        m.weights = n.weights →
        ∃ after', m.forward x y = .ok (out, after') ∧ after'.values = after.values ∧
          after'.preActivations = after.preActivations ∧ after'.errors = after.errors := by
  refine ⟨_, _, forward_eq_ok x y reachable.sound, answered_answers reachable.sound x y, ?_⟩
  intro m reachable' topology activation weights
  refine ⟨m.answered x y, ?_, ?_⟩
  · rw [forward_eq_ok x y reachable'.sound, answer, answer, topology, activation, weights]
  · simp only [answered, topology, activation, weights, and_self]

theorem forward_answers_of_gaussian_net :
    ∃ n : Network Float32 Float, ofWeights ⟨[2, 2, 2, 1], true⟩ .tanh (List.replicate 15 0.5) = .ok n ∧
      n.Reachable ∧ ∃ out after, n.forward 1 2 = .ok (out, after) ∧ n.Answers 1 2 out after ∧
        ∀ m : Network Float32 Float, m.Reachable → m.topology = n.topology → m.activation = n.activation →
          m.weights = n.weights →
          ∃ after', m.forward 1 2 = .ok (out, after') ∧ after'.values = after.values ∧
            after'.preActivations = after.preActivations ∧ after'.errors = after.errors := by
  have accepted : Topology.ofSizes [2, 2, 2, 1] true = .ok ⟨[2, 2, 2, 1], true⟩ := rfl
  have fits : (⟨[2, 2, 2, 1], true⟩ : Topology).Fits := by decide
  have enough : (List.replicate 15 0.5 : List Float32).length =
      Topology.weightsBelow ⟨[2, 2, 2, 1], true⟩ 4 := rfl
  obtain ⟨n, built, -⟩ := ofWeights_eq_ok (R := Float) (a := .tanh)
    ((Topology.ofSizes_eq_ok_iff _ _ _).mp accepted).2 fits enough
  have reachable : n.Reachable := .ofWeights accepted built
  exact ⟨n, built, reachable, forward_answers reachable 1 2⟩

end PlaneNet.Network
