import PlaneNet.Proofs.Network.Steps

set_option autoImplicit false

namespace PlaneNet.Network

variable {W R : Type} [Scalar R] [Storage W R]

open Scalar (zero)

section Definitions

variable (t : Topology) (weights : List W) (e : R)

def blame : Nat → List R
  | 0 => [e]
  | below + 1 =>
    let layer := t.outputLayer - (below + 1)
    passedDown ((List.range (t.width (layer + 1))).map (t.row weights (layer + 1))) (blame below)
      (List.replicate (t.width layer) zero)

def blameOf (layer : Nat) : List R := blame t weights e (t.outputLayer - layer)

-- The errors of a layer when they have been passed down to layer `done`.
def errorBlock (done layer : Nat) : List R :=
  if t.HoldsSums layer then
    if done ≤ layer then blameOf t weights e layer else List.replicate (t.width layer) zero
  else []

end Definitions

section Laws

variable {t : Topology} (weights : List W) (e : R)

theorem blameOf_output : blameOf t weights e t.outputLayer = [e] := by
  rw [blameOf, Nat.sub_self, blame]

theorem blameOf_below {layer : Nat} (hidden : layer < t.outputLayer) :
    blameOf t weights e layer =
      passedDown ((List.range (t.width (layer + 1))).map (t.row weights (layer + 1)))
        (blameOf t weights e (layer + 1)) (List.replicate (t.width layer) zero) := by
  obtain ⟨below, distance⟩ : ∃ below, t.outputLayer - layer = below + 1 :=
    ⟨t.outputLayer - layer - 1, by omega⟩
  have here : t.outputLayer - (below + 1) = layer := by omega
  have above : t.outputLayer - (layer + 1) = below := by omega
  rw [blameOf, blameOf, distance, above, blame, here]

variable (accepted : t.Accepted) {weights} (full : weights.length = t.weightsBelow t.depth)

include accepted full

theorem length_blameOf {layer : Nat} (sums : t.HoldsSums layer) (within : layer < t.depth) :
    (blameOf t weights e layer).length = t.width layer := by
  rcases Nat.lt_or_ge layer t.outputLayer with hidden | last
  · have above := Topology.holdsSums_succ sums
    have inside := accepted.hidden_add_one_lt hidden
    rw [blameOf_below weights e hidden, length_passedDown, List.length_replicate]
    intro row member
    obtain ⟨unit, inLayer, rfl⟩ := List.mem_map.mp member
    rw [Topology.length_row full above.1 inside (List.mem_range.mp inLayer),
      Topology.rowLength_of_sums above, List.length_replicate, Nat.add_sub_cancel]
  · have output : layer = t.outputLayer := by
      have := accepted.outputLayer_add_one
      omega
    rw [output, blameOf_output, accepted.output]
    rfl

theorem length_errorBlock (done : Nat) {layer : Nat} (within : layer < t.depth) :
    (errorBlock t weights e done layer).length = t.slotCount layer := by
  rw [errorBlock, Topology.slotCount]
  split
  next sums =>
    split
    next => exact length_blameOf e accepted full sums within
    next => exact List.length_replicate
  next => rfl

theorem slice_errorBlock (done : Nat) {layer : Nat} (sums : t.HoldsSums layer) (within : layer < t.depth) :
    (t.slotSpan layer).slice (blocks (errorBlock t weights e done) t.depth) =
      errorBlock t weights e done layer := by
  have slice := slice_counted (fun _ inside => length_errorBlock e accepted full done inside) within
  rwa [Topology.slotCount_of_sums sums] at slice

end Laws

section Backward

variable {n : Network W R} (sound : n.Sound) (e : R)

include sound

def blamed (n : Network W R) (e : R) (done : Nat) : Network W R :=
  { n with errors := blocks (errorBlock n.topology n.weights e done) n.topology.depth }

theorem blamed_sound (done : Nat) : (n.blamed e done).Sound := by
  apply sound.with_errors
  rw [sound.errors]
  exact length_counted (fun _ inside => length_errorBlock e sound.accepted sound.weights done inside) le_rfl

variable {e} {es : List R} (passed : n.PassedTo e n.topology.firstTrained es)
  (cleared : n.errors = List.replicate (n.topology.slotsBelow n.topology.depth) zero)

include passed cleared

theorem PassedTo.slice_eq {layer : Nat} (sums : n.topology.HoldsSums layer)
    (within : layer ≤ n.topology.outputLayer) :
    (n.topology.slotSpan layer).slice es = blameOf n.topology n.weights e layer := by
  induction within using Nat.decreasingInduction with
  | self => rw [passed.output, blameOf_output]
  | of_succ layer hidden above =>
    have within := Nat.lt_of_succ_lt (sound.accepted.hidden_add_one_lt hidden)
    have first := sound.accepted.firstTrained_le sums within
    rw [passed.passed layer sums first hidden, above (Topology.holdsSums_succ sums), cleared,
      Span.slice_replicate _ _ (Topology.slotSpan_stop_le sums within), blameOf_below _ _ hidden]
    rfl

theorem PassedTo.eq_blocks :
    es = blocks (errorBlock n.topology n.weights e n.topology.firstTrained) n.topology.depth := by
  have full : es.length = n.topology.slotsBelow n.topology.depth := passed.length.trans sound.errors
  calc es
    _ = es.take (n.topology.slotsBelow n.topology.depth) := (List.take_of_length_le full.le).symm
    _ = _ := (blocks_slices n.topology.slotCount es n.topology.depth).symm
    _ = _ := by
      refine blocks_congr fun layer within => ?_
      rw [errorBlock]
      split
      next sums =>
        rw [if_pos (sound.accepted.firstTrained_le sums within), Topology.slotCount_of_sums sums]
        exact passed.slice_eq sound cleared sums (sound.accepted.le_outputLayer within)
      next none =>
        rw [Topology.slotCount, if_neg none]
        rfl

omit passed in
theorem backward_cleared (target : R) {out : R} (read : n.output = .ok out) :
    n.backward target = .ok (target - out, n.blamed (target - out) n.topology.firstTrained) := by
  obtain ⟨_, es, again, run, passed⟩ := backward_passedTo sound target
  cases read.symm.trans again
  rw [run, passed.eq_blocks sound cleared]
  rfl

end Backward

end PlaneNet.Network
