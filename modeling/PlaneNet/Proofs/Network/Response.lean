import PlaneNet.Proofs.Network.Sound

set_option autoImplicit false

namespace PlaneNet.Network

variable {W R : Type} [Scalar R] [Exponential R] [Storage W R]

open Scalar (zero one)

-- Rows of Gaussian units hold three weights; no other row is passed here.
def gaussianOf (x y : R) : List W → R
  | [meanX, meanY, variance] => gaussian x y (widen meanX) (widen meanY) (widen variance)
  | _ => zero

section Definitions

variable (t : Topology) (a : Activation) (weights : List W) (x y : W)

def response : Nat → List R
  | 0 => [one, widen x, widen y]
  | layer + 1 =>
    one :: (List.range (t.width (layer + 1))).map fun unit =>
      let row := t.row weights (layer + 1) unit
      if t.isGaussianLayer (layer + 1) then gaussianOf (widen x) (widen y) row
      else a.apply (weightedSum zero row (response layer))

def responseSums (layer : Nat) : List R :=
  if t.HoldsSums layer then
    (List.range (t.width layer)).map fun unit =>
      weightedSum zero (t.row weights layer unit) (response t a weights x y (layer - 1))
  else []

end Definitions

section Laws

variable {t : Topology} (a : Activation) (weights : List W) (x y : W)

theorem length_response (accepted : t.Accepted) (layer : Nat) :
    (response t a weights x y layer).length = t.width layer + 1 := by
  cases layer with
  | zero => rw [accepted.input]; rfl
  | succ layer => simp [response]

theorem length_responseSums (layer : Nat) :
    (responseSums t a weights x y layer).length = t.slotCount layer := by
  rw [responseSums, Topology.slotCount]
  split <;> simp

theorem length_blocks_response (accepted : t.Accepted) (layer : Nat) :
    (blocks (response t a weights x y) layer).length = t.valuesBelow layer := by
  simp only [length_blocks, length_response a weights x y accepted, Topology.valuesBelow]

theorem length_blocks_responseSums (layer : Nat) :
    (blocks (responseSums t a weights x y) layer).length = t.slotsBelow layer := by
  simp only [length_blocks, length_responseSums a weights x y, Topology.slotsBelow]

theorem response_bias (t : Topology) (layer : Nat) : (response t a weights x y layer)[0]? = some one := by
  cases layer <;> rfl

theorem response_of_gaussian {layer : Nat} (gaussian : t.isGaussianLayer layer = true) :
    response t a weights x y layer = one :: (List.range (t.width layer)).map
      fun unit => gaussianOf (widen x) (widen y) (t.row weights layer unit) := by
  obtain ⟨below, rfl⟩ : ∃ below, layer = below + 1 :=
    ⟨0, (Topology.isGaussianLayer_eq_true_iff.mp gaussian).2⟩
  simp only [response, gaussian, if_true]

theorem response_of_sums {layer : Nat} (sums : t.HoldsSums layer) :
    response t a weights x y layer = one :: (responseSums t a weights x y layer).map a.apply := by
  obtain ⟨below, rfl⟩ : ∃ below, layer = below + 1 := ⟨layer - 1, (Nat.sub_add_cancel sums.1).symm⟩
  simp [response, responseSums, sums, sums.2]

theorem responseSums_of_gaussian {layer : Nat} (gaussian : t.isGaussianLayer layer = true) :
    responseSums t a weights x y layer = [] := by
  apply if_neg
  rintro ⟨_, sums⟩
  rw [sums] at gaussian
  cases gaussian

theorem zipWith_starts {layer : Nat} (sums : t.HoldsSums layer) :
    List.zipWith (fun start row => weightedSum start row (response t a weights x y (layer - 1)))
        (List.replicate (t.width layer) zero) ((List.range (t.width layer)).map (t.row weights layer)) =
      responseSums t a weights x y layer := by
  have starts : List.replicate (t.width layer) (zero : R) = (List.range (t.width layer)).map fun _ => zero := by
    rw [List.map_const', List.length_range]
  rw [responseSums, if_pos sums, starts, List.zipWith_map, List.zipWith_self]

end Laws

/-- A network in the middle of a forward pass, with the layers below `layer` done. -/
def stage (n : Network W R) (x y : W) (layer : Nat) : Network W R :=
  { n with
    values := blocks (response n.topology n.activation n.weights x y) layer
      ++ n.values.drop (n.topology.valuesBelow layer)
    preActivations := blocks (responseSums n.topology n.activation n.weights x y) layer
      ++ List.replicate (n.topology.slotsBelow n.topology.depth - n.topology.slotsBelow layer) zero
    errors := List.replicate (n.topology.slotsBelow n.topology.depth) zero }

section Stage

variable (n : Network W R) (x y : W) (layer : Nat)

@[simp] theorem stage_topology : (n.stage x y layer).topology = n.topology := rfl

@[simp] theorem stage_layout : (n.stage x y layer).layout = n.layout := rfl

@[simp] theorem stage_activation : (n.stage x y layer).activation = n.activation := rfl

@[simp] theorem stage_weights : (n.stage x y layer).weights = n.weights := rfl

end Stage

def answer (n : Network W R) (x y : W) : R :=
  (response n.topology n.activation n.weights x y n.topology.outputLayer).getD 1 zero

def answered (n : Network W R) (x y : W) : Network W R :=
  { n with
    values := blocks (response n.topology n.activation n.weights x y) n.topology.depth
    preActivations := blocks (responseSums n.topology n.activation n.weights x y) n.topology.depth
    errors := List.replicate (n.topology.slotsBelow n.topology.depth) zero }

variable {n : Network W R} (x y : W)

theorem read_starts_eq_ok {layer : Nat} (sums : n.topology.HoldsSums layer) (within : layer < n.topology.depth) :
    Buffer.read (n.topology.slotSpan layer) (n.stage x y layer).preActivations =
      .ok (List.replicate (n.topology.width layer) zero) := by
  have read := Buffer.read_replicate
    (blocks (responseSums n.topology n.activation n.weights x y) layer) (zero : R)
    (Topology.width_le_slots sums within)
  rwa [length_blocks_responseSums] at read

theorem write_sums_eq_ok {layer : Nat} (sums : n.topology.HoldsSums layer) (within : layer < n.topology.depth) :
    Buffer.write (n.topology.slotSpan layer)
        (responseSums n.topology n.activation n.weights x y layer) (n.stage x y layer).preActivations =
      .ok (n.stage x y (layer + 1)).preActivations := by
  have length := length_responseSums n.activation n.weights x y (t := n.topology) layer
  have room := Topology.width_le_slots sums within
  rw [← Topology.slotCount_of_sums sums, ← length] at room
  have write := Buffer.write_replicate
    (blocks (responseSums n.topology n.activation n.weights x y) layer)
    (responseSums n.topology n.activation n.weights x y layer) (zero : R) room
  rw [length_blocks_responseSums, length, Topology.slotCount_of_sums sums, ← blocks_succ] at write
  simp only [Topology.slotSpan, stage, write, Topology.slotsBelow_succ, Topology.slotCount_of_sums sums,
    Nat.sub_sub]

variable (sound : n.Sound)

include sound

theorem present_eq_ok : n.present x y = .ok (n.stage x y 1) := by
  have within : 0 < n.topology.depth := by
    have := sound.accepted.two_le_depth
    omega
  have first : n.topology.valuesBelow 1 = 3 := by simp [Topology.valuesBelow, sound.accepted.input]
  have long : 3 ≤ n.values.length := by
    rw [sound.values, ← first]
    exact Topology.valuesBelow_le within
  have values : (Span.mk 1 2).splice [widen x, widen y] n.values =
      blocks (response n.topology n.activation n.weights x y) 1 ++ n.values.drop 3 := by
    have bias : n.values.take 1 = [one] := sound.take_one_drop within
    rw [Span.splice, bias]
    rfl
  have written : Buffer.write ⟨(n.topology.spans 0).values.offset + 1, 2⟩ [widen x, widen y] n.values =
      .ok ((Span.mk 1 2).splice [widen x, widen y] n.values) :=
    Buffer.write_eq_ok (Span.mk 1 2) _ _ long rfl
  simp only [present, sound.layer_eq within, ok_bind, written, values, List.map_const',
    sound.preActivations, sound.errors, stage, first]
  rfl

variable {layer : Nat}

theorem read_inputs_eq_ok (above : 0 < layer) :
    Buffer.read (n.topology.valueSpan (layer - 1))
        (blocks (response n.topology n.activation n.weights x y) layer) =
      .ok (response n.topology n.activation n.weights x y (layer - 1)) := by
  have read := Buffer.read_blocks (response n.topology n.activation n.weights x y)
    (show layer - 1 < layer by omega)
  rwa [length_blocks_response _ _ _ _ sound.accepted, length_response _ _ _ _ sound.accepted] at read

theorem cut_stage_eq_ok (layer : Nat) :
    Buffer.cut (n.topology.valuesBelow layer) (n.stage x y layer).values =
      .ok (blocks (response n.topology n.activation n.weights x y) layer,
        n.values.drop (n.topology.valuesBelow layer)) := by
  have cut := Buffer.cut_append (blocks (response n.topology n.activation n.weights x y) layer)
    (n.values.drop (n.topology.valuesBelow layer))
  rwa [length_blocks_response _ _ _ _ sound.accepted] at cut

theorem gaussianLayer_eq_ok (within : layer < n.topology.depth)
    (gaussian : n.topology.isGaussianLayer layer = true) (bias px py : R) :
    gaussianLayer ((n.topology.weightSpan layer).slice n.weights) [bias, px, py] =
      .ok ((List.range (n.topology.width layer)).map fun unit =>
        gaussianOf px py (n.topology.row n.weights layer unit)) := by
  have above : 0 < layer := by
    have := (Topology.isGaussianLayer_eq_true_iff.mp gaussian).2
    omega
  have rows := Topology.rows_eq_ok sound.weights above within
  rw [Topology.rowLength_of_gaussian gaussian] at rows
  have each : ∀ row ∈ (List.range (n.topology.width layer)).map (n.topology.row n.weights layer),
      gaussianUnit px py row = .ok (gaussianOf px py row) := by
    intro row member
    obtain ⟨unit, inLayer, rfl⟩ := List.mem_map.mp member
    have three := Topology.length_row sound.weights above within (List.mem_range.mp inLayer)
    rw [Topology.rowLength_of_gaussian gaussian, gaussianWeights] at three
    obtain ⟨meanX, meanY, variance, row⟩ := List.length_eq_three.mp three
    rw [row]
    rfl
  rw [gaussianLayer, rows, ok_bind, mapM_eq_ok _ each, List.map_map]
  rfl

theorem forwardLayer_gaussian (within : layer < n.topology.depth)
    (gaussian : n.topology.isGaussianLayer layer = true) :
    (n.stage x y layer).forwardLayer layer = .ok (n.stage x y (layer + 1)) := by
  have first := (Topology.isGaussianLayer_eq_true_iff.mp gaussian).2
  have below : layer - 1 < n.topology.depth := by omega
  have above : 0 < layer := by omega
  have inputs : response n.topology n.activation n.weights x y (layer - 1) =
      [one, widen x, widen y] := by
    rw [first]
    rfl
  have units : ((List.range (n.topology.width layer)).map fun unit =>
      gaussianOf (R := R) (widen x) (widen y) (n.topology.row n.weights layer unit)).length =
        n.topology.width layer := by
    simp
  have values := response_of_gaussian n.activation n.weights x y gaussian
  have sums := responseSums_of_gaussian n.activation n.weights x y gaussian
  have slots : n.topology.slotsBelow (layer + 1) = n.topology.slotsBelow layer := by
    rw [Topology.slotsBelow_succ, ← length_responseSums n.activation n.weights x y, sums]
    rfl
  simp only [forwardLayer, stage_layout, stage_topology, stage_weights, sound.layer_eq below,
    sound.layer_eq within, ok_bind, Topology.spans_weights, Topology.spans_values,
    Topology.valueSpan_offset, Topology.valueSpan_length, Nat.add_sub_cancel, cut_stage_eq_ok x y sound,
    read_inputs_eq_ok x y sound above, sound.read_weights_eq_ok within, gaussian, if_true, inputs,
    gaussianLayer_eq_ok sound within gaussian, sound.write_units_eq_ok within units, ← values]
  simp only [pure_eq_ok, stage, blocks_succ, sums, slots, List.append_nil, List.append_assoc]

theorem forwardLayer_sums (sums : n.topology.HoldsSums layer) (within : layer < n.topology.depth) :
    (n.stage x y layer).forwardLayer layer = .ok (n.stage x y (layer + 1)) := by
  have below : layer - 1 < n.topology.depth := by omega
  have rows := Topology.rows_eq_ok sound.weights sums.1 within
  rw [Topology.rowLength_of_sums sums] at rows
  have computed := zipWith_starts n.activation n.weights x y sums
  have units : ((responseSums n.topology n.activation n.weights x y layer).map n.activation.apply).length =
      n.topology.width layer := by
    rw [List.length_map, length_responseSums, Topology.slotCount_of_sums sums]
  have values := response_of_sums n.activation n.weights x y sums
  simp only [forwardLayer, stage_layout, stage_topology, stage_weights, stage_activation, sound.layer_eq below,
    sound.layer_eq within, ok_bind, Topology.spans_weights, Topology.spans_values,
    Topology.valueSpan_offset, Topology.valueSpan_length, Nat.add_sub_cancel, cut_stage_eq_ok x y sound,
    read_inputs_eq_ok x y sound sums.1, sound.read_weights_eq_ok within, sums.2, Bool.false_eq_true, if_false,
    sound.trained_eq sums within, read_starts_eq_ok x y sums within, rows, computed,
    sound.write_units_eq_ok within units, write_sums_eq_ok x y sums within, ← values]
  simp only [pure_eq_ok, stage, blocks_succ, List.append_assoc]

theorem stage_depth : n.stage x y n.topology.depth = n.answered x y := by
  rw [stage, answered, ← sound.values, List.drop_length, Nat.sub_self, List.replicate_zero,
    List.append_nil, List.append_nil]

theorem getElem?_answered {unit : Nat} (within : layer < n.topology.depth)
    (inLayer : unit < n.topology.width layer + 1) :
    (n.answered x y).values[n.topology.valuesBelow layer + unit]? =
      (response n.topology n.activation n.weights x y layer)[unit]? := by
  have long := length_response n.activation n.weights x y sound.accepted layer
  have cell := getElem?_blocks (response n.topology n.activation n.weights x y) within (long ▸ inLayer)
  rwa [length_blocks_response _ _ _ _ sound.accepted] at cell

theorem answered_sound : (n.answered x y).Sound :=
  { sound with
    values := length_blocks_response _ _ _ _ sound.accepted _
    preActivations := length_blocks_responseSums ..
    errors := List.length_replicate
    bias := fun _ within =>
      (getElem?_answered x y sound within (Nat.succ_pos _)).trans (response_bias ..) }

theorem forward_eq_ok : n.forward x y = .ok (n.answer x y, n.answered x y) := by
  have two := sound.accepted.two_le_depth
  have layers : n.topology.unitLayers.foldlM forwardLayer (n.stage x y 1) = .ok (n.answered x y) := by
    have step (layer : Nat) (m : Network W R) (above : 1 ≤ layer)
        (within : layer < 1 + (n.topology.depth - 1)) (before : m = n.stage x y layer) :
        ∃ next, forwardLayer m layer = .ok next ∧ next = n.stage x y (layer + 1) := by
      subst before
      refine ⟨_, ?_, rfl⟩
      cases gaussian : n.topology.isGaussianLayer layer with
      | true => exact forwardLayer_gaussian x y sound (by omega) gaussian
      | false => exact forwardLayer_sums x y sound ⟨above, gaussian⟩ (by omega)
    obtain ⟨last, run, final⟩ := foldlM_range' 1 (n.topology.depth - 1) step _ rfl
    rw [show 1 + (n.topology.depth - 1) = n.topology.depth by omega, stage_depth x y sound] at final
    rw [← final]
    exact run
  have within := sound.accepted.outputLayer_lt
  have output : (n.answered x y).output = .ok (n.answer x y) := by
    have cell := getElem?_answered x y sound within (show 1 < _ by rw [sound.accepted.output]; decide)
    have long := length_response n.activation n.weights x y sound.accepted n.topology.outputLayer
    rw [sound.accepted.output] at long
    rw [(answered_sound x y sound).output_eq, Buffer.cell_eq_ok_iff]
    refine cell.trans ?_
    rw [answer, List.getD_eq_getElem?_getD, List.getElem?_eq_getElem (by omega)]
    rfl
  simp only [forward, present_eq_ok x y sound, ok_bind, layers, stage_topology, output, pure_eq_ok]

end PlaneNet.Network
