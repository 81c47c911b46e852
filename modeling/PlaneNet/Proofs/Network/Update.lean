import PlaneNet.Proofs.Network.Steps

set_option autoImplicit false

namespace PlaneNet

namespace Topology

variable {α : Type}

def updatedBlock (t : Topology) (old : List α) (new : Nat → List α) (done layer : Nat) : List α :=
  if t.HoldsSums layer ∧ layer < done then new layer else (t.weightSpan layer).slice old

variable {t : Topology} {old : List α} {new : Nat → List α}

variable (full : old.length = t.weightsBelow t.depth)

include full

theorem updated_first (accepted : t.Accepted) :
    blocks (t.updatedBlock old new t.firstTrained) t.depth = old := by
  have below (layer : Nat) (within : layer < t.depth) :
      t.updatedBlock old new t.firstTrained layer = (t.weightSpan layer).slice old := by
    apply if_neg
    rintro ⟨sums, low⟩
    exact absurd low (Nat.not_lt.mpr (accepted.firstTrained_le sums within))
  have whole : blocks (fun layer => (t.weightSpan layer).slice old) t.depth = old.take (t.weightsBelow t.depth) :=
    blocks_slices t.weightCount old t.depth
  rw [blocks_congr below, whole, ← full, List.take_length]

variable (wide : ∀ layer < t.depth, t.HoldsSums layer → (new layer).length = t.weightCount layer)

include wide

theorem length_updatedBlock (done : Nat) {layer : Nat} (within : layer < t.depth) :
    (t.updatedBlock old new done layer).length = t.weightCount layer := by
  rw [updatedBlock]
  split
  next trained => exact wide layer within trained.1
  next => exact Span.length_slice _ _ (full ▸ weightSpan_stop_le within)

theorem slice_updated (done : Nat) {layer : Nat} (within : layer < t.depth) :
    (t.weightSpan layer).slice (blocks (t.updatedBlock old new done) t.depth) =
      t.updatedBlock old new done layer :=
  slice_counted (fun _ inside => length_updatedBlock full wide done inside) within

theorem splice_updated {layer : Nat} (sums : t.HoldsSums layer) (within : layer < t.depth) :
    (t.weightSpan layer).splice (new layer) (blocks (t.updatedBlock old new layer) t.depth) =
      blocks (t.updatedBlock old new (layer + 1)) t.depth := by
  have splice := splice_counted (fun _ inside => length_updatedBlock full wide layer inside) (new layer) within
  refine splice.trans (blocks_congr fun i _ => ?_)
  by_cases same : i = layer
  · subst same
    rw [Function.update_self, updatedBlock, if_pos ⟨sums, i.lt_succ_self⟩]
  · have order : i < layer + 1 ↔ i < layer := by omega
    rw [Function.update_of_ne same, updatedBlock, updatedBlock]
    simp only [order]

end Topology

namespace Network

variable {W R : Type} [Scalar R] [Storage W R]

open Scalar (zero)

theorem getElem?_stepRow (delta coefficient : R) {ws : List W} {ms vs : List R} {i : Nat} {w : W} {m v : R}
    (weight : ws[i]? = some w) (momentum : ms[i]? = some m) (value : vs[i]? = some v) :
    (stepRow delta coefficient ws ms vs).2[i]? = some (delta * v + coefficient * m) ∧
      (stepRow delta coefficient ws ms vs).1[i]? = some (narrow (widen w + (delta * v + coefficient * m))) := by
  induction ws generalizing ms vs i with
  | nil => cases weight
  | cons w' ws ih =>
    cases ms with
    | nil => cases momentum
    | cons m' ms =>
      cases vs with
      | nil => cases value
      | cons v' vs =>
        cases i with
        | zero =>
          cases weight
          cases momentum
          cases value
          exact ⟨rfl, rfl⟩
        | succ i => exact ih weight momentum value

variable [Exponential R]

theorem stepRows_eq_map (activation : Activation) (rate coefficient : R) (inputs : List R) (n : Nat)
    (weights : Nat → List W) (momentums : Nat → List R) (sums errors : List R) (sumCount : sums.length = n)
    (errorCount : errors.length = n) :
    stepRows activation rate coefficient inputs ((List.range n).map weights) ((List.range n).map momentums)
        sums errors =
      (List.range n).map fun unit =>
        stepRow (activation.derive (sums.getD unit zero) * errors.getD unit zero * rate) coefficient
          (weights unit) (momentums unit) inputs := by
  induction n generalizing weights momentums sums errors with
  | zero => rfl
  | succ n ih =>
    match sums, errors, sumCount, errorCount with
    | z :: sums, e :: errors, sumCount, errorCount =>
      have rest := ih (weights ∘ Nat.succ) (momentums ∘ Nat.succ) sums errors (Nat.succ.inj sumCount)
        (Nat.succ.inj errorCount)
      simp only [List.range_succ_eq_map, List.map_cons, List.map_map, stepRows] at rest ⊢
      rw [rest]
      rfl

def stepUnit (n : Network W R) (rate coefficient : R) (layer unit : Nat) : List W × List R :=
  stepRow (n.activation.derive (((n.topology.slotSpan layer).slice n.preActivations).getD unit zero)
      * ((n.topology.slotSpan layer).slice n.errors).getD unit zero * rate) coefficient
    (n.topology.row n.weights layer unit) (n.topology.row n.momentums layer unit)
    ((n.topology.valueSpan (layer - 1)).slice n.values)

def steppedWeights (n : Network W R) (rate coefficient : R) (layer : Nat) : List W :=
  blocks (fun unit => (n.stepUnit rate coefficient layer unit).1) (n.topology.width layer)

def steppedMomentums (n : Network W R) (rate coefficient : R) (layer : Nat) : List R :=
  blocks (fun unit => (n.stepUnit rate coefficient layer unit).2) (n.topology.width layer)

def updatedTo (n : Network W R) (rate coefficient : R) (done : Nat) : Network W R :=
  { n with
    weights := blocks (n.topology.updatedBlock n.weights (n.steppedWeights rate coefficient) done)
      n.topology.depth
    momentums := blocks (n.topology.updatedBlock n.momentums (n.steppedMomentums rate coefficient) done)
      n.topology.depth }

variable {n : Network W R} (sound : n.Sound) (rate coefficient : R)

include sound

theorem length_stepUnit {layer unit : Nat} (above : 0 < layer) (within : layer < n.topology.depth)
    (inLayer : unit < n.topology.width layer) :
    (n.stepUnit rate coefficient layer unit).1.length = n.topology.rowLength layer ∧
      (n.stepUnit rate coefficient layer unit).2.length = n.topology.rowLength layer := by
  obtain ⟨weights, momentums⟩ := length_stepRow (W := W) coefficient
    (n.activation.derive (((n.topology.slotSpan layer).slice n.preActivations).getD unit zero)
      * ((n.topology.slotSpan layer).slice n.errors).getD unit zero * rate)
    (n.topology.row n.weights layer unit) (n.topology.row n.momentums layer unit)
    ((n.topology.valueSpan (layer - 1)).slice n.values)
  exact ⟨weights.trans (Topology.length_row sound.weights above within inLayer),
    momentums.trans (Topology.length_row sound.momentums above within inLayer)⟩

theorem stepped_eq {layer : Nat} (sums : n.topology.HoldsSums layer) (within : layer < n.topology.depth) :
    n.stepped rate coefficient layer =
      (List.range (n.topology.width layer)).map (n.stepUnit rate coefficient layer) := by
  have slots := Topology.slotSpan_stop_le sums within
  have preActivations := Span.length_slice _ _ (sound.preActivations ▸ slots)
  have errors := Span.length_slice _ _ (sound.errors ▸ slots)
  exact stepRows_eq_map _ _ _ _ _ _ _ _ _ preActivations errors

theorem flatMap_stepped {layer : Nat} (sums : n.topology.HoldsSums layer) (within : layer < n.topology.depth) :
    (n.stepped rate coefficient layer).flatMap (·.1) = n.steppedWeights rate coefficient layer ∧
      (n.stepped rate coefficient layer).flatMap (·.2) = n.steppedMomentums rate coefficient layer := by
  rw [stepped_eq sound rate coefficient sums within, List.flatMap_map, List.flatMap_map]
  exact ⟨rfl, rfl⟩

theorem length_steppedWeights {layer : Nat} (within : layer < n.topology.depth)
    (sums : n.topology.HoldsSums layer) :
    (n.steppedWeights rate coefficient layer).length = n.topology.weightCount layer :=
  (flatMap_stepped sound rate coefficient sums within).1 ▸ (length_stepped rate coefficient sound sums within).1

theorem length_steppedMomentums {layer : Nat} (within : layer < n.topology.depth)
    (sums : n.topology.HoldsSums layer) :
    (n.steppedMomentums rate coefficient layer).length = n.topology.weightCount layer :=
  (flatMap_stepped sound rate coefficient sums within).2 ▸ (length_stepped rate coefficient sound sums within).2

theorem slice_updatedTo (done : Nat) {layer : Nat} (within : layer < n.topology.depth) :
    (n.topology.weightSpan layer).slice (n.updatedTo rate coefficient done).weights =
        n.topology.updatedBlock n.weights (n.steppedWeights rate coefficient) done layer ∧
      (n.topology.weightSpan layer).slice (n.updatedTo rate coefficient done).momentums =
        n.topology.updatedBlock n.momentums (n.steppedMomentums rate coefficient) done layer :=
  ⟨Topology.slice_updated sound.weights (fun _ => length_steppedWeights sound rate coefficient) done within,
    Topology.slice_updated sound.momentums (fun _ => length_steppedMomentums sound rate coefficient) done within⟩

-- An update reads no weights but those of the layer that it is about to write.
theorem stepUnit_updatedTo {layer unit : Nat} (above : 0 < layer) (within : layer < n.topology.depth)
    (inLayer : unit < n.topology.width layer) :
    (n.updatedTo rate coefficient layer).stepUnit rate coefficient layer unit =
      n.stepUnit rate coefficient layer unit := by
  have untouched : ¬ (n.topology.HoldsSums layer ∧ layer < layer) := fun both => Nat.lt_irrefl _ both.2
  obtain ⟨weights, momentums⟩ := slice_updatedTo sound rate coefficient layer within
  rw [Topology.updatedBlock, if_neg untouched] at weights momentums
  have weightRow : n.topology.row (n.updatedTo rate coefficient layer).weights layer unit =
      n.topology.row n.weights layer unit := by
    rw [Topology.row_eq_slice _ above inLayer, weights, ← Topology.row_eq_slice _ above inLayer]
  have momentumRow : n.topology.row (n.updatedTo rate coefficient layer).momentums layer unit =
      n.topology.row n.momentums layer unit := by
    rw [Topology.row_eq_slice _ above inLayer, momentums, ← Topology.row_eq_slice _ above inLayer]
  rw [stepUnit, stepUnit, ← weightRow, ← momentumRow]
  rfl

theorem updateLayer_updatedTo {layer : Nat} (sums : n.topology.HoldsSums layer)
    (within : layer < n.topology.depth) (kept : (n.updatedTo rate coefficient layer).Sound) :
    (n.updatedTo rate coefficient layer).updateLayer rate coefficient layer =
      .ok (n.updatedTo rate coefficient (layer + 1)) := by
  have units : (n.updatedTo rate coefficient layer).stepped rate coefficient layer =
      n.stepped rate coefficient layer := by
    rw [stepped_eq kept rate coefficient sums within, stepped_eq sound rate coefficient sums within]
    exact List.map_congr_left fun unit member =>
      stepUnit_updatedTo sound rate coefficient sums.1 within (List.mem_range.mp member)
  obtain ⟨newWeights, newMomentums⟩ := flatMap_stepped sound rate coefficient sums within
  have weights := Topology.splice_updated sound.weights
    (fun _ => length_steppedWeights sound rate coefficient) sums within
  have momentums := Topology.splice_updated sound.momentums
    (fun _ => length_steppedMomentums sound rate coefficient) sums within
  rw [updateLayer_eq_ok rate coefficient kept sums within, units, newWeights, newMomentums]
  simp only [updatedTo, weights, momentums]

theorem update_eq_updatedTo :
    n.update rate coefficient = .ok (n.updatedTo rate coefficient n.topology.depth) := by
  have first : n.updatedTo rate coefficient n.topology.firstTrained = n := by
    simp only [updatedTo, Topology.updated_first sound.weights sound.accepted,
      Topology.updated_first sound.momentums sound.accepted]
  have step (layer : Nat) (m : Network W R) (low : n.topology.firstTrained ≤ layer)
      (high : layer < n.topology.firstTrained + (n.topology.depth - n.topology.firstTrained))
      (before : m = n.updatedTo rate coefficient layer ∧ m.Sound) :
      ∃ next, m.updateLayer rate coefficient layer = .ok next ∧
        next = n.updatedTo rate coefficient (layer + 1) ∧ next.Sound := by
    obtain ⟨rfl, kept⟩ := before
    have trained : layer ∈ n.topology.trainedLayers := List.mem_range'_1.mpr ⟨low, high⟩
    obtain ⟨sums, within⟩ := sound.accepted.mem_trainedLayers_iff.mp trained
    have run := updateLayer_updatedTo sound rate coefficient sums within kept
    obtain ⟨_, _, again, after⟩ := updateLayer_sound rate coefficient kept sums within
    cases again.symm.trans run
    exact ⟨_, run, rfl, after⟩
  obtain ⟨_, run, rfl, -⟩ := foldlM_range' _ _ step n ⟨first.symm, sound⟩
  have within : n.topology.firstTrained ≤ n.topology.depth := by
    have two := sound.accepted.two_le_depth
    rw [Topology.firstTrained]
    split <;> omega
  rw [Nat.add_sub_cancel' within] at run
  exact run

theorem getElem?_updatedTo {layer unit input : Nat} (sums : n.topology.HoldsSums layer)
    (within : layer < n.topology.depth) (inLayer : unit < n.topology.width layer)
    (inRow : input < n.topology.rowLength layer) :
    (n.updatedTo rate coefficient n.topology.depth).weights[n.topology.weightsBelow layer +
        (unit * n.topology.rowLength layer + input)]? = (n.stepUnit rate coefficient layer unit).1[input]? ∧
      (n.updatedTo rate coefficient n.topology.depth).momentums[n.topology.weightsBelow layer +
        (unit * n.topology.rowLength layer + input)]? = (n.stepUnit rate coefficient layer unit).2[input]? := by
  have inside := Topology.row_lt_weightCount sums.1 inLayer inRow
  obtain ⟨weights, momentums⟩ := slice_updatedTo sound rate coefficient n.topology.depth within
  rw [Topology.updatedBlock, if_pos ⟨sums, within⟩] at weights momentums
  have long (unit : Nat) (inLayer : unit < n.topology.width layer) :=
    length_stepUnit sound rate coefficient sums.1 within inLayer
  have weight := getElem?_counted (fun unit inLayer => (long unit inLayer).1) inLayer inRow
  have momentum := getElem?_counted (fun unit inLayer => (long unit inLayer).2) inLayer inRow
  have before : ∑ _ ∈ Finset.range unit, n.topology.rowLength layer = unit * n.topology.rowLength layer := by
    simp
  rw [before] at weight momentum
  constructor
  · rw [← weight, ← steppedWeights, ← weights, Span.getElem?_slice _ _ _ inside]
    rfl
  · rw [← momentum, ← steppedMomentums, ← momentums, Span.getElem?_slice _ _ _ inside]
    rfl

theorem connection_updatedTo {layer unit input : Nat} (sums : n.topology.HoldsSums layer)
    (within : layer < n.topology.depth) (inLayer : unit < n.topology.width layer)
    (inRow : input < n.topology.rowLength layer) :
    ∃ v z d w m,
      ((n.topology.valueSpan (layer - 1)).slice n.values)[input]? = some v ∧
      ((n.topology.slotSpan layer).slice n.preActivations)[unit]? = some z ∧
      ((n.topology.slotSpan layer).slice n.errors)[unit]? = some d ∧
      n.weights[n.topology.weightsBelow layer + (unit * n.topology.rowLength layer + input)]? = some w ∧
      n.momentums[n.topology.weightsBelow layer + (unit * n.topology.rowLength layer + input)]? = some m ∧
      (n.updatedTo rate coefficient n.topology.depth).momentums[n.topology.weightsBelow layer +
        (unit * n.topology.rowLength layer + input)]? =
          some (n.activation.derive z * d * rate * v + coefficient * m) ∧
      (n.updatedTo rate coefficient n.topology.depth).weights[n.topology.weightsBelow layer +
        (unit * n.topology.rowLength layer + input)]? =
          some (narrow (widen w + (n.activation.derive z * d * rate * v + coefficient * m))) := by
  have slots := Topology.slotSpan_stop_le sums within
  have inputCount := Span.length_slice (n.topology.valueSpan (layer - 1)) n.values
    (sound.values ▸ Topology.valueSpan_stop_le (show layer - 1 < n.topology.depth by omega))
  have sumCount := Span.length_slice _ _ (sound.preActivations ▸ slots)
  have errorCount := Span.length_slice _ _ (sound.errors ▸ slots)
  have weightCount := Topology.length_row sound.weights sums.1 within inLayer
  have momentumCount := Topology.length_row sound.momentums sums.1 within inLayer
  rw [Topology.valueSpan_length, ← Topology.rowLength_of_sums sums] at inputCount
  obtain ⟨v, value⟩ := exists_getElem? inputCount inRow
  obtain ⟨z, sum⟩ := exists_getElem? sumCount inLayer
  obtain ⟨d, error⟩ := exists_getElem? errorCount inLayer
  obtain ⟨w, weight⟩ := exists_getElem? weightCount inRow
  obtain ⟨m, momentum⟩ := exists_getElem? momentumCount inRow
  obtain ⟨steppedMomentum, steppedWeight⟩ := getElem?_stepRow
    (n.activation.derive z * d * rate) coefficient weight momentum value
  obtain ⟨newWeight, newMomentum⟩ := getElem?_updatedTo sound rate coefficient sums within inLayer inRow
  have delta : n.stepUnit rate coefficient layer unit =
      stepRow (n.activation.derive z * d * rate) coefficient (n.topology.row n.weights layer unit)
        (n.topology.row n.momentums layer unit) ((n.topology.valueSpan (layer - 1)).slice n.values) := by
    simp only [stepUnit, List.getD_eq_getElem?_getD, sum, error, Option.getD_some]
  rw [delta, steppedWeight] at newWeight
  rw [delta, steppedMomentum] at newMomentum
  rw [Topology.getElem?_row _ _ inRow, Nat.add_assoc] at weight momentum
  exact ⟨v, z, d, w, m, value, sum, error, weight, momentum, newMomentum, newWeight⟩

theorem slice_updatedTo_gaussian (rbf : n.topology.rbf = true) :
    (n.topology.weightSpan 1).slice (n.updatedTo rate coefficient n.topology.depth).weights =
        (n.topology.weightSpan 1).slice n.weights ∧
      (n.topology.weightSpan 1).slice (n.updatedTo rate coefficient n.topology.depth).momentums =
        (n.topology.weightSpan 1).slice n.momentums := by
  have kept : ¬ (n.topology.HoldsSums 1 ∧ 1 < n.topology.depth) := by
    rintro ⟨sums, -⟩
    have gaussian := sums.2
    rw [Topology.isGaussianLayer_one, rbf] at gaussian
    cases gaussian
  obtain ⟨weights, momentums⟩ := slice_updatedTo sound rate coefficient n.topology.depth
    (show 1 < n.topology.depth from sound.accepted.two_le_depth)
  rw [Topology.updatedBlock, if_neg kept] at weights momentums
  exact ⟨weights, momentums⟩

theorem getElem?_updatedTo_gaussian (rbf : n.topology.rbf = true) {i : Nat}
    (first : n.topology.weightsBelow 1 ≤ i) (last : i < (n.topology.weightSpan 1).stop) :
    (n.updatedTo rate coefficient n.topology.depth).weights[i]? = n.weights[i]? ∧
      (n.updatedTo rate coefficient n.topology.depth).momentums[i]? = n.momentums[i]? := by
  obtain ⟨weights, momentums⟩ := slice_updatedTo_gaussian sound rate coefficient rbf
  obtain ⟨k, rfl⟩ := Nat.exists_eq_add_of_le first
  have inside : k < (n.topology.weightSpan 1).length := by
    simp only [Topology.weightSpan, Span.stop] at last ⊢
    omega
  constructor
  · have cell := congrArg (·[k]?) weights
    rwa [Span.getElem?_slice _ _ _ inside, Span.getElem?_slice _ _ _ inside] at cell
  · have cell := congrArg (·[k]?) momentums
    rwa [Span.getElem?_slice _ _ _ inside, Span.getElem?_slice _ _ _ inside] at cell

end Network

end PlaneNet
