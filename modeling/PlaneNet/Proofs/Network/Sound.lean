import PlaneNet.Network.Pass
import PlaneNet.Proofs.Layout.Spans

set_option autoImplicit false

namespace PlaneNet

namespace Network

variable {W R : Type}

def layerSums (n : Network W R) (layer : Nat) : Except Error (List R) := do
  Buffer.read (← n.layout.trained layer) n.preActivations

structure Sound [Scalar R] (n : Network W R) : Prop where
  accepted : n.topology.Accepted
  fits : n.topology.Fits
  layout : n.layout = n.topology.layout
  weights : n.weights.length = n.topology.weightsBelow n.topology.depth
  momentums : n.momentums.length = n.topology.weightsBelow n.topology.depth
  values : n.values.length = n.topology.valuesBelow n.topology.depth
  preActivations : n.preActivations.length = n.topology.slotsBelow n.topology.depth
  errors : n.errors.length = n.topology.slotsBelow n.topology.depth
  bias : ∀ layer < n.topology.depth, n.values[n.topology.valuesBelow layer]? = some Scalar.one
  rested : n.topology.rbf = true → ∀ i < n.topology.weightCount 1, n.momentums[i]? = some Scalar.zero

namespace Sound

variable [Scalar R] {n : Network W R} (sound : n.Sound)

include sound

theorem layer_eq {layer : Nat} (within : layer < n.topology.depth) :
    n.layout.layer layer = .ok (n.topology.spans layer) := by
  rw [sound.layout]
  exact Layout.layer_eq within

theorem trained_eq {layer : Nat} (sums : n.topology.HoldsSums layer) (within : layer < n.topology.depth) :
    n.layout.trained layer = .ok (n.topology.slotSpan layer) := by
  rw [sound.layout]
  exact Layout.trained_eq sums within

theorem layerValues_eq {layer : Nat} (within : layer < n.topology.depth) :
    n.layerValues layer = .ok ((n.topology.valueSpan layer).slice n.values) := by
  have inside := Topology.valueSpan_stop_le within
  rw [← sound.values] at inside
  rw [layerValues, sound.layer_eq within, ok_bind]
  exact Buffer.read_eq_ok _ _ inside

theorem layerSums_eq {layer : Nat} (sums : n.topology.HoldsSums layer) (within : layer < n.topology.depth) :
    n.layerSums layer = .ok ((n.topology.slotSpan layer).slice n.preActivations) := by
  have inside := Topology.slotSpan_stop_le sums within
  rw [← sound.preActivations] at inside
  rw [layerSums, sound.trained_eq sums within, ok_bind]
  exact Buffer.read_eq_ok _ _ inside

theorem output_eq :
    n.output = Buffer.cell (n.topology.valuesBelow n.topology.outputLayer + 1) n.values := by
  rw [output, sound.layer_eq sound.accepted.outputLayer_lt, ok_bind]
  rfl

theorem slotSpan_stop_le_errors {layer : Nat} (sums : n.topology.HoldsSums layer)
    (within : layer < n.topology.depth) : (n.topology.slotSpan layer).stop ≤ n.errors.length :=
  sound.errors ▸ Topology.slotSpan_stop_le sums within

theorem with_errors {es : List R} (length : es.length = n.errors.length) : { n with errors := es }.Sound :=
  { sound with errors := length.trans sound.errors }

theorem output_eq_ok : ∃ out, n.output = .ok out := by
  have within := sound.accepted.outputLayer_lt
  have stop := Topology.valueSpan_stop_le within
  rw [← sound.values] at stop
  simp only [Topology.valueSpan, Span.stop, sound.accepted.output] at stop
  have inside : n.topology.valuesBelow n.topology.outputLayer + 1 < n.values.length := by omega
  refine ⟨n.values[n.topology.valuesBelow n.topology.outputLayer + 1], ?_⟩
  rw [sound.output_eq, Buffer.cell_eq_ok_iff, List.getElem?_eq_getElem inside]

theorem read_weights_eq_ok {layer : Nat} (within : layer < n.topology.depth) :
    Buffer.read (n.topology.weightSpan layer) n.weights =
      .ok ((n.topology.weightSpan layer).slice n.weights) := by
  apply Buffer.read_eq_ok
  rw [sound.weights]
  exact Topology.weightSpan_stop_le within

theorem take_one_drop {layer : Nat} (within : layer < n.topology.depth) :
    (n.values.drop (n.topology.valuesBelow layer)).take 1 = [Scalar.one] := by
  rw [List.take_one, List.head?_drop, sound.bias layer within]
  rfl

theorem write_units_eq_ok {layer : Nat} (within : layer < n.topology.depth) {new : List R}
    (full : new.length = n.topology.width layer) :
    Buffer.write ⟨1, n.topology.width layer⟩ new (n.values.drop (n.topology.valuesBelow layer)) =
      .ok (Scalar.one :: new ++ n.values.drop (n.topology.valuesBelow (layer + 1))) := by
  have stop := Topology.valueSpan_stop_le within
  rw [← sound.values] at stop
  simp only [Topology.valueSpan, Span.stop] at stop
  have inside : (Span.mk 1 (n.topology.width layer)).stop ≤
      (n.values.drop (n.topology.valuesBelow layer)).length := by
    simp only [List.length_drop, Span.stop]
    omega
  rw [Buffer.write_eq_ok _ _ _ inside full, Span.splice, Span.stop, List.drop_drop,
    Topology.valuesBelow_succ, Nat.add_comm 1, sound.take_one_drop within]
  rfl

end Sound

section Construction

variable [Scalar R] {t : Topology} {a : Activation} {weights : List W} {n : Network W R}

open Scalar (zero one)

theorem fillBias_eq_ok (t : Topology) :
    ∃ values : List R,
      fillBias t.layout.layers (List.replicate (t.valuesBelow t.depth) zero) = .ok values ∧
      values.length = t.valuesBelow t.depth ∧
      ∀ layer < t.depth, values[t.valuesBelow layer]? = some one := by
  have step (layer : Nat) (values : List R) (_ : 0 ≤ layer) (within : layer < 0 + t.depth)
      (before : values.length = t.valuesBelow t.depth ∧
        ∀ i < layer, values[t.valuesBelow i]? = some one) :
      ∃ next, Buffer.write ⟨t.valuesBelow layer, 1⟩ [one] values = .ok next ∧
        next.length = t.valuesBelow t.depth ∧ ∀ i < layer + 1, next[t.valuesBelow i]? = some one := by
    obtain ⟨length, set⟩ := before
    have inside : t.valuesBelow layer < values.length := by
      have := Topology.valueSpan_stop_le (show layer < t.depth by omega)
      simp only [Topology.valueSpan, Span.stop] at this
      omega
    refine ⟨_, Buffer.write_cell_eq_ok one inside, by rw [List.length_set, length], ?_⟩
    intro i below
    rw [List.getElem?_set]
    split
    next same => rfl
    next other =>
      rcases Nat.lt_succ_iff_lt_or_eq.mp below with earlier | rfl
      · exact set i earlier
      · exact absurd rfl other
  obtain ⟨values, run, final⟩ := foldlM_range' 0 t.depth step
    (List.replicate (t.valuesBelow t.depth) zero) ⟨by simp, by simp⟩
  rw [Nat.zero_add] at final
  refine ⟨values, ?_, final⟩
  rw [fillBias, Topology.layout, List.foldlM_map, List.range_eq_range']
  exact run

theorem ofLayout_sound (accepted : t.Accepted) (fits : t.Fits)
    (enough : weights.length = t.weightsBelow t.depth) :
    ∃ n : Network W R, ofLayout t t.layout a weights = .ok n ∧ n.Sound ∧
      n.topology = t ∧ n.activation = a ∧ n.weights = weights := by
  obtain ⟨values, filled, length, bias⟩ := fillBias_eq_ok (R := R) t
  let n : Network W R :=
    { topology := t, layout := t.layout, activation := a, weights, values
      momentums := List.replicate (t.weightsBelow t.depth) zero
      preActivations := List.replicate (t.slotsBelow t.depth) zero
      errors := List.replicate (t.slotsBelow t.depth) zero }
  have built : ofLayout t t.layout a weights = .ok n := by
    rw [ofLayout, show t.layout.extent.values = t.valuesBelow t.depth from rfl, filled]
    rfl
  have rested (i : Nat) (inside : i < t.weightCount 1) : i < t.weightsBelow t.depth := by
    have within : 1 < t.depth := accepted.two_le_depth
    have stop := Topology.weightSpan_stop_le within
    simp only [Topology.weightSpan, Span.stop] at stop
    omega
  have sound : n.Sound :=
    { accepted, fits, layout := rfl, weights := enough, momentums := List.length_replicate
      values := length, preActivations := List.length_replicate, errors := List.length_replicate, bias
      rested := fun _ i inside => by simp [n, rested i inside] }
  exact ⟨n, built, sound, rfl, rfl, rfl⟩

theorem ofWeights_eq_ok (accepted : t.Accepted) (fits : t.Fits)
    (enough : weights.length = t.weightsBelow t.depth) :
    ∃ n : Network W R, ofWeights t a weights = .ok n ∧ n.Sound ∧
      n.topology = t ∧ n.activation = a ∧ n.weights = weights := by
  obtain ⟨n, built, facts⟩ := ofLayout_sound (R := R) (a := a) accepted fits enough
  have placed := Layout.ofTopology_of_fits accepted fits
  refine ⟨n, ?_, facts⟩
  have same : ¬ weights.length ≠ t.layout.extent.weights := not_not.mpr enough
  rw [ofWeights, placed, ok_bind, if_neg same, built]

theorem ofWeights_sound (accepted : t.Accepted) (built : ofWeights t a weights = .ok n) :
    n.Sound ∧ n.topology = t ∧ n.activation = a ∧ n.weights = weights := by
  obtain ⟨l, placed, rest⟩ := (bind_eq_ok_iff _ _ _).mp built
  obtain ⟨-, fits, rfl⟩ := (Layout.ofTopology_eq_ok_iff t l).mp placed
  split at rest
  next => cases rest
  next same =>
    obtain ⟨found, again, facts⟩ := ofWeights_eq_ok (R := R) (a := a) accepted fits (not_not.mp same)
    cases again.symm.trans built
    exact facts

theorem momentums_of_ofLayout {l : Layout} (built : ofLayout t l a weights = .ok n) :
    ∀ m ∈ n.momentums, m = zero := by
  obtain ⟨values, -, done⟩ := (bind_eq_ok_iff _ _ _).mp built
  cases done
  exact fun m member => List.eq_of_mem_replicate member

theorem ofStream_eq_ok {G : Type} [Random.Source G] [Storage W R] (accepted : t.Accepted) (fits : t.Fits) (a : Activation)
    (words : G) :
    ∃ n : Network W R, ofStream t a words = .ok (n, (Random.Source.take t.layout.extent.weights words).2) ∧ n.Sound ∧
      n.topology = t ∧ n.activation = a ∧ ∀ m ∈ n.momentums, m = zero := by
  have placed := Layout.ofTopology_of_fits accepted fits
  have enough : ((Random.Source.take t.layout.extent.weights words).1.map (Storage.ofRandomWord (W := W))).length =
      t.weightsBelow t.depth := by
    rw [List.length_map, Random.Source.length_take]
    rfl
  obtain ⟨n, built, sound, topology, activation, -⟩ := ofLayout_sound (R := R) (a := a) accepted fits enough
  refine ⟨n, ?_, sound, topology, activation, momentums_of_ofLayout built⟩
  simp only [ofStream, placed, ok_bind, built, pure_eq_ok]

theorem ofStream_sound {G : Type} [Random.Source G] [Storage W R] {words after : G} (accepted : t.Accepted)
    (built : ofStream t a words = .ok (n, after)) :
    n.Sound ∧ n.topology = t ∧ n.activation = a := by
  obtain ⟨l, placed, -⟩ := (bind_eq_ok_iff _ _ _).mp built
  obtain ⟨-, fits, -⟩ := (Layout.ofTopology_eq_ok_iff t l).mp placed
  obtain ⟨found, again, sound, topology, activation, -⟩ := ofStream_eq_ok (W := W) (R := R) accepted fits a words
  cases again.symm.trans built
  exact ⟨sound, topology, activation⟩

end Construction

section Writing

variable [Scalar R] {n after : Network W R}

theorem setWeight_sound {i : Nat} {w : W} (sound : n.Sound) (run : n.setWeight i w = .ok after) :
    after.Sound := by
  obtain ⟨weights, written, rest⟩ := (bind_eq_ok_iff _ _ _).mp run
  cases rest
  have inside : i < n.weights.length := by
    rw [Buffer.write] at written
    split at written
    next fits => exact fits.1
    next => cases written
  rw [Buffer.write_cell_eq_ok w inside, Except.ok.injEq] at written
  subst written
  exact { sound with weights := by rw [List.length_set, sound.weights] }

-- Accepted clusters are as many as the layer has units, so they fill its weights.
theorem clusterFault?_eq_none [Storage W R] {clusters : List (Cluster R)}
    (suited : n.clusterFault? clusters = none) :
    n.topology.rbf = true ∧ clusters.length = n.topology.width 1 ∧
      (clusters.flatMap (clusterWeights (W := W))).length = (n.topology.weightSpan 1).length := by
  obtain ⟨rbf, count⟩ : n.topology.rbf = true ∧ clusters.length = n.topology.width 1 := by
    rw [clusterFault?, Topology.gaussianUnits] at suited
    by_cases rbf : n.topology.rbf = true
    · simp only [if_pos rbf] at suited
      split at suited
      next => cases suited
      next same => exact ⟨rbf, not_not.mp same⟩
    · simp only [if_neg rbf, reduceCtorEq] at suited
  refine ⟨rbf, count, ?_⟩
  rw [Topology.weightSpan, Topology.weightCount_of_pos Nat.one_pos,
    Topology.rowLength_of_gaussian (Topology.isGaussianLayer_one.trans rbf), gaussianWeights, ← count]
  simp [List.length_flatMap, clusterWeights, Nat.mul_comm]

theorem clusterFault?_of_count {clusters : List (Cluster R)} {k : Nat}
    (units : n.topology.gaussianUnits = some k) (count : clusters.length = k) :
    n.clusterFault? clusters =
      (clusters.findIdx? fun c => !Scalar.lt Scalar.zero c.variance).map fun i => .invalidData (.variance i) := by
  simp only [clusterFault?, units, count, ne_eq, not_true_eq_false, if_false]
  cases clusters.findIdx? fun c => !Scalar.lt Scalar.zero c.variance with
  | none => rfl
  | some i => rfl

theorem clusterFault?_kind {clusters : List (Cluster R)} {e : Error}
    (fault : n.clusterFault? clusters = some e) :
    (∃ cause, e = .invalidConfig cause) ∨ ∃ cause, e = .invalidData cause := by
  rw [clusterFault?] at fault
  grind

theorem installClusters_eq_ok [Storage W R] (sound : n.Sound) {clusters : List (Cluster R)}
    (suited : n.clusterFault? clusters = none) :
    n.installClusters clusters = .ok
      { n with
          weights := (n.topology.weightSpan 1).splice (clusters.flatMap clusterWeights) n.weights
          momentums := n.momentums.map fun _ => Scalar.zero } := by
  have within : 1 < n.topology.depth := sound.accepted.two_le_depth
  have inside := Topology.weightSpan_stop_le within
  rw [← sound.weights] at inside
  rw [installClusters, suited]
  simp only [sound.layer_eq within, ok_bind]
  rw [show (n.topology.spans 1).weights = n.topology.weightSpan 1 from rfl,
    Buffer.write_eq_ok _ _ _ inside (clusterFault?_eq_none suited).2.2]
  rfl

theorem installClusters_sound [Storage W R] (sound : n.Sound) {clusters : List (Cluster R)}
    (run : n.installClusters clusters = .ok after) : after.Sound := by
  cases suited : n.clusterFault? clusters with
  | some e =>
    rw [installClusters, suited] at run
    cases run
  | none =>
    rw [installClusters_eq_ok sound suited, Except.ok.injEq] at run
    subst run
    have within : 1 < n.topology.depth := sound.accepted.two_le_depth
    have inside := Topology.weightSpan_stop_le within
    rw [← sound.weights] at inside
    exact
      { sound with
        weights := by rw [Span.length_splice _ _ _ inside (clusterFault?_eq_none suited).2.2, sound.weights]
        momentums := by rw [List.length_map, sound.momentums]
        rested := fun rbf i below => by
          rw [List.getElem?_map, sound.rested rbf i below]
          rfl }

end Writing

end Network

end PlaneNet
