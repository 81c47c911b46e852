import PlaneNet.Proofs.Network.Reachable
import PlaneNet.Proofs.Network.Training

set_option autoImplicit false

namespace PlaneNet.Network

variable {W R : Type} [Scalar R] [Exponential R] [Storage W R]

/-- What an update of `n` leaves. A step reads the network from before the update, however many were taken already. -/
structure StepsConnections (n : Network W R) (rate coefficient : R) (after : Network W R) : Prop where
  stepped : ∀ layer unit input, n.topology.Wired layer unit input → ∃ inputs sums errors i v z d w m m',
    n.layerValues (layer - 1) = .ok inputs ∧ n.layerSums layer = .ok sums ∧ n.layerErrors layer = .ok errors ∧
    n.layout.weightIndex layer unit input = .ok i ∧
    inputs[input]? = some v ∧ sums[unit]? = some z ∧ errors[unit]? = some d ∧
    n.weights[i]? = some w ∧ n.momentums[i]? = some m ∧
    m' = n.activation.derive z * d * rate * v + coefficient * m ∧
    after.momentums[i]? = some m' ∧ after.weights[i]? = some (narrow (widen w + m'))
  once : ∀ layer unit input layer' unit' input' i, n.topology.Wired layer unit input →
    n.topology.Wired layer' unit' input' → n.layout.weightIndex layer unit input = .ok i →
    n.layout.weightIndex layer' unit' input' = .ok i → layer' = layer ∧ unit' = unit ∧ input' = input
  others : ∀ i, (∀ layer unit input, n.topology.Wired layer unit input →
      n.layout.weightIndex layer unit input ≠ .ok i) →
    after.weights[i]? = n.weights[i]? ∧ after.momentums[i]? = n.momentums[i]?
  sizes : after.weights.length = n.weights.length ∧ after.momentums.length = n.momentums.length
  unchanged : after = { n with weights := after.weights, momentums := after.momentums }

section Step

variable {n : Network W R} (sound : n.Sound) (rate coefficient : R)

include sound

theorem sizes_updatedTo :
    (n.updatedTo rate coefficient n.topology.depth).weights.length = n.weights.length ∧
      (n.updatedTo rate coefficient n.topology.depth).momentums.length = n.momentums.length := by
  have kept := update_sound rate coefficient sound (update_eq_updatedTo sound rate coefficient)
  exact ⟨kept.weights.trans sound.weights.symm, kept.momentums.trans sound.momentums.symm⟩

theorem getElem?_updatedTo_other {i : Nat}
    (other : ∀ layer unit input, n.topology.Wired layer unit input → n.topology.place layer unit input ≠ i) :
    (n.updatedTo rate coefficient n.topology.depth).weights[i]? = n.weights[i]? ∧
      (n.updatedTo rate coefficient n.topology.depth).momentums[i]? = n.momentums[i]? := by
  rcases Nat.lt_or_ge i (n.topology.weightsBelow n.topology.depth) with inside | outside
  · rcases Layout.placed_or_gaussian sound.accepted inside with ⟨layer, unit, input, wired, here⟩ | ⟨rbf, first⟩
    · exact absurd here (other layer unit input wired)
    · exact getElem?_updatedTo_gaussian sound rate coefficient rbf (Nat.zero_le i) first
  · obtain ⟨weights, momentums⟩ := sizes_updatedTo sound rate coefficient
    rw [← sound.weights] at outside
    have outside' := sound.weights.trans sound.momentums.symm ▸ outside
    rw [List.getElem?_eq_none outside, List.getElem?_eq_none outside', List.getElem?_eq_none (weights ▸ outside),
      List.getElem?_eq_none (momentums ▸ outside')]
    exact ⟨rfl, rfl⟩

theorem updatedTo_steps : n.StepsConnections rate coefficient (n.updatedTo rate coefficient n.topology.depth) := by
  constructor
  case stepped =>
    intro layer unit input wired
    obtain ⟨v, z, d, w, m, value, sum, error, weight, momentum, newMomentum, newWeight⟩ :=
      connection_updatedTo sound rate coefficient wired.sums wired.within wired.inLayer wired.input_lt
    have below : layer - 1 < n.topology.depth := Nat.lt_of_le_of_lt (Nat.sub_le _ _) wired.within
    exact ⟨_, _, _, _, v, z, d, w, m, _, sound.layerValues_eq below, sound.layerSums_eq wired.sums wired.within,
      sound.layerErrors_eq wired.sums wired.within, sound.weightIndex_eq wired, value, sum, error, weight,
      momentum, rfl, newMomentum, newWeight⟩
  case once =>
    intro layer unit input layer' unit' input' i wired wired' index index'
    rw [sound.weightIndex_eq wired, Except.ok.injEq] at index
    rw [sound.weightIndex_eq wired', Except.ok.injEq] at index'
    exact wired.place_injective wired' (index'.trans index.symm)
  case others =>
    intro i other
    apply getElem?_updatedTo_other sound rate coefficient
    rintro layer unit input wired rfl
    exact other layer unit input wired (sound.weightIndex_eq wired)
  case sizes => exact sizes_updatedTo sound rate coefficient
  case unchanged => rfl

end Step

theorem update_steps_connections {n : Network W R} (reachable : n.Reachable) (rate coefficient : R) :
    ∃ after, n.update rate coefficient = .ok after ∧ n.StepsConnections rate coefficient after :=
  ⟨_, update_eq_updatedTo reachable.sound rate coefficient, updatedTo_steps reachable.sound rate coefficient⟩

theorem update_steps_connections_of_gaussian_net :
    ∃ n : Network Float32 Float, ofWeights ⟨[2, 2, 3, 1], true⟩ .tanh (List.replicate 19 0.5) = .ok n ∧
      n.Reachable ∧ ∃ after, n.update 0.1 0.9 = .ok after ∧ n.StepsConnections 0.1 0.9 after := by
  have accepted : Topology.ofSizes [2, 2, 3, 1] true = .ok ⟨[2, 2, 3, 1], true⟩ := rfl
  have enough : (List.replicate 19 0.5 : List Float32).length =
      Topology.weightsBelow ⟨[2, 2, 3, 1], true⟩ 4 := rfl
  obtain ⟨n, built, reachable, -⟩ := exists_ofWeights accepted (by decide) enough .tanh
  exact ⟨n, built, reachable, update_steps_connections reachable 0.1 0.9⟩

end PlaneNet.Network
