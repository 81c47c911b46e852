import PlaneNet.Proofs.Binary.Narrowing
import PlaneNet.Proofs.Network.Installing

set_option autoImplicit false

namespace PlaneNet.Network

open Binary (halfLeast)

theorem suits_of_installClusters {n after : Network Float32 Float} {clusters : List (Cluster Float)}
    (run : n.installClusters clusters = .ok after) : n.Suits clusters := by
  by_contra unsuited
  obtain ⟨e, refused, -⟩ := refused_of_not_suits unsuited
  cases run.symm.trans refused

/-- Documented is that a Gaussian never collapses; this holds of variances above half of the least positive weight. -/
structure StoresVariance (variance : Float) (w : Float32) : Prop where
  positive : 0 < w ↔ halfLeast < variance
  divides : halfLeast < variance → 0 < nat 2 * widen w
  vanishes : ¬ halfLeast < variance → w = 0 ∧ nat 2 * widen w = 0

theorem storesVariance_of_pos {variance : Float} (positive : 0 < variance) :
    StoresVariance variance (narrow variance) where
  positive := Binary.narrow_pos_iff positive
  divides large := Binary.two_mul_widen_pos ((Binary.narrow_pos_iff positive).mpr large)
  vanishes small := by
    have zero : (narrow variance : Float32) = 0 := Binary.narrow_eq_zero positive small
    rw [zero]
    exact ⟨rfl, by decide +kernel⟩

theorem stored_variance_is_positive_above_half_least {n after : Network Float32 Float} (reachable : n.Reachable)
    {clusters : List (Cluster Float)} (run : n.installClusters clusters = .ok after) {unit : Nat} {c : Cluster Float}
    (found : clusters[unit]? = some c) :
    0 < c.variance ∧ ∃ w, after.weights[3 * unit + 2]? = some w ∧ StoresVariance c.variance w := by
  have suits := suits_of_installClusters run
  have positive : 0 < c.variance := decide_eq_true_iff.mp (suits.positive c (List.mem_of_getElem? found))
  obtain ⟨spans, last, again, installed⟩ := installed_of_suits reachable.sound suits
  cases run.symm.trans again
  have within : 1 < n.topology.depth := reachable.sound.accepted.two_le_depth
  cases installed.layer.symm.trans (reachable.sound.layer_eq within)
  have placed := (installed.placed unit c found).2.2
  rw [show (n.topology.spans 1).weights.offset = 0 from rfl, Nat.zero_add] at placed
  exact ⟨positive, _, placed, storesVariance_of_pos positive⟩

-- The second variance is positive and stored as zero.
theorem stored_variance_is_positive_above_half_least_of_two_units :
    ∃ n after : Network Float32 Float, ofWeights ⟨[2, 2, 1], true⟩ .linear (List.replicate 9 0.5) = .ok n ∧
      n.Reachable ∧ n.installClusters [⟨1, 2, 0.5⟩, ⟨0, -1, 1e-300⟩] = .ok after ∧
      (∃ w : Float32, after.weights[2]? = some w ∧ 0 < w ∧ 0 < nat 2 * widen w) ∧
      ∃ w : Float32, after.weights[5]? = some w ∧ w = 0 ∧ nat 2 * widen w = 0 := by
  have accepted : Topology.ofSizes [2, 2, 1] true = .ok ⟨[2, 2, 1], true⟩ := rfl
  have enough : (List.replicate 9 0.5 : List Float32).length = Topology.weightsBelow ⟨[2, 2, 1], true⟩ 3 := rfl
  obtain ⟨n, built, reachable, topology, -⟩ := exists_ofWeights (R := Float) accepted (by decide) enough .linear
  have suits : n.Suits [⟨1, 2, 0.5⟩, ⟨0, -1, 1e-300⟩] := by
    refine ⟨by rw [topology], by rw [topology]; rfl, ?_⟩
    simp only [List.forall_mem_cons, List.not_mem_nil, false_imp_iff, implies_true, and_true]
    decide +kernel
  obtain ⟨-, after, run, -⟩ := installed_of_suits reachable.sound suits
  have large : halfLeast < 0.5 := by decide +kernel
  have tiny : ¬ halfLeast < 1e-300 := by decide +kernel
  have first : ([⟨1, 2, 0.5⟩, ⟨0, -1, 1e-300⟩] : List (Cluster Float))[0]? = some ⟨1, 2, 0.5⟩ := rfl
  have second : ([⟨1, 2, 0.5⟩, ⟨0, -1, 1e-300⟩] : List (Cluster Float))[1]? = some ⟨0, -1, 1e-300⟩ := rfl
  obtain ⟨-, w, placed, stores⟩ := stored_variance_is_positive_above_half_least reachable run first
  obtain ⟨-, w', placed', stores'⟩ := stored_variance_is_positive_above_half_least reachable run second
  exact ⟨n, after, built, reachable, run, ⟨w, placed, stores.positive.mpr large, stores.divides large⟩,
    w', placed', stores'.vanishes tiny⟩

-- At the center of the unit the exponent is then zero divided by zero.
theorem tiny_variance_is_stored_as_zero :
    ∃ n after : Network Float32 Float, n.Reachable ∧ n.installClusters [⟨0, 0, 1e-300⟩] = .ok after ∧
      (0 : Float) < 1e-300 ∧ after.weights[2]? = some 0 ∧ ¬ (0 : Float32) < 0 ∧ nat 2 * widen (0 : Float32) = 0 ∧
      (-((0 : Float) * 0 + 0 * 0) / (nat 2 * widen (0 : Float32))).isNaN := by
  have accepted : Topology.ofSizes [2, 1, 1] true = .ok ⟨[2, 1, 1], true⟩ := rfl
  have run : (do
      let n : Network Float32 Float ← ofWeights ⟨[2, 1, 1], true⟩ .linear [0, 0, 1, 0, 1]
      let after ← n.installClusters [⟨0, 0, 1e-300⟩]
      return after.weights) = Except.ok [0, 0, 0, 0, 1] := by
    decide +kernel
  obtain ⟨n, built, run⟩ := (bind_eq_ok_iff _ _ _).mp run
  obtain ⟨after, installed, weights⟩ := (bind_eq_ok_iff _ _ _).mp run
  refine ⟨n, after, .ofWeights accepted built, installed, by decide +kernel, ?_, by decide +kernel, by decide +kernel,
    by decide +kernel⟩
  rw [Except.ok.inj weights]
  rfl

end PlaneNet.Network
