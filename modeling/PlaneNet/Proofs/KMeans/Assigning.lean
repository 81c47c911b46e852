import PlaneNet.Proofs.Binary.Ordering
import PlaneNet.Proofs.KMeans.Nearest

set_option autoImplicit false

namespace PlaneNet

-- Infinite distances count; what is not a number compares with nothing and has no rank.
theorem ranked_double :
    Ranked (fun x : Float => x.isNaN = false) Binary.rank (Binary.rank Binary.infinity) where
  lt_iff number number' := decide_eq_true_iff.trans (Binary.lt_iff_rank number number')
  le_iff number number' := decide_eq_true_iff.trans (Binary.le_iff_rank number number')
  belowInfinity_iff number := decide_eq_true_iff.trans (Binary.lt_iff_rank number Binary.infinity_isNaN)
  le_top := Binary.rank_le_infinity

section Written

variable {W R : Type} [Scalar R] [Storage W R]

theorem take_reassign (clusters : List (Cluster R)) (samples : List (Sample W)) (held : List Nat) :
    (reassign clusters samples held).1.take samples.length = (assign samples clusters).take held.length := by
  induction samples generalizing held with
  | nil => simp [assign]
  | cons s rest ih =>
    cases held with
    | nil => rfl
    | cons i held => exact congrArg (s.nearest clusters :: ·) (ih held)

end Written

theorem nearest_is_first_minimum :
    (∀ {R : Type} [Scalar R] (clusters : List (Cluster R)) (x y : R), clusters ≠ [] →
      nearest clusters x y < clusters.length) ∧
    (∀ (clusters : List (Cluster Float)) (x y : Float), clusters ≠ [] →
      (∀ c ∈ clusters, (c.distanceSq x y).isNaN = false) →
        ∃ c, FirstNearest clusters x y (nearest clusters x y) c) ∧
    ∀ {W R : Type} [Scalar R] [Storage W R] (clusters : List (Cluster R)) (samples : List (Sample W)) (held : List Nat),
      clusters ≠ [] →
        (∀ i ∈ (reassign clusters samples held).1.take samples.length, i < clusters.length) ∧
        (held.length = samples.length →
          ((reassign clusters samples held).2 = 0 ↔ held = assign samples clusters) ∧
          (reassign clusters samples held).1 = assign samples clusters) := by
  refine ⟨?_, ?_, ?_⟩
  · intro R _ clusters x y nonempty
    exact nearest_lt x y (List.length_pos_iff.mpr nonempty)
  · intro clusters x y nonempty numbers
    exact ranked_double.nearest_firstNearest x y nonempty numbers
  · intro W R _ _ clusters samples held nonempty
    refine ⟨fun i member => ?_, fun length => ?_⟩
    · rw [take_reassign] at member
      exact assign_lt (List.length_pos_iff.mpr nonempty) i (List.mem_of_mem_take member)
    · exact ⟨reassign_snd_eq_zero_iff clusters length, reassign_fst clusters length⟩

theorem nearest_is_first_minimum_of_tie :
    ∃ (clusters : List (Cluster Float)) (s : Sample Float32),
      clusters = [⟨1e200, 0, 0⟩, ⟨-1, 0, 0⟩, ⟨1, 0, 0⟩] ∧ s = ⟨0, 0, .positive⟩ ∧ clusters ≠ [] ∧
      (∀ c ∈ clusters, (c.distanceSq 0 0).isNaN = false) ∧ nearest clusters 0 0 = 1 ∧
      nearest clusters 0 0 < clusters.length ∧ (∃ c, FirstNearest clusters 0 0 (nearest clusters 0 0) c) ∧
      (∀ i ∈ (reassign clusters [s] [3]).1, i < 3) ∧
      ((reassign clusters [s] [3]).2 = 0 ↔ [3] = assign [s] clusters) ∧
      (reassign clusters [s] [3]).1 = assign [s] clusters := by
  let clusters : List (Cluster Float) := [⟨1e200, 0, 0⟩, ⟨-1, 0, 0⟩, ⟨1, 0, 0⟩]
  let s : Sample Float32 := ⟨0, 0, .positive⟩
  obtain ⟨inside, first, writes⟩ := nearest_is_first_minimum
  have nonempty : clusters ≠ [] := List.cons_ne_nil _ _
  have numbers : ∀ c ∈ clusters, (c.distanceSq 0 0).isNaN = false := by decide +kernel
  have second : nearest clusters 0 0 = 1 := by decide +kernel
  obtain ⟨bounded, settled⟩ := writes clusters [s] [3] nonempty
  obtain ⟨still, same⟩ := settled rfl
  have near := first clusters 0 0 nonempty numbers
  exact ⟨clusters, s, rfl, rfl, nonempty, numbers, second, inside clusters 0 0 nonempty, near, bounded, still, same⟩

end PlaneNet
