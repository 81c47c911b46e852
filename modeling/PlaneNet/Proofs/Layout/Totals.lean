import PlaneNet.Proofs.Layout.Spans
import Mathlib.Algebra.BigOperators.Ring.Finset

set_option autoImplicit false

namespace PlaneNet

namespace Topology

/-- The numbers on the way to the spans of a layer: a row of weights, the weights and values of the layer, and the three
totals after it. -/
def reckoned (t : Topology) (layer : Nat) : List Nat :=
  [t.width (layer - 1) + 1, t.weightCount layer, t.width layer + 1, t.weightsBelow (layer + 1),
    t.valuesBelow (layer + 1), t.slotsBelow (layer + 1)]

variable {t : Topology}

theorem width_lt_valuesBelow {layer : Nat} (within : layer < t.depth) : t.width layer < t.valuesBelow t.depth := by
  have stop := valueSpan_stop_le within
  simp only [valueSpan, Span.stop] at stop
  omega

theorem reckoned_lt (fits : t.Fits) {layer : Nat} (within : layer < t.depth) :
    ∀ n ∈ t.reckoned layer, n < Word.limit := by
  obtain ⟨weights, values, slots⟩ := fits_below fits (show layer + 1 ≤ t.depth from within)
  have row : t.width (layer - 1) < t.valuesBelow t.depth :=
    width_lt_valuesBelow (Nat.lt_of_le_of_lt (Nat.sub_le _ _) within)
  have all : t.valuesBelow t.depth < Word.limit := fits.2.1
  simp only [extentBelow, weightsBelow_succ, valuesBelow_succ] at weights values slots
  simp only [reckoned, List.forall_mem_cons, List.not_mem_nil, false_imp_iff, implies_true, and_true, weightsBelow_succ,
    valuesBelow_succ]
  omega

theorem fits_iff_reckoned_lt (nonempty : 0 < t.depth) :
    t.Fits ↔ ∀ layer < t.depth, ∀ n ∈ t.reckoned layer, n < Word.limit := by
  refine ⟨fun fits layer within => reckoned_lt fits within, fun small => ?_⟩
  have last := small (t.depth - 1) (Nat.sub_lt nonempty Nat.one_pos)
  simp only [reckoned, Nat.sub_add_cancel nonempty, List.forall_mem_cons] at last
  exact ⟨last.2.2.2.1, last.2.2.2.2.1, last.2.2.2.2.2.1⟩

theorem slotsBelow_le_valuesBelow (t : Topology) (layer : Nat) : t.slotsBelow layer ≤ t.valuesBelow layer := by
  refine Finset.sum_le_sum fun i _ => ?_
  rw [slotCount]
  split <;> omega

-- No row is longer than all values together.
theorem weightsBelow_le_mul (accepted : t.Accepted) :
    t.weightsBelow t.depth ≤ t.valuesBelow t.depth * t.valuesBelow t.depth := by
  rw [weightsBelow, show t.valuesBelow t.depth * t.valuesBelow t.depth =
    ∑ i ∈ Finset.range t.depth, t.valuesBelow t.depth * (t.width i + 1) from Finset.mul_sum ..]
  refine Finset.sum_le_sum fun layer member => ?_
  have within := Finset.mem_range.mp member
  have row : t.rowLength layer ≤ t.valuesBelow t.depth := by
    rw [rowLength]
    split
    · have inputs : t.width 0 < t.valuesBelow t.depth := width_lt_valuesBelow (by omega)
      rw [accepted.input] at inputs
      exact inputs
    · exact width_lt_valuesBelow (Nat.lt_of_le_of_lt (Nat.sub_le _ _) within)
  rw [weightCount]
  split
  · exact Nat.zero_le _
  · exact Nat.mul_le_mul row (Nat.le_succ _)

theorem fits_of_few_values (accepted : t.Accepted) (few : t.valuesBelow t.depth < 2 ^ 32) : t.Fits := by
  have values : t.valuesBelow t.depth < Word.limit := Nat.lt_trans few (by decide)
  have square : t.valuesBelow t.depth * t.valuesBelow t.depth < Word.limit :=
    calc t.valuesBelow t.depth * t.valuesBelow t.depth
      _ < 2 ^ 32 * 2 ^ 32 := Nat.mul_lt_mul'' few few
      _ = Word.limit := rfl
  exact ⟨Nat.lt_of_le_of_lt (weightsBelow_le_mul accepted) square, values,
    Nat.lt_of_le_of_lt (t.slotsBelow_le_valuesBelow t.depth) values⟩

end Topology

namespace Layout

theorem layout_is_exact_or_refused {sizes : List Nat} {rbf : Bool} {t : Topology}
    (accepted : Topology.ofSizes sizes rbf = .ok t) :
    (t.Fits → ofTopology t = .ok t.layout) ∧ (¬ t.Fits → ofTopology t = .error Word.overflow) ∧
      (t.Fits ↔ ∀ layer < t.depth, ∀ n ∈ t.reckoned layer, n < Word.limit) ∧
      (t.valuesBelow t.depth < 2 ^ 32 → t.Fits) := by
  obtain ⟨-, shape⟩ := (Topology.ofSizes_eq_ok_iff _ _ _).mp accepted
  refine ⟨ofTopology_of_fits shape, fun tooLarge => ?_, Topology.fits_iff_reckoned_lt ?_, Topology.fits_of_few_values shape⟩
  · rw [ofTopology_eq t shape.sizes_ne_nil, if_neg tooLarge]
  · exact Nat.lt_of_lt_of_le Nat.two_pos shape.two_le_depth

theorem layout_is_exact_or_refused_of_wide_net :
    Topology.ofSizes [2, 2 ^ 31, 2 ^ 31, 1] true = .ok ⟨[2, 2 ^ 31, 2 ^ 31, 1], true⟩ ∧
      ofTopology ⟨[2, 2 ^ 31, 2 ^ 31, 1], true⟩ = .ok (Topology.layout ⟨[2, 2 ^ 31, 2 ^ 31, 1], true⟩) ∧
      ∀ layer < 4, ∀ n ∈ Topology.reckoned ⟨[2, 2 ^ 31, 2 ^ 31, 1], true⟩ layer, n < Word.limit := by
  have accepted : Topology.ofSizes [2, 2 ^ 31, 2 ^ 31, 1] true = .ok ⟨[2, 2 ^ 31, 2 ^ 31, 1], true⟩ := rfl
  obtain ⟨placed, -, exact', -⟩ := layout_is_exact_or_refused accepted
  have fits : Topology.Fits ⟨[2, 2 ^ 31, 2 ^ 31, 1], true⟩ := by decide
  exact ⟨accepted, placed fits, exact'.mp fits⟩

-- The weights between two layers of this width do not fit, although every width does.
theorem wide_layers_overflow :
    Topology.ofSizes [2, 2 ^ 32, 2 ^ 32, 1] false = .ok ⟨[2, 2 ^ 32, 2 ^ 32, 1], false⟩ ∧
      (∀ width ∈ [2, 2 ^ 32, 2 ^ 32, 1], width < Word.limit) ∧
      Word.mul (2 ^ 32 + 1) (2 ^ 32) = .error Word.overflow ∧
      ofTopology ⟨[2, 2 ^ 32, 2 ^ 32, 1], false⟩ = .error Word.overflow :=
  ⟨rfl, by decide, rfl, rfl⟩

end Layout

end PlaneNet
