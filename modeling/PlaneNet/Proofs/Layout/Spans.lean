import Mathlib.Algebra.BigOperators.Group.Finset.Basic
import Mathlib.Algebra.Order.BigOperators.Group.Finset
import PlaneNet.Layout
import PlaneNet.Proofs.Buffer
import PlaneNet.Proofs.Checked
import PlaneNet.Proofs.Topology

set_option autoImplicit false

namespace PlaneNet

def Extent.Fits (e : Extent) : Prop :=
  e.weights < Word.limit ∧ e.values < Word.limit ∧ e.slots < Word.limit

instance (e : Extent) : Decidable e.Fits :=
  inferInstanceAs (Decidable (e.weights < Word.limit ∧ e.values < Word.limit ∧ e.slots < Word.limit))

namespace Topology

def rowLength (t : Topology) (layer : Nat) : Nat :=
  if t.isGaussianLayer layer then gaussianWeights else t.width (layer - 1) + 1

def weightCount (t : Topology) (layer : Nat) : Nat :=
  if layer = 0 then 0 else t.rowLength layer * t.width layer

def slotCount (t : Topology) (layer : Nat) : Nat :=
  if t.HoldsSums layer then t.width layer else 0

def weightsBelow (t : Topology) (layer : Nat) : Nat := ∑ i ∈ Finset.range layer, t.weightCount i

def valuesBelow (t : Topology) (layer : Nat) : Nat := ∑ i ∈ Finset.range layer, (t.width i + 1)

def slotsBelow (t : Topology) (layer : Nat) : Nat := ∑ i ∈ Finset.range layer, t.slotCount i

def extentBelow (t : Topology) (layer : Nat) : Extent :=
  ⟨t.weightsBelow layer, t.valuesBelow layer, t.slotsBelow layer⟩

def weightSpan (t : Topology) (layer : Nat) : Span := ⟨t.weightsBelow layer, t.weightCount layer⟩

def valueSpan (t : Topology) (layer : Nat) : Span := ⟨t.valuesBelow layer, t.width layer + 1⟩

def slotSpan (t : Topology) (layer : Nat) : Span := ⟨t.slotsBelow layer, t.width layer⟩

def spans (t : Topology) (layer : Nat) : LayerSpans :=
  { weights := t.weightSpan layer
    values := t.valueSpan layer
    slots := if t.HoldsSums layer then some (t.slotSpan layer) else none }

def layout (t : Topology) : Layout := ⟨(List.range t.depth).map t.spans, t.extentBelow t.depth⟩

def Fits (t : Topology) : Prop := (t.extentBelow t.depth).Fits

instance (t : Topology) : Decidable t.Fits := inferInstanceAs (Decidable (t.extentBelow t.depth).Fits)

section Sums

variable (t : Topology) (layer : Nat)

@[simp] theorem spans_weights : (t.spans layer).weights = t.weightSpan layer := rfl

@[simp] theorem spans_values : (t.spans layer).values = t.valueSpan layer := rfl

@[simp] theorem valueSpan_offset : (t.valueSpan layer).offset = t.valuesBelow layer := rfl

@[simp] theorem valueSpan_length : (t.valueSpan layer).length = t.width layer + 1 := rfl

theorem weightsBelow_succ : t.weightsBelow (layer + 1) = t.weightsBelow layer + t.weightCount layer :=
  Finset.sum_range_succ ..

theorem valuesBelow_succ : t.valuesBelow (layer + 1) = t.valuesBelow layer + (t.width layer + 1) :=
  Finset.sum_range_succ ..

theorem slotsBelow_succ : t.slotsBelow (layer + 1) = t.slotsBelow layer + t.slotCount layer :=
  Finset.sum_range_succ ..

end Sums

variable {t : Topology}

theorem weightsBelow_le {i j : Nat} (below : i ≤ j) : t.weightsBelow i ≤ t.weightsBelow j :=
  Finset.sum_le_sum_of_subset (Finset.range_subset_range.mpr below)

theorem valuesBelow_le {i j : Nat} (below : i ≤ j) : t.valuesBelow i ≤ t.valuesBelow j :=
  Finset.sum_le_sum_of_subset (Finset.range_subset_range.mpr below)

theorem slotsBelow_le {i j : Nat} (below : i ≤ j) : t.slotsBelow i ≤ t.slotsBelow j :=
  Finset.sum_le_sum_of_subset (Finset.range_subset_range.mpr below)

theorem rowLength_of_sums {layer : Nat} (sums : t.HoldsSums layer) :
    t.rowLength layer = t.width (layer - 1) + 1 := by
  simp [rowLength, sums.2]

theorem rowLength_of_gaussian {layer : Nat} (gaussian : t.isGaussianLayer layer = true) :
    t.rowLength layer = gaussianWeights := by
  simp [rowLength, gaussian]

theorem weightCount_of_pos {layer : Nat} (above : 0 < layer) :
    t.weightCount layer = t.rowLength layer * t.width layer :=
  if_neg (by omega)

theorem row_stop_le {layer unit : Nat} (above : 0 < layer) (inLayer : unit < t.width layer) :
    unit * t.rowLength layer + t.rowLength layer ≤ t.weightCount layer := by
  rw [weightCount_of_pos above, Nat.mul_comm, ← Nat.mul_succ]
  exact Nat.mul_le_mul_left (t.rowLength layer) inLayer

theorem row_lt_weightCount {layer unit input : Nat} (above : 0 < layer) (inLayer : unit < t.width layer)
    (inRow : input < t.rowLength layer) : unit * t.rowLength layer + input < t.weightCount layer :=
  (Nat.add_lt_add_left inRow _).trans_le (row_stop_le above inLayer)

theorem rowLength_pos (t : Topology) (layer : Nat) : 0 < t.rowLength layer := by
  rw [rowLength]
  split
  · decide
  · exact Nat.succ_pos _

theorem slotCount_of_sums {layer : Nat} (sums : t.HoldsSums layer) : t.slotCount layer = t.width layer :=
  if_pos sums

theorem slotSpan_stop {layer : Nat} (sums : t.HoldsSums layer) :
    (t.slotSpan layer).stop = t.slotsBelow (layer + 1) := by
  rw [slotsBelow_succ, slotCount_of_sums sums]
  rfl

theorem slotSpan_apart {layer other : Nat} (sums : t.HoldsSums layer) (sums' : t.HoldsSums other)
    (different : other ≠ layer) :
    (t.slotSpan other).stop ≤ (t.slotSpan layer).offset ∨ (t.slotSpan layer).stop ≤ (t.slotSpan other).offset := by
  rw [slotSpan_stop sums, slotSpan_stop sums']
  rcases Nat.lt_or_gt_of_ne different with below | above
  · exact .inl (slotsBelow_le below)
  · exact .inr (slotsBelow_le above)

theorem weightSpan_stop_le {layer : Nat} (within : layer < t.depth) :
    (t.weightSpan layer).stop ≤ t.weightsBelow t.depth := by
  rw [weightSpan, Span.stop, ← weightsBelow_succ]
  exact weightsBelow_le within

theorem valueSpan_stop_le {layer : Nat} (within : layer < t.depth) :
    (t.valueSpan layer).stop ≤ t.valuesBelow t.depth := by
  rw [valueSpan, Span.stop, ← valuesBelow_succ]
  exact valuesBelow_le within

theorem slotSpan_stop_le {layer : Nat} (sums : t.HoldsSums layer) (within : layer < t.depth) :
    (t.slotSpan layer).stop ≤ t.slotsBelow t.depth := by
  rw [slotSpan_stop sums]
  exact slotsBelow_le within

theorem width_le_slots {layer : Nat} (sums : t.HoldsSums layer) (within : layer < t.depth) :
    t.width layer ≤ t.slotsBelow t.depth - t.slotsBelow layer := by
  have stop := slotSpan_stop_le sums within
  simp only [slotSpan, Span.stop] at stop
  omega

theorem fits_below {layer : Nat} (fits : t.Fits) (within : layer ≤ t.depth) :
    (t.extentBelow layer).Fits := by
  obtain ⟨weights, values, slots⟩ := fits
  exact ⟨(weightsBelow_le within).trans_lt weights, (valuesBelow_le within).trans_lt values,
    (slotsBelow_le within).trans_lt slots⟩

theorem fits_of_width_le {bound : Nat} (narrow : ∀ layer, t.width layer ≤ bound)
    (room : t.depth * ((bound + 3) * (bound + 1)) < Word.limit) : t.Fits := by
  have total (count : Nat → Nat) (few : ∀ layer, count layer ≤ (bound + 3) * (bound + 1)) :
      ∑ layer ∈ Finset.range t.depth, count layer < Word.limit := by
    refine Nat.lt_of_le_of_lt (Finset.sum_le_card_nsmul _ _ _ fun layer _ => few layer) ?_
    rw [Finset.card_range]
    exact room
  have one : bound + 1 ≤ (bound + 3) * (bound + 1) := Nat.le_mul_of_pos_left _ (Nat.succ_pos _)
  refine ⟨total _ fun layer => ?_, total _ fun layer => (Nat.succ_le_succ (narrow layer)).trans one, total _ fun layer => ?_⟩
  · have row : t.rowLength layer ≤ bound + 3 := by
      have below := narrow (layer - 1)
      rw [rowLength]
      split
      · exact Nat.le_add_left 3 bound
      · omega
    rw [weightCount]
    split
    · exact Nat.zero_le _
    · exact Nat.mul_le_mul row (Nat.le_succ_of_le (narrow layer))
  · rw [slotCount]
    split
    · exact (Nat.le_succ_of_le (narrow layer)).trans one
    · exact Nat.zero_le _

section Rows

variable {α : Type} {weights : List α} {layer unit : Nat}

def row (t : Topology) (weights : List α) (layer unit : Nat) : List α :=
  (Span.mk (t.weightsBelow layer + unit * t.rowLength layer) (t.rowLength layer)).slice weights

theorem getElem?_row (weights : List α) (unit : Nat) {input : Nat} (inRow : input < t.rowLength layer) :
    (t.row weights layer unit)[input]? =
      weights[t.weightsBelow layer + unit * t.rowLength layer + input]? :=
  Span.getElem?_slice _ weights input inRow

theorem length_row (full : weights.length = t.weightsBelow t.depth) (above : 0 < layer)
    (within : layer < t.depth) (inLayer : unit < t.width layer) :
    (t.row weights layer unit).length = t.rowLength layer := by
  have stop := weightSpan_stop_le within
  have last := row_stop_le above inLayer
  simp only [weightSpan, Span.stop] at stop
  apply Span.length_slice
  simp only [Span.stop]
  omega

theorem row_eq_slice (weights : List α) (above : 0 < layer) (inLayer : unit < t.width layer) :
    t.row weights layer unit =
      (Span.mk (unit * t.rowLength layer) (t.rowLength layer)).slice ((t.weightSpan layer).slice weights) := by
  rw [Span.slice_slice _ _ _ _ (row_stop_le above inLayer)]
  rfl

theorem rows_eq_ok (full : weights.length = t.weightsBelow t.depth) (above : 0 < layer)
    (within : layer < t.depth) :
    Buffer.rows (t.rowLength layer) ((t.weightSpan layer).slice weights) =
      .ok ((List.range (t.width layer)).map (t.row weights layer)) := by
  have stop := weightSpan_stop_le within
  rw [← full] at stop
  have length : ((t.weightSpan layer).slice weights).length = t.width layer * t.rowLength layer := by
    rw [Span.length_slice _ _ stop, weightSpan, weightCount_of_pos above, Nat.mul_comm]
  rw [Buffer.rows_eq_ok _ _ _ (t.rowLength_pos layer) length]
  congr 1
  exact List.map_congr_left fun unit member => (row_eq_slice weights above (List.mem_range.mp member)).symm

end Rows

end Topology

namespace Layout

open PlaneNet.Topology
open Word (overflow fit_bind)

theorem place_eq (used : Extent) (weights values : Nat) (slots : Option Nat) :
    place used weights values slots =
      let after : Extent := ⟨used.weights + weights, used.values + values, used.slots + slots.getD 0⟩
      if after.Fits then
        .ok (⟨⟨used.weights, weights⟩, ⟨used.values, values⟩, slots.map (⟨used.slots, ·⟩)⟩, after)
      else .error overflow := by
  simp only [place, Word.add, fit_bind, pure_eq_ok]
  grind [Extent.Fits]

theorem countWeights_eq (t : Topology) (layer : Nat) (above : 0 < layer)
    (used : (t.extentBelow layer).Fits) :
    countWeights (t.isGaussianLayer layer) (t.width (layer - 1)) (t.width layer) =
      Word.fit (t.weightCount layer) := by
  rw [weightCount_of_pos above, rowLength, countWeights]
  cases gaussian : t.isGaussianLayer layer with
  | true => rfl
  | false =>
    -- The sum is part of the values below, which fit.
    have small : t.width (layer - 1) + 1 < Word.limit := by
      have stop := t.valuesBelow_succ (layer - 1)
      rw [Nat.sub_add_cancel above] at stop
      have := used.2.1
      simp only [extentBelow] at this
      omega
    simp only [Bool.false_eq_true, if_false, Word.add, Word.fit, if_pos small]
    rfl

theorem place_spans_eq (t : Topology) (layer : Nat) :
    place (t.extentBelow layer) (t.weightCount layer) (t.width layer + 1)
        (if t.HoldsSums layer then some (t.width layer) else none) =
      if (t.extentBelow (layer + 1)).Fits then .ok (t.spans layer, t.extentBelow (layer + 1))
      else .error overflow := by
  have slots : (if t.HoldsSums layer then some (t.width layer) else none).getD 0 = t.slotCount layer := by
    by_cases sums : t.HoldsSums layer <;> simp [slotCount, sums]
  have spans : ({ weights := ⟨t.weightsBelow layer, t.weightCount layer⟩
                  values := ⟨t.valuesBelow layer, t.width layer + 1⟩
                  slots := (if t.HoldsSums layer then some (t.width layer) else none).map
                    (⟨t.slotsBelow layer, ·⟩) } : LayerSpans) = t.spans layer := by
    by_cases sums : t.HoldsSums layer <;> simp [Topology.spans, weightSpan, valueSpan, slotSpan, sums]
  simp only [place_eq, extentBelow, slots, spans, ← weightsBelow_succ, ← valuesBelow_succ,
    ← slotsBelow_succ]
  congr

theorem placeLayers_eq (t : Topology) (count layer : Nat) (above : 0 < layer)
    (rest : layer + count = t.depth) (used : (t.extentBelow layer).Fits) :
    placeLayers (t.extentBelow layer) (t.isGaussianLayer layer) (t.width (layer - 1))
        (t.sizes.drop layer) =
      if t.Fits then .ok ((List.range' layer count).map t.spans, t.extentBelow t.depth)
      else .error overflow := by
  induction count generalizing layer with
  | zero =>
    have last : layer = t.depth := rest
    have fits : t.Fits := by rwa [last] at used
    rw [List.drop_eq_nil_of_le (Nat.le_of_eq last.symm), if_pos fits, ← last]
    rfl
  | succ count ih =>
    have within : layer < t.sizes.length := by simp only [depth] at rest; omega
    have slots : (if t.isGaussianLayer layer = true then none else some (t.width layer)) =
        if t.HoldsSums layer then some (t.width layer) else none := by
      simp only [HoldsSums, above, true_and]
      cases t.isGaussianLayer layer <;> rfl
    have next : false = t.isGaussianLayer (layer + 1) := (isGaussianLayer_of_one_lt (by omega)).symm
    rw [List.drop_eq_getElem_cons within, ← List.getD_eq_getElem _ 0 within,
      show t.sizes.getD layer 0 = t.width layer from rfl, placeLayers, countWeights_eq t layer above used,
      slots, next]
    by_cases fits : (t.extentBelow (layer + 1)).Fits
    · have weights : t.weightCount layer < Word.limit := by
        have := fits.1
        simp only [extentBelow, weightsBelow_succ] at this
        omega
      have values : t.width layer + 1 < Word.limit := by
        have := fits.2.1
        simp only [extentBelow, valuesBelow_succ] at this
        omega
      have step := ih (layer + 1) (by omega) (by omega) fits
      rw [Nat.add_sub_cancel] at step
      simp only [Word.add, fit_bind, if_pos weights, if_pos values, place_spans_eq, if_pos fits, ok_bind,
        step]
      by_cases all : t.Fits
      · simp only [if_pos all, List.range'_succ, List.map_cons, ok_bind, pure_eq_ok]
      · simp only [if_neg all, error_bind]
    · have tooLarge : ¬ t.Fits := fun all => fits (fits_below all (by omega))
      rw [if_neg tooLarge]
      simp only [Word.add, fit_bind, place_spans_eq, if_neg fits, error_bind, ite_self]

theorem ofTopology_eq (t : Topology) (nonempty : t.sizes ≠ []) :
    ofTopology t = if t.Fits then .ok t.layout else .error overflow := by
  obtain ⟨input, rest, sizes⟩ := List.exists_cons_of_ne_nil nonempty
  have depth : 1 + rest.length = t.depth := by
    rw [Topology.depth, sizes, List.length_cons, Nat.add_comm]
  have width : input = t.width 0 := by simp [Topology.width, sizes]
  have above : rest = t.sizes.drop 1 := by simp [sizes]
  have first := place_spans_eq t 0
  simp only [show t.weightCount 0 = 0 from rfl, show t.extentBelow 0 = ⟨0, 0, 0⟩ from rfl,
    HoldsSums, Nat.lt_irrefl, false_and, if_false] at first
  rw [ofTopology, sizes]
  by_cases fits : (t.extentBelow 1).Fits
  · have inputs : t.width 0 + 1 < Word.limit := by
      have := fits.2.1
      simpa [extentBelow, valuesBelow] using this
    have layers := placeLayers_eq t rest.length 1 Nat.one_pos depth fits
    rw [isGaussianLayer_one, ← above] at layers
    simp only [Word.add, fit_bind, width, if_pos inputs, first, if_pos fits, ok_bind, layers]
    by_cases all : t.Fits
    · simp only [if_pos all, ok_bind, pure_eq_ok, Topology.layout, ← depth, List.range_eq_range',
        Nat.add_comm 1, List.range'_succ, List.map_cons]
    · simp only [if_neg all, error_bind]
  · have tooLarge : ¬ t.Fits := fun all => fits (fits_below all (by omega))
    rw [if_neg tooLarge]
    simp only [Word.add, fit_bind, width, first, if_neg fits, error_bind, ite_self]

theorem ofTopology_eq_ok_iff (t : Topology) (l : Layout) :
    ofTopology t = .ok l ↔ t.sizes ≠ [] ∧ t.Fits ∧ l = t.layout := by
  by_cases nonempty : t.sizes = []
  · simp [ofTopology, nonempty]
  · rw [ofTopology_eq t nonempty]
    by_cases fits : t.Fits <;> simp [fits, nonempty, eq_comm]

theorem ofTopology_of_fits {t : Topology} (accepted : t.Accepted) (fits : t.Fits) : ofTopology t = .ok t.layout :=
  (ofTopology_eq_ok_iff t t.layout).mpr ⟨accepted.sizes_ne_nil, fits, rfl⟩

theorem layer_eq {t : Topology} {layer : Nat} (within : layer < t.depth) :
    t.layout.layer layer = .ok (t.spans layer) := by
  rw [Layout.layer, Buffer.cell_eq_ok_iff]
  simp [Topology.layout, within]

theorem trained_eq {t : Topology} {layer : Nat} (sums : t.HoldsSums layer) (within : layer < t.depth) :
    t.layout.trained layer = .ok (t.slotSpan layer) := by
  simp [trained, layer_eq within, Topology.spans, sums]

end Layout

end PlaneNet
