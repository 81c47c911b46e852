import PlaneNet.Proofs.Network.Sums

set_option autoImplicit false

namespace PlaneNet

namespace Topology

variable {t : Topology} {layer layer' unit' : Nat}

theorem row_set_of_lt {α : Type} (weights : List α) (w : α) (unit input : Nat) (above' : 0 < layer')
    (inLayer' : unit' < t.width layer') (below : layer' < layer) :
    t.row (weights.set (t.place layer unit input) w) layer' unit' =
      t.row weights layer' unit' := by
  have last := row_stop_le above' inLayer'
  have next := weightsBelow_le (t := t) (show layer' + 1 ≤ layer from below)
  rw [weightsBelow_succ] at next
  have before : (Span.mk (t.weightsBelow layer' + unit' * t.rowLength layer') (t.rowLength layer')).stop ≤
      t.place layer unit input := by
    simp only [Span.stop, place]
    omega
  rw [row, ← Span.slice_take _ _ _ before, List.take_set_of_le le_rfl, Span.slice_take _ _ _ before, row]

end Topology

namespace Network

open Finset (range)

variable {t : Topology} (a : Activation) {weights : List ℝ} (x y : ℝ) {layer unit input : Nat}

theorem response_set_of_lt (weights : List ℝ) (w : ℝ) (unit input : Nat) {lower : Nat} (below : lower < layer) :
    response t a (weights.set (t.place layer unit input) w) x y lower =
      response t a weights x y lower := by
  induction lower with
  | zero => rfl
  | succ lower ih =>
    have rest := ih (Nat.lt_of_succ_lt below)
    simp only [response, rest]
    congr 1
    refine List.map_congr_left fun u member => ?_
    rw [Topology.row_set_of_lt weights w unit input (Nat.succ_pos lower) (List.mem_range.mp member) below]

def changed (t : Topology) (weights : List ℝ) (layer unit input : Nat) (w : ℝ) : List ℝ :=
  weights.set (t.place layer unit input) w

theorem length_changed (full : weights.length = t.weightsBelow t.depth) (layer unit input : Nat) (w : ℝ) :
    (changed t weights layer unit input w).length = t.weightsBelow t.depth := by
  rw [changed, List.length_set, full]

theorem valueAt_changed_of_lt (weights : List ℝ) (w : ℝ) (unit input : Nat) {lower : Nat} (below : lower < layer)
    (k : Nat) :
    valueAt t a (changed t weights layer unit input w) x y lower k = valueAt t a weights x y lower k := by
  rw [valueAt, changed, response_set_of_lt a x y weights w unit input below, valueAt]

noncomputable def shift (t : Topology) (a : Activation) (weights : List ℝ) (x y : ℝ) (layer unit input : Nat)
    (w : ℝ) (higher k : Nat) : ℝ :=
  valueAt t a (changed t weights layer unit input w) x y higher (k + 1) - valueAt t a weights x y higher (k + 1)

noncomputable def outcome (t : Topology) (a : Activation) (weights : List ℝ) (x y : ℝ) (layer unit input : Nat)
    (w : ℝ) : ℝ :=
  valueAt t a (changed t weights layer unit input w) x y t.outputLayer 1

section Change

variable (wired : t.Wired layer unit input)

include wired

theorem place_lt (full : weights.length = t.weightsBelow t.depth) :
    t.place layer unit input < weights.length := by
  have stop := Topology.weightSpan_stop_le wired.within
  have inside := Topology.row_lt_weightCount wired.sums.1 wired.inLayer wired.input_lt
  simp only [Topology.weightSpan, Span.stop, Topology.place] at stop ⊢
  omega

theorem getElem?_place (full : weights.length = t.weightsBelow t.depth) :
    weights[t.place layer unit input]? = some (weightAt t weights layer unit input) := by
  rw [weightAt, List.getD_eq_getElem _ _ (place_lt wired full), List.getElem?_eq_getElem]

theorem changed_weightAt (full : weights.length = t.weightsBelow t.depth) :
    changed t weights layer unit input (weightAt t weights layer unit input) = weights := by
  rw [changed, weightAt, List.getD_eq_getElem _ _ (place_lt wired full), List.set_getElem_self]

theorem weightAt_changed (full : weights.length = t.weightsBelow t.depth) (w : ℝ) :
    weightAt t (changed t weights layer unit input w) layer unit input = w := by
  rw [weightAt, changed, List.getD_eq_getElem?_getD, List.getElem?_set_self (place_lt wired full)]
  rfl

theorem weightAt_changed_of_ne (weights : List ℝ) (w : ℝ) {layer' unit' input' : Nat}
    (wired' : t.Wired layer' unit' input') (other : ¬ (layer' = layer ∧ unit' = unit ∧ input' = input)) :
    weightAt t (changed t weights layer unit input w) layer' unit' input' =
      weightAt t weights layer' unit' input' := by
  have apart := mt (wired.place_injective wired') other
  rw [weightAt, changed, List.getD_eq_getElem?_getD, List.getElem?_set_ne (Ne.symm apart), weightAt,
    List.getD_eq_getElem?_getD]

theorem sumAt_changed (full : weights.length = t.weightsBelow t.depth) (w : ℝ) :
    sumAt t a (changed t weights layer unit input w) x y layer unit =
      sumAt t a weights x y layer unit +
        (w - weightAt t weights layer unit input) * valueAt t a weights x y (layer - 1) input := by
  have source : layer - 1 < layer := Nat.sub_lt wired.sums.1 Nat.one_pos
  have term (k : Nat) (member : k ∈ range (t.width (layer - 1) + 1)) :
      weightAt t (changed t weights layer unit input w) layer unit k *
          valueAt t a (changed t weights layer unit input w) x y (layer - 1) k =
        weightAt t weights layer unit k * valueAt t a weights x y (layer - 1) k +
          if k = input then (w - weightAt t weights layer unit input) * valueAt t a weights x y (layer - 1) input
          else 0 := by
    rw [valueAt_changed_of_lt a x y weights w unit input source]
    by_cases same : k = input
    · rw [if_pos same, same, weightAt_changed wired full]
      ring
    · have wired' : t.Wired layer unit k := { wired with inRow := Nat.le_of_lt_succ (Finset.mem_range.mp member) }
      rw [if_neg same, add_zero, weightAt_changed_of_ne wired weights w wired' fun all => same all.2.2]
  rw [sumAt, Finset.sum_congr rfl term, Finset.sum_add_distrib, Finset.sum_ite_eq',
    if_pos (Finset.mem_range.mpr (Nat.lt_succ_of_le wired.inRow)), sumAt]

theorem sumAt_changed_of_ne (weights : List ℝ) (w : ℝ) {other : Nat} (inLayer : other < t.width layer)
    (apart : other ≠ unit) :
    sumAt t a (changed t weights layer unit input w) x y layer other = sumAt t a weights x y layer other := by
  have source : layer - 1 < layer := Nat.sub_lt wired.sums.1 Nat.one_pos
  refine Finset.sum_congr rfl fun k member => ?_
  have wired' : t.Wired layer other k :=
    ⟨wired.sums, wired.within, inLayer, Nat.le_of_lt_succ (Finset.mem_range.mp member)⟩
  rw [valueAt_changed_of_lt a x y weights w unit input source,
    weightAt_changed_of_ne wired weights w wired' fun all => apart all.2.1]

theorem sumAt_changed_above (weights : List ℝ) (w : ℝ) {lower next : Nat} (higher : layer ≤ lower)
    (within : lower + 1 < t.depth) (inLayer : next < t.width (lower + 1)) :
    sumAt t a (changed t weights layer unit input w) x y (lower + 1) next =
      sumAt t a weights x y (lower + 1) next +
        ∑ k ∈ range (t.width lower), weightAt t weights (lower + 1) next (k + 1) *
          shift t a weights x y layer unit input w lower k := by
  have sums := Topology.holdsSums_of_le wired.sums (Nat.le_succ_of_le higher)
  have weight (k : Nat) (inRow : k ≤ t.width lower) :
      weightAt t (changed t weights layer unit input w) (lower + 1) next k =
        weightAt t weights (lower + 1) next k :=
    weightAt_changed_of_ne wired weights w ⟨sums, within, inLayer, inRow⟩ fun all => by omega
  have term (k : Nat) (member : k ∈ range (t.width lower)) :
      weightAt t (changed t weights layer unit input w) (lower + 1) next (k + 1) *
          valueAt t a (changed t weights layer unit input w) x y lower (k + 1) =
        weightAt t weights (lower + 1) next (k + 1) * valueAt t a weights x y lower (k + 1) +
          weightAt t weights (lower + 1) next (k + 1) * shift t a weights x y layer unit input w lower k := by
    rw [weight (k + 1) (Finset.mem_range.mp member), shift]
    ring
  rw [sumAt, sumAt, Nat.add_sub_cancel, Finset.sum_range_succ', Finset.sum_range_succ', weight 0 (Nat.zero_le _),
    valueAt_bias, valueAt_bias, Finset.sum_congr rfl term, Finset.sum_add_distrib]
  ring

variable (accepted : t.Accepted) (full : weights.length = t.weightsBelow t.depth) (w : ℝ)

include accepted full

theorem shift_self :
    shift t a weights x y layer unit input w layer unit =
      a.apply (sumAt t a weights x y layer unit +
          (w - weightAt t weights layer unit input) * valueAt t a weights x y (layer - 1) input) -
        a.apply (sumAt t a weights x y layer unit) := by
  rw [shift, valueAt_succ a x y accepted (length_changed full layer unit input w) wired.sums wired.within wired.inLayer,
    valueAt_succ a x y accepted full wired.sums wired.within wired.inLayer, sumAt_changed a x y wired full]

theorem shift_of_ne {other : Nat} (inLayer : other < t.width layer) (apart : other ≠ unit) :
    shift t a weights x y layer unit input w layer other = 0 := by
  rw [shift, valueAt_succ a x y accepted (length_changed full layer unit input w) wired.sums wired.within inLayer,
    valueAt_succ a x y accepted full wired.sums wired.within inLayer,
    sumAt_changed_of_ne a x y wired weights w inLayer apart, sub_self]

theorem sum_shift (c : Nat → ℝ) :
    ∑ k ∈ range (t.width layer), c k * shift t a weights x y layer unit input w layer k =
      c unit * shift t a weights x y layer unit input w layer unit := by
  refine Finset.sum_eq_single_of_mem unit (Finset.mem_range.mpr wired.inLayer) fun k member apart => ?_
  rw [shift_of_ne a x y wired accepted full w (Finset.mem_range.mp member) apart, mul_zero]

end Change

end Network

end PlaneNet
