import Mathlib.Logic.ExistsUnique
import PlaneNet.Proofs.Layout.Spans

set_option autoImplicit false

namespace PlaneNet

def Span.Holds (s : Span) (cell : Nat) : Prop := s.offset ≤ cell ∧ cell < s.stop

def Tiles : Nat → Nat → List (Option Span) → Prop
  | start, stop, [] => start = stop
  | start, stop, none :: rest => Tiles start stop rest
  | start, stop, some s :: rest => s.offset = start ∧ Tiles s.stop stop rest

namespace Tiles

variable {start middle stop : Nat} {spans rest : List (Option Span)}

theorem append (below : Tiles start middle spans) (above : Tiles middle stop rest) :
    Tiles start stop (spans ++ rest) := by
  induction spans generalizing start with
  | nil =>
    have same : start = middle := below
    rw [same]
    exact above
  | cons part spans ih =>
    cases part with
    | none => exact ih below
    | some s => exact ⟨below.1, ih below.2⟩

theorem range (below : Nat → Nat) (part : Nat → Option Span)
    (step : ∀ layer, Tiles (below layer) (below (layer + 1)) [part layer]) (n : Nat) :
    Tiles (below 0) (below n) ((List.range n).map part) := by
  induction n with
  | zero => rfl
  | succ n ih =>
    rw [List.range_succ, List.map_append]
    exact ih.append (step n)

theorem start_le (tiles : Tiles start stop spans) : start ≤ stop := by
  induction spans generalizing start with
  | nil => exact Nat.le_of_eq tiles
  | cons part spans ih =>
    cases part with
    | none => exact ih tiles
    | some s =>
      rw [← tiles.1]
      exact Nat.le_trans (Nat.le_add_right _ _) (ih tiles.2)

theorem bounds (tiles : Tiles start stop spans) {s : Span} (member : some s ∈ spans) :
    start ≤ s.offset ∧ s.stop ≤ stop := by
  induction spans generalizing start with
  | nil => cases member
  | cons part spans ih =>
    cases part with
    | none => exact ih tiles (by simpa using member)
    | some first =>
      rcases List.mem_cons.mp member with same | later
      · cases same
        exact ⟨Nat.le_of_eq tiles.1.symm, tiles.2.start_le⟩
      · have inside := ih tiles.2 later
        have begins := tiles.1
        simp only [Span.stop] at inside ⊢
        omega

theorem stop_le_offset (tiles : Tiles start stop spans) {i j : Nat} {a b : Span} (before : i < j)
    (first : spans[i]? = some (some a)) (second : spans[j]? = some (some b)) : a.stop ≤ b.offset := by
  induction spans generalizing start i j with
  | nil => simp at first
  | cons part spans ih =>
    obtain ⟨j, rfl⟩ := Nat.exists_eq_add_one_of_ne_zero (Nat.ne_zero_of_lt before)
    rw [List.getElem?_cons_succ] at second
    cases i with
    | zero =>
      obtain rfl : part = some a := by simpa using first
      exact (tiles.2.bounds (List.mem_of_getElem? second)).1
    | succ i =>
      rw [List.getElem?_cons_succ] at first
      have before := Nat.lt_of_succ_lt_succ before
      cases part with
      | none => exact ih tiles before first second
      | some s => exact ih tiles.2 before first second

theorem exists_holds (tiles : Tiles start stop spans) {cell : Nat} (above : start ≤ cell) (below : cell < stop) :
    ∃ i : Nat, ∃ s : Span, spans[i]? = some (some s) ∧ s.Holds cell := by
  induction spans generalizing start with
  | nil =>
    have empty : start = stop := tiles
    omega
  | cons part spans ih =>
    have later {start : Nat} (tiles : Tiles start stop spans) (above : start ≤ cell) :
        ∃ i : Nat, ∃ s : Span, (part :: spans)[i]? = some (some s) ∧ s.Holds cell := by
      obtain ⟨i, s, found, holds⟩ := ih tiles above
      exact ⟨i + 1, s, found, holds⟩
    cases part with
    | none => exact later tiles above
    | some s =>
      by_cases inside : cell < s.stop
      · exact ⟨0, s, rfl, tiles.1.symm ▸ above, inside⟩
      · exact later tiles.2 (Nat.le_of_not_lt inside)

end Tiles

structure Tiling (spans : List (Option Span)) (size : Nat) : Prop where
  tiles : Tiles 0 size spans
  inside : ∀ {layer : Nat} {s : Span}, spans[layer]? = some (some s) → s.stop ≤ size
  apart : ∀ {layer other : Nat} {a b : Span}, layer ≠ other → spans[layer]? = some (some a) →
    spans[other]? = some (some b) → ∀ cell, ¬ (a.Holds cell ∧ b.Holds cell)
  covers : ∀ cell < size, ∃! layer : Nat, ∃ s : Span, spans[layer]? = some (some s) ∧ s.Holds cell

theorem Tiles.tiling {spans : List (Option Span)} {size : Nat} (tiles : Tiles 0 size spans) : Tiling spans size := by
  have apart {layer other : Nat} {a b : Span} (different : layer ≠ other) (first : spans[layer]? = some (some a))
      (second : spans[other]? = some (some b)) (cell : Nat) : ¬ (a.Holds cell ∧ b.Holds cell) := by
    rintro ⟨⟨aboveA, belowA⟩, aboveB, belowB⟩
    rcases Nat.lt_or_gt_of_ne different with before | after
    · have := tiles.stop_le_offset before first second
      omega
    · have := tiles.stop_le_offset after second first
      omega
  refine ⟨tiles, fun found => (tiles.bounds (List.mem_of_getElem? found)).2, apart, fun cell below => ?_⟩
  obtain ⟨layer, s, found, holds⟩ := tiles.exists_holds (Nat.zero_le cell) below
  refine ⟨layer, ⟨s, found, holds⟩, ?_⟩
  rintro other ⟨s', found', holds'⟩
  by_contra different
  exact apart different found' found cell ⟨holds', holds⟩

/-- Every buffer of this size has rows of one length under the span, without a remainder. -/
def Span.CutsInto (s : Span) (size count stride : Nat) : Prop :=
  s.length = count * stride ∧
    ∀ {α : Type} (buffer : List α), buffer.length = size →
      ∃ part rows, Buffer.read s buffer = .ok part ∧ Buffer.rows stride part = .ok rows ∧
        rows.length = count ∧ ∀ row ∈ rows, row.length = stride

theorem Span.cutsInto {s : Span} {size count stride : Nat} (inside : s.stop ≤ size) (positive : 0 < stride)
    (length : s.length = count * stride) : s.CutsInto size count stride := by
  refine ⟨length, fun buffer full => ?_⟩
  have part : (s.slice buffer).length = count * stride := by
    rw [s.length_slice buffer (full ▸ inside), length]
  refine ⟨_, _, Buffer.read_eq_ok s buffer (full ▸ inside), Buffer.rows_eq_ok stride count _ positive part, ?_, ?_⟩
  · rw [List.length_map, List.length_range]
  · intro row member
    obtain ⟨unit, within, rfl⟩ := List.mem_map.mp member
    refine Span.length_slice _ _ ?_
    rw [part, Span.stop, ← Nat.succ_mul]
    exact Nat.mul_le_mul_right stride (List.mem_range.mp within)

namespace Layout

structure Measured (l : Layout) (t : Topology) (layer : Nat) (spans : LayerSpans) : Prop where
  values : spans.values.length = t.width layer + 1
  slots : spans.slots.map Span.length = if layer ∈ t.trainedLayers then some (t.width layer) else none
  untrained : spans.slots = none ↔ layer = 0 ∨ t.isGaussianLayer layer = true
  inputs : layer = 0 → spans.weights.length = 0
  /-- The rows of `forwardLayer` and `updateLayer`. -/
  sources : 0 < layer → ∃ below, l.layer (layer - 1) = .ok below ∧
    spans.weights.CutsInto l.extent.weights (t.width layer)
      (if t.isGaussianLayer layer then gaussianWeights else below.values.length)
  /-- The rows of `backwardLayer`, in the weights of the layer above. -/
  errors : ∀ this ∈ spans.slots, layer < t.outputLayer → ∃ above, l.layer (layer + 1) = .ok above ∧
    above.weights.CutsInto l.extent.weights (t.width (layer + 1)) (this.length + 1)

end Layout

namespace Topology

variable {t : Topology} {layer : Nat}

theorem weights_tile (t : Topology) (n : Nat) :
    Tiles 0 (t.weightsBelow n) ((List.range n).map fun layer => some (t.weightSpan layer)) :=
  Tiles.range t.weightsBelow (fun layer => some (t.weightSpan layer)) (fun layer => ⟨rfl, (t.weightsBelow_succ layer).symm⟩) n

theorem values_tile (t : Topology) (n : Nat) :
    Tiles 0 (t.valuesBelow n) ((List.range n).map fun layer => some (t.valueSpan layer)) :=
  Tiles.range t.valuesBelow (fun layer => some (t.valueSpan layer)) (fun layer => ⟨rfl, (t.valuesBelow_succ layer).symm⟩) n

theorem slots_tile (t : Topology) (n : Nat) :
    Tiles 0 (t.slotsBelow n) ((List.range n).map fun layer => (t.spans layer).slots) := by
  refine Tiles.range t.slotsBelow _ (fun layer => ?_) n
  by_cases sums : t.HoldsSums layer
  · rw [spans, if_pos sums]
    exact ⟨rfl, slotSpan_stop sums⟩
  · rw [spans, if_neg sums]
    show t.slotsBelow layer = t.slotsBelow (layer + 1)
    rw [slotsBelow_succ, slotCount, if_neg sums, Nat.add_zero]

theorem weightSpan_cutsInto (above : 0 < layer) (within : layer < t.depth) :
    (t.weightSpan layer).CutsInto (t.weightsBelow t.depth) (t.width layer) (t.rowLength layer) :=
  Span.cutsInto (weightSpan_stop_le within) (t.rowLength_pos layer) <| by
    rw [weightSpan, weightCount_of_pos above, Nat.mul_comm]

theorem slots_eq_none_iff : (t.spans layer).slots = none ↔ layer = 0 ∨ t.isGaussianLayer layer = true := by
  by_cases sums : t.HoldsSums layer
  · obtain ⟨above, weighted⟩ := sums
    simp [spans, HoldsSums, above, weighted, Nat.ne_of_gt above]
  · have plain : layer = 0 ∨ t.isGaussianLayer layer = true := by
      rcases Nat.eq_zero_or_pos layer with input | above
      · exact .inl input
      · exact .inr (by simpa [HoldsSums, above] using sums)
    simp [spans, sums, plain]

theorem Accepted.measured (accepted : t.Accepted) (within : layer < t.depth) :
    t.layout.Measured t layer (t.spans layer) where
  values := rfl
  slots := by
    have trained : layer ∈ t.trainedLayers ↔ t.HoldsSums layer := by
      rw [accepted.mem_trainedLayers_iff, and_iff_left within]
    by_cases sums : t.HoldsSums layer
    · rw [if_pos (trained.mpr sums), spans, if_pos sums]
      rfl
    · rw [if_neg (mt trained.mp sums), spans, if_neg sums]
      rfl
  untrained := slots_eq_none_iff
  inputs input := if_pos input
  sources above := by
    refine ⟨t.spans (layer - 1), Layout.layer_eq (by omega), ?_⟩
    have rows := weightSpan_cutsInto above within
    rwa [rowLength] at rows
  errors this member hidden := by
    have next : layer + 1 < t.depth := accepted.hidden_add_one_lt hidden
    refine ⟨t.spans (layer + 1), Layout.layer_eq next, ?_⟩
    by_cases sums : t.HoldsSums layer
    · obtain rfl : t.slotSpan layer = this := by simpa [spans, sums] using member
      have rows := weightSpan_cutsInto (Nat.succ_pos layer) next
      rwa [rowLength_of_sums (holdsSums_succ sums), Nat.add_sub_cancel] at rows
    · simp [spans, sums] at member

end Topology

namespace Layout

open PlaneNet.Topology

theorem spans_tile_buffers {sizes : List Nat} {rbf : Bool} {t : Topology}
    (accepted : Topology.ofSizes sizes rbf = .ok t) (fits : t.Fits) :
    ∃ l, ofTopology t = .ok l ∧ l.layers.length = t.depth ∧
      (∀ layer < t.depth, ∃ spans, l.layer layer = .ok spans ∧ l.Measured t layer spans) ∧
      Tiling (l.layers.map fun spans => some spans.weights) l.extent.weights ∧
      Tiling (l.layers.map fun spans => some spans.values) l.extent.values ∧
      Tiling (l.layers.map LayerSpans.slots) l.extent.slots := by
  obtain ⟨-, shape⟩ := (ofSizes_eq_ok_iff _ _ _).mp accepted
  have weights := (t.weights_tile t.depth).tiling
  have values := (t.values_tile t.depth).tiling
  have slots := (t.slots_tile t.depth).tiling
  refine ⟨t.layout, ofTopology_of_fits shape fits, by simp [Topology.layout], fun layer within =>
    ⟨t.spans layer, layer_eq within, shape.measured within⟩, ?_, ?_, ?_⟩
  · simpa [Topology.layout, Function.comp_def, extentBelow] using weights
  · simpa [Topology.layout, Function.comp_def, extentBelow] using values
  · simpa [Topology.layout, Function.comp_def, extentBelow] using slots

-- The Gaussian layer has no slots: those of the second layer start where its own would.
theorem spans_tile_buffers_of_gaussian_net :
    Topology.ofSizes [2, 4, 3, 1] true = .ok ⟨[2, 4, 3, 1], true⟩ ∧ Topology.Fits ⟨[2, 4, 3, 1], true⟩ ∧
      ∃ l, ofTopology ⟨[2, 4, 3, 1], true⟩ = .ok l ∧
        Tiling (l.layers.map LayerSpans.slots) l.extent.slots := by
  have accepted : Topology.ofSizes [2, 4, 3, 1] true = .ok ⟨[2, 4, 3, 1], true⟩ := rfl
  have fits : Topology.Fits ⟨[2, 4, 3, 1], true⟩ := by decide
  obtain ⟨l, placed, -, -, -, -, slots⟩ := spans_tile_buffers accepted fits
  exact ⟨accepted, fits, l, placed, slots⟩

end Layout

end PlaneNet
