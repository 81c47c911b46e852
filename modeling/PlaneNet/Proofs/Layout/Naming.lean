import Mathlib.Data.List.Nodup
import Mathlib.Tactic.Ring
import PlaneNet.Layout.Connection
import PlaneNet.Proofs.Layout.Spans

set_option autoImplicit false

namespace PlaneNet

def Connection.layer : Connection → Nat
  | .meanX _ | .meanY _ | .variance _ => 1
  | .bias layer _ | .edge layer _ _ => layer

def Connection.unit : Connection → Nat
  | .meanX unit | .meanY unit | .variance unit | .bias _ unit | .edge _ unit _ => unit

namespace Topology

def HasConnection (t : Topology) : Connection → Prop
  | .meanX unit | .meanY unit | .variance unit => t.rbf = true ∧ unit < t.width 1
  | .bias layer unit => t.HoldsSums layer ∧ layer < t.depth ∧ unit < t.width layer
  | .edge layer unit source =>
      t.HoldsSums layer ∧ layer < t.depth ∧ unit < t.width layer ∧ source < t.width (layer - 1)

def layerConnections (t : Topology) (layer : Nat) : List Connection :=
  if layer = 0 then [] else blocks (t.unitConnections layer) (t.width layer)

section Blocks

variable (t : Topology) (layer unit : Nat)

theorem length_unitConnections : (t.unitConnections layer unit).length = t.rowLength layer := by
  simp only [unitConnections, rowLength]
  split <;> simp [gaussianWeights]

theorem length_unitBlocks (n : Nat) :
    (blocks (t.unitConnections layer) n).length = n * t.rowLength layer := by
  simp [length_blocks, length_unitConnections]

theorem length_layerConnections : (t.layerConnections layer).length = t.weightCount layer := by
  simp only [layerConnections, weightCount]
  split
  · rfl
  · rw [length_unitBlocks, Nat.mul_comm]

theorem length_layerBlocks (n : Nat) : (blocks t.layerConnections n).length = t.weightsBelow n := by
  simp only [length_blocks, length_layerConnections, weightsBelow]

theorem flatMap_unitLayers {α : Type} (block : Nat → List α) :
    t.unitLayers.flatMap block = blocks (fun layer => if layer = 0 then [] else block layer) t.depth := by
  have layers : t.unitLayers.flatMap block =
      t.unitLayers.flatMap fun layer => if layer = 0 then [] else block layer := by
    refine List.flatMap_congr fun layer member => ?_
    have positive : layer ≠ 0 := by
      have := (List.mem_range'_1.mp member).1
      omega
    rw [if_neg positive]
  rw [layers, unitLayers, blocks]
  cases t.depth with
  | zero => rfl
  | succ n => rw [Nat.add_sub_cancel, List.range_eq_range', List.range'_succ]; rfl

theorem connections_eq_blocks : t.connections = blocks t.layerConnections t.depth :=
  t.flatMap_unitLayers fun layer => blocks (t.unitConnections layer) (t.width layer)

theorem length_connections : t.connections.length = t.weightsBelow t.depth := by
  rw [connections_eq_blocks, length_layerBlocks]

variable {t layer unit}

theorem getElem?_connections {input : Nat} (above : 0 < layer) (within : layer < t.depth)
    (inLayer : unit < t.width layer) (inRow : input < t.rowLength layer) :
    t.connections[t.weightsBelow layer + (unit * t.rowLength layer + input)]? =
      (t.unitConnections layer unit)[input]? := by
  have inUnit : input < (t.unitConnections layer unit).length := by rwa [length_unitConnections]
  have row := row_lt_weightCount above inLayer inRow
  have inBlock := getElem?_blocks t.layerConnections within
    (show unit * t.rowLength layer + input < _ by rwa [length_layerConnections])
  have inUnits := getElem?_blocks (t.unitConnections layer) inLayer inUnit
  rw [length_layerBlocks] at inBlock
  rw [length_unitBlocks] at inUnits
  rw [connections_eq_blocks, inBlock, layerConnections, if_neg (by omega), inUnits]

end Blocks

variable {t : Topology}

theorem layer_unit_of_mem {layer unit : Nat} {c : Connection} (member : c ∈ t.unitConnections layer unit) :
    c.layer = layer ∧ c.unit = unit := by
  rw [unitConnections] at member
  split at member
  next gaussian =>
    have first := (isGaussianLayer_eq_true_iff.mp gaussian).2
    simp only [List.mem_cons, List.not_mem_nil, or_false] at member
    rcases member with rfl | rfl | rfl <;> exact ⟨first.symm, rfl⟩
  next =>
    simp only [List.mem_cons, List.mem_map] at member
    rcases member with rfl | ⟨source, _, rfl⟩ <;> exact ⟨rfl, rfl⟩

theorem nodup_unitConnections (layer unit : Nat) : (t.unitConnections layer unit).Nodup := by
  rw [unitConnections]
  split
  · simp
  · have edges : ((List.range (t.width (layer - 1))).map (Connection.edge layer unit)).Nodup :=
      List.nodup_range.map fun i j same => by injection same
    simpa using edges

theorem nodup_connections (t : Topology) : t.connections.Nodup := by
  rw [connections, List.nodup_flatMap]
  constructor
  · intro layer _
    rw [List.nodup_flatMap]
    refine ⟨fun unit _ => nodup_unitConnections layer unit, List.nodup_range.imp ?_⟩
    intro i j other c inFirst inSecond
    exact other ((layer_unit_of_mem inFirst).2.symm.trans (layer_unit_of_mem inSecond).2)
  · refine (List.nodup_range' 1 Nat.one_pos).imp ?_
    intro i j other c inFirst inSecond
    obtain ⟨unit, _, first⟩ := List.mem_flatMap.mp inFirst
    obtain ⟨unit', _, second⟩ := List.mem_flatMap.mp inSecond
    exact other ((layer_unit_of_mem first).1.symm.trans (layer_unit_of_mem second).1)

theorem mem_connections {c : Connection} :
    c ∈ t.connections ↔ ∃ layer, (0 < layer ∧ layer < t.depth) ∧
      ∃ unit < t.width layer, c ∈ t.unitConnections layer unit := by
  have layers (layer : Nat) : layer ∈ t.unitLayers ↔ 0 < layer ∧ layer < t.depth := by
    rw [unitLayers, List.mem_range'_1]
    omega
  simp only [connections, List.mem_flatMap, List.mem_range, layers]

theorem mem_connections_iff (accepted : t.Accepted) (c : Connection) :
    c ∈ t.connections ↔ t.HasConnection c := by
  rw [mem_connections]
  constructor
  · rintro ⟨layer, ⟨above, within⟩, unit, inLayer, member⟩
    rw [unitConnections] at member
    split at member
    next gaussian =>
      obtain ⟨rbf, rfl⟩ := isGaussianLayer_eq_true_iff.mp gaussian
      simp only [List.mem_cons, List.not_mem_nil, or_false] at member
      rcases member with rfl | rfl | rfl <;> exact ⟨rbf, inLayer⟩
    next sums =>
      have holds : t.HoldsSums layer := ⟨above, by simpa using sums⟩
      simp only [List.mem_cons, List.mem_map, List.mem_range] at member
      rcases member with rfl | ⟨source, below, rfl⟩
      · exact ⟨holds, within, inLayer⟩
      · exact ⟨holds, within, inLayer, below⟩
  · intro has
    have gaussian (rbf : t.rbf = true) (unit : Nat) (inLayer : unit < t.width 1)
        (member : c ∈ [Connection.meanX unit, .meanY unit, .variance unit]) :
        ∃ layer, (0 < layer ∧ layer < t.depth) ∧
          ∃ unit < t.width layer, c ∈ t.unitConnections layer unit := by
      have := accepted.three_le_depth rbf
      refine ⟨1, ⟨Nat.one_pos, by omega⟩, unit, inLayer, ?_⟩
      rwa [unitConnections, isGaussianLayer_one, if_pos rbf]
    cases c with
    | meanX unit => exact gaussian has.1 unit has.2 (by simp)
    | meanY unit => exact gaussian has.1 unit has.2 (by simp)
    | variance unit => exact gaussian has.1 unit has.2 (by simp)
    | bias layer unit =>
      obtain ⟨sums, within, inLayer⟩ := has
      exact ⟨layer, ⟨sums.1, within⟩, unit, inLayer, by simp [unitConnections, sums.2]⟩
    | edge layer unit source =>
      obtain ⟨sums, within, inLayer, below⟩ := has
      exact ⟨layer, ⟨sums.1, within⟩, unit, inLayer, by simp [unitConnections, sums.2, below]⟩

theorem getElem?_bias {layer unit : Nat} (sums : t.HoldsSums layer) (within : layer < t.depth)
    (inLayer : unit < t.width layer) :
    t.connections[t.weightsBelow layer + (unit * t.rowLength layer + 0)]? = some (.bias layer unit) := by
  rw [getElem?_connections sums.1 within inLayer (by rw [rowLength_of_sums sums]; omega)]
  simp [unitConnections, sums.2]

theorem getElem?_edge {layer unit source : Nat} (sums : t.HoldsSums layer) (within : layer < t.depth)
    (inLayer : unit < t.width layer) (below : source < t.width (layer - 1)) :
    t.connections[t.weightsBelow layer + (unit * t.rowLength layer + (source + 1))]? =
      some (.edge layer unit source) := by
  rw [getElem?_connections sums.1 within inLayer (by rw [rowLength_of_sums sums]; omega)]
  simp [unitConnections, sums.2, below]

theorem eq_of_getElem?_connections {i j : Nat} {c : Connection} (atI : t.connections[i]? = some c)
    (atJ : t.connections[j]? = some c) : i = j := by
  obtain ⟨within, _⟩ := List.getElem?_eq_some_iff.mp atI
  exact (List.getElem?_inj within t.nodup_connections).mp (atI.trans atJ.symm)

section Places

/-- A trained connection: the bias of a unit of a layer of sums, with `input` 0, or one of its sources. -/
structure Wired (t : Topology) (layer unit input : Nat) : Prop where
  sums : t.HoldsSums layer
  within : layer < t.depth
  inLayer : unit < t.width layer
  inRow : input ≤ t.width (layer - 1)

theorem Wired.input_lt {layer unit input : Nat} (wired : t.Wired layer unit input) : input < t.rowLength layer := by
  rw [rowLength_of_sums wired.sums]
  exact Nat.lt_succ_of_le wired.inRow

def place (t : Topology) (layer unit input : Nat) : Nat :=
  t.weightsBelow layer + (unit * t.rowLength layer + input)

variable {layer unit input layer' unit' input' : Nat}

theorem Wired.place_injective (wired : t.Wired layer unit input) (wired' : t.Wired layer' unit' input')
    (same : t.place layer' unit' input' = t.place layer unit input) :
    layer' = layer ∧ unit' = unit ∧ input' = input := by
  have here := getElem?_connections wired.sums.1 wired.within wired.inLayer wired.input_lt
  have there := getElem?_connections wired'.sums.1 wired'.within wired'.inLayer wired'.input_lt
  rw [← Topology.place] at here there
  rw [same, here] at there
  obtain ⟨c, named⟩ := exists_getElem? (t.length_unitConnections layer unit) wired.input_lt
  obtain ⟨rfl, rfl⟩ := layer_unit_of_mem (List.mem_of_getElem? named)
  obtain ⟨rfl, rfl⟩ := layer_unit_of_mem (List.mem_of_getElem? (there.symm.trans named))
  simp only [place] at same
  exact ⟨rfl, rfl, by omega⟩

end Places

end Topology

namespace Layout

open PlaneNet.Topology

variable {t : Topology}

theorem weightIndex_eq (fits : t.Fits) {layer unit input : Nat} (sums : t.HoldsSums layer)
    (within : layer < t.depth) (inLayer : unit < t.width layer) (inRow : input < t.rowLength layer) :
    t.layout.weightIndex layer unit input =
        .ok (t.weightsBelow layer + (unit * t.rowLength layer + input)) ∧
      t.weightsBelow layer + (unit * t.rowLength layer + input) < (t.weightSpan layer).stop := by
  have row := row_lt_weightCount sums.1 inLayer inRow
  have stop := weightSpan_stop_le within
  have total := fits.1
  simp only [weightSpan, Span.stop, extentBelow] at stop total
  refine ⟨?_, by simp only [weightSpan, Span.stop]; omega⟩
  have positive : layer ≠ 0 := Nat.pos_iff_ne_zero.mp sums.1
  have length : (t.spans (layer - 1)).values.length = t.rowLength layer := (rowLength_of_sums sums).symm
  have offset : (t.spans layer).weights.offset = t.weightsBelow layer := rfl
  have first : unit * t.rowLength layer < Word.limit := by omega
  have second : t.weightsBelow layer + unit * t.rowLength layer < Word.limit := by omega
  have third : t.weightsBelow layer + (unit * t.rowLength layer + input) < Word.limit := by omega
  rw [weightIndex, if_neg positive, layer_eq (by omega), ok_bind]
  simp only [length, if_neg (Nat.not_le.mpr inRow), layer_eq within, ok_bind, Word.mul, Word.add,
    Word.fit, offset, if_pos first, if_pos second, if_pos third, Nat.add_assoc]

theorem connections_eq (t : Topology) : t.layout.connections t = .ok t.connections :=
  if_pos t.length_connections

structure Names (l : Layout) (t : Topology) : Prop where
  length : t.connections.length = l.extent.weights
  nodup : t.connections.Nodup
  complete : ∀ c, c ∈ t.connections ↔ t.HasConnection c
  bias : ∀ layer, t.HoldsSums layer → layer < t.depth → ∀ unit < t.width layer, ∀ i,
    l.weightIndex layer unit 0 = .ok i ↔ t.connections[i]? = some (.bias layer unit)
  edge : ∀ layer, t.HoldsSums layer → layer < t.depth → ∀ unit < t.width layer,
    ∀ source < t.width (layer - 1), ∀ i,
      l.weightIndex layer unit (source + 1) = .ok i ↔ t.connections[i]? = some (.edge layer unit source)
  inside : ∀ layer, t.HoldsSums layer → layer < t.depth → ∃ spans, l.layer layer = .ok spans ∧
    ∀ unit < t.width layer, ∀ input ≤ t.width (layer - 1), ∃ i,
      l.weightIndex layer unit input = .ok i ∧ spans.weights.offset ≤ i ∧ i < spans.weights.stop
  gaussian : t.rbf = true → ∃ spans, l.layer 1 = .ok spans ∧ ∀ unit < t.width 1,
    3 * unit + 2 < spans.weights.length ∧
    t.connections[spans.weights.offset + 3 * unit]? = some (.meanX unit) ∧
    t.connections[spans.weights.offset + 3 * unit + 1]? = some (.meanY unit) ∧
    t.connections[spans.weights.offset + 3 * unit + 2]? = some (.variance unit)

theorem weightIndex_eq_ok_iff (fits : t.Fits) {layer unit input i : Nat} {c : Connection}
    (sums : t.HoldsSums layer) (within : layer < t.depth) (inLayer : unit < t.width layer)
    (inRow : input < t.rowLength layer)
    (named : t.connections[t.weightsBelow layer + (unit * t.rowLength layer + input)]? = some c) :
    t.layout.weightIndex layer unit input = .ok i ↔ t.connections[i]? = some c := by
  rw [(weightIndex_eq fits sums within inLayer inRow).1, Except.ok.injEq]
  constructor
  · rintro rfl
    exact named
  · exact eq_of_getElem?_connections named

theorem gaussian_named (accepted : t.Accepted) (rbf : t.rbf = true) {unit : Nat}
    (inLayer : unit < t.width 1) :
    3 * unit + 2 < t.weightCount 1 ∧
    t.connections[t.weightsBelow 1 + 3 * unit]? = some (.meanX unit) ∧
    t.connections[t.weightsBelow 1 + 3 * unit + 1]? = some (.meanY unit) ∧
    t.connections[t.weightsBelow 1 + 3 * unit + 2]? = some (.variance unit) := by
  have within : 1 < t.depth := by
    have := accepted.three_le_depth rbf
    omega
  have row : t.rowLength 1 = 3 := by simp [rowLength, isGaussianLayer, rbf, gaussianWeights]
  have entry (input : Nat) (inRow : input < 3) :
      t.connections[t.weightsBelow 1 + 3 * unit + input]? = (t.unitConnections 1 unit)[input]? := by
    have position := getElem?_connections Nat.one_pos within inLayer (row.symm ▸ inRow)
    rwa [row, Nat.mul_comm, ← Nat.add_assoc] at position
  have named : t.unitConnections 1 unit = [.meanX unit, .meanY unit, .variance unit] := by
    simp [unitConnections, isGaussianLayer, rbf]
  have last := row_lt_weightCount Nat.one_pos inLayer (show 2 < t.rowLength 1 by omega)
  rw [row, Nat.mul_comm] at last
  refine ⟨last, ?_, ?_, ?_⟩
  · simpa [named] using entry 0 (by omega)
  · simpa [named] using entry 1 (by omega)
  · simpa [named] using entry 2 (by omega)

theorem weightIndex_place (fits : t.Fits) {layer unit input : Nat} (wired : t.Wired layer unit input) :
    t.layout.weightIndex layer unit input = .ok (t.place layer unit input) :=
  (weightIndex_eq fits wired.sums wired.within wired.inLayer wired.input_lt).1

theorem placed_or_gaussian (accepted : t.Accepted) {i : Nat} (inside : i < t.weightsBelow t.depth) :
    (∃ layer unit input, t.Wired layer unit input ∧ t.place layer unit input = i) ∨
      (t.rbf = true ∧ i < (t.weightSpan 1).stop) := by
  obtain ⟨c, found⟩ := exists_getElem? t.length_connections inside
  have has := (mem_connections_iff accepted c).mp (List.mem_of_getElem? found)
  have gaussian (rbf : t.rbf = true) (input : Nat) (within : input < t.weightCount 1)
      (named : t.connections[t.weightsBelow 1 + input]? = some c) : t.rbf = true ∧ i < (t.weightSpan 1).stop := by
    rw [eq_of_getElem?_connections found named]
    exact ⟨rbf, Nat.add_lt_add_left within _⟩
  cases c with
  | meanX unit =>
    obtain ⟨last, named, -, -⟩ := gaussian_named accepted has.1 has.2
    exact .inr (gaussian has.1 (3 * unit) (by omega) named)
  | meanY unit =>
    obtain ⟨last, -, named, -⟩ := gaussian_named accepted has.1 has.2
    exact .inr (gaussian has.1 (3 * unit + 1) (by omega) named)
  | variance unit =>
    obtain ⟨last, -, -, named⟩ := gaussian_named accepted has.1 has.2
    exact .inr (gaussian has.1 (3 * unit + 2) last named)
  | bias layer unit =>
    obtain ⟨sums, within, inLayer⟩ := has
    have named := getElem?_bias sums within inLayer
    exact .inl ⟨layer, unit, 0, ⟨sums, within, inLayer, Nat.zero_le _⟩, eq_of_getElem?_connections named found⟩
  | edge layer unit source =>
    obtain ⟨sums, within, inLayer, below⟩ := has
    have named := getElem?_edge sums within inLayer below
    exact .inl ⟨layer, unit, source + 1, ⟨sums, within, inLayer, below⟩, eq_of_getElem?_connections named found⟩

theorem layout_names (accepted : t.Accepted) (fits : t.Fits) : t.layout.Names t where
  length := t.length_connections
  nodup := t.nodup_connections
  complete := mem_connections_iff accepted
  bias := by
    intro layer sums within unit inLayer i
    exact weightIndex_eq_ok_iff fits sums within inLayer (by rw [rowLength_of_sums sums]; omega)
      (getElem?_bias sums within inLayer)
  edge := by
    intro layer sums within unit inLayer source below i
    exact weightIndex_eq_ok_iff fits sums within inLayer (by rw [rowLength_of_sums sums]; omega)
      (getElem?_edge sums within inLayer below)
  inside := by
    intro layer sums within
    refine ⟨t.spans layer, layer_eq within, ?_⟩
    intro unit inLayer input inRow
    obtain ⟨found, below⟩ := weightIndex_eq fits sums within inLayer
      (show input < t.rowLength layer by rw [rowLength_of_sums sums]; omega)
    exact ⟨_, found, Nat.le_add_right _ _, below⟩
  gaussian := by
    intro rbf
    have within : 1 < t.depth := by
      have := accepted.three_le_depth rbf
      omega
    exact ⟨t.spans 1, layer_eq within, fun unit inLayer => gaussian_named accepted rbf inLayer⟩

theorem connections_name_weights {sizes : List Nat} {rbf : Bool} {t : Topology}
    (accepted : Topology.ofSizes sizes rbf = .ok t) (fits : t.Fits) :
    ∃ l, ofTopology t = .ok l ∧ l.connections t = .ok t.connections ∧ l.Names t := by
  obtain ⟨-, accepted⟩ := (ofSizes_eq_ok_iff sizes rbf t).mp accepted
  have placed := (ofTopology_eq_ok_iff t t.layout).mpr ⟨accepted.sizes_ne_nil, fits, rfl⟩
  have names := layout_names accepted fits
  exact ⟨t.layout, placed, connections_eq t, names⟩

theorem connections_name_weights_of_gaussian_net :
    Topology.ofSizes [2, 3, 2, 1] true = .ok ⟨[2, 3, 2, 1], true⟩ ∧
      (⟨[2, 3, 2, 1], true⟩ : Topology).Fits ∧
      ∃ l, ofTopology ⟨[2, 3, 2, 1], true⟩ = .ok l ∧
        l.connections ⟨[2, 3, 2, 1], true⟩ = .ok (Topology.connections ⟨[2, 3, 2, 1], true⟩) ∧
        l.Names ⟨[2, 3, 2, 1], true⟩ := by
  have accepted : Topology.ofSizes [2, 3, 2, 1] true = .ok ⟨[2, 3, 2, 1], true⟩ := rfl
  have fits : (⟨[2, 3, 2, 1], true⟩ : Topology).Fits := by decide
  exact ⟨accepted, fits, connections_name_weights accepted fits⟩

end Layout

end PlaneNet
