import PlaneNet.Proofs.Fragment.Order

set_option autoImplicit false

namespace PlaneNet.Fragment

open PlaneNet.Topology

variable (t : Topology)

def firstWeight (layer unit : Nat) : Nat := t.weightsBelow layer + unit * t.rowLength layer

def equationOf (u : Nat × Nat) : Equation := unitEquation t u.1 u.2 (firstWeight t u.1 u.2)

def lineOf (u : Nat × Nat) : String := (equationOf t u).statement.text

theorem target_equationOf (u : Nat × Nat) : (equationOf t u).statement.target = variableOf t u.1 u.2 := by
  rw [equationOf, unitEquation]
  split <;> rfl

def layerUnits (layer : Nat) : List (Nat × Nat) :=
  if layer = 0 then [] else (List.range (t.width layer)).map fun unit => (layer, unit)

theorem units_eq_blocks : units t = blocks (layerUnits t) t.depth := t.flatMap_unitLayers _

theorem equationsFrom_append (next : Nat) (us vs : List (Nat × Nat)) :
    equationsFrom t next (us ++ vs) =
      equationsFrom t next us ++
        equationsFrom t (next + (weightOrder (equationsFrom t next us)).length) vs := by
  induction us generalizing next with
  | nil => rfl
  | cons u us ih =>
    simp only [List.cons_append, equationsFrom, ih, weightOrder, List.flatMap_cons, List.length_append,
      Nat.add_assoc]

theorem length_weightOrder_layer (next layer n : Nat) :
    (weightOrder (equationsFrom t next ((List.range n).map fun unit => (layer, unit)))).length =
      n * t.rowLength layer := by
  rw [weightOrder_equationsFrom, List.flatMap_map]
  exact length_unitBlocks t layer n

theorem length_weightOrder_blocks (next n : Nat) :
    (weightOrder (equationsFrom t next (blocks (layerUnits t) n))).length = t.weightsBelow n := by
  rw [weightOrder_equationsFrom, ← length_layerBlocks, blocks, blocks, List.flatMap_assoc]
  congr 1
  refine List.flatMap_congr fun layer _ => ?_
  rw [layerUnits, layerConnections]
  split
  · rfl
  · rw [List.flatMap_map, blocks]

theorem equationsFrom_layer (layer n : Nat) :
    equationsFrom t (t.weightsBelow layer) ((List.range n).map fun unit => (layer, unit)) =
      (List.range n).map fun unit => equationOf t (layer, unit) := by
  induction n with
  | zero => rfl
  | succ n ih =>
    rw [List.range_succ, List.map_append, equationsFrom_append, length_weightOrder_layer, ih, List.map_append]
    rfl

theorem equationsFrom_blocks (n : Nat) :
    equationsFrom t 0 (blocks (layerUnits t) n) = (blocks (layerUnits t) n).map (equationOf t) := by
  induction n with
  | zero => rfl
  | succ n ih =>
    have layer : equationsFrom t (t.weightsBelow n) (layerUnits t n) = (layerUnits t n).map (equationOf t) := by
      rw [layerUnits]
      split
      · rfl
      · rw [equationsFrom_layer, List.map_map]
        rfl
    rw [blocks_succ, equationsFrom_append, length_weightOrder_blocks, Nat.zero_add, ih, layer, List.map_append]

theorem equations_eq_map : equations t = (units t).map (equationOf t) := by
  rw [equations, units_eq_blocks, equationsFrom_blocks]

theorem lines_eq_map : lines (equations t) = (units t).map (lineOf t) := by
  rw [lines, equations_eq_map, List.map_map]
  rfl

section Place

/-- The units of the layers below, and the first units of a layer. -/
def unitsBefore (layer unit : Nat) : List (Nat × Nat) :=
  blocks (layerUnits t) layer ++ (List.range unit).map fun unit => (layer, unit)

variable {t} {layer unit : Nat}

theorem variableOf_of_lt (below : layer < t.outputLayer) : variableOf t layer unit = .unit layer unit :=
  if_neg (Nat.ne_of_lt below)

theorem unitsBefore_zero (layer : Nat) : unitsBefore t layer 0 = blocks (layerUnits t) layer := List.append_nil _

theorem lt_of_mem_unitsBefore {u : Nat × Nat} (member : u ∈ unitsBefore t layer 0) : u.1 < layer := by
  rw [unitsBefore_zero, blocks, List.mem_flatMap] at member
  obtain ⟨below, inRange, inLayer⟩ := member
  rw [layerUnits] at inLayer
  split at inLayer
  · cases inLayer
  · obtain ⟨_, -, rfl⟩ := List.mem_map.mp inLayer
    exact List.mem_range.mp inRange

theorem unitsBefore_succ : unitsBefore t layer (unit + 1) = unitsBefore t layer unit ++ [(layer, unit)] := by
  rw [unitsBefore, List.range_succ, List.map_append, ← List.append_assoc]
  rfl

theorem unitsBefore_next (above : 0 < layer) :
    unitsBefore t (layer + 1) 0 = unitsBefore t layer (t.width layer) := by
  rw [unitsBefore, unitsBefore, blocks_succ, List.range_zero, List.map_nil, List.append_nil, layerUnits,
    if_neg (by omega)]

theorem length_unitsBefore (above : 0 < layer) (unit : Nat) :
    (unitsBefore t layer unit).length = ((List.range' 1 (layer - 1)).map t.width).sum + unit := by
  obtain ⟨below, rfl⟩ : ∃ below, layer = below + 1 := ⟨layer - 1, by omega⟩
  have blocks_length : (blocks (layerUnits t) (below + 1)).length = ((List.range' 1 below).map t.width).sum := by
    clear above
    induction below with
    | zero => rfl
    | succ below ih =>
      rw [blocks_succ, List.length_append, ih, List.range'_concat, List.map_append, List.sum_append]
      simp [layerUnits, Nat.add_comm]
  rw [unitsBefore, List.length_append, blocks_length, List.length_map, List.length_range, Nat.add_sub_cancel]

theorem length_units (accepted : t.Accepted) : (units t).length = (t.unitLayers.map t.width).sum := by
  have total := length_unitsBefore (t := t) (Nat.lt_of_succ_lt accepted.two_le_depth) 0
  rwa [unitsBefore_zero, ← units_eq_blocks, Nat.add_zero] at total

theorem units_eq_concat (accepted : t.Accepted) :
    units t = unitsBefore t t.outputLayer 0 ++ [(t.outputLayer, 0)] := by
  have next := unitsBefore_next (t := t) accepted.outputLayer_holdsSums.1
  rw [accepted.output, accepted.outputLayer_add_one, unitsBefore_zero, ← units_eq_blocks] at next
  exact next.trans unitsBefore_succ

theorem units_eq_append (above : 0 < layer) (within : layer < t.depth) (inLayer : unit < t.width layer) :
    ∃ rest, units t = unitsBefore t layer unit ++ (layer, unit) :: rest := by
  obtain ⟨higher, split⟩ := blocks_eq_append (layerUnits t) within
  have row : layerUnits t layer = (List.range (t.width layer)).map fun unit => (layer, unit) :=
    if_neg (by omega)
  obtain ⟨later, count⟩ : ∃ later, t.width layer = unit + (later + 1) := ⟨t.width layer - unit - 1, by omega⟩
  have range : List.range (t.width layer) = List.range unit ++ unit :: List.range' (unit + 1) later := by
    rw [count, List.range_eq_range', List.range_eq_range', ← List.range'_append_1, Nat.zero_add,
      List.range'_succ]
  refine ⟨(List.range' (unit + 1) later).map (fun unit => (layer, unit)) ++ higher, ?_⟩
  rw [units_eq_blocks, split, row, range, unitsBefore, List.map_append, List.map_cons]
  simp only [List.append_assoc, List.cons_append]

end Place

end PlaneNet.Fragment
