import PlaneNet.Proofs.Exact
import PlaneNet.Proofs.Fragment.Evaluation
import PlaneNet.Proofs.Network.Forward

set_option autoImplicit false

namespace PlaneNet.Fragment

open Network
open Scalar (zero one)

variable {W R : Type} [Scalar R] [Exponential R] [Storage W R]

structure Agrees (t : Topology) (a : Activation) (weights : List W) (x y : W) (out : R)
    (after : Network W R) : Prop where
  formed : ∀ line ∈ lines (equations t), ∃ d, Declaration.ofLine? line = some d
  length : (lines (equations t)).length = (t.unitLayers.map t.width).sum
  units : ∀ layer, 0 < layer → layer < t.depth → ∀ unit < t.width layer,
    ∃ before line rest known values v,
      lines (equations t) = before ++ line :: rest ∧
      before.length = ((List.range' 1 (layer - 1)).map t.width).sum + unit ∧
      run a weights (inputs x y) before = some known ∧
      declare a weights known line =
        some ((if layer = t.outputLayer then "val" else unitName layer unit, v) :: known) ∧
      after.layerValues layer = .ok values ∧ values[unit + 1]? = some v
  output : ∃ known, run a weights (inputs x y) (lines (equations t)) = some known ∧
    known.lookup "val" = some out

variable {t : Topology} {a : Activation} {weights : List W} {x y : W}

theorem holds_inputs (accepted : t.Accepted) : Holds t a weights x y 1 0 (inputs x y) := by
  constructor
  · intro source inBelow
    have two : source < 2 := by
      rw [← accepted.input]
      exact inBelow
    interval_cases source <;> rfl
  · intro earlier before
    omega

theorem Holds.next {layer : Nat} {known : List (String × R)} (lower : layer < t.outputLayer)
    (holds : Holds t a weights x y layer (t.width layer) known) : Holds t a weights x y (layer + 1) 0 known := by
  constructor
  · intro source inBelow
    rw [Nat.add_sub_cancel] at inBelow ⊢
    have level := holds.level source inBelow
    rw [variableOf_of_lt lower] at level
    exact level
  · intro earlier before
    omega

section Run

variable (law : ∀ v : R, zero + v * one = v) (accepted : t.Accepted)
  (full : weights.length = t.weightsBelow t.depth)

include law accepted full

theorem run_level {layer : Nat} (above : 0 < layer) (within : layer < t.depth)
    (start : ∃ known, run a weights (inputs x y) ((unitsBefore t layer 0).map (lineOf t)) = some known ∧
      Holds t a weights x y layer 0 known) (unit : Nat) (inLayer : unit ≤ t.width layer) :
    ∃ known, run a weights (inputs x y) ((unitsBefore t layer unit).map (lineOf t)) = some known ∧
      Holds t a weights x y layer unit known := by
  induction unit with
  | zero => exact start
  | succ unit ih =>
    obtain ⟨known, ran, holds⟩ := ih (Nat.le_of_succ_le inLayer)
    obtain ⟨v, value, declared⟩ := declare_line law accepted full holds above within inLayer
    refine ⟨_, ?_, holds.declared accepted above within inLayer value⟩
    rw [unitsBefore_succ, List.map_append, run, List.foldlM_append]
    rw [run] at ran
    simp [ran, declared]

-- Layer by layer, and unit by unit within each.
theorem run_unitsBefore {layer : Nat} (above : 0 < layer) (within : layer < t.depth) (unit : Nat)
    (inLayer : unit ≤ t.width layer) :
    ∃ known, run a weights (inputs x y) ((unitsBefore t layer unit).map (lineOf t)) = some known ∧
      Holds t a weights x y layer unit known := by
  induction layer, above using Nat.le_induction generalizing unit with
  | base => exact run_level law accepted full Nat.one_pos within ⟨_, rfl, holds_inputs accepted⟩ unit inLayer
  | succ layer above ih =>
    have lower : layer < t.outputLayer := by
      simp only [Topology.outputLayer, Topology.depth] at *
      omega
    obtain ⟨known, ran, holds⟩ := ih (Nat.lt_of_succ_lt within) (t.width layer) (Nat.le_refl _)
    rw [← unitsBefore_next above] at ran
    exact run_level law accepted full (Nat.succ_pos layer) within ⟨known, ran, holds.next lower⟩ unit inLayer

theorem run_lines : ∃ known : List (String × R), run a weights (inputs x y) (lines (equations t)) = some known ∧
    known.lookup outputName = (response t a weights x y t.outputLayer)[1]? := by
  have sums := accepted.outputLayer_holdsSums
  obtain ⟨known, ran, holds⟩ := run_unitsBefore law accepted full sums.1 accepted.outputLayer_lt 1
    accepted.output.symm.le
  refine ⟨known, ?_, ?_⟩
  · rw [lines_eq_map, units_eq_concat accepted, ← unitsBefore_succ, ran]
  · have output := holds.level 0 Nat.one_pos
    rw [variableOf, if_pos rfl] at output
    exact output

theorem answered_agrees {n : Network W R} (sound : n.Sound) (topology : n.topology = t)
    (activation : n.activation = a) (same : n.weights = weights) :
    Agrees t a weights x y (n.answer x y) (n.answered x y) := by
  subst topology activation same
  refine ⟨?_, ?_, ?_, ?_⟩
  · intro line member
    rw [lines_eq_map] at member
    obtain ⟨u, -, rfl⟩ := List.mem_map.mp member
    exact ⟨_, ofLine?_text _⟩
  · rw [lines_eq_map, List.length_map, length_units accepted]
  · intro layer above within unit inLayer
    obtain ⟨rest, split⟩ := units_eq_append above within inLayer
    obtain ⟨known, ran, holds⟩ := run_unitsBefore law accepted full (x := x) (y := y)
      (a := n.activation) above within unit (Nat.le_of_lt inLayer)
    obtain ⟨v, value, declared⟩ := declare_line law accepted full holds above within inLayer
    refine ⟨_, lineOf n.topology (layer, unit), rest.map (lineOf n.topology), known,
      response n.topology n.activation n.weights x y layer, v, ?_, ?_, ran, ?_,
      layerValues_answered sound x y within, value⟩
    · rw [lines_eq_map, split, List.map_append, List.map_cons]
    · rw [List.length_map, length_unitsBefore above]
    · rw [declared, variableOf]
      split <;> rfl
  · obtain ⟨known, ran, output⟩ := run_lines law accepted full (x := x) (y := y) (a := n.activation)
    refine ⟨known, ran, output.trans ?_⟩
    have long := length_response n.activation n.weights x y accepted n.topology.outputLayer
    rw [accepted.output] at long
    rw [answer, List.getD_eq_getElem?_getD, List.getElem?_eq_getElem (by omega)]
    rfl

end Run

theorem program_computes_forward (law : ∀ v : R, zero + v * one = v) {sizes : List Nat} {rbf : Bool}
    {t : Topology} {l : Layout} (accepted : Topology.ofSizes sizes rbf = .ok t)
    (placed : Layout.ofTopology t = .ok l) (a : Activation) (weights : List W)
    (enough : weights.length = l.extent.weights) (x y : W) :
    ∃ (n : Network W R) (out : R) (after : Network W R), ofWeights t a weights = .ok n ∧
      n.forward x y = .ok (out, after) ∧ Agrees t a weights x y out after := by
  obtain ⟨-, accepted⟩ := (Topology.ofSizes_eq_ok_iff sizes rbf t).mp accepted
  obtain ⟨-, fits, rfl⟩ := (Layout.ofTopology_eq_ok_iff t l).mp placed
  obtain ⟨n, built, sound, topology, activation, same⟩ := ofWeights_eq_ok (R := R) (a := a) accepted fits enough
  exact ⟨n, _, _, built, forward_eq_ok x y sound,
    answered_agrees law accepted enough sound topology activation same⟩

theorem program_computes_forward_of_gaussian_net :
    (∀ v : ℝ, zero + v * one = v) ∧
      Topology.ofSizes [2, 2, 2, 1] true = .ok ⟨[2, 2, 2, 1], true⟩ ∧
      Layout.ofTopology ⟨[2, 2, 2, 1], true⟩ = .ok (Topology.layout ⟨[2, 2, 2, 1], true⟩) ∧
      (List.replicate 15 1 : List ℝ).length = (Topology.layout ⟨[2, 2, 2, 1], true⟩).extent.weights ∧
      ∃ (n : Network ℝ ℝ) (out : ℝ) (after : Network ℝ ℝ),
        ofWeights ⟨[2, 2, 2, 1], true⟩ .tanh (List.replicate 15 1) = .ok n ∧
        n.forward 3 4 = .ok (out, after) ∧
        Agrees ⟨[2, 2, 2, 1], true⟩ .tanh (List.replicate 15 1) 3 4 out after := by
  have accepted : Topology.ofSizes [2, 2, 2, 1] true = .ok ⟨[2, 2, 2, 1], true⟩ := rfl
  have placed : Layout.ofTopology ⟨[2, 2, 2, 1], true⟩ = .ok (Topology.layout ⟨[2, 2, 2, 1], true⟩) :=
    (Layout.ofTopology_eq_ok_iff _ _).mpr ⟨by decide, by decide, rfl⟩
  have enough : (List.replicate 15 1 : List ℝ).length =
      (Topology.layout ⟨[2, 2, 2, 1], true⟩).extent.weights := by
    rw [List.length_replicate]
    rfl
  exact ⟨zero_add_mul_one, accepted, placed, enough,
    program_computes_forward zero_add_mul_one accepted placed .tanh _ enough 3 4⟩

end PlaneNet.Fragment
