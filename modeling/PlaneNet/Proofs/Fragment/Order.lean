import PlaneNet.Binary.Machine
import PlaneNet.Fragment.Program
import PlaneNet.Proofs.Layout.Naming
import PlaneNet.Proofs.Network.Reachable

set_option autoImplicit false

namespace PlaneNet

theorem Topology.sum_unitLayers (t : Topology) (n : Nat) :
    ((List.range' 1 n).map fun layer =>
        if t.isGaussianLayer layer then 3 * t.width layer
        else (t.width (layer - 1) + 1) * t.width layer).sum = t.weightsBelow (n + 1) := by
  induction n with
  | zero => rfl
  | succ n ih =>
    have last : t.weightCount (n + 1) =
        if t.isGaussianLayer (n + 1) then 3 * t.width (n + 1)
        else (t.width n + 1) * t.width (n + 1) := by
      rw [weightCount_of_pos (Nat.succ_pos n), rowLength]
      split <;> rfl
    rw [List.range'_concat, List.map_append, List.sum_append, ih, weightsBelow_succ t (n + 1), last]
    simp [Nat.add_comm]

namespace Fragment

open PlaneNet.Topology

variable {t : Topology}

theorem terms_eq (layer unit source next count : Nat) :
    terms layer unit source next count =
      ((List.range count).map fun i => (next + i, .unit (layer - 1) (source + i)),
        (List.range count).map fun i => .edge layer unit (source + i)) := by
  induction count generalizing source next with
  | zero => rfl
  | succ count ih =>
    simp only [terms, ih, List.range_succ_eq_map, List.map_cons, List.map_map, Function.comp_def,
      Nat.add_zero, Nat.succ_eq_add_one, Nat.add_assoc, Nat.add_comm 1]

theorem unitEquation_reads (t : Topology) (layer unit next : Nat) :
    (unitEquation t layer unit next).reads = t.unitConnections layer unit := by
  rw [unitEquation, unitConnections]
  split
  · rfl
  · simp only [sumEquation, terms_eq, Nat.zero_add]

theorem weightOrder_equationsFrom (t : Topology) (next : Nat) (us : List (Nat × Nat)) :
    weightOrder (equationsFrom t next us) = us.flatMap fun (layer, unit) => t.unitConnections layer unit := by
  induction us generalizing next with
  | nil => rfl
  | cons u rest ih =>
    have tail := ih (next + (t.unitConnections u.1 u.2).length)
    rw [weightOrder] at tail ⊢
    rw [equationsFrom, List.flatMap_cons, List.flatMap_cons, unitEquation_reads, tail]

theorem weightOrder_equations (t : Topology) : weightOrder (equations t) = t.connections := by
  rw [equations, weightOrder_equationsFrom, units, connections, List.flatMap_assoc]
  refine List.flatMap_congr fun layer _ => ?_
  rw [List.flatMap_map]

theorem program_eq (accepted : t.Accepted) (fits : t.Fits) (a : Activation) (held : Nat) :
    program t a held =
      if held = t.weightsBelow t.depth then .ok (assemble t a held (equations t))
      else .error (.invalidConfig (.weightBuffer (t.weightsBelow t.depth) held)) := by
  have placed := Layout.ofTopology_of_fits accepted fits
  rw [program]
  simp only [weightOrder_equations, length_connections, placed, Layout.connections_eq, ok_bind, ne_eq, not_true_eq_false,
    if_false, pure_eq_ok]
  by_cases same : held = t.weightsBelow t.depth
  · rw [if_neg (not_not.mpr same.symm), if_pos same]
  · rw [if_pos (Ne.symm same), if_neg same]

theorem program_of_reachable {W R : Type} [Scalar R] [Exponential R] [Storage W R] {n : Network W R}
    (reachable : n.Reachable) :
    program n.topology n.activation n.weights.length =
      .ok (assemble n.topology n.activation n.weights.length (equations n.topology)) := by
  have sound := reachable.sound
  rw [program_eq sound.accepted sound.fits, if_pos sound.weights]

theorem program_reads_layout_order (W R : Type) [Scalar R] [Exponential R] [Storage W R] {sizes : List Nat}
    {rbf : Bool} {t : Topology} (accepted : Topology.ofSizes sizes rbf = .ok t) (fits : t.Fits) :
    ∃ l, Layout.ofTopology t = .ok l ∧ l.connections t = .ok (weightOrder (equations t)) ∧
      (weightOrder (equations t)).length = l.extent.weights ∧
      l.extent.weights = (t.unitLayers.map fun layer =>
        if t.isGaussianLayer layer then 3 * t.width layer
        else (t.width (layer - 1) + 1) * t.width layer).sum ∧
      (∀ (a : Activation) (held : Nat), program t a held =
        if held = l.extent.weights then .ok (assemble t a held (equations t))
        else .error (.invalidConfig (.weightBuffer l.extent.weights held))) ∧
      ∀ n : Network W R, n.Reachable → ∃ text,
        program n.topology n.activation n.weights.length = .ok text := by
  obtain ⟨-, accepted⟩ := (ofSizes_eq_ok_iff sizes rbf t).mp accepted
  have placed := (Layout.ofTopology_eq_ok_iff t t.layout).mpr ⟨accepted.sizes_ne_nil, fits, rfl⟩
  have length : (weightOrder (equations t)).length = t.layout.extent.weights := by
    rw [weightOrder_equations, length_connections]
    rfl
  have total := t.sum_unitLayers (t.depth - 1)
  rw [Nat.sub_add_cancel (Nat.le_of_succ_le accepted.two_le_depth)] at total
  refine ⟨t.layout, placed, ?_, length, total.symm, program_eq accepted fits, ?_⟩
  · rw [weightOrder_equations, Layout.connections_eq]
  · intro n reachable
    exact ⟨_, program_of_reachable reachable⟩

theorem program_reads_layout_order_of_gaussian_net :
    Topology.ofSizes [2, 3, 2, 1] true = .ok ⟨[2, 3, 2, 1], true⟩ ∧
      (⟨[2, 3, 2, 1], true⟩ : Topology).Fits ∧
      ∃ l, Layout.ofTopology ⟨[2, 3, 2, 1], true⟩ = .ok l ∧
        l.connections ⟨[2, 3, 2, 1], true⟩ = .ok (weightOrder (equations ⟨[2, 3, 2, 1], true⟩)) ∧
        (weightOrder (equations ⟨[2, 3, 2, 1], true⟩)).length = l.extent.weights ∧ l.extent.weights = 20 ∧
        ∀ n : Network Float32 Float, n.Reachable → ∃ text,
          program n.topology n.activation n.weights.length = .ok text := by
  have accepted : Topology.ofSizes [2, 3, 2, 1] true = .ok ⟨[2, 3, 2, 1], true⟩ := rfl
  have fits : (⟨[2, 3, 2, 1], true⟩ : Topology).Fits := by decide
  obtain ⟨l, placed, stored, length, total, -, reachable⟩ :=
    program_reads_layout_order Float32 Float accepted fits
  exact ⟨accepted, fits, l, placed, stored, length, total, reachable⟩

end Fragment

end PlaneNet
