import PlaneNet.Proofs.Network.Training

set_option autoImplicit false

namespace PlaneNet

namespace Network

variable {W R : Type} [Scalar R]

open Scalar (zero one)

inductive Call (W R : Type) where
  | operate (op : Operation W R)
  | predict (x y : W)

def Call.InRange (count : Nat) : Call W R → Prop
  | .operate (.setWeight i _) => i < count
  | _ => True

structure Keeps (before after : Network W R) : Prop where
  sound : after.Sound
  topology : after.topology = before.topology
  activation : after.activation = before.activation

structure Intact (start n : Network W R) : Prop where
  topology : n.topology = start.topology
  layout : n.layout = start.layout
  activation : n.activation = start.activation
  weights : n.weights.length = n.layout.extent.weights
  momentums : n.momentums.length = n.layout.extent.weights
  values : n.values.length = n.layout.extent.values
  preActivations : n.preActivations.length = n.layout.extent.slots
  errors : n.errors.length = n.layout.extent.slots
  bias : ∀ spans ∈ n.layout.layers, Buffer.cell spans.values.offset n.values = .ok one
  rested : n.topology.rbf = true → ∃ spans, n.layout.layer 1 = .ok spans ∧
    ∀ i, spans.weights.offset ≤ i → i < spans.weights.stop → Buffer.cell i n.momentums = .ok zero

variable {n after : Network W R}

theorem Keeps.trans {last : Network W R} (first : n.Keeps after) (second : after.Keeps last) :
    n.Keeps last :=
  ⟨second.sound, second.topology.trans first.topology, second.activation.trans first.activation⟩

theorem Keeps.weights (sound : n.Sound) (kept : n.Keeps after) :
    after.weights.length = n.weights.length := by
  rw [kept.sound.weights, kept.topology, sound.weights]

theorem Keeps.intact (sound : n.Sound) (kept : n.Keeps after) : n.Intact after where
  topology := kept.topology
  layout := by rw [kept.sound.layout, kept.topology, sound.layout]
  activation := kept.activation
  weights := by rw [kept.sound.layout]; exact kept.sound.weights
  momentums := by rw [kept.sound.layout]; exact kept.sound.momentums
  values := by rw [kept.sound.layout]; exact kept.sound.values
  preActivations := by rw [kept.sound.layout]; exact kept.sound.preActivations
  errors := by rw [kept.sound.layout]; exact kept.sound.errors
  bias := by
    intro spans member
    rw [kept.sound.layout] at member
    obtain ⟨layer, within, rfl⟩ := List.mem_map.mp member
    exact Buffer.cell_eq_ok_iff.mpr (kept.sound.bias layer (List.mem_range.mp within))
  rested := by
    intro rbf
    refine ⟨_, kept.sound.layer_eq kept.sound.accepted.two_le_depth, fun i _ last => ?_⟩
    have first : after.topology.weightsBelow 1 = 0 := rfl
    simp only [Topology.spans_weights, Topology.weightSpan, Span.stop, first, Nat.zero_add] at last
    exact Buffer.cell_eq_ok_iff.mpr (kept.sound.rested rbf i last)

variable [Storage W R] [Exponential R]

-- Clusters can be refused, which leaves the network as it was. No other call may fail.
def Call.run (n : Network W R) : Call W R → Except Error (Network W R)
  | .operate (.installClusters clusters) =>
    match n.installClusters clusters with
    | .error (.invalidConfig _) | .error (.invalidData _) => .ok n
    | result => result
  | .operate op => op.run n
  | .predict x y => do
    let _ ← n.predict x y
    return n

def session (n : Network W R) (calls : List (Call W R)) : Except Error (Network W R) :=
  calls.foldlM Call.run n

theorem installClusters_run_eq_ok (sound : n.Sound) (clusters : List (Cluster R)) :
    ∃ after, (Call.operate (.installClusters clusters)).run n = .ok after ∧ n.Keeps after := by
  cases suited : n.clusterFault? clusters with
  | none =>
    have installed := installClusters_eq_ok sound suited
    exact ⟨_, by rw [Call.run, installed], installClusters_sound sound installed, rfl, rfl⟩
  | some e =>
    have refused : n.installClusters clusters = .error e := by rw [installClusters, suited]
    refine ⟨n, ?_, sound, rfl, rfl⟩
    rcases clusterFault?_kind suited with ⟨cause, rfl⟩ | ⟨cause, rfl⟩ <;> rw [Call.run, refused]

theorem Call.run_eq_ok (sound : n.Sound) (call : Call W R) (inRange : call.InRange n.weights.length) :
    ∃ after, call.run n = .ok after ∧ n.Keeps after := by
  match call, inRange with
  | .operate (.forward x y), _ =>
    have run := congrArg (· >>= fun result => pure result.2) (forward_eq_ok x y sound)
    exact ⟨_, run, answered_sound x y sound, rfl, rfl⟩
  | .operate (.backward target), _ =>
    obtain ⟨out, es, -, backward, passed⟩ := backward_passedTo sound target
    have run := congrArg (· >>= fun result => pure result.2) backward
    exact ⟨_, run, sound.with_errors passed.length, rfl, rfl⟩
  | .operate (.update rate coefficient), _ =>
    obtain ⟨ws, ms, updated, kept⟩ := update_eq_ok rate coefficient sound
    exact ⟨_, updated, kept, rfl, rfl⟩
  | .operate (.train x y target rate coefficient), _ =>
    have stepped := train_eq_ok sound x y target rate coefficient
    have run := congrArg (· >>= fun result => pure result.2) stepped
    exact ⟨_, run, train_sound sound stepped, rfl, rfl⟩
  | .operate (.installClusters clusters), _ => exact installClusters_run_eq_ok sound clusters
  | .operate (.setWeight i w), inRange =>
    have written : n.setWeight i w = .ok { n with weights := n.weights.set i w } := by
      rw [setWeight, Buffer.write_cell_eq_ok w inRange]
      rfl
    exact ⟨_, written, setWeight_sound sound written, rfl, rfl⟩
  | .predict x y, _ =>
    refine ⟨n, ?_, sound, rfl, rfl⟩
    rw [Call.run, Network.predict, forward_eq_ok x y sound]
    rfl

theorem session_eq_ok (sound : n.Sound) (calls : List (Call W R))
    (inRange : ∀ call ∈ calls, call.InRange n.weights.length) :
    ∃ after, n.session calls = .ok after ∧ n.Keeps after := by
  have step (m : Network W R) (before : n.Keeps m) (call : Call W R) (member : call ∈ calls) :
      ∃ next, call.run m = .ok next ∧ n.Keeps next := by
    obtain ⟨next, run, kept⟩ := call.run_eq_ok before.sound (before.weights sound ▸ inRange call member)
    exact ⟨next, run, before.trans kept⟩
  exact foldlM_invariant _ step n ⟨sound, rfl, rfl⟩

end Network

end PlaneNet
