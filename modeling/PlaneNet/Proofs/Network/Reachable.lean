import PlaneNet.Proofs.Network.Response
import PlaneNet.Proofs.Network.Steps

set_option autoImplicit false

namespace PlaneNet.Network

variable {W R : Type} [Scalar R] [Exponential R] [Storage W R]

inductive Operation (W R : Type) where
  | forward (x y : W)
  | backward (target : R)
  | update (rate coefficient : R)
  | train (x y : W) (target rate coefficient : R)
  | installClusters (clusters : List (Cluster R))
  | setWeight (i : Nat) (w : W)

def Operation.run (n : Network W R) : Operation W R → Except Error (Network W R)
  | .forward x y => do return (← n.forward x y).2
  | .backward target => do return (← n.backward target).2
  | .update rate coefficient => n.update rate coefficient
  | .train x y target rate coefficient => do return (← n.train x y target rate coefficient).2
  | .installClusters clusters => n.installClusters clusters
  | .setWeight i w => n.setWeight i w

inductive Reachable : Network W R → Prop where
  | ofWeights {sizes : List Nat} {rbf : Bool} {t : Topology} {a : Activation} {weights : List W}
      {n : Network W R} (accepted : Topology.ofSizes sizes rbf = .ok t)
      (built : ofWeights t a weights = .ok n) : Reachable n
  | ofStream {G : Type} [Random.Source G] {sizes : List Nat} {rbf : Bool} {t : Topology} {a : Activation}
      {words rest : G} {n : Network W R} (accepted : Topology.ofSizes sizes rbf = .ok t)
      (built : ofStream t a words = .ok (n, rest)) : Reachable n
  | step {n after : Network W R} (before : Reachable n) (op : Operation W R)
      (run : op.run n = .ok after) : Reachable after

theorem train_sound {n after : Network W R} {x y : W} {target rate coefficient e : R} (sound : n.Sound)
    (run : n.train x y target rate coefficient = .ok (e, after)) : after.Sound := by
  simp only [train, forward_eq_ok x y sound, ok_bind] at run
  obtain ⟨⟨e', back⟩, passed, rest⟩ := (bind_eq_ok_iff _ _ _).mp run
  obtain ⟨last, updated, done⟩ := (bind_eq_ok_iff _ _ _).mp rest
  cases done
  have kept := (backward_sound (answered_sound x y sound) passed).1
  exact update_sound rate coefficient kept updated

theorem Operation.run_sound {n after : Network W R} {op : Operation W R} (sound : n.Sound)
    (run : op.run n = .ok after) : after.Sound := by
  cases op with
  | forward x y =>
    simp only [Operation.run, forward_eq_ok x y sound, ok_bind, pure_eq_ok, Except.ok.injEq] at run
    subst run
    exact answered_sound x y sound
  | backward target =>
    obtain ⟨⟨e, last⟩, passed, done⟩ := (bind_eq_ok_iff _ _ _).mp run
    cases done
    exact (backward_sound sound passed).1
  | update rate coefficient => exact update_sound rate coefficient sound run
  | train x y target rate coefficient =>
    obtain ⟨⟨e, last⟩, passed, done⟩ := (bind_eq_ok_iff _ _ _).mp run
    cases done
    exact train_sound sound passed
  | installClusters clusters => exact installClusters_sound sound run
  | setWeight i w => exact setWeight_sound sound run

theorem Reachable.sound {n : Network W R} (reachable : n.Reachable) : n.Sound := by
  induction reachable with
  | ofWeights accepted built =>
    exact (ofWeights_sound ((Topology.ofSizes_eq_ok_iff _ _ _).mp accepted).2 built).1
  | ofStream accepted built =>
    exact (ofStream_sound ((Topology.ofSizes_eq_ok_iff _ _ _).mp accepted).2 built).1
  | step _ op run ih => exact op.run_sound ih run

theorem exists_ofWeights {sizes : List Nat} {rbf : Bool} {t : Topology} {weights : List W}
    (accepted : Topology.ofSizes sizes rbf = .ok t) (fits : t.Fits)
    (enough : weights.length = t.weightsBelow t.depth) (a : Activation) :
    ∃ n : Network W R, ofWeights t a weights = .ok n ∧ n.Reachable ∧
      n.topology = t ∧ n.activation = a ∧ n.weights = weights := by
  obtain ⟨n, built, -, facts⟩ := ofWeights_eq_ok (R := R) (a := a) ((Topology.ofSizes_eq_ok_iff _ _ _).mp accepted).2
    fits enough
  exact ⟨n, built, .ofWeights accepted built, facts⟩

end PlaneNet.Network
