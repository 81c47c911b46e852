import PlaneNet.Proofs.Trainer.Building
import PlaneNet.Proofs.Trainer.Lessons

set_option autoImplicit false

namespace PlaneNet

variable {W R G : Type}

namespace Network

open Scalar (zero one)

def layerWeights (n : Network W R) (layer : Nat) : Except Error (List W) := do
  Buffer.read (← n.layout.layer layer).weights n.weights

def layerMomentums (n : Network W R) (layer : Nat) : Except Error (List R) := do
  Buffer.read (← n.layout.layer layer).weights n.momentums

/-- The Gaussian units are the clusters, unit by unit and at rest, and answer every point as these do. -/
structure Carries [Scalar R] [Exponential R] [Storage W R] (n : Network W R) (clusters : List (Cluster R)) :
    Prop where
  weights : n.layerWeights 1 = .ok (clusters.flatMap clusterWeights)
  momentums : ∃ ms, n.layerMomentums 1 = .ok ms ∧ ∀ m ∈ ms, m = zero
  values : ∀ x y : W, ∃ out passed, n.forward x y = .ok (out, passed) ∧ passed.layerValues 1 =
    .ok (one :: clusters.map fun c => gaussianOf (widen x) (widen y) (clusterWeights c : List W))

def placedWeights (n : Network W R) : List W := (n.topology.weightSpan 1).slice n.weights

variable [Scalar R] [Storage W R] {n : Network W R} (sound : n.Sound) (rbf : n.topology.rbf = true)

include sound rbf

theorem rows_placed {clusters : List (Cluster R)} (placed : n.placedWeights = clusters.flatMap clusterWeights) :
    (List.range (n.topology.width 1)).map (n.topology.row n.weights 1) = clusters.map clusterWeights := by
  have row : n.topology.rowLength 1 = gaussianWeights :=
    Topology.rowLength_of_gaussian (Topology.isGaussianLayer_one.trans rbf)
  have stop := Topology.weightSpan_stop_le (show 1 < n.topology.depth from sound.accepted.two_le_depth)
  have length := congrArg List.length placed
  rw [placedWeights, Span.length_slice _ _ (sound.weights ▸ stop), Topology.weightSpan,
    Topology.weightCount_of_pos Nat.one_pos, row] at length
  have count : clusters.length = n.topology.width 1 := by
    simp only [List.length_flatMap, clusterWeights, List.length_cons, List.length_nil, List.map_const', List.sum_replicate,
      smul_eq_mul, gaussianWeights] at length
    omega
  have each (unit : Nat) (member : unit ∈ List.range (n.topology.width 1)) :
      n.topology.row n.weights 1 unit =
        (Span.mk (unit * gaussianWeights) gaussianWeights).slice (clusters.flatMap clusterWeights) := by
    rw [Topology.row_eq_slice _ Nat.one_pos (List.mem_range.mp member), row, ← placed]
    rfl
  have even (c : Cluster R) : (clusterWeights c : List W).length = gaussianWeights := rfl
  rw [List.map_congr_left each, ← Buffer.chunks_eq, ← count, Buffer.chunks_flatMap even]

variable [Exponential R]

theorem carries_of_placed {clusters : List (Cluster R)} (placed : n.placedWeights = clusters.flatMap clusterWeights) :
    n.Carries clusters := by
  have within : 1 < n.topology.depth := sound.accepted.two_le_depth
  have gaussian := Topology.isGaussianLayer_one.trans rbf
  have inside := Topology.weightSpan_stop_le within
  rw [← sound.momentums] at inside
  have layer := sound.layer_eq within
  constructor
  case weights =>
    rw [layerWeights, layer, ok_bind, Topology.spans_weights, sound.read_weights_eq_ok within]
    exact congrArg Except.ok placed
  case momentums =>
    refine ⟨(n.topology.weightSpan 1).slice n.momentums, ?_, fun m member => ?_⟩
    · rw [layerMomentums, layer, ok_bind, Topology.spans_weights, Buffer.read_eq_ok _ _ inside]
    · obtain ⟨i, below, found⟩ := List.mem_iff_getElem.mp member
      rw [Span.length_slice _ _ inside] at below
      have cell := List.getElem?_eq_some_iff.mpr ⟨_, found⟩
      rw [Span.getElem?_slice _ _ _ below, show (n.topology.weightSpan 1).offset = 0 from rfl, Nat.zero_add,
        sound.rested rbf i below] at cell
      exact (Option.some.inj cell).symm
  case values =>
    intro x y
    refine ⟨_, _, forward_eq_ok x y sound, ?_⟩
    have rows := congrArg (List.map (gaussianOf (widen x) (widen y))) (rows_placed sound rbf placed)
    rw [List.map_map, List.map_map] at rows
    rw [layerValues_answered sound x y within, response_of_gaussian _ _ _ _ gaussian]
    exact congrArg (fun units => Except.ok (one :: units)) rows

theorem placedWeights_trained (x y : W) (target rate coefficient : R) :
    (n.trained x y target rate coefficient).placedWeights = n.placedWeights :=
  (slice_updatedTo_gaussian (blamed_sound (answered_sound x y sound) _ _) rate coefficient rbf).1

theorem placedWeights_trainMany {rate coefficient : R} {visits : List (Sample W)} {errors : List R} {after : Network W R}
    (run : n.trainMany rate coefficient visits = .ok (errors, after)) : after.placedWeights = n.placedWeights := by
  induction visits generalizing n errors with
  | nil =>
    cases run
    rfl
  | cons s rest ih =>
    have trained := train_eq_ok sound s.x s.y s.target rate coefficient
    rw [trainMany, trained, ok_bind] at run
    obtain ⟨⟨others, last⟩, run, done⟩ := (bind_eq_ok_iff _ _ _).mp run
    cases done
    exact (ih (train_sound sound trained) rbf run).trans (placedWeights_trained sound rbf _ _ _ _ _)

end Network

namespace Trainer

inductive Call.TrainsOrEvaluates : Call W R → Prop where
  | learn : TrainsOrEvaluates .learn
  | meanLoss : TrainsOrEvaluates .meanLoss
  | accuracy : TrainsOrEvaluates .accuracy
  | predict (x y : W) : TrainsOrEvaluates (.network (.predict x y))

theorem Call.TrainsOrEvaluates.inRange {call : Call W R} (kind : call.TrainsOrEvaluates) (count : Nat) :
    call.InRange count := by
  cases kind <;> trivial

variable [Scalar R] [Exponential R] [Storage W R] [Random.Source G] {t after : Trainer W R G} (sound : t.Sound)
  (rbf : t.network.topology.rbf = true)

include sound rbf

theorem learn_keeps_placed {mean : R} (learned : t.learn = .ok (mean, after)) :
    after.network.placedWeights = t.network.placedWeights := by
  obtain ⟨last, ran, -, rfl⟩ := learn_eq_ok_iff.mp learned
  obtain ⟨lesson, _, again, -, trained, -⟩ := round_lesson sound
  cases again.symm.trans ran
  exact Network.placedWeights_trainMany sound.network rbf trained

theorem Call.run_keeps_placed {call : Call W R} (kind : call.TrainsOrEvaluates) (run : call.run t = .ok after) :
    after.network.placedWeights = t.network.placedWeights := by
  cases kind with
  | learn =>
    obtain ⟨⟨mean, next⟩, learned, done⟩ := (bind_eq_ok_iff _ _ _).mp run
    cases done
    exact learn_keeps_placed sound rbf learned
  | meanLoss =>
    obtain ⟨_, -, done⟩ := (bind_eq_ok_iff _ _ _).mp run
    cases done
    rfl
  | accuracy =>
    obtain ⟨_, -, done⟩ := (bind_eq_ok_iff _ _ _).mp run
    cases done
    rfl
  | predict x y =>
    obtain ⟨n, called, done⟩ := (bind_eq_ok_iff _ _ _).mp run
    obtain ⟨_, -, same⟩ := (bind_eq_ok_iff _ _ _).mp called
    cases same
    cases done
    rfl

theorem session_keeps_placed {calls : List (Call W R)} (kinds : ∀ call ∈ calls, call.TrainsOrEvaluates)
    (ran : t.session calls = .ok after) :
    t.Follows after ∧ after.network.placedWeights = t.network.placedWeights := by
  induction calls generalizing t with
  | nil =>
    cases ran
    exact ⟨sound.follows, rfl⟩
  | cons call calls ih =>
    have kind := kinds call List.mem_cons_self
    obtain ⟨next, run, rest⟩ := (bind_eq_ok_iff _ _ _).mp ran
    obtain ⟨kept, -⟩ := Call.run_follows sound (kind.inRange _) run
    obtain ⟨follows, same⟩ := ih kept.sound (kept.network.topology ▸ rbf)
      (fun other member => kinds other (List.mem_cons_of_mem _ member)) rest
    exact ⟨kept.trans follows, same.trans (Call.run_keeps_placed sound rbf kind run)⟩

omit sound rbf

theorem training_leaves_gaussians_in_place {b : Builder R} (rbf : b.rbf = true) {data : Dataset W}
    (samples : data.Reachable) {words : G} (built : (b.build data words).value = .ok t) :
    ∃ k m clusters, t.network.topology.gaussianUnits = some k ∧ KMeans.ofCount k b.maxUpdates = .ok m ∧
      (m.fit data (t.network.layout.afterDrawing words)).result.value = .ok clusters ∧
      t.network.Carries clusters ∧
      ∀ calls : List (Call W R), (∀ call ∈ calls, call.TrainsOrEvaluates) →
        (calls.countP Call.learns < Word.limit → ∃ after, t.session calls = .ok after) ∧
        ∀ after, t.session calls = .ok after → after.network.Carries clusters := by
  have sound := Builder.build_sound samples.permuted built
  obtain ⟨drawn, -, composes⟩ := Builder.composes_of_build_eq_ok built
  obtain ⟨k, spans, clusters, seeded⟩ := composes.gaussian rbf
  have within : 1 < t.network.topology.depth := sound.network.accepted.two_le_depth
  have gaussian := (Topology.gaussianUnits_eq_some_iff.mp seeded.units).1
  have positive := sound.network.accepted.gaussianUnits_pos seeded.units
  have placed : t.network.placedWeights = clusters.flatMap Network.clusterWeights := by
    cases (sound.network.layer_eq within).symm.trans seeded.layer
    exact Except.ok.inj ((sound.network.read_weights_eq_ok within).symm.trans seeded.inside)
  have clustered : (KMeans.fit ⟨k, b.maxUpdates⟩ data (t.network.layout.afterDrawing words)).result.value =
      .ok clusters := by
    obtain ⟨-, -, fitted⟩ := KMeans.fit_of_le (R := R) (t.network.layout.afterDrawing words)
      (m := ⟨k, b.maxUpdates⟩) seeded.enough
    rw [fitted, ← seeded.shuffled]
    exact seeded.clustered
  refine ⟨k, _, clusters, seeded.units, KMeans.ofCount_eq_ok_iff.mpr ⟨positive, rfl⟩, clustered,
    Network.carries_of_placed sound.network gaussian placed, fun calls kinds => ⟨fun room => ?_, fun after ran => ?_⟩⟩
  · have fresh := Builder.build_epoch built
    obtain ⟨after, ran, -⟩ :=
      session_eq_ok sound calls (fun call member => (kinds call member).inRange _) (by omega)
    exact ⟨after, ran⟩
  · obtain ⟨kept, same⟩ := session_keeps_placed sound gaussian kinds ran
    exact Network.carries_of_placed kept.sound.network (kept.network.topology ▸ gaussian) (same.trans placed)

theorem training_leaves_gaussians_in_place_of_two_samples :
    ∃ (b : Builder Float) (data : Dataset Float32) (t : Trainer Float32 Float Random.Stream) (clusters : List (Cluster Float)),
      b = ⟨[1], true, none, none, some 5⟩ ∧ data = .ofSamples [⟨3, 4, .positive⟩, ⟨1, 1, .negative⟩] ∧
      (b.build data (.ofSeed 7)).value = .ok t ∧
      ((⟨1, some 5⟩ : KMeans).fit data (t.network.layout.afterDrawing (Random.Stream.ofSeed 7))).result.value =
        .ok clusters ∧
      t.network.Carries clusters ∧ ∃ after,
        t.session [.learn, .accuracy, .learn, .network (.predict 0 1), .meanLoss, .learn] = .ok after ∧
        after.network.Carries clusters := by
  let b : Builder Float := ⟨[1], true, none, none, some 5⟩
  let data : Dataset Float32 := .ofSamples [⟨3, 4, .positive⟩, ⟨1, 1, .negative⟩]
  have succeeds : (b.build data (Random.Stream.ofSeed 7)).value.isOk = true := by decide +kernel
  obtain ⟨t, built⟩ := exists_of_isOk succeeds
  obtain ⟨k, m, clusters, units, made, fitted, carries, frozen⟩ :=
    training_leaves_gaussians_in_place rfl (.ofSamples _) built
  obtain ⟨drawn, -, composes⟩ := Builder.composes_of_build_eq_ok built
  rw [Builder.shape_eq composes.topology] at units
  cases units
  cases made
  obtain ⟨runs, stay⟩ := frozen [.learn, .accuracy, .learn, .network (.predict 0 1), .meanLoss, .learn] <| by
    simp only [List.forall_mem_cons]
    exact ⟨.learn, .accuracy, .learn, .predict 0 1, .meanLoss, .learn, nofun⟩
  obtain ⟨after, ran⟩ := runs (by decide)
  exact ⟨b, data, t, clusters, rfl, rfl, built, fitted, carries, after, ran, stay after ran⟩

end Trainer

end PlaneNet
