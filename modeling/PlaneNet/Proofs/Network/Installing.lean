import PlaneNet.Network.Installing
import PlaneNet.Proofs.Network.Forward

set_option autoImplicit false

namespace PlaneNet

theorem map_range_eq_map {β γ : Type} {f : Nat → γ} {g : β → γ} {bs : List β}
    (each : ∀ i b, bs[i]? = some b → f i = g b) : (List.range bs.length).map f = bs.map g := by
  refine List.ext_getElem (by simp) fun i _ within => ?_
  rw [List.length_map] at within
  simpa using each i bs[i] (List.getElem?_eq_getElem within)

namespace InPlace

variable {W R : Type}

section Runs

variable {α : Type} {n m : Network W R}

theorem look_ok {access : Network W R → Except Error α} {a : α} (found : access n = .ok a) :
    look access n = .ok a n := by
  simp only [look, found]

theorem change_ok {step : Network W R → Except Error (Network W R)} (stepped : step n = .ok m) :
    change step n = .ok () m := by
  simp only [change, stepped]

theorem change_error {step : Network W R → Except Error (Network W R)} {e : Error} (failed : step n = .error e) :
    change step n = .error e n := by
  simp only [change, failed]

end Runs

structure Writes (x : InPlace W R Unit) (s : Span) (new : List W) : Prop where
  full : new.length = s.length
  run : ∀ n : Network W R, s.stop ≤ n.weights.length → x n = .ok () { n with weights := s.splice new n.weights }

namespace Writes

variable {x y : InPlace W R Unit} {s : Span} {new next : List W}

theorem nothing (offset : Nat) : Writes (pure () : InPlace W R Unit) ⟨offset, 0⟩ [] := by
  refine ⟨rfl, fun n _ => ?_⟩
  simp [Span.splice, Span.stop, pure, EStateM.pure]

theorem cell (i : Nat) (w : W) : Writes (change (R := R) (·.setWeight i w)) ⟨i, 1⟩ [w] := by
  refine ⟨rfl, fun n inside => change_ok ?_⟩
  rw [Network.setWeight, Buffer.write_eq_ok _ _ _ inside rfl]
  rfl

theorem andThen (first : Writes x s new) {length : Nat} (rest : Writes y ⟨s.stop, length⟩ next) :
    Writes (x >>= fun _ => y) ⟨s.offset, s.length + length⟩ (new ++ next) := by
  refine ⟨by rw [List.length_append, first.full, rest.full], fun n inside => ?_⟩
  have enough : s.stop + length ≤ n.weights.length := (Nat.add_assoc ..).trans_le inside
  have start : s.stop ≤ n.weights.length := Nat.le_of_add_right_le enough
  have kept : (s.splice new n.weights).length = n.weights.length := Span.length_splice _ _ _ start first.full
  have both := Span.splice_splice s length new next n.weights first.full (Nat.le_of_add_right_le start)
  rw [bind_of_ok (first.run n start), rest.run _ (enough.trans_eq kept.symm)]
  exact congrArg (fun ws => EStateM.Result.ok () { n with weights := ws }) both

end Writes

end InPlace

namespace Network

open Scalar (zero one lt)

section Writing

variable {W R : Type} [Storage W R]

open InPlace (Writes)

theorem placeUnit_writes (offset unit : Nat) (c : Cluster R) :
    Writes (placeUnit offset (unit, c)) ⟨offset + unit * gaussianWeights, gaussianWeights⟩ (clusterWeights c : List W) := by
  let start := offset + unit * gaussianWeights
  have last := (Writes.cell (R := R) (start + 1) (narrow c.meanY : W)).andThen (.cell (start + 2) (narrow c.variance))
  exact (Writes.cell start (narrow c.meanX : W)).andThen last

theorem placeUnits_writes (offset start : Nat) (clusters : List (Cluster R)) :
    Writes (((List.range' start clusters.length).zip clusters).forM (placeUnit offset))
      ⟨offset + start * gaussianWeights, clusters.length * gaussianWeights⟩
      (clusters.flatMap clusterWeights : List W) := by
  induction clusters generalizing start with
  | nil =>
    rw [List.length_nil, Nat.zero_mul]
    exact .nothing _
  | cons c rest ih =>
    have above := ih (start + 1)
    have first := placeUnit_writes (W := W) offset start c
    rw [Nat.succ_mul, ← Nat.add_assoc] at above
    have both := first.andThen above
    rw [List.length_cons, Nat.succ_mul, Nat.add_comm (rest.length * gaussianWeights)]
    exact both

end Writing

section Installing

variable {W R : Type} [Scalar R] [Storage W R] {n : Network W R}

theorem placeClusters_run (sound : n.Sound) {clusters : List (Cluster R)} (rbf : n.topology.rbf = true)
    (count : clusters.length = n.topology.width 1) :
    placeClusters clusters n = .ok ()
      { n with weights := (n.topology.weightSpan 1).splice (clusters.flatMap clusterWeights) n.weights } := by
  have within : 1 < n.topology.depth := sound.accepted.two_le_depth
  have inside := Topology.weightSpan_stop_le within
  rw [← sound.weights] at inside
  have full : (n.topology.weightSpan 1).length = clusters.length * gaussianWeights := by
    rw [Topology.weightSpan, Topology.weightCount_of_pos Nat.one_pos,
      Topology.rowLength_of_gaussian (Topology.isGaussianLayer_one.trans rbf), count, Nat.mul_comm]
  have units : ((n.topology.weightSpan 1).slice n.weights).length / gaussianWeights = clusters.length := by
    rw [Span.length_slice _ _ inside, full, Nat.mul_div_cancel _ (by decide)]
  have written := placeUnits_writes (W := W) (n.topology.weightSpan 1).offset 0 clusters
  rw [Nat.zero_mul, Nat.add_zero, ← full, ← List.range_eq_range'] at written
  rw [placeClusters, bind_of_ok (InPlace.look_ok (sound.layer_eq within)), Topology.spans_weights,
    bind_of_ok (InPlace.look_ok (sound.read_weights_eq_ok within)), units]
  exact written.run n inside

theorem install_eq_change (sound : n.Sound) (clusters : List (Cluster R)) :
    install clusters n = InPlace.change (·.installClusters clusters) n := by
  have read : (get : InPlace W R (Network W R)) n = .ok n n := rfl
  rw [install, bind_of_ok read]
  cases fault : n.clusterFault? clusters with
  | some e =>
    have refused : n.installClusters clusters = .error e := by rw [installClusters, fault]
    rw [InPlace.change_error refused]
    rfl
  | none =>
    obtain ⟨rbf, count, -⟩ := clusterFault?_eq_none (W := W) fault
    rw [InPlace.change_ok (installClusters_eq_ok sound fault)]
    exact bind_of_ok (placeClusters_run sound rbf count)

end Installing

/-- What is asked of clusters; a comparison with a number that is none fails. -/
structure Suits {W R : Type} [Scalar R] (n : Network W R) (clusters : List (Cluster R)) : Prop where
  rbf : n.topology.rbf = true
  count : clusters.length = n.topology.width 1
  positive : ∀ c ∈ clusters, lt zero c.variance = true

theorem clusterFault?_eq_none_iff {W R : Type} [Scalar R] [Storage W R] {n : Network W R} {clusters : List (Cluster R)} :
    n.clusterFault? clusters = none ↔ n.Suits clusters := by
  have first (units : n.topology.gaussianUnits = some clusters.length) :
      n.clusterFault? clusters = none ↔ ∀ c ∈ clusters, lt zero c.variance = true := by
    rw [clusterFault?_of_count units rfl, Option.map_eq_none_iff, List.findIdx?_eq_none_iff]
    simp only [Bool.not_eq_false']
  constructor
  · intro suited
    obtain ⟨rbf, count, -⟩ := clusterFault?_eq_none (W := W) suited
    exact ⟨rbf, count, (first (Topology.gaussianUnits_eq_some_iff.mpr ⟨rbf, count.symm⟩)).mp suited⟩
  · intro suits
    exact (first (Topology.gaussianUnits_eq_some_iff.mpr ⟨suits.rbf, suits.count.symm⟩)).mpr suits.positive

section Results

variable {W R : Type} [Scalar R] [Exponential R] [Storage W R]

structure Installed (n : Network W R) (clusters : List (Cluster R)) (spans : LayerSpans) (after : Network W R) :
    Prop where
  layer : n.layout.layer 1 = .ok spans
  full : spans.weights.length = 3 * clusters.length
  placed : ∀ unit c, clusters[unit]? = some c →
    after.weights[spans.weights.offset + 3 * unit]? = some (narrow c.meanX) ∧
    after.weights[spans.weights.offset + 3 * unit + 1]? = some (narrow c.meanY) ∧
    after.weights[spans.weights.offset + 3 * unit + 2]? = some (narrow c.variance)
  others : after.weights.length = n.weights.length ∧
    ∀ i, i < spans.weights.offset ∨ spans.weights.stop ≤ i → after.weights[i]? = n.weights[i]?
  rested : after.momentums = List.replicate n.momentums.length zero
  unchanged : after = { n with weights := after.weights, momentums := after.momentums }
  answers : ∀ x y : W, ∃ out passed, after.forward x y = .ok (out, passed) ∧ passed.layerValues 1 =
    .ok (one :: clusters.map fun c => gaussian (widen x) (widen y)
      (widen (narrow c.meanX : W)) (widen (narrow c.meanY : W)) (widen (narrow c.variance : W)))

variable {n : Network W R} {clusters : List (Cluster R)}

theorem installed_of_suits (sound : n.Sound) (suits : n.Suits clusters) :
    ∃ spans after, n.installClusters clusters = .ok after ∧ n.Installed clusters spans after := by
  have suited := (clusterFault?_eq_none_iff (W := W)).mpr suits
  have run := installClusters_eq_ok sound suited
  have kept := installClusters_sound sound run
  have within : 1 < n.topology.depth := sound.accepted.two_le_depth
  have inside := Topology.weightSpan_stop_le within
  rw [← sound.weights] at inside
  have length := (clusterFault?_eq_none (W := W) suited).2.2
  have gaussianLayer := Topology.isGaussianLayer_one.trans suits.rbf
  have three : n.topology.rowLength 1 = 3 := Topology.rowLength_of_gaussian gaussianLayer
  let after := { n with
    weights := (n.topology.weightSpan 1).splice (clusters.flatMap clusterWeights) n.weights
    momentums := n.momentums.map fun _ => zero }
  have row (unit : Nat) (c : Cluster R) (found : clusters[unit]? = some c) :
      n.topology.row after.weights 1 unit = clusterWeights c := by
    obtain ⟨inLayer, -⟩ := List.getElem?_eq_some_iff.mp found
    rw [Topology.row_eq_slice _ Nat.one_pos (suits.count ▸ inLayer), Span.slice_splice _ _ _ inside length, three]
    have even (c : Cluster R) : (clusterWeights c : List W).length = 3 := rfl
    exact Buffer.slice_flatMap even found
  have entry (unit : Nat) (c : Cluster R) (found : clusters[unit]? = some c) (input : Nat) (inRow : input < 3) :
      after.weights[(n.topology.weightSpan 1).offset + 3 * unit + input]? = (clusterWeights c : List W)[input]? := by
    rw [← row unit c found, Topology.getElem?_row _ _ (three.symm ▸ inRow), three, Nat.mul_comm 3]
    rfl
  refine ⟨n.topology.spans 1, after, run, ?_⟩
  constructor
  case layer => exact sound.layer_eq within
  case full =>
    rw [Topology.spans_weights, Topology.weightSpan, Topology.weightCount_of_pos Nat.one_pos, three, suits.count]
  case placed =>
    exact fun unit c found => ⟨entry unit c found 0 (by decide), entry unit c found 1 (by decide),
      entry unit c found 2 (by decide)⟩
  case others =>
    refine ⟨Span.length_splice _ _ _ inside length, fun i apart => ?_⟩
    rcases apart with below | above
    · exact Span.getElem?_splice_below _ _ _ below inside
    · exact Span.getElem?_splice_above _ _ _ above inside length
  case rested => exact List.map_const' ..
  case unchanged => rfl
  case answers =>
    intro x y
    refine ⟨_, _, forward_eq_ok x y kept, ?_⟩
    rw [layerValues_answered kept x y within, response_of_gaussian _ _ _ _ gaussianLayer, ← suits.count]
    refine congrArg (fun units => Except.ok (one :: units)) (map_range_eq_map fun unit c found => ?_)
    exact congrArg (gaussianOf (widen x) (widen y)) (row unit c found)

omit [Exponential R] in
theorem refused_of_not_suits (unsuited : ¬ n.Suits clusters) :
    ∃ e, n.installClusters clusters = .error e ∧ ∀ fault, e ≠ .fault fault := by
  cases fault : n.clusterFault? clusters with
  | none => exact absurd ((clusterFault?_eq_none_iff (W := W)).mp fault) unsuited
  | some e =>
    refine ⟨e, by rw [installClusters, fault], fun f same => ?_⟩
    rcases clusterFault?_kind fault with ⟨cause, rfl⟩ | ⟨cause, rfl⟩ <;> cases same

theorem installing_is_all_or_nothing (reachable : n.Reachable) (clusters : List (Cluster R)) :
    (∀ e after, install clusters n = .error e after → after = n ∧ ∀ fault, e ≠ .fault fault) ∧
      ((∃ after, install clusters n = .ok () after) ↔ n.Suits clusters) ∧
      ∀ after, install clusters n = .ok () after →
        n.installClusters clusters = .ok after ∧ ∃ spans, n.Installed clusters spans after := by
  rw [install_eq_change reachable.sound]
  by_cases suits : n.Suits clusters
  · obtain ⟨spans, last, run, installed⟩ := installed_of_suits reachable.sound suits
    rw [InPlace.change_ok run]
    refine ⟨nofun, ⟨fun _ => suits, fun _ => ⟨last, rfl⟩⟩, fun after done => ?_⟩
    cases done
    exact ⟨run, spans, installed⟩
  · obtain ⟨e, refused, known⟩ := refused_of_not_suits suits
    rw [InPlace.change_error refused]
    refine ⟨fun e' after failed => ?_, ⟨nofun, fun s => absurd s suits⟩, nofun⟩
    cases failed
    exact ⟨rfl, known⟩

theorem installing_is_all_or_nothing_of_gaussian_net :
    ∃ n after : Network Float32 Float, ofWeights ⟨[2, 2, 3, 1], true⟩ .tanh (List.replicate 19 0.5) = .ok n ∧
      n.Reachable ∧ install [⟨1, 2, 0.5⟩, ⟨0, -1, 4⟩] n = .ok () after ∧
      (∃ spans, n.Installed [⟨1, 2, 0.5⟩, ⟨0, -1, 4⟩] spans after) ∧
      ∀ e last, install [⟨1, 2, 0.5⟩, ⟨0, -1, -4⟩] n = .error e last → last = n := by
  have accepted : Topology.ofSizes [2, 2, 3, 1] true = .ok ⟨[2, 2, 3, 1], true⟩ := rfl
  have enough : (List.replicate 19 0.5 : List Float32).length =
      Topology.weightsBelow ⟨[2, 2, 3, 1], true⟩ 4 := rfl
  obtain ⟨n, built, reachable, topology, -⟩ := exists_ofWeights accepted (by decide) enough .tanh
  have suits : n.Suits [⟨1, 2, 0.5⟩, ⟨0, -1, 4⟩] := by
    refine ⟨by rw [topology], by rw [topology]; rfl, ?_⟩
    simp only [List.forall_mem_cons, List.not_mem_nil, false_imp_iff, implies_true, and_true]
    decide +kernel
  obtain ⟨-, succeeds, installed⟩ := installing_is_all_or_nothing reachable [⟨1, 2, 0.5⟩, ⟨0, -1, 4⟩]
  obtain ⟨after, run⟩ := succeeds.mpr suits
  obtain ⟨kept, -⟩ := installing_is_all_or_nothing reachable [⟨1, 2, 0.5⟩, ⟨0, -1, -4⟩]
  exact ⟨n, after, built, reachable, run, (installed after run).2, fun e last failed => (kept e last failed).1⟩

-- A variance that is no number is not above zero.
example (n : Network Float32 Float) : ¬ n.Suits [⟨0, 0, 0 / 0⟩] :=
  fun suits => absurd (suits.positive _ (List.mem_singleton_self _)) (by decide +kernel)

end Results

end Network

end PlaneNet
