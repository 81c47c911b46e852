import PlaneNet.Proofs.KMeans.Seeding
import PlaneNet.Proofs.Exact
import PlaneNet.Proofs.Trainer.Sessions

set_option autoImplicit false

namespace PlaneNet

def Layout.afterDrawing {G : Type} [Random.Source G] (l : Layout) (words : G) : G :=
  (Random.Source.take l.extent.weights words).2

namespace Builder

variable {W R G : Type} {b : Builder R} {data : Dataset W} {t : Topology} {l : Layout} {k : Nat}

open Scalar (zero lt)

theorem shape_eq (shape : Topology.ofHidden b.hidden b.rbf = .ok t) :
    t = ⟨Topology.inputWidth :: b.hidden ++ [Topology.outputWidth], b.rbf⟩ :=
  ((Topology.ofSizes_eq_ok_iff _ _ _).mp shape).1

theorem shape_accepted (shape : Topology.ofHidden b.hidden b.rbf = .ok t) : t.Accepted :=
  ((Topology.ofSizes_eq_ok_iff _ _ _).mp shape).2

variable [Scalar R]

def activationFor (b : Builder R) (t : Topology) : Activation := b.activation.getD (.ofTopology t)

def configFor (b : Builder R) (t : Topology) : TrainConfig R := b.config.getD (.ofTopology t)

structure Admits (b : Builder R) (data : Dataset W) (t : Topology) : Prop where
  shape : b.topology = .ok t
  valid : (b.configFor t).validate = .ok ()
  filled : data.isEmpty = false

/-- Nothing stands against placing `k` Gaussian units once the weights are drawn. -/
structure Places (b : Builder R) (data : Dataset W) (t : Topology) (l : Layout) (k : Nat) : Prop
    extends Admits b data t where
  placed : Layout.ofTopology t = .ok l
  units : t.gaussianUnits = some k

theorem Places.positive (reached : b.Places data t l k) : 0 < k :=
  (shape_accepted reached.shape).gaussianUnits_pos reached.units

variable [Storage W R] [Random.Source G]

inductive Refuses (b : Builder R) (data : Dataset W) (words : G) : Error → Prop where
  | topology {e : Error} (refused : b.topology = .error e) : Refuses b data words e
  | config {t : Topology} {e : Error} (shape : b.topology = .ok t)
      (refused : (b.configFor t).validate = .error e) : Refuses b data words e
  | noSamples {t : Topology} (shape : b.topology = .ok t) (valid : (b.configFor t).validate = .ok ())
      (empty : data.isEmpty = true) : Refuses b data words (.invalidData .noSamples)
  | fewSamples {t : Topology} {l : Layout} {k : Nat} (reached : b.Places data t l k) (few : data.size < k) :
      Refuses b data words (.invalidConfig (.fewSamples k data.size))
  | clustering {t : Topology} {l : Layout} {k : Nat} {e : Error} (reached : b.Places data t l k)
      (enough : k ≤ data.size)
      (failed : KMeans.fitInOrder ⟨k, b.maxUpdates⟩ (data.shuffle (l.afterDrawing words)).1 =
        (.error e : Except Error (List (Cluster R)))) : Refuses b data words e
  | variance {t : Topology} {l : Layout} {k i : Nat} {clusters : List (Cluster R)} (reached : b.Places data t l k)
      (enough : k ≤ data.size)
      (clustered : KMeans.fitInOrder ⟨k, b.maxUpdates⟩ (data.shuffle (l.afterDrawing words)).1 =
        .ok clusters)
      (flat : clusters.findIdx? (fun c => !lt zero c.variance) = some i) :
      Refuses b data words (.invalidData (.variance i))

structure Seeded (b : Builder R) (data : Dataset W) (words : G) (drawn : Network W R)
    (t : Trainer W R G) (k : Nat) (spans : LayerSpans) (clusters : List (Cluster R)) : Prop where
  shuffled : (t.data, t.words) = data.shuffle words
  units : t.network.topology.gaussianUnits = some k
  enough : k ≤ data.size
  layer : t.network.layout.layer 1 = .ok spans
  clustered : KMeans.fitInOrder ⟨k, b.maxUpdates⟩ t.data = .ok clusters
  length : t.network.weights.length = drawn.weights.length
  inside : Buffer.read spans.weights t.network.weights = .ok (clusters.flatMap Network.clusterWeights)
  outside : ∀ i, i < spans.weights.offset ∨ spans.weights.stop ≤ i → t.network.weights[i]? = drawn.weights[i]?

structure Composes (b : Builder R) (data : Dataset W) (words : G) (drawn : Network W R)
    (t : Trainer W R G) : Prop where
  topology : Topology.ofHidden b.hidden b.rbf = .ok t.network.topology
  activation : t.network.activation = b.activationFor t.network.topology
  config : t.config = b.configFor t.network.topology
  network : t.network = { drawn with weights := t.network.weights }
  momentums : ∀ m ∈ t.network.momentums, m = zero
  epoch : t.epoch = 0
  samples : t.data.samples = data.samples
  plain : b.rbf = false →
    t.network.weights = drawn.weights ∧ t.data = data ∧ t.words = t.network.layout.afterDrawing words
  gaussian : b.rbf = true →
    ∃ k spans clusters, b.Seeded data (t.network.layout.afterDrawing words) drawn t k spans clusters

structure Draws (b : Builder R) (words : G) (t : Topology) (drawn : Network W R) : Prop where
  stream : Network.ofStream t (b.activationFor t) words = .ok (drawn, t.layout.afterDrawing words)
  sound : drawn.Sound
  topology : drawn.topology = t
  activation : drawn.activation = b.activationFor t
  rested : ∀ m ∈ drawn.momentums, m = zero

section Stages

variable {words : G} {s : Start W R G} {clusters : List (Cluster R)}

theorem Admits.start_eq (admitted : b.Admits data t) (words : G) :
    b.start data words =
      (Network.ofStream t (b.activationFor t) words >>= fun (network, words) =>
        return ⟨network, b.configFor t, words⟩ : Except Error (Start W R G)) := by
  have valid := admitted.valid
  rw [configFor] at valid
  simp only [start, admitted.shape, valid, admitted.filled, ok_bind, Bool.false_eq_true, if_false]
  rfl

theorem Admits.build_eq (admitted : b.Admits data t) (words : G) (fits : t.Fits) :
    ∃ drawn, b.Draws words t drawn ∧
      (b.build data words).value = (b.place ⟨drawn, b.configFor t, t.layout.afterDrawing words⟩ data).value := by
  obtain ⟨drawn, stream, sound, topology, activation, rested⟩ :=
    Network.ofStream_eq_ok (W := W) (R := R) (shape_accepted admitted.shape) fits (b.activationFor t) words
  refine ⟨drawn, ⟨stream, sound, topology, activation, rested⟩, ?_⟩
  rw [build, admitted.start_eq, stream]
  rfl

theorem Admits.build_overflow (admitted : b.Admits data t) (words : G) (large : ¬ t.Fits) :
    (b.build data words).value = .error (.fault .overflow) := by
  have nonempty := (shape_accepted admitted.shape).sizes_ne_nil
  rw [build, admitted.start_eq, Network.ofStream, Layout.ofTopology_eq t nonempty, if_neg large]
  rfl

theorem Places.build_eq (reached : b.Places data t l k) (words : G) :
    ∃ drawn, b.Draws words t drawn ∧ (b.build data words).value =
      ((⟨k, b.maxUpdates⟩ : KMeans).fit data (l.afterDrawing words)).result.value >>=
        finish ⟨drawn, b.configFor t, l.afterDrawing words⟩
          ((⟨k, b.maxUpdates⟩ : KMeans).fit (R := R) data (l.afterDrawing words)).data
          ((⟨k, b.maxUpdates⟩ : KMeans).fit (R := R) data (l.afterDrawing words)).words := by
  obtain ⟨-, fits, rfl⟩ := (Layout.ofTopology_eq_ok_iff t l).mp reached.placed
  obtain ⟨drawn, draws, built⟩ := reached.toAdmits.build_eq words fits
  have made := KMeans.ofCount_eq_ok_iff.mpr ⟨reached.positive, Eq.refl (KMeans.mk k b.maxUpdates)⟩
  refine ⟨drawn, draws, built.trans ?_⟩
  simp only [place, draws.topology, reached.units, made]
  rfl

theorem Places.build_few (reached : b.Places data t l k) (few : data.size < k) :
    (b.build data words).value = .error (.invalidConfig (.fewSamples k data.size)) := by
  obtain ⟨drawn, -, built⟩ := reached.build_eq words
  rw [built, KMeans.fit_of_lt _ few]
  rfl

theorem Places.build_enough (reached : b.Places data t l k) (words : G) (enough : k ≤ data.size) :
    ∃ drawn, b.Draws words t drawn ∧ (b.build data words).value =
      KMeans.fitInOrder ⟨k, b.maxUpdates⟩ (data.shuffle (l.afterDrawing words)).1 >>=
        finish ⟨drawn, b.configFor t, l.afterDrawing words⟩
          (data.shuffle (l.afterDrawing words)).1 (data.shuffle (l.afterDrawing words)).2 := by
  obtain ⟨drawn, draws, built⟩ := reached.build_eq words
  obtain ⟨ordered, left, clustered⟩ :=
    KMeans.fit_of_le (R := R) (l.afterDrawing words) (m := ⟨k, b.maxUpdates⟩) enough
  rw [ordered, left, clustered] at built
  exact ⟨drawn, draws, built⟩

omit [Random.Source G] in
theorem finish_eq_error {i : Nat} (units : s.network.topology.gaussianUnits = some k) (count : clusters.length = k)
    (flat : clusters.findIdx? (fun c => !lt zero c.variance) = some i) :
    finish s data words clusters = .error (.invalidData (.variance i)) := by
  have fault := Network.clusterFault?_of_count units count
  rw [flat] at fault
  simp only [finish, Network.installClusters, fault, Option.map_some, error_bind]

theorem Refuses.build_eq {e : Error} (refuses : b.Refuses data words e) : (b.build data words).value = .error e := by
  cases refuses with
  | topology refused => simp only [build, start, refused, error_bind]
  | config shape refused =>
    rw [configFor] at refused
    simp only [build, start, shape, refused, ok_bind, error_bind]
  | noSamples shape valid empty =>
    rw [configFor] at valid
    simp only [build, start, shape, valid, empty, ok_bind, if_true]
  | fewSamples reached few => exact reached.build_few few
  | clustering reached enough failed =>
    obtain ⟨drawn, -, built⟩ := reached.build_enough words enough
    rw [built, failed, error_bind]
  | variance reached enough clustered flat =>
    obtain ⟨drawn, draws, built⟩ := reached.build_enough words enough
    rw [built, clustered, ok_bind]
    have count := KMeans.length_of_fitInOrder_eq_ok reached.positive clustered
    exact finish_eq_error (draws.topology ▸ reached.units) count flat

end Stages

section Outcome

variable {words : G} {s : Start W R G} {drawn : Network W R} {clusters : List (Cluster R)}

omit [Random.Source G] in
theorem finish_eq_ok (sound : s.network.Sound) (rested : ∀ m ∈ s.network.momentums, m = zero)
    (suited : s.network.clusterFault? clusters = none) (filled : data.isEmpty = false)
    (valid : s.config.validate = .ok ()) :
    finish s data words clusters = .ok
      ⟨{ s.network with
          weights := (s.network.topology.weightSpan 1).splice (clusters.flatMap Network.clusterWeights)
            s.network.weights },
        data, s.config, words, 0⟩ := by
  have forgotten : s.network.momentums.map (fun _ => zero) = s.network.momentums :=
    (List.map_congr_left fun m member => (rested m member).symm).trans (List.map_id _)
  rw [finish, Network.installClusters_eq_ok sound suited, forgotten, ok_bind, Trainer.ofParts_eq_ok filled valid]

theorem Draws.composes (draws : b.Draws words t drawn) (shape : b.topology = .ok t) {weights : List W}
    {ordered : Dataset W} {left : G} (samples : ordered.samples = data.samples)
    (plain : b.rbf = false →
      weights = drawn.weights ∧ ordered = data ∧ left = t.layout.afterDrawing words)
    (gaussian : b.rbf = true → ∃ k spans clusters, b.Seeded data (t.layout.afterDrawing words) drawn
      ⟨{ drawn with weights }, ordered, b.configFor t, left, 0⟩ k spans clusters) :
    b.Composes data words drawn ⟨{ drawn with weights }, ordered, b.configFor t, left, 0⟩ := by
  obtain ⟨-, sound, rfl, activation, rested⟩ := draws
  rw [← sound.layout] at plain gaussian
  exact
    { topology := shape, activation, config := rfl, network := rfl, momentums := rested, epoch := rfl, samples
      plain, gaussian }

theorem composes_plain (admitted : b.Admits data t) (fits : t.Fits) (plain : t.gaussianUnits = none) :
    ∃ drawn trainer, (b.build data words).value = .ok trainer ∧ b.Draws words t drawn ∧
      trainer.network.topology = t ∧ b.Composes data words drawn trainer := by
  obtain ⟨drawn, draws, built⟩ := admitted.build_eq words fits
  have off := Topology.gaussianUnits_eq_none_iff.mp plain
  rw [shape_eq admitted.shape] at off
  rw [place, draws.topology, plain] at built
  refine ⟨drawn, _, built.trans (Trainer.ofParts_eq_ok admitted.filled admitted.valid), draws, draws.topology, ?_⟩
  refine draws.composes admitted.shape rfl (fun _ => ⟨rfl, rfl, rfl⟩) fun on => ?_
  cases off.symm.trans on

theorem seeded_splice (draws : b.Draws words t drawn) (reached : b.Places data t l k) (enough : k ≤ data.size)
    (clustered : KMeans.fitInOrder ⟨k, b.maxUpdates⟩ (data.shuffle (l.afterDrawing words)).1 = .ok clusters)
    (suited : drawn.clusterFault? clusters = none) :
    b.Seeded data (l.afterDrawing words) drawn
      ⟨{ drawn with
          weights := (drawn.topology.weightSpan 1).splice (clusters.flatMap Network.clusterWeights) drawn.weights },
        (data.shuffle (l.afterDrawing words)).1, b.configFor t,
        (data.shuffle (l.afterDrawing words)).2, 0⟩ k (drawn.topology.spans 1) clusters := by
  have within : 1 < drawn.topology.depth := draws.sound.accepted.two_le_depth
  have inside := Topology.weightSpan_stop_le within
  rw [← draws.sound.weights] at inside
  have full := (Network.clusterFault?_eq_none (W := W) suited).2.2
  have length := Span.length_splice _ (clusters.flatMap Network.clusterWeights) _ inside full
  have read := Buffer.read_eq_ok _ _ (length.symm ▸ inside)
  rw [Span.slice_splice _ _ _ inside full] at read
  exact
    { shuffled := rfl
      units := draws.topology.symm ▸ reached.units
      enough
      layer := draws.sound.layer_eq within
      clustered
      length
      inside := read
      outside := fun i apart => by
        rcases apart with below | above
        · exact Span.getElem?_splice_below _ _ _ below inside
        · exact Span.getElem?_splice_above _ _ _ above inside full }

theorem composes_gaussian (reached : b.Places data t l k) (enough : k ≤ data.size)
    (clustered : KMeans.fitInOrder ⟨k, b.maxUpdates⟩ (data.shuffle (l.afterDrawing words)).1 = .ok clusters)
    (wide : clusters.findIdx? (fun c => !lt zero c.variance) = none) :
    ∃ drawn trainer, (b.build data words).value = .ok trainer ∧ b.Draws words t drawn ∧
      trainer.network.topology = t ∧ b.Composes data words drawn trainer := by
  obtain ⟨drawn, draws, built⟩ := reached.build_enough words enough
  have units : drawn.topology.gaussianUnits = some k := draws.topology ▸ reached.units
  have count := KMeans.length_of_fitInOrder_eq_ok reached.positive clustered
  have suited : drawn.clusterFault? clusters = none := by
    rw [Network.clusterFault?_of_count units count, wide, Option.map_none]
  have seeded := seeded_splice draws reached enough clustered suited
  obtain ⟨-, -, rfl⟩ := (Layout.ofTopology_eq_ok_iff t l).mp reached.placed
  have filled : (data.shuffle (t.layout.afterDrawing words)).1.isEmpty = false := reached.filled
  rw [clustered, ok_bind, finish_eq_ok draws.sound draws.rested suited filled reached.valid] at built
  refine ⟨drawn, _, built, draws, draws.topology, ?_⟩
  refine draws.composes reached.shape rfl (fun off => ?_) fun _ => ⟨k, _, clusters, seeded⟩
  have on := (Topology.gaussianUnits_eq_some_iff.mp reached.units).1
  rw [shape_eq reached.shape] at on
  cases off.symm.trans on

theorem build_cases (b : Builder R) (data : Dataset W) (words : G) :
    (∃ e, b.Refuses data words e) ∨ (∃ t, b.Admits data t ∧ ¬ t.Fits) ∨
      ∃ t drawn trainer, (b.build data words).value = .ok trainer ∧ b.Draws words t drawn ∧
        trainer.network.topology = t ∧ b.Composes data words drawn trainer := by
  cases shape : b.topology with
  | error e => exact .inl ⟨e, .topology shape⟩
  | ok t =>
  cases valid : (b.configFor t).validate with
  | error e => exact .inl ⟨e, .config shape valid⟩
  | ok _ =>
  cases filled : data.isEmpty with
  | true => exact .inl ⟨_, .noSamples shape valid filled⟩
  | false =>
  have admitted : b.Admits data t := ⟨shape, valid, filled⟩
  by_cases fits : t.Fits
  · have placed := Layout.ofTopology_of_fits (shape_accepted shape) fits
    cases units : t.gaussianUnits with
    | none => exact .inr (.inr ⟨t, composes_plain admitted fits units⟩)
    | some k =>
      have reached : b.Places data t t.layout k := ⟨admitted, placed, units⟩
      by_cases enough : k ≤ data.size
      · cases clustered : (KMeans.fitInOrder ⟨k, b.maxUpdates⟩
            (data.shuffle (t.layout.afterDrawing words)).1 : Except Error (List (Cluster R))) with
        | error e => exact .inl ⟨e, .clustering reached enough clustered⟩
        | ok clusters =>
          cases wide : clusters.findIdx? (fun c => !lt zero c.variance) with
          | some i => exact .inl ⟨_, .variance reached enough clustered wide⟩
          | none => exact .inr (.inr ⟨t, composes_gaussian reached enough clustered wide⟩)
      · exact .inl ⟨_, .fewSamples reached (Nat.lt_of_not_le enough)⟩
  · exact .inr (.inl ⟨t, admitted, fits⟩)

theorem composes_of_build_eq_ok {trainer : Trainer W R G} (built : (b.build data words).value = .ok trainer) :
    ∃ drawn, b.Draws words trainer.network.topology drawn ∧ b.Composes data words drawn trainer := by
  rcases b.build_cases data words with
    ⟨e, refuses⟩ | ⟨t, admitted, large⟩ | ⟨t, drawn, _, again, draws, rfl, composes⟩
  · cases refuses.build_eq.symm.trans built
  · cases (admitted.build_overflow _ large).symm.trans built
  · cases again.symm.trans built
    exact ⟨drawn, draws, composes⟩

end Outcome

theorem builder_composes_its_parts (b : Builder R) (data : Dataset W) (seed : UInt64) :
    (∀ t, (b.buildWithSeed data seed).value = .ok t →
      ∃ drawn, Network.ofSeed t.network.topology t.network.activation seed = .ok drawn ∧
        b.Composes data (Random.Stream.ofSeed seed) drawn t) ∧
    (∀ e, (b.buildWithSeed data seed).value = .error e →
      b.Refuses data (Random.Stream.ofSeed seed) e ∨
        e = .fault .overflow ∧ ∃ topology, b.Admits data topology ∧ ¬ topology.Fits) ∧
    ∀ e, b.Refuses data (Random.Stream.ofSeed seed) e → (b.buildWithSeed data seed).value = .error e := by
  rw [buildWithSeed]
  refine ⟨fun t built => ?_, fun e failed => ?_, fun e refuses => refuses.build_eq⟩
  · obtain ⟨drawn, draws, composes⟩ := composes_of_build_eq_ok built
    refine ⟨drawn, ?_, composes⟩
    rw [Network.ofSeed, composes.activation, draws.stream]
    rfl
  · rcases b.build_cases data (Random.Stream.ofSeed seed) with
      ⟨e, refuses⟩ | ⟨t, admitted, large⟩ | ⟨t, drawn, trainer, built, -⟩
    · cases refuses.build_eq.symm.trans failed
      exact .inl refuses
    · cases (admitted.build_overflow _ large).symm.trans failed
      exact .inr ⟨rfl, t, admitted, large⟩
    · cases built.symm.trans failed

theorem builder_composes_its_parts_of_three_samples :
    ∃ (b : Builder ℚ) (data : Dataset ℚ) (t : Trainer ℚ ℚ Random.Stream) (drawn : Network ℚ ℚ),
      b = ⟨[2], true, none, none, none⟩ ∧
      data = .ofSamples [⟨0, 0, .negative⟩, ⟨1, 0, .negative⟩, ⟨9, 0, .positive⟩] ∧
      (b.buildWithSeed data 7).value = .ok t ∧
      Network.ofSeed t.network.topology t.network.activation 7 = .ok drawn ∧
      b.Composes data (Random.Stream.ofSeed 7) drawn t ∧
      (b.buildWithSeed (.ofSamples [] : Dataset ℚ) 7).value = .error (.invalidData .noSamples) ∧
      Refuses (⟨[], true, none, none, none⟩ : Builder ℚ) data (Random.Stream.ofSeed 7)
        (.invalidConfig .noGaussianRoom) := by
  let b : Builder ℚ := ⟨[2], true, none, none, none⟩
  let roomless : Builder ℚ := ⟨[], true, none, none, none⟩
  let data : Dataset ℚ := .ofSamples [⟨0, 0, .negative⟩, ⟨1, 0, .negative⟩, ⟨9, 0, .positive⟩]
  obtain ⟨composes, -, -⟩ := builder_composes_its_parts b data 7
  obtain ⟨-, -, refuses⟩ := builder_composes_its_parts b (.ofSamples [] : Dataset ℚ) 7
  obtain ⟨-, explains, -⟩ := builder_composes_its_parts roomless data 7
  have valid : (TrainConfig.gaussian : TrainConfig ℚ).validate = .ok () := by
    rw [TrainConfig.validate, if_neg (by decide +kernel), if_neg (by decide +kernel)]
  have succeeds : (b.buildWithSeed data 7).value.isOk = true := by decide +kernel
  obtain ⟨t, built⟩ := exists_of_isOk succeeds
  obtain ⟨drawn, seeded, parts⟩ := composes t built
  have refused : roomless.Refuses data (Random.Stream.ofSeed 7) (.invalidConfig .noGaussianRoom) := by
    rcases explains _ rfl with refused | ⟨fault, -⟩
    · exact refused
    · cases fault
  exact ⟨b, data, t, drawn, rfl, rfl, built, seeded, parts, refuses _ (.noSamples rfl valid rfl), refused⟩

end Builder

end PlaneNet
