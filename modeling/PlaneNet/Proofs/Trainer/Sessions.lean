import PlaneNet.Proofs.Exact
import PlaneNet.Proofs.Trainer.Sound
import PlaneNet.Trainer.Builder

set_option autoImplicit false

namespace PlaneNet

variable {W R G : Type}

namespace Trainer

inductive Call (W R : Type) where
  | learn
  | meanLoss
  | accuracy
  | network (call : Network.Call W R)

def Call.InRange (count : Nat) : Call W R → Prop
  | .network call => call.InRange count
  | _ => True

def Call.learns : Call W R → Bool
  | .learn => true
  | _ => false

theorem Call.inRange_replicate_learn {calls count : Nat} :
    ∀ call ∈ List.replicate calls (.learn : Call W R), call.InRange count := by
  intro call member
  rw [List.eq_of_mem_replicate member]
  trivial

theorem Call.countP_replicate_learn (calls : Nat) :
    (List.replicate calls (.learn : Call W R)).countP Call.learns = calls :=
  List.countP_replicate

end Trainer

variable [Scalar R]

section Construction

variable {data : Dataset W} {words : G} {t : Trainer W R G}

theorem Trainer.ofParts_eq_ok {n : Network W R} {config : TrainConfig R} (filled : data.isEmpty = false)
    (valid : config.validate = .ok ()) :
    Trainer.ofParts n data config words = .ok ⟨n, data, config, words, 0⟩ := by
  rw [Trainer.ofParts, filled, valid]
  rfl

theorem TrainConfig.validate_eq_ok_iff (c : TrainConfig ℝ) :
    c.validate = .ok () ↔ 0 < c.learnRate ∧ 0 ≤ c.momentum ∧ c.momentum < 1 := by
  simp only [TrainConfig.validate, Scalar.isFinite, Scalar.lt, Scalar.le, Scalar.zero, Scalar.one, nat]
  grind

theorem Trainer.ofParts_sound {n : Network W R} {config : TrainConfig R} (sound : n.Sound)
    (permuted : data.Permuted) (built : Trainer.ofParts n data config words = .ok t) : t.Sound := by
  rw [Trainer.ofParts] at built
  split at built
  next => cases built
  next filled =>
    obtain ⟨_, valid, done⟩ := (bind_eq_ok_iff _ _ _).mp built
    cases done
    exact ⟨sound, permuted, by simpa using filled, valid, Nat.pow_pos two_pos⟩

theorem Trainer.ofParts_epoch {n : Network W R} {config : TrainConfig R}
    (built : Trainer.ofParts n data config words = .ok t) : t.epoch = 0 := by
  rw [Trainer.ofParts] at built
  split at built
  next => cases built
  next =>
    obtain ⟨_, -, done⟩ := (bind_eq_ok_iff _ _ _).mp built
    cases done
    rfl

variable [Storage W R] [Random.Source G]

theorem KMeans.fit_permuted (m : KMeans) (permuted : data.Permuted) :
    (m.fit (R := R) data words).data.Permuted := by
  rw [KMeans.fit]
  split
  next => exact permuted
  next =>
    dsimp only
    split
    next => exact permuted.shuffle words
    next => exact permuted.shuffle words

namespace Builder

variable {b : Builder R} {s : Start W R G}

theorem start_sound (started : b.start data words = .ok s) : s.network.Sound := by
  obtain ⟨topology, accepted, rest⟩ := (bind_eq_ok_iff _ _ _).mp started
  obtain ⟨_, -, rest⟩ := (bind_eq_ok_iff _ _ _).mp rest
  split at rest
  next => cases rest
  next =>
    obtain ⟨⟨network, words'⟩, built, done⟩ := (bind_eq_ok_iff _ _ _).mp rest
    cases done
    exact (Network.ofStream_sound ((Topology.ofSizes_eq_ok_iff _ _ _).mp accepted).2 built).1

omit [Random.Source G] in
theorem finish_sound (sound : s.network.Sound) (permuted : data.Permuted) {clusters : List (Cluster R)}
    (built : finish s data words clusters = .ok t) : t.Sound := by
  obtain ⟨network, installed, rest⟩ := (bind_eq_ok_iff _ _ _).mp built
  exact Trainer.ofParts_sound (Network.installClusters_sound sound installed) permuted rest

theorem place_sound (sound : s.network.Sound) (permuted : data.Permuted)
    (built : (b.place s data).value = .ok t) : t.Sound := by
  rw [place] at built
  split at built
  next => exact Trainer.ofParts_sound sound permuted built
  next k _ =>
    split at built
    next => cases built
    next m _ =>
      obtain ⟨clusters, -, finished⟩ := (bind_eq_ok_iff _ _ _).mp built
      exact finish_sound sound (m.fit_permuted permuted) finished

theorem build_sound (permuted : data.Permuted)
    (built : (b.build data words).value = .ok t) : t.Sound := by
  rw [build] at built
  split at built
  next => cases built
  next s started => exact place_sound (start_sound started) permuted built

theorem place_epoch (built : (b.place s data).value = .ok t) : t.epoch = 0 := by
  rw [place] at built
  split at built
  next => exact Trainer.ofParts_epoch built
  next k _ =>
    split at built
    next => cases built
    next m _ =>
      obtain ⟨clusters, -, finished⟩ := (bind_eq_ok_iff _ _ _).mp built
      obtain ⟨network, -, rest⟩ := (bind_eq_ok_iff _ _ _).mp finished
      exact Trainer.ofParts_epoch rest

theorem build_epoch (built : (b.build data words).value = .ok t) : t.epoch = 0 := by
  rw [build] at built
  split at built
  next => cases built
  next => exact place_epoch built

end Builder

end Construction

namespace Trainer

structure Intact (start t : Trainer W R G) : Prop where
  network : start.network.Intact t.network
  nonempty : t.data.isEmpty = false
  order : t.data.order.toList.Perm (List.range t.data.size)
  config : t.config.validate = .ok ()

variable {t : Trainer W R G}

theorem Follows.intact {after : Trainer W R G} (sound : t.Sound) (kept : t.Follows after) : t.Intact after where
  network := kept.network.intact sound.network
  nonempty := kept.sound.nonempty
  order := kept.sound.permuted
  config := kept.sound.config

theorem Call.inRange_after {next : Trainer W R G} {call : Call W R} {calls : List (Call W R)} (sound : t.Sound)
    (kept : t.Follows next) (inRange : ∀ other ∈ call :: calls, other.InRange t.network.weights.length) :
    ∀ other ∈ calls, other.InRange next.network.weights.length :=
  fun other member => kept.network.weights sound.network ▸ inRange other (List.mem_cons_of_mem _ member)

variable [Exponential R] [Storage W R] [Random.Source G]

inductive Built : Trainer W R G → Prop where
  | ofParts {n : Network W R} {data : Dataset W} {config : TrainConfig R} {words : G}
      {t : Trainer W R G} (network : n.Reachable) (samples : data.Reachable)
      (built : ofParts n data config words = .ok t) : Built t
  | build {b : Builder R} {data : Dataset W} {words : G} {t : Trainer W R G}
      (samples : data.Reachable) (built : (b.build data words).value = .ok t) : Built t

theorem Built.epoch_eq (built : t.Built) : t.epoch = 0 := by
  cases built with
  | ofParts _ _ built => exact ofParts_epoch built
  | build _ built => exact Builder.build_epoch built

theorem Built.sound (built : t.Built) : t.Sound := by
  cases built with
  | ofParts network samples built => exact ofParts_sound network.sound samples.permuted built
  | build samples built => exact Builder.build_sound samples.permuted built

def Call.run (t : Trainer W R G) : Call W R → Except Error (Trainer W R G)
  | .learn => do return (← t.learn).2
  | .meanLoss => do
    let _ ← t.meanLoss
    return t
  | .accuracy => do
    let _ ← t.accuracy
    return t
  | .network call => do return { t with network := ← call.run t.network }

def session (t : Trainer W R G) (calls : List (Call W R)) : Except Error (Trainer W R G) :=
  calls.foldlM Call.run t

section Sessions

variable {next after : Trainer W R G} {call : Call W R} {calls : List (Call W R)}

theorem Call.run_eq_ok (sound : t.Sound) (call : Call W R) (inRange : call.InRange t.network.weights.length)
    (room : call.learns = true → t.epoch + 1 < Word.limit) : ∃ after, call.run t = .ok after := by
  cases call with
  | learn =>
    obtain ⟨mean, after, learned, -⟩ := learn_eq_ok sound (room rfl)
    refine ⟨after, ?_⟩
    rw [Call.run, learned]
    rfl
  | meanLoss =>
    refine ⟨t, ?_⟩
    rw [Call.run, meanLoss_eq_ok sound]
    rfl
  | accuracy =>
    refine ⟨t, ?_⟩
    rw [Call.run, accuracy_eq_ok sound]
    rfl
  | network call =>
    obtain ⟨n, called, -⟩ := call.run_eq_ok sound.network inRange
    refine ⟨{ t with network := n }, ?_⟩
    rw [Call.run, called]
    rfl

theorem Call.run_follows (sound : t.Sound) (inRange : call.InRange t.network.weights.length)
    (run : call.run t = .ok after) :
    t.Follows after ∧ after.epoch = t.epoch + if call.learns then 1 else 0 := by
  cases call with
  | learn =>
    obtain ⟨⟨mean, next⟩, learned, done⟩ := (bind_eq_ok_iff _ _ _).mp run
    cases done
    exact ⟨learn_follows sound learned, learn_epoch learned⟩
  | meanLoss =>
    obtain ⟨_, -, done⟩ := (bind_eq_ok_iff _ _ _).mp run
    cases done
    exact ⟨sound.follows, rfl⟩
  | accuracy =>
    obtain ⟨_, -, done⟩ := (bind_eq_ok_iff _ _ _).mp run
    cases done
    exact ⟨sound.follows, rfl⟩
  | network call =>
    obtain ⟨n, called, done⟩ := (bind_eq_ok_iff _ _ _).mp run
    cases done
    obtain ⟨_, again, kept⟩ := call.run_eq_ok sound.network inRange
    cases again.symm.trans called
    exact ⟨⟨{ sound with network := kept.sound }, kept, rfl, rfl⟩, rfl⟩

theorem session_cons (run : call.run t = .ok next) (calls : List (Call W R)) :
    t.session (call :: calls) = next.session calls := by
  simp only [session, List.foldlM_cons, run, ok_bind]

theorem session_eq_ok (sound : t.Sound) (calls : List (Call W R))
    (inRange : ∀ call ∈ calls, call.InRange t.network.weights.length)
    (room : t.epoch + calls.countP Call.learns < Word.limit) :
    ∃ after, t.session calls = .ok after ∧ t.Follows after := by
  induction calls generalizing t with
  | nil => exact ⟨t, rfl, sound.follows⟩
  | cons call calls ih =>
    rw [List.countP_cons] at room
    have here : call.InRange t.network.weights.length := inRange call List.mem_cons_self
    obtain ⟨next, run⟩ := call.run_eq_ok sound here fun learns => by
      rw [if_pos learns] at room
      omega
    obtain ⟨kept, epoch⟩ := Call.run_follows sound here run
    obtain ⟨after, session, follows⟩ := ih kept.sound (Call.inRange_after sound kept inRange) (by omega)
    exact ⟨after, (session_cons run calls).trans session, kept.trans follows⟩

theorem session_overflow (sound : t.Sound) (calls : List (Call W R))
    (inRange : ∀ call ∈ calls, call.InRange t.network.weights.length)
    (full : Word.limit ≤ t.epoch + calls.countP Call.learns) : t.session calls = .error Word.overflow := by
  induction calls generalizing t with
  | nil => exact absurd sound.counted (Nat.not_lt.mpr full)
  | cons call calls ih =>
    rw [List.countP_cons] at full
    have here : call.InRange t.network.weights.length := inRange call List.mem_cons_self
    by_cases beyond : call.learns = true ∧ Word.limit ≤ t.epoch + 1
    · obtain ⟨learns, beyond⟩ := beyond
      cases call with
      | learn => simp only [session, List.foldlM_cons, Call.run, learn_overflow sound beyond, error_bind]
      | _ => cases learns
    · obtain ⟨next, run⟩ := call.run_eq_ok sound here fun learns => by
        by_contra out
        exact beyond ⟨learns, Nat.le_of_not_lt out⟩
      obtain ⟨kept, epoch⟩ := Call.run_follows sound here run
      rw [session_cons run]
      exact ih kept.sound (Call.inRange_after sound kept inRange) (by omega)

end Sessions

inductive Reachable : Trainer W R G → Prop where
  | built {t : Trainer W R G} (start : t.Built) : Reachable t
  | step {t after : Trainer W R G} (before : Reachable t) (call : Call W R)
      (inRange : call.InRange t.network.weights.length) (run : call.run t = .ok after) : Reachable after

theorem Reachable.sound (reachable : t.Reachable) : t.Sound := by
  induction reachable with
  | built start => exact start.sound
  | step _ call inRange run ih =>
    exact (Call.run_follows ih inRange run).1.sound

theorem exists_reachable {sizes : List Nat} {rbf : Bool} {topology : Topology} {weights : List W}
    {config : TrainConfig R} (accepted : Topology.ofSizes sizes rbf = .ok topology) (fits : topology.Fits)
    (enough : weights.length = topology.weightsBelow topology.depth) (a : Activation) {samples : List (Sample W)}
    (filled : samples ≠ []) (valid : config.validate = .ok ()) (words : G) :
    ∃ n : Network W R, Network.ofWeights topology a weights = .ok n ∧ n.topology = topology ∧ n.activation = a ∧
      n.weights = weights ∧
      Trainer.ofParts n (.ofSamples samples) config words = .ok ⟨n, .ofSamples samples, config, words, 0⟩ ∧
      Reachable ⟨n, .ofSamples samples, config, words, 0⟩ := by
  obtain ⟨n, built, reachable, shape, activation, same⟩ := Network.exists_ofWeights accepted fits enough a
  have nonempty : (Dataset.ofSamples samples).isEmpty = false := by
    simpa [Dataset.isEmpty, Dataset.size, Dataset.ofSamples] using filled
  have started : ofParts n (.ofSamples samples) config words = .ok _ := ofParts_eq_ok nonempty valid
  exact ⟨n, built, shape, activation, same, started, .built (.ofParts reachable (.ofSamples _) started)⟩

theorem sessions_stay_intact :
    (∀ n : Network W R, n.Reachable → ∀ calls : List (Network.Call W R),
      (∀ call ∈ calls, call.InRange n.weights.length) →
        ∃ after, n.session calls = .ok after ∧ n.Intact after) ∧
    ∀ t : Trainer W R G, t.Built → ∀ calls : List (Call W R),
      (∀ call ∈ calls, call.InRange t.network.weights.length) →
        (calls.countP Call.learns < Word.limit → ∃ after, t.session calls = .ok after ∧ t.Intact after) ∧
        (Word.limit ≤ calls.countP Call.learns → t.session calls = .error Word.overflow) := by
  constructor
  · intro n reachable calls inRange
    obtain ⟨after, run, kept⟩ := Network.session_eq_ok reachable.sound calls inRange
    exact ⟨after, run, kept.intact reachable.sound⟩
  · intro t built calls inRange
    have fresh := built.epoch_eq
    refine ⟨fun room => ?_, fun full => session_overflow built.sound calls inRange (by omega)⟩
    obtain ⟨after, run, kept⟩ := session_eq_ok built.sound calls inRange (by omega)
    exact ⟨after, run, kept.intact built.sound⟩

theorem sessions_stay_intact_of_gaussian_trainer :
    ∃ (n : Network ℝ ℝ) (t : Trainer ℝ ℝ Random.Stream),
      Network.ofWeights ⟨[2, 2, 1], true⟩ .tanh (List.replicate 9 1) = .ok n ∧
      ofParts n (.ofSamples [⟨0, 1, .negative⟩, ⟨2, 3, .positive⟩]) .gaussian (.ofSeed 1) = .ok t ∧
      (∃ after, n.session [.operate (.installClusters []), .operate (.setWeight 8 2), .predict 0 1] = .ok after ∧
        n.Intact after) ∧
      (∃ after, t.session [.learn, .network (.operate (.backward 1)), .accuracy, .meanLoss] = .ok after ∧
        t.Intact after) ∧
      t.session (List.replicate Word.limit .learn) = .error Word.overflow := by
  have accepted : Topology.ofSizes [2, 2, 1] true = .ok ⟨[2, 2, 1], true⟩ := rfl
  have enough : (List.replicate 9 1 : List ℝ).length = Topology.weightsBelow ⟨[2, 2, 1], true⟩ 3 := rfl
  have valid : (TrainConfig.gaussian : TrainConfig ℝ).validate = .ok () := by
    rw [TrainConfig.validate_eq_ok_iff]
    norm_num [TrainConfig.gaussian, Scalar.decimal, nat]
  obtain ⟨n, built, reachable, -, -, weights⟩ := Network.exists_ofWeights accepted (by decide) enough .tanh
  have started : ofParts n (.ofSamples [⟨0, 1, .negative⟩, ⟨2, 3, .positive⟩]) .gaussian (.ofSeed 1) =
      .ok (_ : Trainer ℝ ℝ Random.Stream) := ofParts_eq_ok rfl valid
  have whole : Built _ := .ofParts reachable (.ofSamples _) started
  obtain ⟨sessions, trained⟩ := sessions_stay_intact (W := ℝ) (R := ℝ) (G := Random.Stream)
  refine ⟨n, _, built, started, sessions n reachable _ ?_, (trained _ whole _ ?_).1 (by decide),
    (trained _ whole _ Call.inRange_replicate_learn).2 (Call.countP_replicate_learn _).ge⟩
  · simp [Network.Call.InRange, weights]
  · simp [Call.InRange, Network.Call.InRange]

-- A new trainer that learns once too often, in the arithmetic of the machine.
theorem session_overflow_of_two_samples :
    ∃ (n : Network Float32 Float) (t : Trainer Float32 Float Random.Stream),
      Network.ofWeights ⟨[2, 1], false⟩ .step [0, 1, 1] = .ok n ∧
      ofParts n (.ofSamples [⟨1, 1, .positive⟩, ⟨-1, -1, .negative⟩]) .plain (.ofSeed 0) = .ok t ∧ t.Built ∧
      t.session (List.replicate 18446744073709551616 .learn) = .error (.fault .overflow) := by
  have accepted : Topology.ofSizes [2, 1] false = .ok ⟨[2, 1], false⟩ := rfl
  have enough : ([0, 1, 1] : List Float32).length = Topology.weightsBelow ⟨[2, 1], false⟩ 2 := rfl
  have valid : (TrainConfig.plain : TrainConfig Float).validate = .ok () := by decide +kernel
  obtain ⟨n, built, reachable, -⟩ := Network.exists_ofWeights accepted (by decide) enough .step
  have started : ofParts n (.ofSamples [⟨1, 1, .positive⟩, ⟨-1, -1, .negative⟩]) .plain (.ofSeed 0) =
      .ok (_ : Trainer Float32 Float Random.Stream) := ofParts_eq_ok rfl valid
  have whole : Built _ := .ofParts reachable (.ofSamples _) started
  refine ⟨n, _, built, started, whole, session_overflow whole.sound _ Call.inRange_replicate_learn ?_⟩
  rw [whole.epoch_eq, Call.countP_replicate_learn]
  decide

end Trainer

end PlaneNet
