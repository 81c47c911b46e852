import PlaneNet.Proofs.Trainer.Cycles
import PlaneNet.Trainer.Continuous

set_option autoImplicit false

namespace PlaneNet

variable {W R G : Type}

theorem SharedWeights.publish_eq_ok {s : SharedWeights W} {weights : List W} (same : weights.length = s.size) :
    s.publish weights = .ok ⟨weights⟩ :=
  if_pos same

namespace Continuous

open Trainer (learnMany learnMany_eq_ok learnMany_follows)

def reportsFrom (epoch : Nat) (means : List R) : List (Nat × R) :=
  (List.range' (epoch + 1) means.length).zip means

/-- After rounds that brought the trainer to `after` with these losses. -/
def advanced (c : Continuous W R G) (means : List R) (after : Trainer W R G) : Continuous W R G :=
  ⟨after, .ofWeights after.network.weights, after.epoch, c.reports ++ reportsFrom c.trainer.epoch means⟩

theorem reportsFrom_append (epoch : Nat) (means later : List R) :
    reportsFrom epoch (means ++ later) = reportsFrom epoch means ++ reportsFrom (epoch + means.length) later := by
  have epochs : List.range' (epoch + 1) (means.length + later.length) =
      List.range' (epoch + 1) means.length ++ List.range' (epoch + means.length + 1) later.length := by
    rw [Nat.add_right_comm, List.range'_append_1]
  rw [reportsFrom, List.length_append, epochs, List.zip_append List.length_range']
  rfl

theorem advanced_advanced {c : Continuous W R G} {means : List R} {next : Trainer W R G}
    (counted : next.epoch = c.trainer.epoch + means.length) (later : List R) (after : Trainer W R G) :
    (c.advanced means next).advanced later after = c.advanced (means ++ later) after := by
  simp only [advanced, counted, reportsFrom_append, List.append_assoc]

section Rounds

variable [Scalar R]

structure Published (c : Continuous W R G) : Prop where
  sound : c.trainer.Sound
  cells : c.shared.cells = c.trainer.network.weights
  counter : c.counter = c.trainer.epoch

theorem ofTrainer_published {t : Trainer W R G} (sound : t.Sound) : (ofTrainer t).Published := ⟨sound, rfl, rfl⟩

variable {c : Continuous W R G} (published : c.Published)

include published

theorem Published.advanced_nil : c.advanced [] c.trainer = c := by
  simp only [advanced, ← published.cells, ← published.counter, reportsFrom, List.length_nil, List.range'_zero,
    List.zip_nil_left, List.append_nil, SharedWeights.ofWeights]

variable [Exponential R] [Storage W R] [Random.Source G] {mean : R} {next : Trainer W R G}

theorem Published.step_eq_ok (learned : c.trainer.learn = .ok (mean, next)) :
    c.step = .ok (c.advanced [mean] next) ∧ (c.advanced [mean] next).Published := by
  have kept := Trainer.learn_follows published.sound learned
  have same : next.network.weights.length = c.shared.size := by
    rw [SharedWeights.size, published.cells]
    exact kept.network.weights published.sound.network
  have counted := Trainer.learn_epoch learned
  refine ⟨?_, kept.sound, rfl, rfl⟩
  simp only [step, learned, SharedWeights.publish_eq_ok same, ok_bind, pure_eq_ok, advanced, reportsFrom, counted,
    SharedWeights.ofWeights, List.length_singleton, List.range'_one, List.zip_cons_cons, List.zip_nil_left]

theorem Published.run_step {limit : Nat} (unfinished : c.trainer.epoch < limit) (failAt : Option Nat)
    (learned : c.trainer.learn = .ok (mean, next)) :
    run limit failAt c =
      if failAt = some (c.trainer.epoch + 1) then (c.advanced [mean] next, false)
      else run limit failAt (c.advanced [mean] next) := by
  have counter : (c.advanced [mean] next).counter = c.trainer.epoch + 1 := Trainer.learn_epoch learned
  rw [run, if_pos unfinished]
  split
  next failed => cases failed.symm.trans (published.step_eq_ok learned).1
  next stepped =>
    cases stepped.symm.trans (published.step_eq_ok learned).1
    rw [counter]

theorem Published.run_rounds {limit rounds : Nat} (inside : rounds ≤ limit - c.trainer.epoch) {failAt : Option Nat}
    (quiet : ∀ e, failAt = some e → e ≤ c.trainer.epoch ∨ c.trainer.epoch + rounds < e) {means : List R}
    {after : Trainer W R G} (trained : c.trainer.learnMany rounds = .ok (means, after)) :
    run limit failAt c = run limit failAt (c.advanced means after) ∧ (c.advanced means after).Published := by
  induction rounds generalizing c means with
  | zero =>
    cases trained
    rw [published.advanced_nil]
    exact ⟨rfl, published⟩
  | succ rounds ih =>
    obtain ⟨⟨mean, next⟩, learned, trained⟩ := (bind_eq_ok_iff _ _ _).mp trained
    obtain ⟨⟨others, last⟩, rest, done⟩ := (bind_eq_ok_iff _ _ _).mp trained
    cases done
    have counted := Trainer.learn_epoch learned
    have later : (c.advanced [mean] next).trainer.epoch = c.trainer.epoch + 1 := counted
    have here : failAt ≠ some (c.trainer.epoch + 1) := by
      intro fails
      have := quiet _ fails
      omega
    have quiet' (e : Nat) (fails : failAt = some e) :
        e ≤ (c.advanced [mean] next).trainer.epoch ∨ (c.advanced [mean] next).trainer.epoch + rounds < e := by
      have := quiet e fails
      have : e ≠ c.trainer.epoch + 1 := fun same => here (same ▸ fails)
      omega
    have others := ih (published.step_eq_ok learned).2 (by omega) quiet' rest
    rw [advanced_advanced counted] at others
    rw [published.run_step (by omega) failAt learned, if_neg here]
    exact others

end Rounds

variable [Scalar R] [Exponential R] [Storage W R] [Random.Source G]

section Outcome

variable {t : Trainer W R G} (sound : t.Sound) {limit : Nat} {means : List R} {after : Trainer W R G}

include sound

theorem train_complete {failAt : Option Nat} (quiet : ∀ e, failAt = some e → e ≤ t.epoch ∨ limit < e)
    (trained : t.learnMany (limit - t.epoch) = .ok (means, after)) :
    train t limit failAt =
      ⟨[.trainingStarted t.epoch, .trainingStopped after.epoch],
        ⟨.ofWeights after.network.weights, after.epoch, reportsFrom t.epoch means, some after⟩⟩ := by
  have published := ofTrainer_published sound
  obtain ⟨-, -, epoch⟩ := learnMany_follows sound trained
  have quiet' (e : Nat) (fails : failAt = some e) : e ≤ t.epoch ∨ t.epoch + (limit - t.epoch) < e := by
    have := quiet e fails
    omega
  obtain ⟨rounds, -⟩ := published.run_rounds (le_refl (limit - t.epoch)) quiet' trained
  have closed : ¬ ((ofTrainer t).advanced means after).trainer.epoch < limit := by
    show ¬ after.epoch < limit
    omega
  rw [train, rounds, run, if_neg closed]
  rfl

theorem train_broken {e : Nat} (later : t.epoch < e) (within : e ≤ limit) (room : e < Word.limit)
    (trained : t.learnMany (e - t.epoch) = .ok (means, after)) :
    train t limit (some e) =
      ⟨[.trainingStarted t.epoch],
        ⟨.ofWeights after.network.weights, e, reportsFrom t.epoch means, none⟩⟩ := by
  have published := ofTrainer_published sound
  obtain ⟨rounds, before⟩ : ∃ rounds, e - t.epoch = rounds + 1 := ⟨e - t.epoch - 1, by omega⟩
  obtain ⟨losses, last, run⟩ := learnMany_eq_ok sound (show t.epoch + rounds < Word.limit by omega)
  obtain ⟨kept, count, epoch⟩ := learnMany_follows sound run
  obtain ⟨mean, next, learned, -⟩ := Trainer.learn_eq_ok kept.sound (by omega)
  have whole : t.learnMany (rounds + 1) = .ok (losses ++ [mean], next) :=
    Trainer.learnMany_add run (by simp only [learnMany, learned, ok_bind, pure_eq_ok])
  rw [before] at trained
  cases whole.symm.trans trained
  have quiet (f : Nat) (fails : some e = some f) : f ≤ t.epoch ∨ t.epoch + rounds < f := by
    cases fails
    omega
  obtain ⟨first, published'⟩ := published.run_rounds (show rounds ≤ limit - t.epoch by omega) quiet run
  have here : ((ofTrainer t).advanced losses last).trainer.epoch + 1 = e := by
    show last.epoch + 1 = e
    omega
  have unfinished : ((ofTrainer t).advanced losses last).trainer.epoch < limit := by omega
  have final := published'.run_step unfinished (some e) learned
  rw [here, if_pos rfl, advanced_advanced (show last.epoch = t.epoch + losses.length by omega)] at final
  rw [train, first, final]
  have counter : after.epoch = e := (Trainer.learn_epoch learned).trans here
  simp only [advanced, counter, ofTrainer, List.nil_append, Bool.false_eq_true, if_false]

end Outcome

theorem continuous_training_is_sequential {t : Trainer W R G} (reachable : t.Reachable) (limit : UInt64)
    (failAt : Option Nat) :
    ∃ means after, t.learnMany (limit.toNat - t.epoch) = .ok (means, after) ∧
      means.length = limit.toNat - t.epoch ∧ after.epoch = t.epoch + (limit.toNat - t.epoch) ∧
      ((∀ e, failAt = some e → e ≤ t.epoch ∨ limit.toNat < e) → train t limit.toNat failAt =
        ⟨[.trainingStarted t.epoch, .trainingStopped after.epoch],
          ⟨.ofWeights after.network.weights, after.epoch, reportsFrom t.epoch means, some after⟩⟩) ∧
      (∀ e, failAt = some e → t.epoch < e → e ≤ limit.toNat → ∃ last,
        t.learnMany (e - t.epoch) = .ok (means.take (e - t.epoch), last) ∧ last.epoch = e ∧
        train t limit.toNat failAt =
          ⟨[.trainingStarted t.epoch],
            ⟨.ofWeights last.network.weights, e, reportsFrom t.epoch (means.take (e - t.epoch)), none⟩⟩) ∧
      (limit.toNat ≤ t.epoch →
        (train t limit.toNat failAt).value = ⟨.ofWeights t.network.weights, t.epoch, [], some t⟩) ∧
      ∀ calls losses last, t.learnMany calls = .ok (losses, last) →
        (SharedWeights.ofWeights t.network.weights).publish last.network.weights =
          .ok (.ofWeights last.network.weights) := by
  have sound := reachable.sound
  have counted := sound.counted
  have word : limit.toNat < Word.limit := limit.toNat_lt
  obtain ⟨means, after, trained⟩ :=
    learnMany_eq_ok sound (show t.epoch + (limit.toNat - t.epoch) < Word.limit by omega)
  obtain ⟨-, count, epoch⟩ := learnMany_follows sound trained
  refine ⟨means, after, trained, count, epoch, fun quiet => train_complete sound quiet trained, ?_, ?_, ?_⟩
  · rintro e rfl later within
    obtain ⟨losses, last, run⟩ := learnMany_eq_ok sound (show t.epoch + (e - t.epoch) < Word.limit by omega)
    obtain ⟨kept, length, reached⟩ := learnMany_follows sound run
    obtain ⟨others, _, rest⟩ :=
      learnMany_eq_ok kept.sound (show last.epoch + (limit.toNat - e) < Word.limit by omega)
    have whole := Trainer.learnMany_add run rest
    rw [show e - t.epoch + (limit.toNat - e) = limit.toNat - t.epoch by omega] at whole
    cases whole.symm.trans trained
    rw [← length, List.take_left]
    exact ⟨last, length ▸ run, by omega, train_broken sound later within (by omega) run⟩
  · intro above
    rw [Nat.sub_eq_zero_of_le above] at trained
    cases trained
    rw [train_complete sound (fun e _ => by omega) (by rw [Nat.sub_eq_zero_of_le above]; rfl)]
    rfl
  · intro calls losses last run
    exact SharedWeights.publish_eq_ok ((learnMany_follows sound run).1.network.weights sound.network)

theorem continuous_training_is_sequential_of_two_samples :
    ∃ (n : Network ℝ ℝ) (t : Trainer ℝ ℝ Random.Stream),
      Network.ofWeights ⟨[2, 2, 1], true⟩ .tanh (List.replicate 9 1) = .ok n ∧
      Trainer.ofParts n (.ofSamples [⟨0, 1, .negative⟩, ⟨2, 3, .positive⟩]) ⟨1, 0, .fullPass⟩ (.ofSeed 1) = .ok t ∧
      t.Reachable ∧ t.epoch = 0 ∧ ∃ means after, t.learnMany 3 = .ok (means, after) ∧ means.length = 3 ∧
        ∃ last, t.learnMany 2 = .ok (means.take 2, last) ∧
          train t 3 (some 2) =
            ⟨[.trainingStarted 0], ⟨.ofWeights last.network.weights, 2, reportsFrom 0 (means.take 2), none⟩⟩ ∧
          train t 3 none =
            ⟨[.trainingStarted 0, .trainingStopped after.epoch],
              ⟨.ofWeights after.network.weights, after.epoch, reportsFrom 0 means, some after⟩⟩ := by
  have accepted : Topology.ofSizes [2, 2, 1] true = .ok ⟨[2, 2, 1], true⟩ := rfl
  have enough : (List.replicate 9 1 : List ℝ).length = Topology.weightsBelow ⟨[2, 2, 1], true⟩ 3 := rfl
  have valid : (⟨1, 0, .fullPass⟩ : TrainConfig ℝ).validate = .ok () := by
    simp [TrainConfig.validate_eq_ok_iff]
  have filled : ([⟨0, 1, .negative⟩, ⟨2, 3, .positive⟩] : List (Sample ℝ)) ≠ [] := List.cons_ne_nil _ _
  obtain ⟨n, built, -, -, -, started, reachable⟩ :=
    Trainer.exists_reachable accepted (by decide) enough .tanh filled valid (Random.Stream.ofSeed 1)
  obtain ⟨means, after, trained, count, -, -, broken, -⟩ := continuous_training_is_sequential reachable 3 (some 2)
  obtain ⟨_, _, again, -, -, complete, -⟩ := continuous_training_is_sequential reachable 3 none
  cases again.symm.trans trained
  obtain ⟨last, some, -, failed⟩ := broken 2 rfl two_pos (by decide)
  exact ⟨n, _, built, started, reachable, rfl, means, after, trained, count, last, some, failed, complete (by simp)⟩

end Continuous

end PlaneNet
