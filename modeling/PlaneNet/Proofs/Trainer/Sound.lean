import PlaneNet.Proofs.Dataset
import PlaneNet.Proofs.Network.Sessions
import PlaneNet.Trainer

set_option autoImplicit false

namespace PlaneNet.Trainer

variable {W R G : Type} [Scalar R]

structure Sound (t : Trainer W R G) : Prop where
  network : t.network.Sound
  permuted : t.data.Permuted
  nonempty : t.data.isEmpty = false
  config : t.config.validate = .ok ()
  counted : t.epoch < Word.limit

structure Follows (before after : Trainer W R G) : Prop where
  sound : after.Sound
  network : before.network.Keeps after.network
  samples : after.data.samples = before.data.samples
  config : after.config = before.config

variable {t after : Trainer W R G}

theorem Sound.follows (sound : t.Sound) : t.Follows t := ⟨sound, ⟨sound.network, rfl, rfl⟩, rfl, rfl⟩

theorem Follows.trans {last : Trainer W R G} (first : t.Follows after) (second : after.Follows last) :
    t.Follows last where
  sound := second.sound
  network := first.network.trans second.network
  samples := second.samples.trans first.samples
  config := second.config.trans first.config

theorem Sound.positive (sound : t.Sound) : 0 < t.data.size := by
  have nonempty := sound.nonempty
  simp only [Dataset.isEmpty, beq_eq_false_iff_ne] at nonempty
  omega

theorem Follows.counted {last : Trainer W R G} (kept : t.Follows last) (room : t.epoch + 1 < Word.limit) :
    t.Follows { last with epoch := t.epoch + 1 } :=
  { kept with sound := { kept.sound with counted := room } }

variable [Exponential R] [Storage W R]

section Evaluation

-- What one sample leaves in the scratch network does not reach the answer to the next.
theorem outputs_eq_ok {n : Network W R} (sound : n.Sound) (samples : List (Sample W)) :
    outputs n samples = .ok (samples.map fun s => n.answer s.x s.y) := by
  induction samples generalizing n with
  | nil => rfl
  | cons s rest ih =>
    have later := ih (Network.answered_sound s.x s.y sound)
    simp only [outputs, Network.forward_eq_ok s.x s.y sound, ok_bind, later, pure_eq_ok]
    rfl

theorem meanLoss_eq_ok (sound : t.Sound) :
    t.meanLoss = .ok (Scalar.sum (t.data.samples.toList.map fun s => loss (s.target - t.network.answer s.x s.y)) /
      nat t.data.size) := by
  rw [meanLoss, outputs_eq_ok sound.network, ok_bind, List.zipWith_map_right, List.zipWith_self]
  rfl

theorem accuracy_eq_ok (sound : t.Sound) :
    t.accuracy = .ok (nat (t.data.samples.toList.countP fun s => agrees s (t.network.answer s.x s.y)) /
      nat t.data.size) := by
  rw [accuracy, outputs_eq_ok sound.network, ok_bind, ← List.map_prod_left_eq_zip, List.countP_map]
  rfl

end Evaluation

variable [Random.Source G]

theorem step_eq_ok (sound : t.Sound) {position : Nat} (within : position < t.data.size) :
    ∃ loss after, t.step position = .ok (loss, after) ∧ t.Follows after := by
  obtain ⟨data, words, drawn, permuted, samples⟩ : ∃ data words,
      (if position = 0 then t.data.shuffle t.words else (t.data, t.words)) = (data, words) ∧
        data.Permuted ∧ data.samples = t.data.samples := by
    by_cases first : position = 0
    · exact ⟨_, _, if_pos first, sound.permuted.shuffle t.words, rfl⟩
    · exact ⟨_, _, if_neg first, sound.permuted, rfl⟩
  have size : data.size = t.data.size := congrArg Array.size samples
  obtain ⟨s, visited⟩ := Dataset.visited_eq_ok permuted (size ▸ within)
  have trained := Network.train_eq_ok sound.network s.x s.y s.target t.config.learnRate t.config.momentum
  let after : Trainer W R G :=
    { t with
      network := t.network.trained s.x s.y s.target t.config.learnRate t.config.momentum, data, words }
  have run : t.step position = .ok (loss (s.target - t.network.answer s.x s.y), after) := by
    simp only [step, drawn, visited, trained, ok_bind, pure_eq_ok, after]
  have kept : after.Sound :=
    { network := Network.train_sound sound.network trained
      permuted
      nonempty := (congrArg (· == 0) size).trans sound.nonempty
      config := sound.config
      counted := sound.counted }
  exact ⟨_, after, run, kept, ⟨kept.network, rfl, rfl⟩, samples, rfl⟩

theorem pass_eq_ok (sound : t.Sound) (start : R) :
    ∃ total after, (List.range t.data.size).foldlM addStep (start, t) = .ok (total, after) ∧
      t.Follows after := by
  have step (state : R × Trainer W R G) (kept : t.Follows state.2) (position : Nat)
      (member : position ∈ List.range t.data.size) :
      ∃ next, addStep state position = .ok next ∧ t.Follows next.2 := by
    have size : state.2.data.size = t.data.size := congrArg Array.size kept.samples
    obtain ⟨loss, after, run, follows⟩ :=
      step_eq_ok kept.sound (size ▸ List.mem_range.mp member)
    refine ⟨(state.1 + loss, after), ?_, kept.trans follows⟩
    rw [addStep, run]
    rfl
  obtain ⟨last, run, kept⟩ := foldlM_invariant _ step (start, t) sound.follows
  exact ⟨last.1, last.2, run, kept⟩

theorem round_eq_ok (sound : t.Sound) :
    ∃ mean after, t.round = .ok (mean, after) ∧ t.Follows after := by
  cases mode : t.config.mode with
  | fullPass =>
    obtain ⟨total, last, run, kept⟩ := pass_eq_ok sound Scalar.zero
    refine ⟨total / nat t.data.size, last, ?_, kept⟩
    simp only [round, sound.nonempty, Bool.false_eq_true, if_false, mode, run, ok_bind, pure_eq_ok]
  | singleSample =>
    obtain ⟨loss, last, run, kept⟩ := step_eq_ok sound (Nat.mod_lt t.epoch sound.positive)
    refine ⟨loss, last, ?_, kept⟩
    simp only [round, sound.nonempty, Bool.false_eq_true, if_false, mode, run]

section Counting

variable {mean : R} {last : Trainer W R G}

theorem learn_of_round (ran : t.round = .ok (mean, last)) :
    t.learn = if t.epoch + 1 < Word.limit then .ok (mean, { last with epoch := t.epoch + 1 })
      else .error Word.overflow := by
  rw [learn, ran, ok_bind]
  exact Word.fit_bind _ _

theorem learn_eq_ok_iff :
    t.learn = .ok (mean, after) ↔ ∃ last, t.round = .ok (mean, last) ∧ t.epoch + 1 < Word.limit ∧
      after = { last with epoch := t.epoch + 1 } := by
  constructor
  · intro learned
    obtain ⟨⟨mean, last⟩, ran, -⟩ := (bind_eq_ok_iff _ _ _).mp learned
    rw [learn_of_round ran] at learned
    split at learned
    next room =>
      cases learned
      exact ⟨last, ran, room, rfl⟩
    next => cases learned
  · rintro ⟨last, ran, room, rfl⟩
    rw [learn_of_round ran, if_pos room]

theorem learn_eq_ok (sound : t.Sound) (room : t.epoch + 1 < Word.limit) :
    ∃ mean after, t.learn = .ok (mean, after) ∧ t.Follows after := by
  obtain ⟨mean, last, ran, kept⟩ := round_eq_ok sound
  exact ⟨mean, _, learn_eq_ok_iff.mpr ⟨last, ran, room, rfl⟩, kept.counted room⟩

-- The call that leaves the word trains like any other, but is not counted and hands nothing over.
theorem learn_overflow (sound : t.Sound) (full : Word.limit ≤ t.epoch + 1) : t.learn = .error Word.overflow := by
  obtain ⟨mean, last, ran, -⟩ := round_eq_ok sound
  rw [learn_of_round ran, if_neg (Nat.not_lt.mpr full)]

theorem learn_follows (sound : t.Sound) (learned : t.learn = .ok (mean, after)) : t.Follows after := by
  obtain ⟨last, ran, room, rfl⟩ := learn_eq_ok_iff.mp learned
  obtain ⟨_, _, again, kept⟩ := round_eq_ok sound
  cases again.symm.trans ran
  exact kept.counted room

theorem learnMany_eq_ok (sound : t.Sound) {calls : Nat} (room : t.epoch + calls < Word.limit) :
    ∃ means after, t.learnMany calls = .ok (means, after) := by
  induction calls generalizing t with
  | zero => exact ⟨[], t, rfl⟩
  | succ calls ih =>
    obtain ⟨mean, next, learned, kept⟩ := learn_eq_ok sound (by omega)
    have epoch := learn_epoch learned
    obtain ⟨means, after, run⟩ := ih kept.sound (by omega)
    refine ⟨mean :: means, after, ?_⟩
    simp only [learnMany, learned, run, ok_bind, pure_eq_ok]

theorem learnMany_follows (sound : t.Sound) {calls : Nat} {means : List R}
    (run : t.learnMany calls = .ok (means, after)) :
    t.Follows after ∧ means.length = calls ∧ after.epoch = t.epoch + calls := by
  induction calls generalizing t means with
  | zero =>
    cases run
    exact ⟨sound.follows, rfl, rfl⟩
  | succ calls ih =>
    obtain ⟨⟨mean, next⟩, learned, run⟩ := (bind_eq_ok_iff _ _ _).mp run
    obtain ⟨⟨others, last⟩, rest, done⟩ := (bind_eq_ok_iff _ _ _).mp run
    cases done
    have kept := learn_follows sound learned
    have epoch := learn_epoch learned
    obtain ⟨follows, count, final⟩ := ih kept.sound rest
    exact ⟨kept.trans follows, congrArg (· + 1) count, by omega⟩

end Counting

end PlaneNet.Trainer
