import PlaneNet.Proofs.Trainer.Sessions

set_option autoImplicit false

namespace PlaneNet.Trainer

variable {W R G : Type} {t after : Trainer W R G}

open Scalar (zero)

-- Position 0 begins a new order.
def drawn [Random.Source G] (t : Trainer W R G) (position : Nat) : Dataset W × G :=
  if position = 0 then t.data.shuffle t.words else (t.data, t.words)

theorem drawn_samples [Random.Source G] (t : Trainer W R G) (position : Nat) :
    (t.drawn position).1.samples = t.data.samples := by
  rw [drawn]
  split <;> rfl

variable [Scalar R] [Exponential R] [Storage W R] [Random.Source G]

section Step

theorem step_eq (t : Trainer W R G) (position : Nat) :
    t.step position = (do
      let s ← (t.drawn position).1.visited position
      let (e, network) ← t.network.train s.x s.y s.target t.config.learnRate t.config.momentum
      return (loss e, { t with network, data := (t.drawn position).1, words := (t.drawn position).2 })) :=
  rfl

theorem step_eq_ok_iff (t : Trainer W R G) (position : Nat) (l : R) (after : Trainer W R G) :
    t.step position = .ok (l, after) ↔ ∃ s e network, (t.drawn position).1.visited position = .ok s ∧
      t.network.train s.x s.y s.target t.config.learnRate t.config.momentum = .ok (e, network) ∧
      l = loss e ∧
      after = { t with network, data := (t.drawn position).1, words := (t.drawn position).2 } := by
  rw [step_eq]
  constructor
  · intro stepped
    obtain ⟨s, visited, rest⟩ := (bind_eq_ok_iff _ _ _).mp stepped
    obtain ⟨⟨e, network⟩, trained, done⟩ := (bind_eq_ok_iff _ _ _).mp rest
    cases done
    exact ⟨s, e, network, visited, trained, rfl, rfl⟩
  · rintro ⟨s, e, network, visited, trained, rfl, rfl⟩
    simp only [visited, trained, ok_bind, pure_eq_ok]

theorem step_size {position : Nat} {l : R} (stepped : t.step position = .ok (l, after)) :
    after.data.size = t.data.size := by
  obtain ⟨s, e, network, -, -, -, rfl⟩ := (step_eq_ok_iff t position l after).mp stepped
  exact congrArg Array.size (t.drawn_samples position)

end Step

section Steps

def steps (t : Trainer W R G) : Nat → Nat → Except Error (List R × Trainer W R G)
  | _, 0 => .ok ([], t)
  | position, count + 1 => do
    let (loss, t) ← t.step position
    let (losses, t) ← t.steps (position + 1) count
    return (loss :: losses, t)

theorem steps_succ_eq_ok {position count : Nat} {l : R} {losses : List R} {next : Trainer W R G}
    (stepped : t.step position = .ok (l, next)) (rest : next.steps (position + 1) count = .ok (losses, after)) :
    t.steps position (count + 1) = .ok (l :: losses, after) := by
  simp only [steps, stepped, rest, ok_bind, pure_eq_ok]

theorem steps_eq_ok (sound : t.Sound) {position count : Nat} (within : position + count ≤ t.data.size) :
    ∃ losses after, t.steps position count = .ok (losses, after) ∧ t.Follows after ∧
      losses.length = count := by
  induction count generalizing t position with
  | zero => exact ⟨[], t, rfl, sound.follows, rfl⟩
  | succ count ih =>
    obtain ⟨l, next, stepped, kept⟩ := step_eq_ok sound (show position < t.data.size by omega)
    have size := step_size stepped
    obtain ⟨losses, after, rest, keptRest, length⟩ :=
      ih kept.sound (show position + 1 + count ≤ next.data.size by omega)
    exact ⟨l :: losses, after, steps_succ_eq_ok stepped rest, kept.trans keptRest, congrArg (· + 1) length⟩

theorem foldlM_addStep {position count : Nat} {losses : List R}
    (run : t.steps position count = .ok (losses, after)) (total : R) :
    (List.range' position count).foldlM addStep (total, t) = .ok (losses.foldl (· + ·) total, after) := by
  induction count generalizing t position losses total with
  | zero =>
    cases run
    rfl
  | succ count ih =>
    obtain ⟨⟨l, next⟩, stepped, run⟩ := (bind_eq_ok_iff _ _ _).mp run
    obtain ⟨⟨later, last⟩, rest, done⟩ := (bind_eq_ok_iff _ _ _).mp run
    cases done
    rw [List.range'_succ, List.foldlM_cons, addStep, stepped]
    exact ih rest (total + l)

theorem round_fullPass (sound : t.Sound) (mode : t.config.mode = .fullPass) {losses : List R}
    (run : t.steps 0 t.data.size = .ok (losses, after)) :
    t.round = .ok (losses.foldl (· + ·) zero / nat t.data.size, after) := by
  have pass := foldlM_addStep run zero
  rw [← List.range_eq_range'] at pass
  simp only [round, sound.nonempty, Bool.false_eq_true, if_false, mode, pass, ok_bind, pure_eq_ok]

theorem round_singleSample (sound : t.Sound) (mode : t.config.mode = .singleSample) :
    t.round = t.step (t.epoch % t.data.size) := by
  simp only [round, sound.nonempty, Bool.false_eq_true, if_false, mode]

end Steps

section Sampling

/-- The trainer that takes one sample per call from here on, at another epoch. -/
def sampling (t : Trainer W R G) (epoch : Nat) : Trainer W R G :=
  { t with config := { t.config with mode := .singleSample }, epoch }

theorem step_sampling {position epoch : Nat} {l : R} (stepped : t.step position = .ok (l, after)) :
    (t.sampling epoch).step position = .ok (l, after.sampling epoch) := by
  obtain ⟨s, e, network, visited, trained, rfl, rfl⟩ := (step_eq_ok_iff t position l after).mp stepped
  exact (step_eq_ok_iff _ _ _ _).mpr ⟨s, e, network, visited, trained, rfl, rfl⟩

-- The epoch alone says where in the order a sampling trainer is.
theorem learn_sampling {epoch : Nat} {l : R} (filled : t.data.isEmpty = false) (room : epoch + 1 < Word.limit)
    (stepped : t.step (epoch % t.data.size) = .ok (l, after)) :
    (t.sampling epoch).learn = .ok (l, after.sampling (epoch + 1)) := by
  have filled' : (t.sampling epoch).data.isEmpty = false := filled
  have stepped' : (t.sampling epoch).step (epoch % (t.sampling epoch).data.size) =
      .ok (l, after.sampling epoch) := step_sampling stepped
  have mode : (t.sampling epoch).config.mode = .singleSample := rfl
  have count : (t.sampling epoch).epoch = epoch := rfl
  refine learn_eq_ok_iff.mpr ⟨after.sampling epoch, ?_, room, rfl⟩
  simp only [round, filled', Bool.false_eq_true, if_false, mode, count, stepped']

theorem learnMany_sampling (sound : t.Sound) {position count epoch : Nat} {losses : List R}
    (aligned : t.data.size ∣ epoch) (within : position + count ≤ t.data.size)
    (room : epoch + position + count < Word.limit) (run : t.steps position count = .ok (losses, after)) :
    (t.sampling (epoch + position)).learnMany count = .ok (losses, after.sampling (epoch + position + count)) := by
  induction count generalizing t position losses with
  | zero =>
    cases run
    rfl
  | succ count ih =>
    obtain ⟨⟨l, next⟩, stepped, run⟩ := (bind_eq_ok_iff _ _ _).mp run
    obtain ⟨⟨later, last⟩, rest, done⟩ := (bind_eq_ok_iff _ _ _).mp run
    cases done
    have size := step_size stepped
    obtain ⟨_, _, again, kept⟩ := step_eq_ok sound (show position < t.data.size by omega)
    cases again.symm.trans stepped
    have here : (epoch + position) % t.data.size = position := by
      obtain ⟨cycles, rfl⟩ := aligned
      rw [Nat.mul_add_mod, Nat.mod_eq_of_lt (by omega)]
    have first : (t.sampling (epoch + position)).learn = .ok (l, next.sampling (epoch + position + 1)) :=
      learn_sampling sound.nonempty (by omega) (here.symm ▸ stepped)
    have others := ih kept.sound (by rwa [size]) (show position + 1 + count ≤ next.data.size by omega) (by omega) rest
    rw [← Nat.add_assoc] at others
    simp only [learnMany, first, others, ok_bind, pure_eq_ok]
    rw [Nat.add_right_comm _ 1 count]
    rfl

theorem learnMany_add {m n : Nat} {xs ys : List R} {middle : Trainer W R G}
    (first : t.learnMany m = .ok (xs, middle)) (second : middle.learnMany n = .ok (ys, after)) :
    t.learnMany (m + n) = .ok (xs ++ ys, after) := by
  induction m generalizing t xs with
  | zero =>
    cases first
    rwa [Nat.zero_add]
  | succ m ih =>
    obtain ⟨⟨mean, next⟩, learned, first⟩ := (bind_eq_ok_iff _ _ _).mp first
    obtain ⟨⟨means, last⟩, rest, done⟩ := (bind_eq_ok_iff _ _ _).mp first
    cases done
    rw [Nat.add_right_comm]
    simp only [learnMany, learned, ih rest, ok_bind, pure_eq_ok]
    rfl

end Sampling

theorem pass_eq_cycle (sound : t.Sound) (mode : t.config.mode = .fullPass) {epoch : Nat}
    (aligned : t.data.size ∣ epoch) (room : t.epoch + 1 < Word.limit) (roomBySample : epoch + t.data.size < Word.limit) :
    ∃ losses after, t.learn = .ok (losses.foldl (· + ·) zero / nat t.data.size, after) ∧
      (t.sampling epoch).learnMany t.data.size = .ok (losses, after.sampling (epoch + t.data.size)) ∧
      t.Follows after ∧ losses.length = t.data.size := by
  have all : 0 + t.data.size ≤ t.data.size := by omega
  obtain ⟨losses, last, run, kept, length⟩ := steps_eq_ok sound all
  have cycle := learnMany_sampling sound aligned all roomBySample run
  have learned := learn_eq_ok_iff.mpr ⟨last, round_fullPass sound mode run, room, rfl⟩
  exact ⟨losses, _, learned, cycle, kept.counted room, length⟩

theorem passes_eq_cycles (sound : t.Sound) (mode : t.config.mode = .fullPass) {epoch : Nat}
    (aligned : t.data.size ∣ epoch) {passes : Nat} (room : t.epoch + passes < Word.limit)
    (roomBySample : epoch + passes * t.data.size < Word.limit) :
    ∃ losses after,
      t.learnMany passes = .ok ((Buffer.chunks t.data.size passes losses).map
        (fun block => block.foldl (· + ·) zero / nat t.data.size), after) ∧
      (t.sampling epoch).learnMany (passes * t.data.size) =
        .ok (losses, after.sampling (epoch + passes * t.data.size)) ∧
      losses.length = passes * t.data.size := by
  induction passes generalizing t epoch with
  | zero => exact ⟨[], t, rfl, by simp [learnMany], by simp⟩
  | succ passes ih =>
    have count : (passes + 1) * t.data.size = t.data.size + passes * t.data.size := by
      rw [Nat.add_mul, Nat.one_mul, Nat.add_comm]
    rw [count] at roomBySample
    obtain ⟨losses, next, learned, cycle, kept, length⟩ :=
      pass_eq_cycle sound mode aligned (by omega) (by omega)
    have epochs := learn_epoch learned
    have size : next.data.size = t.data.size := congrArg Array.size kept.samples
    have aligned' : next.data.size ∣ epoch + t.data.size := size ▸ aligned.add (dvd_refl _)
    obtain ⟨later, after, run, cycles, lengthLater⟩ :=
      ih kept.sound (kept.config ▸ mode) aligned' (by omega) (by rw [size]; omega)
    rw [size] at run cycles lengthLater
    refine ⟨losses ++ later, after, ?_, ?_, ?_⟩
    · simp only [learnMany, learned, run, ok_bind, pure_eq_ok, Buffer.chunks, List.map_cons, ← length,
        List.take_left, List.drop_left]
    · rw [count, ← Nat.add_assoc]
      exact learnMany_add cycle cycles
    · rw [List.length_append, length, lengthLater, count]

theorem full_passes_are_cycles (reachable : t.Reachable) (mode : t.config.mode = .fullPass) {epoch : Nat}
    (aligned : t.data.size ∣ epoch) {passes : Nat} (room : t.epoch + passes < Word.limit)
    (roomBySample : epoch + passes * t.data.size < Word.limit) :
    ∃ means after losses after',
      t.learnMany passes = .ok (means, after) ∧
      (t.sampling epoch).learnMany (passes * t.data.size) = .ok (losses, after') ∧
      after'.network = after.network ∧ after'.data = after.data ∧ after'.words = after.words ∧
      means.length = passes ∧ losses.length = passes * t.data.size ∧
      ∀ j < passes, means[j]? = some
        (((losses.drop (j * t.data.size)).take t.data.size).foldl (· + ·) zero / nat t.data.size) := by
  obtain ⟨losses, after, run, cycles, length⟩ := passes_eq_cycles reachable.sound mode aligned room roomBySample
  refine ⟨_, after, losses, _, run, cycles, rfl, rfl, rfl, ?_, length, ?_⟩
  · rw [List.length_map, Buffer.chunks_eq, List.length_map, List.length_range]
  · intro j within
    simp [Buffer.chunks_eq, within, Span.slice]

theorem full_passes_are_cycles_of_two_samples :
    ∃ (n : Network ℝ ℝ) (t : Trainer ℝ ℝ Random.Stream),
      Network.ofWeights ⟨[2, 2, 1], true⟩ .tanh (List.replicate 9 1) = .ok n ∧
      ofParts n (.ofSamples [⟨0, 1, .negative⟩, ⟨2, 3, .positive⟩]) ⟨1, 0, .fullPass⟩ (.ofSeed 1) = .ok t ∧
      t.Reachable ∧ t.config.mode = .fullPass ∧ t.data.size ∣ 4 ∧
      ∃ means after losses after',
        t.learnMany 3 = .ok (means, after) ∧ (t.sampling 4).learnMany (3 * t.data.size) = .ok (losses, after') ∧
        after'.network = after.network ∧ after'.data = after.data ∧ after'.words = after.words ∧
        means.length = 3 ∧ losses.length = 3 * t.data.size ∧
        ∀ j < 3, means[j]? = some
          (((losses.drop (j * t.data.size)).take t.data.size).foldl (· + ·) zero / nat t.data.size) := by
  have accepted : Topology.ofSizes [2, 2, 1] true = .ok ⟨[2, 2, 1], true⟩ := rfl
  have enough : (List.replicate 9 1 : List ℝ).length = Topology.weightsBelow ⟨[2, 2, 1], true⟩ 3 := rfl
  obtain ⟨n, built, network, -⟩ := Network.exists_ofWeights accepted (by decide) enough .tanh
  have valid : (⟨1, 0, .fullPass⟩ : TrainConfig ℝ).validate = .ok () := by
    simp [TrainConfig.validate_eq_ok_iff]
  have started : ofParts n (.ofSamples [⟨0, 1, .negative⟩, ⟨2, 3, .positive⟩]) ⟨1, 0, .fullPass⟩ (.ofSeed 1) =
      .ok (_ : Trainer ℝ ℝ Random.Stream) := ofParts_eq_ok rfl valid
  have reachable : Reachable _ := .built (.ofParts network (.ofSamples _) started)
  have even : (Dataset.ofSamples [(⟨0, 1, .negative⟩ : Sample ℝ), ⟨2, 3, .positive⟩]).size ∣ 4 := ⟨2, rfl⟩
  have few : 0 + 3 < Word.limit ∧ 4 + 3 * 2 < Word.limit := by decide
  exact ⟨n, _, built, started, reachable, rfl, even, full_passes_are_cycles reachable rfl even few.1 few.2⟩

end PlaneNet.Trainer
