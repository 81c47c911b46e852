import PlaneNet.Proofs.Trainer.Actions

set_option autoImplicit false

namespace PlaneNet

section Logs

namespace Trainer

variable {W R G : Type} {t next : Trainer W R G} {history : List (List Action)}

/-- The actions of calls for one sample each: the first call draws the order. -/
def cycle : List Nat → List (List Action)
  | [] => []
  | first :: rest => [.shuffle, .train first] :: rest.map fun i => [.train i]

theorem length_cycle (order : List Nat) : (cycle order).length = order.length := by
  cases order <;> simp [cycle]

theorem cycle_append {order : List Nat} (begun : order ≠ []) (i : Nat) :
    cycle (order ++ [i]) = cycle order ++ [[.train i]] := by
  cases order with
  | nil => exact absurd rfl begun
  | cons first rest => simp [cycle]

structure Cycled (t : Trainer W R G) (history : List (List Action)) (cycles position : Nat) : Prop where
  within : position < t.data.size
  counted : history.length = cycles * t.data.size + position
  epoch : t.epoch = history.length
  complete : ∀ q < cycles, ∃ order : List Nat, order.Perm (List.range t.data.size) ∧
    (history.drop (q * t.data.size)).take t.data.size = cycle order
  current : history.drop (cycles * t.data.size) = cycle (t.data.order.toList.take position)

def Logged (t : Trainer W R G) (history : List (List Action)) : Prop :=
  match t.config.mode with
  | .fullPass => ∀ actions ∈ history, ∃ order : List Nat, order.Perm (List.range t.data.size) ∧
      actions = .shuffle :: order.map .train
  | .singleSample => ∃ cycles position, t.Cycled history cycles position

section Cycled

variable {cycles position : Nat} (cycled : t.Cycled history cycles position)

include cycled

theorem Cycled.position_eq : t.epoch % t.data.size = position := by
  rw [cycled.epoch, cycled.counted, Nat.mul_add_mod', Nat.mod_eq_of_lt cycled.within]

theorem Cycled.complete_append (actions : List Action) {q : Nat} (before : q < cycles) :
    ∃ order : List Nat, order.Perm (List.range t.data.size) ∧
      ((history ++ [actions]).drop (q * t.data.size)).take t.data.size = cycle order := by
  obtain ⟨order, perm, block⟩ := cycled.complete q before
  have inside : q * t.data.size + t.data.size ≤ history.length := by
    have := Nat.mul_le_mul_right t.data.size before
    rw [Nat.succ_mul] at this
    rw [cycled.counted]
    omega
  refine ⟨order, perm, ?_⟩
  rw [List.drop_append_of_le_length (by omega),
    List.take_append_of_le_length (by rw [List.length_drop]; omega), block]

theorem Cycled.current_append (actions : List Action) :
    (history ++ [actions]).drop (cycles * t.data.size) =
      cycle (t.data.order.toList.take position) ++ [actions] := by
  have below : cycles * t.data.size ≤ history.length := by
    rw [cycled.counted]
    omega
  rw [List.drop_append_of_le_length below, cycled.current]

end Cycled

theorem Logged.still (logged : t.Logged history)
    (same : next.data = t.data ∧ next.epoch = t.epoch ∧ next.config = t.config) : next.Logged history := by
  obtain ⟨data, epoch, config⟩ := same
  cases mode : t.config.mode with
  | fullPass => simpa only [Logged, config, mode, data] using logged
  | singleSample =>
    simp only [Logged, config, mode] at logged ⊢
    obtain ⟨cycles, position, cycled⟩ := logged
    refine ⟨cycles, position, ?_⟩
    constructor <;> simp only [data, epoch]
    case within => exact cycled.within
    case counted => exact cycled.counted
    case epoch => exact cycled.epoch
    case complete => exact cycled.complete
    case current => exact cycled.current

end Trainer

end Logs

variable {W R G : Type} [Scalar R]

section Samples

variable [Storage W R]

inductive Dataset.Holds (samples : List (Sample W)) : Dataset W → Prop where
  | ofSamples : Holds samples (ofSamples samples)
  | shuffle {G : Type} [Random.Source G] {d : Dataset W} (before : Holds samples d) (words : G) :
      Holds samples (d.shuffle words).1
  | fit {G : Type} [Random.Source G] {d : Dataset W} (before : Holds samples d) (m : KMeans) (words : G) :
      Holds samples (m.fit d words).data

variable {samples : List (Sample W)} {data : Dataset W}

theorem KMeans.fit_data [Random.Source G] (m : KMeans) (d : Dataset W) (words : G) :
    (m.fit d words).data = d ∨ (m.fit d words).data = (d.shuffle words).1 := by
  rw [KMeans.fit]
  split
  next => exact .inl rfl
  next =>
    dsimp only
    split <;> exact .inr rfl

namespace Dataset.Holds

theorem reachable (held : data.Holds samples) : data.Reachable := by
  induction held with
  | ofSamples => exact .ofSamples samples
  | shuffle _ words ih => exact .shuffle ih words
  | @fit _ _ d _ m words ih =>
    rcases m.fit_data (R := R) d words with same | shuffled
    · rwa [same]
    · rw [shuffled]
      exact .shuffle ih words

theorem samples_eq (held : data.Holds samples) : data.samples = samples.toArray := by
  induction held with
  | ofSamples => rfl
  | shuffle _ _ ih => exact ih
  | @fit _ _ d _ m words ih =>
    rcases m.fit_data (R := R) d words with same | shuffled
    · rwa [same]
    · rwa [shuffled]

theorem size_eq (held : data.Holds samples) : data.size = samples.length := by
  rw [Dataset.size, held.samples_eq, List.size_toArray]

end Dataset.Holds

end Samples

section Start

variable {data : Dataset W} {words : G} {t : Trainer W R G}

theorem Trainer.ofParts_data {n : Network W R} {config : TrainConfig R}
    (built : Trainer.ofParts n data config words = .ok t) : t.data = data := by
  rw [Trainer.ofParts] at built
  split at built
  next => cases built
  next =>
    obtain ⟨_, -, done⟩ := (bind_eq_ok_iff _ _ _).mp built
    cases done
    rfl

theorem Builder.place_data [Storage W R] [Random.Source G] {b : Builder R} {s : Builder.Start W R G}
    (built : (b.place s data).value = .ok t) :
    t.data = data ∨ ∃ (m : KMeans) (words : G), t.data = (m.fit data words).data := by
  rw [place] at built
  split at built
  next => exact .inl (Trainer.ofParts_data built)
  next k _ =>
    split at built
    next => cases built
    next m _ =>
      obtain ⟨clusters, -, finished⟩ := (bind_eq_ok_iff _ _ _).mp built
      obtain ⟨network, -, rest⟩ := (bind_eq_ok_iff _ _ _).mp finished
      exact .inr ⟨m, s.words, Trainer.ofParts_data rest⟩

end Start

namespace Trainer

variable [Storage W R] [Exponential R] [Random.Source G] {t next after : Trainer W R G}

inductive Starts (samples : List (Sample W)) : Trainer W R G → Prop where
  | ofParts {n : Network W R} {data : Dataset W} {config : TrainConfig R} {words : G}
      {t : Trainer W R G} (network : n.Reachable) (held : data.Holds samples)
      (built : ofParts n data config words = .ok t) : Starts samples t
  | build {b : Builder R} {data : Dataset W} {words : G} {t : Trainer W R G}
      (held : data.Holds samples) (built : (b.build data words).value = .ok t) : Starts samples t

theorem Starts.sound {samples : List (Sample W)} (new : t.Starts samples) : t.Sound := by
  cases new with
  | ofParts network held built => exact ofParts_sound network.sound held.reachable.permuted built
  | build held built => exact Builder.build_sound held.reachable.permuted built

theorem Starts.epoch_eq {samples : List (Sample W)} (new : t.Starts samples) : t.epoch = 0 := by
  cases new with
  | ofParts _ _ built => exact ofParts_epoch built
  | build _ built => exact Builder.build_epoch built

theorem Starts.holds {samples : List (Sample W)} (new : t.Starts samples) : t.data.Holds samples := by
  cases new with
  | ofParts _ held built => exact ofParts_data built ▸ held
  | @build b data words _ held built =>
    rw [Builder.build] at built
    split at built
    next => cases built
    next s _ =>
      obtain same | ⟨m, words, same⟩ := Builder.place_data built
      · exact same ▸ held
      · exact same ▸ .fit held m words

section Cycles

theorem step_current (sound : t.Sound) {position : Nat} {l : R} (within : position < t.data.size)
    (stepped : t.step position = .ok (l, after)) :
    ∃ actions, t.Performs actions [l] after ∧
      cycle (t.data.order.toList.take position) ++ [actions] =
        cycle (after.data.order.toList.take (position + 1)) := by
  cases position with
  | zero =>
    obtain ⟨i, place, performed⟩ := step_first stepped
    refine ⟨_, performed, ?_⟩
    rw [List.take_add_one, place]
    rfl
  | succ position =>
    obtain ⟨i, place, same, performed⟩ := step_later (Nat.succ_ne_zero position) stepped
    have begun : t.data.order.toList.take (position + 1) ≠ [] := by
      have length := sound.permuted.length_order
      refine List.ne_nil_of_length_pos ?_
      rw [List.length_take]
      omega
    refine ⟨_, performed, ?_⟩
    rw [same, List.take_add_one (i := position + 1), place, Option.toList_some, cycle_append begun]

theorem Cycled.step {history : List (List Action)} {cycles position : Nat} {l : R}
    (cycled : t.Cycled history cycles position) (sound : t.Sound)
    (stepped : t.step position = .ok (l, after)) :
    ∃ actions, t.Performs actions [l] after ∧
      ∃ cycles' position',
        Cycled { after with epoch := t.epoch + 1 } (history ++ [actions]) cycles' position' := by
  obtain ⟨actions, performed, grown⟩ := step_current sound cycled.within stepped
  obtain ⟨_, _, again, kept⟩ := step_eq_ok sound cycled.within
  cases again.symm.trans stepped
  have size : after.data.size = t.data.size := step_size stepped
  have permuted : after.data.order.toList.Perm (List.range t.data.size) := size ▸ kept.sound.permuted
  have length : (history ++ [actions]).length = cycles * t.data.size + (position + 1) := by
    rw [List.length_append, cycled.counted]
    rfl
  have current : (history ++ [actions]).drop (cycles * t.data.size) =
      cycle (after.data.order.toList.take (position + 1)) := (cycled.current_append actions).trans grown
  have complete (q : Nat) (before : q < cycles) := cycled.complete_append actions before
  have epoch : t.epoch + 1 = (history ++ [actions]).length := by
    rw [cycled.epoch, List.length_append]
    rfl
  refine ⟨actions, performed, ?_⟩
  rcases Nat.lt_or_ge (position + 1) t.data.size with within | last
  · refine ⟨cycles, position + 1, ?_⟩
    constructor <;> simp only [size] <;> assumption
  · have whole : position + 1 = t.data.size := Nat.le_antisymm cycled.within last
    have full : after.data.order.toList.length = t.data.size := size ▸ kept.sound.permuted.length_order
    rw [whole, List.take_of_length_le full.le] at current
    have ends : (history ++ [actions]).length = (cycles + 1) * t.data.size + 0 := by
      rw [length, whole, Nat.succ_mul]
      rfl
    refine ⟨cycles + 1, 0, ?_⟩
    constructor <;> simp only [size]
    case within => exact sound.positive
    case counted => exact ends
    case epoch => exact epoch
    case complete =>
      intro q before
      rcases Nat.lt_succ_iff_lt_or_eq.mp before with earlier | rfl
      · exact complete q earlier
      · refine ⟨_, permuted, ?_⟩
        rw [current, List.take_of_length_le (by rw [length_cycle, full])]
    case current => exact List.drop_of_length_le ends.le

end Cycles

section Runs

inductive Run : Trainer W R G → List (Call W R) → List (List Action) → Trainer W R G → Prop where
  | done (t : Trainer W R G) : Run t [] [] t
  | learn {t last after : Trainer W R G} {mean : R} {actions : List Action} {losses : List R}
      {calls : List (Call W R)} {history : List (List Action)}
      (learned : t.learn = .ok (mean, { last with epoch := t.epoch + 1 }))
      (performed : t.Performs actions losses last)
      (rest : Run { last with epoch := t.epoch + 1 } calls history after) :
      Run t (.learn :: calls) (actions :: history) after
  | other {t next after : Trainer W R G} {call : Call W R} {calls : List (Call W R)}
      {history : List (List Action)} (still : call ≠ .learn) (run : call.run t = .ok next)
      (rest : Run next calls history after) : Run t (call :: calls) history after

theorem Run.length_history {calls : List (Call W R)} {history : List (List Action)}
    (run : t.Run calls history after) : history.length = calls.countP Call.learns := by
  induction run with
  | done => rfl
  | learn _ _ _ ih => rw [List.length_cons, ih, List.countP_cons_of_pos rfl]
  | @other _ _ _ call _ _ still _ _ ih =>
    have silent : ¬ call.learns = true := by
      cases call with
      | learn => exact absurd rfl still
      | _ => exact Bool.false_ne_true
    rw [ih, List.countP_cons_of_neg silent]

theorem learn_logged {history : List (List Action)} (logged : t.Logged history) (sound : t.Sound)
    (room : t.epoch + 1 < Word.limit) :
    ∃ mean actions losses last, t.learn = .ok (mean, { last with epoch := t.epoch + 1 }) ∧
      t.Performs actions losses last ∧ Logged { last with epoch := t.epoch + 1 } (history ++ [actions]) := by
  cases mode : t.config.mode with
  | fullPass =>
    have all : 0 + t.data.size ≤ t.data.size := by omega
    obtain ⟨losses, last, run, kept, -⟩ := steps_eq_ok sound all
    have size : last.data.size = t.data.size := congrArg Array.size kept.samples
    have mode' : last.config.mode = .fullPass := kept.config ▸ mode
    have learned := learn_eq_ok_iff.mpr ⟨last, round_fullPass sound mode run, room, rfl⟩
    refine ⟨_, _, losses, last, learned, steps_pass sound run, ?_⟩
    simp only [Logged, mode] at logged
    simp only [Logged, mode', size, List.mem_append, List.mem_singleton]
    rintro actions (earlier | rfl)
    · exact logged actions earlier
    · exact ⟨_, size ▸ kept.sound.permuted, rfl⟩
  | singleSample =>
    simp only [Logged, mode] at logged
    obtain ⟨cycles, position, cycled⟩ := logged
    obtain ⟨l, last, stepped, kept⟩ := step_eq_ok sound cycled.within
    obtain ⟨actions, performed, further⟩ := cycled.step sound stepped
    have mode' : last.config.mode = .singleSample := kept.config ▸ mode
    rw [← cycled.position_eq, ← round_singleSample sound mode] at stepped
    refine ⟨l, actions, [l], last, learn_eq_ok_iff.mpr ⟨last, stepped, room, rfl⟩, performed, ?_⟩
    simpa only [Logged, mode'] using further

theorem Call.run_still {call : Call W R} (still : call ≠ .learn) (run : call.run t = .ok next) :
    next.data = t.data ∧ next.epoch = t.epoch ∧ next.config = t.config := by
  cases call with
  | learn => exact absurd rfl still
  | meanLoss =>
    obtain ⟨_, -, done⟩ := (bind_eq_ok_iff _ _ _).mp run
    cases done
    exact ⟨rfl, rfl, rfl⟩
  | accuracy =>
    obtain ⟨_, -, done⟩ := (bind_eq_ok_iff _ _ _).mp run
    cases done
    exact ⟨rfl, rfl, rfl⟩
  | network call =>
    obtain ⟨_, -, done⟩ := (bind_eq_ok_iff _ _ _).mp run
    cases done
    exact ⟨rfl, rfl, rfl⟩

theorem session_logged (sound : t.Sound) {past : List (List Action)} (logged : t.Logged past)
    (calls : List (Call W R)) (inRange : ∀ call ∈ calls, call.InRange t.network.weights.length)
    (room : t.epoch + calls.countP Call.learns < Word.limit) :
    ∃ history after, t.session calls = .ok after ∧ t.Run calls history after ∧ t.Follows after ∧
      after.Logged (past ++ history) := by
  induction calls generalizing t past with
  | nil => exact ⟨[], t, rfl, .done t, sound.follows, by rwa [List.append_nil]⟩
  | cons call calls ih =>
    rw [List.countP_cons] at room
    have here : call.InRange t.network.weights.length := inRange call List.mem_cons_self
    by_cases learns : call = .learn
    · subst learns
      rw [show (Call.learn : Call W R).learns = true from rfl, if_pos rfl] at room
      obtain ⟨mean, actions, losses, last, learned, performed, logged'⟩ := learn_logged logged sound (by omega)
      have run : Call.run t .learn = .ok { last with epoch := t.epoch + 1 } := by
        rw [Call.run, learned]
        rfl
      obtain ⟨kept, epoch⟩ := Call.run_follows sound here run
      obtain ⟨history, after, session, rest, follows, final⟩ :=
        ih kept.sound logged' (Call.inRange_after sound kept inRange) (by simp only; omega)
      rw [List.append_assoc] at final
      exact ⟨actions :: history, after, (session_cons run calls).trans session,
        .learn learned performed rest, kept.trans follows, final⟩
    · have silent : call.learns = false := by
        cases call with
        | learn => exact absurd rfl learns
        | _ => rfl
      obtain ⟨next, run⟩ := call.run_eq_ok sound here fun learns => by cases silent.symm.trans learns
      obtain ⟨kept, epoch⟩ := Call.run_follows sound here run
      obtain ⟨history, after, session, rest, follows, final⟩ :=
        ih kept.sound (logged.still (Call.run_still learns run)) (Call.inRange_after sound kept inRange)
          (by omega)
      exact ⟨history, after, (session_cons run calls).trans session, .other learns run rest,
        kept.trans follows, final⟩

end Runs

theorem Starts.logged {samples : List (Sample W)} (new : t.Starts samples) : t.Logged [] := by
  cases mode : t.config.mode with
  | fullPass => simp [Logged, mode]
  | singleSample =>
    simp only [Logged, mode]
    refine ⟨0, 0, ?_⟩
    constructor
    case within => exact new.sound.positive
    case counted => simp
    case epoch => exact new.epoch_eq
    case complete => simp
    case current => simp [cycle]

theorem epochs_visit_every_sample (samples : List (Sample W)) :
    (∀ d : Dataset W, d.Holds samples →
      d.samples = samples.toArray ∧ d.order.toList.Perm (List.range samples.length)) ∧
    ∀ t : Trainer W R G, t.Starts samples → ∀ calls : List (Call W R),
      (∀ call ∈ calls, call.InRange t.network.weights.length) →
      (Word.limit ≤ calls.countP Call.learns → t.session calls = .error Word.overflow) ∧
      (calls.countP Call.learns < Word.limit → ∃ history after,
        t.session calls = .ok after ∧ t.Run calls history after ∧ history.length = calls.countP Call.learns ∧
        after.data.samples = samples.toArray ∧ after.data.order.toList.Perm (List.range samples.length) ∧
        (t.config.mode = .fullPass → ∀ actions ∈ history, ∃ order : List Nat,
          order.Perm (List.range samples.length) ∧ actions = .shuffle :: order.map .train) ∧
        (t.config.mode = .singleSample → ∀ q, (q + 1) * samples.length ≤ history.length →
          ∃ order : List Nat, order.Perm (List.range samples.length) ∧
            (history.drop (q * samples.length)).take samples.length = cycle order)) := by
  constructor
  · intro d held
    exact ⟨held.samples_eq, held.size_eq ▸ held.reachable.permuted⟩
  · intro t new calls inRange
    have held := new.holds
    have fresh := new.epoch_eq
    refine ⟨fun full => session_overflow new.sound calls inRange (by omega), fun room => ?_⟩
    obtain ⟨history, after, session, run, kept, logged⟩ :=
      session_logged new.sound new.logged calls inRange (by omega)
    rw [List.nil_append] at logged
    have size : after.data.size = samples.length := (congrArg Array.size kept.samples).trans held.size_eq
    refine ⟨history, after, session, run, run.length_history, kept.samples.trans held.samples_eq,
      size ▸ kept.sound.permuted, ?_, ?_⟩
    · intro mode
      rw [← kept.config] at mode
      simpa only [Logged, mode, size] using logged
    · intro mode q complete
      rw [← kept.config] at mode
      simp only [Logged, mode] at logged
      obtain ⟨cycles, position, cycled⟩ := logged
      have within := cycled.within
      rw [cycled.counted] at complete
      rw [size] at within complete
      have before : q < cycles := by
        by_contra after
        have := Nat.mul_le_mul_right samples.length (Nat.le_of_not_lt after)
        rw [Nat.succ_mul] at complete
        omega
      have block := cycled.complete q before
      rwa [size] at block

theorem epochs_visit_every_sample_of_two_samples :
    ∃ (n : Network ℝ ℝ) (d : Dataset ℝ) (t : Trainer ℝ ℝ Random.Stream),
      Network.ofWeights ⟨[2, 2, 1], true⟩ .tanh (List.replicate 9 1) = .ok n ∧
      d = (KMeans.fit (R := ℝ) ⟨2, none⟩ (.ofSamples [⟨0, 1, .negative⟩, ⟨2, 3, .positive⟩])
        (Random.Stream.ofSeed 1)).data ∧
      d.Holds [⟨0, 1, .negative⟩, ⟨2, 3, .positive⟩] ∧
      d.samples = #[⟨0, 1, .negative⟩, ⟨2, 3, .positive⟩] ∧ d.order.toList.Perm [0, 1] ∧
      ofParts n d ⟨1, 0, .singleSample⟩ (.ofSeed 1) = .ok t ∧
      (∃ history after, t.session [.learn, .meanLoss, .learn, .learn, .accuracy, .learn, .learn] = .ok after ∧
        t.Run [.learn, .meanLoss, .learn, .learn, .accuracy, .learn, .learn] history after ∧ history.length = 5 ∧
        after.data.samples = #[⟨0, 1, .negative⟩, ⟨2, 3, .positive⟩] ∧ after.data.order.toList.Perm [0, 1] ∧
        ∀ q, (q + 1) * 2 ≤ history.length → ∃ order : List Nat, order.Perm [0, 1] ∧
          (history.drop (q * 2)).take 2 = cycle order) ∧
      t.session (List.replicate Word.limit .learn) = .error Word.overflow := by
  have accepted : Topology.ofSizes [2, 2, 1] true = .ok ⟨[2, 2, 1], true⟩ := rfl
  have enough : (List.replicate 9 1 : List ℝ).length = Topology.weightsBelow ⟨[2, 2, 1], true⟩ 3 := rfl
  obtain ⟨n, built, network, -⟩ := Network.exists_ofWeights accepted (by decide) enough .tanh
  let samples : List (Sample ℝ) := [⟨0, 1, .negative⟩, ⟨2, 3, .positive⟩]
  let d := (KMeans.fit (R := ℝ) ⟨2, none⟩ (.ofSamples samples) (Random.Stream.ofSeed 1)).data
  have held : d.Holds samples := .fit .ofSamples _ _
  obtain ⟨visited, trained⟩ := epochs_visit_every_sample (R := ℝ) (G := Random.Stream) samples
  obtain ⟨kept, order⟩ := visited d held
  have filled : d.isEmpty = false := by
    rw [Dataset.isEmpty, held.size_eq]
    rfl
  have valid : (⟨1, 0, .singleSample⟩ : TrainConfig ℝ).validate = .ok () := by
    simp [TrainConfig.validate_eq_ok_iff]
  have started : ofParts n d ⟨1, 0, .singleSample⟩ (.ofSeed 1) = .ok (_ : Trainer ℝ ℝ Random.Stream) :=
    ofParts_eq_ok filled valid
  have new : Starts samples _ := .ofParts network held started
  obtain ⟨-, visits⟩ := trained _ new [.learn, .meanLoss, .learn, .learn, .accuracy, .learn, .learn]
    (by simp [Call.InRange])
  obtain ⟨history, after, session, run, length, same, last, -, cycles⟩ := visits (by decide)
  refine ⟨n, d, _, built, rfl, held, kept, order, started,
    ⟨history, after, session, run, length, same, last, cycles rfl⟩,
    (trained _ new _ Call.inRange_replicate_learn).1 (Call.countP_replicate_learn _).ge⟩

-- With three samples the word ends at the first call of a cycle: these calls are one cycle more than it holds.
theorem cycle_overflow_of_three_samples :
    ∃ (n : Network Float32 Float) (t : Trainer Float32 Float Random.Stream),
      Network.ofWeights ⟨[2, 1], false⟩ .step [0, 1, 1] = .ok n ∧
      ofParts n (.ofSamples [⟨1, 1, .positive⟩, ⟨2, 1, .positive⟩, ⟨-1, -1, .negative⟩]) ⟨1, 0, .singleSample⟩
        (.ofSeed 0) = .ok t ∧
      t.Starts [⟨1, 1, .positive⟩, ⟨2, 1, .positive⟩, ⟨-1, -1, .negative⟩] ∧ t.config.mode = .singleSample ∧
      t.session (List.replicate (6148914691236517206 * 3) .learn) = .error (.fault .overflow) := by
  have accepted : Topology.ofSizes [2, 1] false = .ok ⟨[2, 1], false⟩ := rfl
  have enough : ([0, 1, 1] : List Float32).length = Topology.weightsBelow ⟨[2, 1], false⟩ 2 := rfl
  have valid : (⟨1, 0, .singleSample⟩ : TrainConfig Float).validate = .ok () := by decide +kernel
  obtain ⟨n, built, network, -⟩ := Network.exists_ofWeights accepted (by decide) enough .step
  let samples : List (Sample Float32) := [⟨1, 1, .positive⟩, ⟨2, 1, .positive⟩, ⟨-1, -1, .negative⟩]
  have started : ofParts n (.ofSamples samples) ⟨1, 0, .singleSample⟩ (.ofSeed 0) =
      .ok (_ : Trainer Float32 Float Random.Stream) := ofParts_eq_ok rfl valid
  have new : Starts samples _ := .ofParts network .ofSamples started
  refine ⟨n, _, built, started, new, rfl, session_overflow new.sound _ Call.inRange_replicate_learn ?_⟩
  rw [new.epoch_eq, Call.countP_replicate_learn]
  decide

end Trainer

end PlaneNet
