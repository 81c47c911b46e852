import PlaneNet.Proofs.Trainer.Actions

set_option autoImplicit false

namespace PlaneNet

variable {W R G : Type} [Scalar R]

section Network

variable [Exponential R] [Storage W R]

def Network.trainMany (rate coefficient : R) :
    Network W R → List (Sample W) → Except Error (List R × Network W R)
  | n, [] => .ok ([], n)
  | n, s :: rest => do
    let (e, n) ← n.train s.x s.y s.target rate coefficient
    let (errors, n) ← n.trainMany rate coefficient rest
    return (e :: errors, n)

variable {n next after : Network W R} {rate coefficient : R}

theorem Network.trainMany_cons {s : Sample W} {rest : List (Sample W)} {e : R} {errors : List R}
    (trained : n.train s.x s.y s.target rate coefficient = .ok (e, next))
    (later : next.trainMany rate coefficient rest = .ok (errors, after)) :
    n.trainMany rate coefficient (s :: rest) = .ok (e :: errors, after) := by
  simp only [trainMany, trained, later, ok_bind, pure_eq_ok]

theorem Network.trainMany_append {visits later : List (Sample W)} {errors laterErrors : List R}
    (first : n.trainMany rate coefficient visits = .ok (errors, next))
    (second : next.trainMany rate coefficient later = .ok (laterErrors, after)) :
    n.trainMany rate coefficient (visits ++ later) = .ok (errors ++ laterErrors, after) := by
  induction visits generalizing n errors with
  | nil =>
    cases first
    exact second
  | cons s rest ih =>
    obtain ⟨⟨e, m⟩, trained, first⟩ := (bind_eq_ok_iff _ _ _).mp first
    obtain ⟨⟨others, last⟩, run, done⟩ := (bind_eq_ok_iff _ _ _).mp first
    cases done
    exact trainMany_cons trained (ih run)

end Network

namespace Trainer

/-- One call of `learn`: the samples it trains on, their errors and the mean it returns. -/
structure Lesson (W R : Type) where
  visits : List (Sample W)
  errors : List R
  mean : R

def Lesson.Covers (lesson : Lesson W R) (mode : Mode) (samples : List (Sample W)) : Prop :=
  match mode with
  | .fullPass => lesson.visits.Perm samples ∧
      lesson.mean = (lesson.errors.map loss).foldl (· + ·) Scalar.zero / nat samples.length
  | .singleSample => ∃ s ∈ samples, ∃ e, lesson.visits = [s] ∧ lesson.errors = [e] ∧ lesson.mean = loss e

theorem Lesson.Covers.mem {lesson : Lesson W R} {mode : Mode} {samples : List (Sample W)}
    (covers : lesson.Covers mode samples) {s : Sample W} (visited : s ∈ lesson.visits) : s ∈ samples := by
  cases mode with
  | fullPass => exact covers.1.mem_iff.mp visited
  | singleSample =>
    obtain ⟨only, member, _, visits, -⟩ := covers
    rw [visits, List.mem_singleton] at visited
    rwa [visited]

theorem mem_of_mem_visits {lessons : List (Lesson W R)} {mode : Mode} {samples : List (Sample W)}
    (covers : ∀ lesson ∈ lessons, lesson.Covers mode samples) {s : Sample W}
    (visited : s ∈ lessons.flatMap Lesson.visits) : s ∈ samples := by
  obtain ⟨lesson, among, visit⟩ := List.mem_flatMap.mp visited
  exact (covers lesson among).mem visit

def Action.index? : Action → Option Nat
  | .shuffle => none
  | .train i => some i

theorem filterMap_index?_train (order : List Nat) :
    (Action.shuffle :: order.map Action.train).filterMap Action.index? = order := by
  have trained : (order.map Action.train).filterMap Action.index? = order := by
    rw [List.filterMap_map]
    exact List.filterMap_some
  exact trained

variable [Exponential R] [Storage W R] [Random.Source G] {t after : Trainer W R G}

theorem Performs.trainMany {actions : List Action} {losses : List R}
    (performed : t.Performs actions losses after) :
    ∃ visits errors,
      t.network.trainMany t.config.learnRate t.config.momentum visits = .ok (errors, after.network) ∧
      losses = errors.map loss ∧
      (actions.filterMap Action.index?).map (t.data.samples[·]?) = visits.map some := by
  induction performed with
  | done => exact ⟨[], [], rfl, rfl, rfl⟩
  | shuffle _ ih => exact ih
  | @train _ _ i s e _ _ _ sample trained _ ih =>
    obtain ⟨visits, errors, run, rfl, places⟩ := ih
    exact ⟨s :: visits, e :: errors, Network.trainMany_cons trained run, rfl, congrArg₂ List.cons sample places⟩

theorem perm_of_order {samples : Array (Sample W)} {order : List Nat} {visits : List (Sample W)}
    (perm : order.Perm (List.range samples.size)) (places : order.map (samples[·]?) = visits.map some) :
    visits.Perm samples.toList := by
  have whole : (List.range samples.size).map (samples[·]?) = samples.toList.map some := by
    apply List.ext_getElem
    · simp
    · simp
  have same := (perm.map (samples[·]?)).filterMap id
  rw [places, whole, List.filterMap_map, List.filterMap_map] at same
  simpa using same

theorem round_lesson (sound : t.Sound) :
    ∃ (lesson : Lesson W R) (after : Trainer W R G), t.round = .ok (lesson.mean, after) ∧ t.Follows after ∧
      t.network.trainMany t.config.learnRate t.config.momentum lesson.visits = .ok (lesson.errors, after.network) ∧
      lesson.Covers t.config.mode t.data.samples.toList := by
  cases mode : t.config.mode with
  | fullPass =>
    obtain ⟨losses, last, run, kept, -⟩ := steps_eq_ok sound (show 0 + t.data.size ≤ t.data.size by omega)
    obtain ⟨visits, errors, trained, rfl, places⟩ := (steps_pass sound run).trainMany
    rw [filterMap_index?_train] at places
    have perm : last.data.order.toList.Perm (List.range t.data.samples.size) :=
      kept.samples ▸ kept.sound.permuted
    refine ⟨⟨visits, errors, _⟩, _, round_fullPass sound mode run, kept, trained, perm_of_order perm places, ?_⟩
    rw [Array.length_toList]
    rfl
  | singleSample =>
    have within := Nat.mod_lt t.epoch sound.positive
    obtain ⟨l, last, stepped, kept⟩ := step_eq_ok sound within
    have ran : t.round = .ok (l, last) := (round_singleSample sound mode).trans stepped
    obtain ⟨s, e, network, visited, trained, rfl, rfl⟩ := (step_eq_ok_iff _ _ _ _).mp stepped
    obtain ⟨i, -, sample⟩ := (Dataset.visited_eq_ok_iff _ _ _).mp visited
    rw [drawn_samples, ← Array.getElem?_toList] at sample
    exact ⟨⟨[s], [e], loss e⟩, _, ran, kept, Network.trainMany_cons trained rfl, s, List.mem_of_getElem? sample, e,
      rfl, rfl, rfl⟩

inductive Taught (rate coefficient : R) : Network W R → List (Lesson W R) → Network W R → Prop where
  | done (n : Network W R) : Taught rate coefficient n [] n
  | next {n m after : Network W R} {lesson : Lesson W R} {lessons : List (Lesson W R)}
      (trained : n.trainMany rate coefficient lesson.visits = .ok (lesson.errors, m))
      (rest : Taught rate coefficient m lessons after) : Taught rate coefficient n (lesson :: lessons) after

theorem Taught.trainMany {n last : Network W R} {rate coefficient : R} {lessons : List (Lesson W R)}
    (taught : Taught rate coefficient n lessons last) :
    n.trainMany rate coefficient (lessons.flatMap Lesson.visits) = .ok (lessons.flatMap Lesson.errors, last) := by
  induction taught with
  | done => rfl
  | next trained _ ih => exact Network.trainMany_append trained ih

-- The call that leaves the word is the last one that trains, and its lesson is among these.
theorem learnMany_lessons (sound : t.Sound) (calls : Nat) :
    ∃ (lessons : List (Lesson W R)) (after : Trainer W R G),
      t.learnMany calls = (if t.epoch + calls < Word.limit then .ok (lessons.map Lesson.mean, after)
        else .error Word.overflow) ∧
      lessons.length = min calls (Word.limit - t.epoch) ∧ t.Follows after ∧
      Taught t.config.learnRate t.config.momentum t.network lessons after.network ∧
      ∀ lesson ∈ lessons, lesson.Covers t.config.mode t.data.samples.toList := by
  induction calls generalizing t with
  | zero => exact ⟨[], t, (if_pos sound.counted).symm, (Nat.zero_min _).symm, sound.follows, .done _, by simp⟩
  | succ calls ih =>
    obtain ⟨lesson, last, ran, kept, trained, covers⟩ := round_lesson sound
    have counted := sound.counted
    rcases Nat.lt_or_ge (t.epoch + 1) Word.limit with room | full
    · have learned := learn_eq_ok_iff.mpr ⟨last, ran, room, rfl⟩
      have kept := kept.counted room
      obtain ⟨lessons, after, run, count, follows, taught, coversRest⟩ := ih kept.sound
      rw [kept.config] at taught coversRest
      rw [kept.samples] at coversRest
      rw [learn_epoch learned, Nat.add_assoc, Nat.add_comm 1] at run
      rw [learn_epoch learned] at count
      refine ⟨lesson :: lessons, after, ?_, ?_, kept.trans follows, .next trained taught,
        List.forall_mem_cons.mpr ⟨covers, coversRest⟩⟩
      · rw [learnMany, learned, ok_bind]
        simp only [run]
        split
        next => rfl
        next => rfl
      · rw [List.length_cons, count]
        omega
    · refine ⟨[lesson], last, ?_, ?_, kept, .next trained (.done _), List.forall_mem_singleton.mpr covers⟩
      · rw [if_neg (by omega), learnMany, learn_overflow sound full, error_bind]
      · rw [List.length_singleton]
        omega

end Trainer

end PlaneNet
