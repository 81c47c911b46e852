import PlaneNet.Proofs.Trainer.Continuous
import PlaneNet.Proofs.Trainer.Sessions
import PlaneNet.Trainer.Interleaving

set_option autoImplicit false

namespace PlaneNet

variable {W R G : Type}

namespace SharedWeights

@[simp] theorem size_store (s : SharedWeights W) (cell : Nat) (weight : W) :
    (s.store cell weight).size = s.size :=
  List.length_set

theorem load?_store (s : SharedWeights W) {cell : Nat} (within : cell < s.size) (weight : W)
    (other : Nat) : (s.store cell weight).load? other = if cell = other then some weight else s.load? other := by
  rw [load?, store, List.getElem?_set]
  split
  next => exact if_pos within
  next => rfl

end SharedWeights

namespace Interleaving

section History

variable {first cell : Nat} {a : Access W} {later past : List (Access W)}

def epochAfter (first : Nat) : List (Access W) → Nat
  | [] => first
  | .learn :: past => epochAfter first past + 1
  | _ :: past => epochAfter first past

/-- The epoch that the weight in a cell comes from. -/
def source (first cell : Nat) : List (Access W) → Nat
  | [] => first
  | .store other :: past => if other = cell then epochAfter first past else source first cell past
  | _ :: past => source first cell past

theorem epochAfter_le_cons : epochAfter first past ≤ epochAfter first (a :: past) := by
  cases a with
  | learn => exact Nat.le_succ _
  | _ => exact le_rfl

theorem epochAfter_le_append : epochAfter first past ≤ epochAfter first (later ++ past) := by
  induction later with
  | nil => exact le_rfl
  | cons a later ih => exact ih.trans epochAfter_le_cons

theorem first_le_epochAfter (first : Nat) (past : List (Access W)) : first ≤ epochAfter first past := by
  have start : epochAfter first ([] : List (Access W)) ≤ epochAfter first (past ++ []) := epochAfter_le_append
  rwa [List.append_nil] at start

theorem source_le_epochAfter : source first cell past ≤ epochAfter first past := by
  induction past with
  | nil => exact le_rfl
  | cons a past ih =>
    cases a with
    | learn => exact ih.trans (Nat.le_succ _)
    | store other =>
      rw [source]
      split
      · exact le_rfl
      · exact ih
    | _ => exact ih

theorem source_le_cons : source first cell past ≤ source first cell (a :: past) := by
  cases a with
  | store other =>
    rw [source]
    split
    · exact source_le_epochAfter
    · exact le_rfl
  | _ => exact le_rfl

theorem source_le_append : source first cell past ≤ source first cell (later ++ past) := by
  induction later with
  | nil => exact le_rfl
  | cons a later ih => exact ih.trans source_le_cons

theorem first_le_source (first cell : Nat) (past : List (Access W)) : first ≤ source first cell past := by
  have start : source first cell ([] : List (Access W)) ≤ source first cell (past ++ []) := source_le_append
  rwa [List.append_nil] at start

end History

end Interleaving

namespace Trainer

variable [Scalar R] [Exponential R] [Storage W R] [Random.Source G] {t after : Trainer W R G} {epoch : Nat}
  {means : List R}

def weightsAt (t : Trainer W R G) (epoch : Nat) : List W :=
  match t.learnMany (epoch - t.epoch) with
  | .ok (_, after) => after.network.weights
  | .error _ => []

theorem weightsAt_eq (run : t.learnMany (epoch - t.epoch) = .ok (means, after)) :
    t.weightsAt epoch = after.network.weights := by
  rw [weightsAt, run]

theorem weightsAt_epoch (t : Trainer W R G) : t.weightsAt t.epoch = t.network.weights :=
  weightsAt_eq (show t.learnMany (t.epoch - t.epoch) = .ok ([], t) by rw [Nat.sub_self]; rfl)

theorem length_weightsAt (sound : t.Sound) {epoch : Nat} (room : epoch < Word.limit) :
    (t.weightsAt epoch).length = t.network.weights.length := by
  have counted := sound.counted
  obtain ⟨_, after, run⟩ := learnMany_eq_ok sound (show t.epoch + (epoch - t.epoch) < Word.limit by omega)
  rw [weightsAt_eq run]
  exact (learnMany_follows sound run).1.network.weights sound.network

end Trainer

namespace Interleaving

open Trainer (learnMany learnMany_follows weightsAt weightsAt_eq weightsAt_epoch length_weightsAt)

/-- How many cells hold the weights that the trainer has now. -/
def Machine.fresh (m : Machine W R G) : Nat := m.stored.getD m.shared.size

variable [Scalar R] [Exponential R] [Storage W R] [Random.Source G] {t : Trainer W R G} {limit : Option Nat}
  {m next : Machine W R G} {start : Machine W R G} {a : Access W} {past later : List (Access W)}

structure Consistent (t : Trainer W R G) (past : List (Access W)) (m : Machine W R G) : Prop where
  trained : ∃ means, t.learnMany (epochAfter t.epoch past - t.epoch) = .ok (means, m.trainer)
  size : m.shared.size = t.network.weights.length
  held : ∀ cell, m.shared.load? cell = (t.weightsAt (source t.epoch cell past))[cell]?
  within : m.fresh ≤ m.shared.size
  fresh : ∀ cell < m.fresh, source t.epoch cell past = epochAfter t.epoch past
  stale : ∀ cell, m.fresh ≤ cell → cell < m.shared.size → source t.epoch cell past + 1 = epochAfter t.epoch past
  counter : m.counter + (if m.stored.isSome then 1 else 0) = epochAfter t.epoch past

theorem ofTrainer_consistent (t : Trainer W R G) : Consistent t [] (.ofTrainer t) where
  trained := ⟨[], by rw [epochAfter, Nat.sub_self]; rfl⟩
  size := rfl
  held cell := by rw [source, weightsAt_epoch]; rfl
  within := le_rfl
  fresh _ _ := rfl
  stale cell above within := absurd within (Nat.not_lt.mpr above)
  counter := rfl

namespace Consistent

section Moment

variable (consistent : Consistent t past m)

include consistent

theorem lag {cell : Nat} (within : cell < m.shared.size) :
    epochAfter t.epoch past ≤ source t.epoch cell past + 1 := by
  by_cases fresh : cell < m.fresh
  · exact (consistent.fresh cell fresh).ge.trans (Nat.le_succ _)
  · exact (consistent.stale cell (Nat.le_of_not_lt fresh) within).ge

theorem counter_le_source {cell : Nat} (within : cell < m.shared.size) : m.counter ≤ source t.epoch cell past := by
  have counter := consistent.counter
  cases stored : m.stored with
  | none =>
    rw [stored] at counter
    have fresh := consistent.fresh cell (by rwa [Machine.fresh, stored])
    exact fresh ▸ counter.le
  | some k =>
    rw [stored] at counter
    have := consistent.lag within
    simp only [Option.isSome_some, if_true] at counter
    omega

theorem epoch_eq (sound : t.Sound) : m.trainer.epoch = epochAfter t.epoch past := by
  obtain ⟨_, run⟩ := consistent.trained
  obtain ⟨-, -, epoch⟩ := learnMany_follows sound run
  have := first_le_epochAfter t.epoch past
  omega

theorem room (sound : t.Sound) (cell : Nat) : source t.epoch cell past < Word.limit := by
  obtain ⟨_, run⟩ := consistent.trained
  have counted := (learnMany_follows sound run).1.sound.counted
  rw [consistent.epoch_eq sound] at counted
  exact source_le_epochAfter.trans_lt counted

theorem weights_eq : m.trainer.network.weights = t.weightsAt (epochAfter t.epoch past) := by
  obtain ⟨_, run⟩ := consistent.trained
  exact (weightsAt_eq run).symm

theorem learn {loss : R} {trainer : Trainer W R G} (rested : m.stored = none)
    (learned : m.trainer.learn = .ok (loss, trainer)) :
    Consistent t (.learn :: past) { m with trainer, stored := some 0 } := by
  have full : m.fresh = m.shared.size := by rw [Machine.fresh, rested]; rfl
  obtain ⟨means, run⟩ := consistent.trained
  have counter := consistent.counter
  have once : m.trainer.learnMany 1 = .ok ([loss], trainer) := by
    simp only [learnMany, learned, ok_bind, pure_eq_ok]
  have count : epochAfter t.epoch (.learn :: past) - t.epoch = epochAfter t.epoch past - t.epoch + 1 := by
    have := first_le_epochAfter t.epoch past
    rw [epochAfter]
    omega
  rw [rested] at counter
  exact
    { trained := ⟨_, count ▸ Trainer.learnMany_add run once⟩
      size := consistent.size
      held := consistent.held
      within := Nat.zero_le _
      fresh := fun cell below => absurd below (Nat.not_lt_zero cell)
      stale := fun cell _ within => congrArg (· + 1) (consistent.fresh cell (full ▸ within))
      counter := congrArg (· + 1) counter }

theorem store {cell : Nat} {weight : W} (due : m.stored = some cell) (room : cell < m.shared.size)
    (found : m.trainer.network.weights[cell]? = some weight) :
    Consistent t (.store cell :: past) { m with shared := m.shared.store cell weight, stored := some (cell + 1) } := by
  have current : m.fresh = cell := by rw [Machine.fresh, due]; rfl
  have counter := consistent.counter
  rw [due] at counter
  refine
    { trained := consistent.trained
      size := (SharedWeights.size_store _ _ _).trans consistent.size
      held := fun other => ?_
      within := Nat.succ_le_of_lt ((SharedWeights.size_store _ _ _).symm ▸ room)
      fresh := fun other below => ?_
      stale := fun other above within => ?_
      counter := counter }
  · rw [SharedWeights.load?_store _ room, source]
    split
    next same => rw [← same, ← found, consistent.weights_eq]
    next => exact consistent.held other
  · rw [source]
    split
    next => rfl
    next different =>
      have below : other < cell + 1 := below
      exact consistent.fresh other (by omega)
  · have above : cell + 1 ≤ other := above
    have within : other < m.shared.size := SharedWeights.size_store _ _ _ ▸ within
    rw [source, if_neg (by omega)]
    exact consistent.stale other (by omega) within

theorem count (sound : t.Sound) (full : m.stored = some m.shared.size) :
    Consistent t (.count :: past) { m with counter := m.trainer.epoch, stored := none } := by
  have all : m.fresh = m.shared.size := by rw [Machine.fresh, full]; rfl
  exact
    { trained := consistent.trained
      size := consistent.size
      held := consistent.held
      within := le_rfl
      fresh := fun cell below => consistent.fresh cell (all ▸ below)
      stale := fun cell above within => absurd within (Nat.not_lt.mpr above)
      counter := consistent.epoch_eq sound }

theorem step (sound : t.Sound) (stepped : Step limit m a next) : Consistent t (a :: past) next := by
  cases stepped with
  | learn rested _ learned => exact consistent.learn rested learned
  | store due room found => exact consistent.store due room found
  | count full => exact consistent.count sound full
  | load | look => exact { consistent with }

end Moment

end Consistent

section Runs

theorem Run.consistent (sound : t.Sound) (run : Run limit (.ofTrainer t) past m) : Consistent t past m := by
  induction run with
  | start => exact ofTrainer_consistent t
  | step _ stepped ih => exact ih.step sound stepped

theorem Run.tail (run : Run limit start (a :: past) m) : ∃ before, Run limit start past before := by
  cases run with
  | step before _ => exact ⟨_, before⟩

theorem Run.before (run : Run limit start (later ++ past) m) : ∃ middle, Run limit start past middle := by
  induction later generalizing m with
  | nil => exact ⟨m, run⟩
  | cons a later ih =>
    obtain ⟨_, before⟩ := run.tail
    exact ih before

theorem Run.step_of_mem (run : Run limit start (later ++ past) m) (member : a ∈ later) :
    ∃ later' between before after, later = later' ++ a :: between ∧ Run limit start (between ++ past) before ∧
      Run limit start (a :: (between ++ past)) after ∧ Step limit before a after := by
  obtain ⟨later', between, rfl⟩ := List.append_of_mem member
  rw [List.append_assoc] at run
  obtain ⟨after, now⟩ := run.before
  cases now with
  | step before stepped => exact ⟨later', between, _, after, rfl, before, .step before stepped, stepped⟩

theorem Run.load {reader cell : Nat} {weight : W} (sound : t.Sound)
    (run : Run limit (.ofTrainer t) (.load reader cell weight :: past) m) :
    cell < t.network.weights.length ∧ (t.weightsAt (source t.epoch cell past))[cell]? = some weight := by
  cases run with
  | step before stepped =>
    cases stepped with
    | load _ found =>
      have consistent := before.consistent sound
      rw [consistent.held] at found
      have within := (List.getElem?_eq_some_iff.mp found).1
      rw [length_weightsAt sound (consistent.room sound _)] at within
      exact ⟨within, found⟩

theorem Run.look {reader seen cell : Nat} (sound : t.Sound)
    (run : Run limit (.ofTrainer t) (.look reader seen :: past) m) (within : cell < t.network.weights.length) :
    seen ≤ source t.epoch cell past := by
  cases run with
  | step before stepped =>
    cases stepped with
    | look _ =>
      have consistent := before.consistent sound
      exact consistent.counter_le_source (consistent.size ▸ within)

theorem Run.lag {cell : Nat} (sound : t.Sound) (run : Run limit (.ofTrainer t) past m)
    (within : cell < t.network.weights.length) : epochAfter t.epoch past ≤ source t.epoch cell past + 1 :=
  have consistent := run.consistent sound
  consistent.lag (consistent.size ▸ within)

theorem Run.without_readers (run : Run limit start past m) :
    Run limit start (past.filter Access.isTrainers) { m with next := start.next } := by
  induction run with
  | start => exact .start
  | step _ stepped ih =>
    cases stepped with
    | learn rested unfinished learned => exact .step ih (.learn rested unfinished learned)
    | store due room found => exact .step ih (.store due room found)
    | count full => exact .step ih (.count full)
    | load | look => exact ih

theorem Step.same_of_isTrainers {b : Access W} {other : Machine W R G} {places : Nat → Nat}
    (stepped : Step limit m a next) (own : a.isTrainers = true) (also : Step limit { m with next := places } b other)
    (owns : b.isTrainers = true) :
    b = a ∧ other = { next with next := places } := by
  cases stepped with
  | learn rested _ learned =>
    cases also with
    | learn _ _ again =>
      cases learned.symm.trans again
      exact ⟨rfl, rfl⟩
    | store due => cases rested.symm.trans due
    | count full => cases rested.symm.trans full
    | load | look => cases owns
  | store due room found =>
    cases also with
    | learn rested => cases due.symm.trans rested
    | store again _ same =>
      cases due.symm.trans again
      cases found.symm.trans same
      exact ⟨rfl, rfl⟩
    | count full =>
      cases due.symm.trans full
      exact absurd room (lt_irrefl _)
    | load | look => cases owns
  | count full =>
    cases also with
    | learn rested => cases full.symm.trans rested
    | store due room =>
      cases full.symm.trans due
      exact absurd room (lt_irrefl _)
    | count => exact ⟨rfl, rfl⟩
    | load | look => cases owns
  | load | look => cases own

theorem Run.trainer_continues (sound : t.Sound) (run : Run limit (.ofTrainer t) past m) :
    (m.stored = none ∧ ((∃ last ∈ limit, last ≤ m.trainer.epoch) ∨ m.trainer.learn = .error Word.overflow)) ∨
      ∃ a after, Access.isTrainers a = true ∧ Step limit m a after := by
  have consistent := run.consistent sound
  obtain ⟨_, trained⟩ := consistent.trained
  obtain ⟨kept, -⟩ := learnMany_follows sound trained
  cases stored : m.stored with
  | none =>
    by_cases finished : ∃ last ∈ limit, last ≤ m.trainer.epoch
    · exact .inl ⟨rfl, .inl finished⟩
    · rcases Nat.lt_or_ge (m.trainer.epoch + 1) Word.limit with room | full
      · obtain ⟨_, _, learned, -⟩ := Trainer.learn_eq_ok kept.sound room
        exact .inr ⟨_, _, rfl, .learn stored (by simpa using finished) learned⟩
      · exact .inl ⟨rfl, .inr (Trainer.learn_overflow kept.sound full)⟩
  | some cell =>
    have within := consistent.within
    rw [Machine.fresh, stored, Option.getD_some] at within
    obtain room | rfl := within.lt_or_eq
    · have weights : cell < m.trainer.network.weights.length := by
        rwa [kept.network.weights sound.network, ← consistent.size]
      exact .inr ⟨_, _, rfl, .store stored room (List.getElem?_eq_getElem weights)⟩
    · exact .inr ⟨_, _, rfl, .count stored⟩

end Runs

section Rounds

variable {c after : Continuous W R G}

def stores : Nat → List (Access W)
  | 0 => []
  | n + 1 => .store n :: stores n

theorem take_append_drop_set {weights cells : List W} (same : weights.length = cells.length) {n : Nat}
    (within : n < weights.length) :
    (weights.take n ++ cells.drop n).set n weights[n] = weights.take (n + 1) ++ cells.drop (n + 1) := by
  have place : (weights.take n).length = n := List.length_take_of_le within.le
  rw [List.set_append_right _ _ place.le, place, Nat.sub_self, List.drop_eq_getElem_cons (same ▸ within),
    List.set_cons_zero, List.append_cons, List.take_concat_get']

theorem Run.trans (first : Run limit start past m) (second : Run limit m later next) :
    Run limit start (later ++ past) next := by
  induction second with
  | start => exact first
  | step _ stepped ih => exact .step ih stepped

theorem run_stores (begun : m.stored = some 0) (same : m.trainer.network.weights.length = m.shared.size) {n : Nat}
    (within : n ≤ m.shared.size) :
    Run limit m (stores n)
      { m with
        shared := ⟨m.trainer.network.weights.take n ++ m.shared.cells.drop n⟩
        stored := some n } := by
  induction n with
  | zero =>
    cases m
    cases begun
    exact .start
  | succ n ih =>
    have found : n < m.trainer.network.weights.length := same ▸ within
    have room : n < (m.trainer.network.weights.take n ++ m.shared.cells.drop n).length := by
      rw [List.length_append, List.length_take_of_le found.le, List.length_drop]
      exact (Nat.add_sub_cancel' (Nat.le_of_succ_le within)).symm ▸ within
    have stored := Run.step (ih (Nat.le_of_succ_le within)) (.store rfl room (List.getElem?_eq_getElem found))
    rwa [SharedWeights.store, take_append_drop_set same found] at stored

/-- The accesses of a round that nobody reads in make one step of continuous training. -/
theorem run_round (published : c.Published) (unfinished : ∀ last ∈ limit, c.trainer.epoch < last)
    (stepped : c.step = .ok after) (places : Nat → Nat) :
    Run limit (.ofContinuous c places) (.count :: (stores c.shared.size ++ [.learn])) (.ofContinuous after places) := by
  obtain ⟨⟨mean, trainer⟩, learned, -⟩ := (bind_eq_ok_iff _ _ _).mp stepped
  have kept := Trainer.learn_follows published.sound learned
  cases stepped.symm.trans (published.step_eq_ok learned).1
  have same : trainer.network.weights.length = c.shared.size :=
    (kept.network.weights published.sound.network).trans (congrArg List.length published.cells).symm
  have learns : Run limit (.ofContinuous c places) [.learn] ⟨trainer, some 0, c.shared, c.counter, places⟩ :=
    .step .start (.learn rfl unfinished learned)
  have publishes := learns.trans (run_stores rfl same le_rfl)
  have all : trainer.network.weights.take c.shared.size ++ c.shared.cells.drop c.shared.size =
      trainer.network.weights := by
    rw [← same, List.take_length, same, SharedWeights.size, List.drop_length, List.append_nil]
  rw [all] at publishes
  exact .step publishes (.count (congrArg some same.symm))

end Rounds

end Interleaving

end PlaneNet
