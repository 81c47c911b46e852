import PlaneNet.Proofs.Trainer.Interleaving

set_option autoImplicit false

namespace PlaneNet

variable {W R G : Type}

-- A bias and at least one source of the output.
theorem Network.Sound.two_le_weights [Scalar R] {n : Network W R} (sound : n.Sound) : 2 ≤ n.weights.length := by
  have accepted := sound.accepted
  have sums := accepted.outputLayer_holdsSums
  have stop := Topology.weightSpan_stop_le accepted.outputLayer_lt
  have source := accepted.positive (n.topology.outputLayer - 1) ((Nat.sub_le _ _).trans_lt accepted.outputLayer_lt)
  simp only [Topology.weightSpan, Span.stop, Topology.weightCount_of_pos sums.1, Topology.rowLength_of_sums sums,
    accepted.output, ← sound.weights] at stop
  omega

namespace Interleaving

open Trainer (weightsAt length_weightsAt)

section History

variable {first cell reader : Nat} {later past : List (Access W)}

def loads (reader : Nat) : List (Access W) → List (Nat × W)
  | [] => []
  | .load other cell weight :: past =>
    if other = reader then loads reader past ++ [(cell, weight)] else loads reader past
  | _ :: past => loads reader past

theorem source_append_eq (unstored : ∀ other, .store other ∉ later) :
    source first cell (later ++ past) = source first cell past := by
  induction later with
  | nil => rfl
  | cons a later ih =>
    have same := ih fun other member => unstored other (.tail a member)
    cases a with
    | store other => exact absurd (.head later) (unstored other)
    | _ => exact same

theorem mem_loads_iff {weight : W} : (cell, weight) ∈ loads reader past ↔ .load reader cell weight ∈ past := by
  induction past with
  | nil => simp [loads]
  | cons a past ih =>
    cases a with
    | load other _ _ =>
      rw [loads]
      split
      next same => simp [ih, same, or_comm]
      next different => simp [ih, Ne.symm different]
    | _ => simp [loads, ih]

end History

/-- Between the first and the last store of a round. -/
def Machine.Publishing (m : Machine W R G) : Prop := ∃ cell, m.stored = some cell ∧ 0 < cell ∧ cell < m.shared.size

@[simp] theorem Machine.next_advance (m : Machine W R G) (reader : Nat) :
    (m.advance reader).next reader = (m.next reader + 1) % m.shared.size :=
  if_pos rfl

variable [Scalar R] [Exponential R] [Storage W R] [Random.Source G] {t : Trainer W R G} {limit : Option Nat}
  {m : Machine W R G}
  {past later : List (Access W)}

section Undisturbed

-- Without a store on the way all cells are from one epoch.
theorem Consistent.source_eq (consistent : Consistent t past m) (idle : ¬ m.Publishing) {cell : Nat}
    (within : cell < m.shared.size) : source t.epoch cell past = source t.epoch 0 past := by
  by_cases none : m.fresh = 0
  · have here := consistent.stale cell (by omega) within
    have there := consistent.stale 0 (by omega) (by omega)
    omega
  · have full : m.fresh = m.shared.size := by
      by_contra partly
      have below := lt_of_le_of_ne consistent.within partly
      cases stored : m.stored with
      | none => exact partly (by rw [Machine.fresh, stored]; rfl)
      | some k =>
        simp only [Machine.fresh, stored, Option.getD_some] at none below
        exact idle ⟨k, stored, Nat.pos_of_ne_zero none, below⟩
    rw [consistent.fresh cell (full ▸ within), consistent.fresh 0 (by omega)]

/-- At no moment since `past` only some of the cells are stored. -/
def Quiet (limit : Option Nat) (t : Trainer W R G) (later past : List (Access W)) : Prop :=
  ∀ between, between <:+ later → ∀ m, Run limit (.ofTrainer t) (between ++ past) m → ¬ m.Publishing

-- One store alone would be a whole round.
theorem Quiet.no_store (quiet : Quiet limit t later past) (several : 2 ≤ t.network.weights.length)
    (sound : t.Sound) (run : Run limit (.ofTrainer t) (later ++ past) m) (cell : Nat) : .store cell ∉ later := by
  intro member
  obtain ⟨later', between, before, after, rfl, early, late, stepped⟩ := run.step_of_mem member
  have size := (early.consistent sound).size
  have first := quiet between ((List.suffix_cons _ _).trans (List.suffix_append _ _)) before early
  have last := quiet (.store cell :: between) (List.suffix_append _ _) after late
  cases stepped with
  | store due room _ =>
    have start : cell = 0 := by
      by_contra positive
      exact first ⟨cell, due, Nat.pos_of_ne_zero positive, room⟩
    refine last ⟨cell + 1, rfl, Nat.succ_pos cell, ?_⟩
    rw [SharedWeights.size_store]
    omega

theorem map_snd_eq {cells : List (Nat × W)} {weights : List W}
    (order : cells.map Prod.fst = List.range weights.length)
    (found : ∀ cell weight, (cell, weight) ∈ cells → weights[cell]? = some weight) :
    cells.map Prod.snd = weights := by
  refine List.ext_getElem? fun i => ?_
  have place := congrArg (·[i]?) order
  simp only [List.getElem?_map] at place ⊢
  cases here : cells[i]? with
  | none =>
    rw [here, Option.map_none, eq_comm, List.getElem?_eq_none_iff, List.length_range] at place
    rw [Option.map_none, List.getElem?_eq_none place]
  | some loaded =>
    rw [here, Option.map_some, eq_comm, List.getElem?_eq_some_iff] at place
    obtain ⟨_, cell⟩ := place
    rw [List.getElem_range] at cell
    rw [Option.map_some, cell, found _ _ (List.mem_of_getElem? here)]

theorem snapshot_eq {reader : Nat} (sound : t.Sound) (several : 2 ≤ t.network.weights.length)
    (run : Run limit (.ofTrainer t) (later ++ past) m) (quiet : Quiet limit t later past)
    (whole : (loads reader later).map Prod.fst = List.range t.network.weights.length) :
    (loads reader later).map Prod.snd = t.weightsAt (source t.epoch 0 past) := by
  obtain ⟨_, started⟩ := run.before
  rw [← length_weightsAt sound ((started.consistent sound).room sound 0)] at whole
  refine map_snd_eq whole fun cell weight member => ?_
  obtain ⟨later', between, _, _, split, _, now, _⟩ := run.step_of_mem (mem_loads_iff.mp member)
  obtain ⟨within, found⟩ := Run.load sound now
  have unstored (other : Nat) : .store other ∉ between := fun stores =>
    quiet.no_store several sound run other (by rw [split]; exact List.mem_append_right _ (.tail _ stores))
  obtain ⟨middle, early⟩ := run.before
  have consistent := early.consistent sound
  have idle := quiet [] (List.nil_suffix) middle early
  rwa [source_append_eq unstored, consistent.source_eq idle (consistent.size ▸ within)] at found

theorem Run.eq_of_readers {start : Machine W R G} (run : Run limit start past m)
    (readers : ∀ a ∈ past, a.isTrainers = false) : { m with next := start.next } = start := by
  have alone := run.without_readers
  rw [List.filter_eq_nil_iff.mpr fun a member => by simp [readers a member]] at alone
  generalize { m with next := start.next } = last at alone
  cases alone
  rfl

theorem quiet_of_readers (readers : ∀ a ∈ later, a.isTrainers = false) : Quiet limit t later [] := by
  rintro between inside m run ⟨cell, stored, -⟩
  rw [List.append_nil] at run
  have same := congrArg Machine.stored (run.eq_of_readers fun a member => readers a (inside.subset member))
  cases stored.symm.trans same

theorem Step.load_at (reader : Nat) {cell : Nat} {weight : W} (place : m.next reader = cell)
    (found : m.shared.load? cell = some weight) : Step limit m (.load reader cell weight) (m.advance reader) := by
  subst place
  exact .load reader found

theorem exists_quiet_run (t : Trainer W R G) (reader : Nat) {n : Nat} (within : n ≤ t.network.weights.length) :
    ∃ later m, Run limit (.ofTrainer t) later m ∧ (∀ a ∈ later, a.isTrainers = false) ∧
      (loads reader later).map Prod.fst = List.range n ∧ m.next reader = n % t.network.weights.length := by
  induction n with
  | zero => exact ⟨[], _, .start, by simp, rfl, (Nat.zero_mod _).symm⟩
  | succ n ih =>
    obtain ⟨later, m, run, readers, order, place⟩ := ih (Nat.le_of_succ_le within)
    have shared : m.shared = .ofWeights t.network.weights := congrArg Machine.shared (run.eq_of_readers readers)
    have found : m.shared.load? n = some t.network.weights[n] := shared ▸ List.getElem?_eq_getElem within
    rw [Nat.mod_eq_of_lt within] at place
    refine ⟨_, _, .step run (.load_at reader place found), ?_, ?_, ?_⟩
    · exact List.forall_mem_cons.mpr ⟨rfl, readers⟩
    · rw [loads, if_pos rfl, List.map_append, order, List.range_succ]
      rfl
    · rw [Machine.next_advance, place, shared]
      rfl

end Undisturbed

section Torn

-- The bound is met: the first weight of this snapshot is one epoch newer than its second.
theorem exists_torn_run (sound : t.Sound) (room : t.epoch + 1 < Word.limit) (reader : Nat) :
    ∃ v w m, Run none (.ofTrainer t) [.load reader 1 w, .load reader 0 v, .store 0, .learn] m := by
  have several := sound.network.two_le_weights
  obtain ⟨_, after, learned, kept⟩ := Trainer.learn_eq_ok sound room
  have length := kept.network.weights sound.network
  have first : 0 < t.network.weights.length := by omega
  let shared := (SharedWeights.ofWeights t.network.weights).store 0 after.network.weights[0]
  have begun : Run none (.ofTrainer t) [.learn]
      ⟨after, some 0, .ofWeights t.network.weights, t.epoch, fun _ => 0⟩ :=
    .step .start (.learn rfl (by simp) learned)
  have partly : Run none (.ofTrainer t) [.store 0, .learn] ⟨after, some 1, shared, t.epoch, fun _ => 0⟩ :=
    .step begun (.store rfl first (List.getElem?_eq_getElem _))
  have held := SharedWeights.load?_store (.ofWeights t.network.weights) first after.network.weights[0]
  have newer := partly.step (.load_at reader rfl ((held 0).trans (if_pos rfl)))
  have second : ((Machine.mk after (some 1) shared t.epoch fun _ => 0).advance reader).next reader = 1 := by
    have size : shared.size = t.network.weights.length := SharedWeights.size_store _ _ _
    rw [Machine.next_advance, size]
    exact Nat.mod_eq_of_lt several
  exact ⟨_, _, _, newer.step (.load_at reader second ((held 1).trans (List.getElem?_eq_getElem several)))⟩

end Torn

theorem torn_snapshots_are_bounded {t : Trainer W R G} (reachable : t.Reachable) (limit : Option Nat) :
    (∀ past m, Run limit (.ofTrainer t) past m →
      (∃ means, t.learnMany (epochAfter t.epoch past - t.epoch) = .ok (means, m.trainer)) ∧
        Run limit (.ofTrainer t) (past.filter Access.isTrainers) { m with next := fun _ => 0 } ∧
        ((m.stored = none ∧ ((∃ last ∈ limit, last ≤ m.trainer.epoch) ∨ m.trainer.learn = .error Word.overflow)) ∨
          ∃ a after, a.isTrainers = true ∧ Step limit m a after ∧ ∀ b other places, b.isTrainers = true →
            Step limit { m with next := places } b other → b = a ∧ other = { after with next := places })) ∧
      (∀ past m reader cell weight, Run limit (.ofTrainer t) (.load reader cell weight :: past) m →
        t.epoch ≤ source t.epoch cell past ∧ source t.epoch cell past ≤ epochAfter t.epoch past ∧
          (t.weightsAt (source t.epoch cell past))[cell]? = some weight) ∧
      (∀ past between m reader other i j v w,
        Run limit (.ofTrainer t) (.load other j w :: (between ++ .load reader i v :: past)) m →
          source t.epoch i past ≤ source t.epoch j (between ++ .load reader i v :: past) + 1 ∧
            (i = j → source t.epoch i past ≤ source t.epoch j (between ++ .load reader i v :: past))) ∧
      (∀ past between m reader other cell weight seen,
        Run limit (.ofTrainer t) (.load other cell weight :: (between ++ .look reader seen :: past)) m →
          seen ≤ source t.epoch cell (between ++ .look reader seen :: past)) ∧
      ∀ past later m reader, Run limit (.ofTrainer t) (later ++ past) m → Quiet limit t later past →
        (loads reader later).map Prod.fst = List.range t.network.weights.length →
          ∃ epoch, t.epoch ≤ epoch ∧ epoch ≤ epochAfter t.epoch past ∧
            (loads reader later).map Prod.snd = t.weightsAt epoch := by
  have sound := reachable.sound
  refine ⟨?_, ?_, ?_, ?_, ?_⟩
  · intro past m run
    refine ⟨(run.consistent sound).trained, run.without_readers, ?_⟩
    obtain finished | ⟨a, after, own, stepped⟩ := run.trainer_continues sound
    · exact .inl finished
    · exact .inr ⟨a, after, own, stepped, fun _ _ _ owns also => stepped.same_of_isTrainers own also owns⟩
  · intro past m reader cell weight run
    exact ⟨first_le_source _ _ _, source_le_epochAfter, (run.load sound).2⟩
  · intro past between m reader other i j v w run
    obtain ⟨within, -⟩ := run.load sound
    obtain ⟨_, earlier⟩ := run.tail
    refine ⟨?_, ?_⟩
    · calc source t.epoch i past
        _ ≤ epochAfter t.epoch past := source_le_epochAfter
        _ ≤ epochAfter t.epoch (between ++ .load reader i v :: past) :=
          epochAfter_le_cons.trans epochAfter_le_append
        _ ≤ source t.epoch j (between ++ .load reader i v :: past) + 1 := earlier.lag sound within
    · rintro rfl
      exact source_le_cons.trans source_le_append
  · intro past between m reader other cell weight seen run
    obtain ⟨within, -⟩ := run.load sound
    obtain ⟨_, earlier⟩ := run.tail
    obtain ⟨_, looked⟩ := earlier.before
    exact (looked.look sound within).trans (source_le_cons.trans source_le_append)
  · intro past later m reader run quiet whole
    exact ⟨_, first_le_source _ _ _, source_le_epochAfter,
      snapshot_eq sound sound.network.two_le_weights run quiet whole⟩

theorem torn_snapshots_are_bounded_of_two_samples :
    ∃ (n : Network ℝ ℝ) (t : Trainer ℝ ℝ Random.Stream) (m : Machine ℝ ℝ Random.Stream) (v w : ℝ),
      Network.ofWeights ⟨[2, 2, 1], true⟩ .tanh (List.replicate 9 1) = .ok n ∧
      Trainer.ofParts n (.ofSamples [⟨0, 1, .negative⟩, ⟨2, 3, .positive⟩]) ⟨1, 0, .fullPass⟩ (.ofSeed 1) = .ok t ∧
      t.Reachable ∧ t.epoch = 0 ∧ Run none (.ofTrainer t) [.load 7 1 w, .load 7 0 v, .store 0, .learn] m ∧
        (t.weightsAt 1)[0]? = some v ∧ (t.weightsAt 0)[1]? = some w ∧
        source 0 0 [.store 0, (.learn : Access ℝ)] ≤ source 0 1 [.load 7 0 v, .store 0, .learn] + 1 ∧
        ∃ later first, Run none (.ofTrainer t) later first ∧ Quiet none t later [] ∧
          (loads 7 later).map Prod.fst = List.range 9 ∧ (loads 7 later).map Prod.snd = t.weightsAt 0 := by
  have accepted : Topology.ofSizes [2, 2, 1] true = .ok ⟨[2, 2, 1], true⟩ := rfl
  have enough : (List.replicate 9 1 : List ℝ).length = Topology.weightsBelow ⟨[2, 2, 1], true⟩ 3 := rfl
  have valid : (⟨1, 0, .fullPass⟩ : TrainConfig ℝ).validate = .ok () := by
    simp [TrainConfig.validate_eq_ok_iff]
  have filled : ([⟨0, 1, .negative⟩, ⟨2, 3, .positive⟩] : List (Sample ℝ)) ≠ [] := List.cons_ne_nil _ _
  obtain ⟨n, built, -, -, weights, started, reachable⟩ :=
    Trainer.exists_reachable accepted (by decide) enough .tanh filled valid (Random.Stream.ofSeed 1)
  obtain ⟨v, w, m, torn⟩ := exists_torn_run reachable.sound (show 0 + 1 < Word.limit by decide) 7
  obtain ⟨-, origin, lag, -, whole⟩ := torn_snapshots_are_bounded reachable none
  obtain ⟨_, newer⟩ := torn.tail
  obtain ⟨later, first, run, readers, order, -⟩ :=
    exists_quiet_run (⟨n, _, _, _, _⟩ : Trainer ℝ ℝ Random.Stream) 7 le_rfl
  obtain ⟨epoch, low, high, same⟩ :=
    whole [] later first 7 (later.append_nil.symm ▸ run) (quiet_of_readers readers) order
  cases Nat.le_antisymm high low
  rw [weights] at order
  exact ⟨n, _, m, v, w, built, started, reachable, rfl, torn, (origin _ _ _ _ _ newer).2.2,
    (origin _ _ _ _ _ torn).2.2, (lag _ [] _ _ _ _ _ _ _ torn).1, later, first, run,
    quiet_of_readers readers, order, same⟩

end Interleaving

end PlaneNet
