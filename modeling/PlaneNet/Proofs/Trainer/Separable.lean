import PlaneNet.Proofs.Network.Gradient
import PlaneNet.Proofs.Network.Perceptron
import PlaneNet.Proofs.Trainer.Lessons

set_option autoImplicit false

namespace PlaneNet

noncomputable def mistakes (errors : List ℝ) : Nat := errors.countP (· ≠ 0)

namespace Network.Perceptron

variable {n : Network ℝ ℝ} {l : Line} (perceptron : n.Perceptron l)

include perceptron

theorem trainMany_turned {u start : Line} {margin rate : ℝ} {samples : List (Sample ℝ)}
    (separates : Separates u margin samples) (rising : 0 < rate) {before : Nat}
    (turned : start.Turned u margin rate (reachSq samples) before l) {visits : List (Sample ℝ)}
    (given : ∀ s ∈ visits, s ∈ samples) :
    ∃ errors after last, n.trainMany rate 0 visits = .ok (errors, after) ∧ after.Perceptron last ∧
      start.Turned u margin rate (reachSq samples) (before + mistakes errors) last := by
  induction visits generalizing n l before with
  | nil => exact ⟨[], n, l, rfl, perceptron, by simpa [mistakes] using turned⟩
  | cons s rest ih =>
    have member := given s (by simp)
    obtain ⟨next, trained, moved⟩ := perceptron.train_eq_ok s rate
    have given' (other : Sample ℝ) (later : other ∈ rest) : other ∈ samples := given other (by simp [later])
    rcases l.error_eq_zero_or s with right | ⟨wrong, side⟩
    · rw [right, mul_zero, Line.moved_zero] at moved
      obtain ⟨errors, after, last, run, final, turned'⟩ := ih moved turned given'
      refine ⟨_, after, last, trainMany_cons trained run, final, ?_⟩
      rwa [mistakes, List.countP_cons_of_neg (by simp [right])]
    · have unit : (s.target : ℝ) ^ 2 = 1 := by
        rcases s.target_eq with same | same <;> rw [same] <;> norm_num
      have nonzero : l.error s ≠ 0 := by
        intro zero
        rw [zero] at wrong
        nlinarith
      have further := turned.next rising unit (separates s member) side (le_reachSq member)
      rw [← wrong] at further
      obtain ⟨errors, after, last, run, final, turned'⟩ := ih moved further given'
      refine ⟨_, after, last, trainMany_cons trained run, final, ?_⟩
      rw [mistakes, List.countP_cons_of_pos (by simp [nonzero])]
      rwa [Nat.add_right_comm, Nat.add_assoc] at turned'

theorem trainMany_right {visits : List (Sample ℝ)} (right : ∀ s ∈ visits, l.error s = 0) (rate : ℝ) :
    ∃ after, n.trainMany rate 0 visits = .ok (visits.map fun _ => 0, after) ∧ after.Perceptron l := by
  induction visits generalizing n with
  | nil => exact ⟨n, rfl, perceptron⟩
  | cons s rest ih =>
    obtain ⟨next, trained, moved⟩ := perceptron.train_eq_ok s rate
    rw [right s (by simp), mul_zero, Line.moved_zero] at moved
    rw [right s (by simp)] at trained
    obtain ⟨after, run, final⟩ := ih moved fun other later => right other (by simp [later])
    exact ⟨after, trainMany_cons trained run, final⟩

theorem trained_perceptron {visits : List (Sample ℝ)} {rate : ℝ} {errors : List ℝ} {after : Network ℝ ℝ}
    (run : n.trainMany rate 0 visits = .ok (errors, after)) :
    ∃ last, after.Perceptron last ∧ ((∀ e ∈ errors, e = 0) → last = l ∧ ∀ s ∈ visits, l.error s = 0) := by
  induction visits generalizing n l errors with
  | nil =>
    cases run
    exact ⟨l, perceptron, fun _ => ⟨rfl, by simp⟩⟩
  | cons s rest ih =>
    obtain ⟨⟨e, next⟩, trained, run⟩ := (bind_eq_ok_iff _ _ _).mp run
    obtain ⟨⟨others, _⟩, later, done⟩ := (bind_eq_ok_iff _ _ _).mp run
    cases done
    obtain ⟨_, again, moved⟩ := perceptron.train_eq_ok s rate
    cases again.symm.trans trained
    obtain ⟨last, final, right⟩ := ih moved later
    refine ⟨last, final, fun none => ?_⟩
    have here : l.error s = 0 := none _ (by simp)
    rw [here, mul_zero, Line.moved_zero] at right
    obtain ⟨same, others⟩ := right fun other member => none other (by simp [member])
    refine ⟨same, fun other member => ?_⟩
    rcases List.mem_cons.mp member with rfl | member
    · exact here
    · exact others other member

end Network.Perceptron

namespace Trainer

open Network (Perceptron)

variable {samples : List (Sample ℝ)}

theorem Lesson.Covers.mean_eq_zero_iff {lesson : Lesson ℝ ℝ} (covers : lesson.Covers .fullPass samples)
    (some : samples ≠ []) : lesson.mean = 0 ↔ ∀ e ∈ lesson.errors, e = 0 := by
  have count : (nat samples.length : ℝ) ≠ 0 := Nat.cast_ne_zero.mpr (by simpa using some)
  have losses (l : ℝ) (member : l ∈ lesson.errors.map loss) : 0 ≤ l := by
    obtain ⟨e, -, rfl⟩ := List.mem_map.mp member
    rw [Network.loss_eq]
    positivity
  rw [covers.2, div_eq_zero_iff, or_iff_left count, real_zero, ← List.sum_eq_foldl]
  constructor
  · intro none e member
    have still := List.all_zero_of_le_zero_le_of_sum_eq_zero losses none (List.mem_map_of_mem member)
    rw [Network.loss_eq] at still
    simpa using still
  · intro right
    refine List.sum_eq_zero fun l member => ?_
    obtain ⟨e, inErrors, rfl⟩ := List.mem_map.mp member
    rw [Network.loss_eq, right e inErrors]
    norm_num

theorem countP_mean_le {lessons : List (Lesson ℝ ℝ)} (some : samples ≠ [])
    (covers : ∀ lesson ∈ lessons, lesson.Covers .fullPass samples) :
    (lessons.countP fun lesson => lesson.mean ≠ 0) ≤ mistakes (lessons.flatMap Lesson.errors) := by
  induction lessons with
  | nil => exact le_refl _
  | cons lesson rest ih =>
    have others := ih fun other later => covers other (by simp [later])
    have here := (covers lesson (by simp)).mean_eq_zero_iff some
    rw [mistakes] at others ⊢
    rw [List.flatMap_cons, List.countP_append]
    by_cases none : lesson.mean = 0
    · rw [List.countP_cons_of_neg (by simp [none])]
      omega
    · obtain ⟨e, member, wrong⟩ : ∃ e ∈ lesson.errors, e ≠ 0 := by
        by_contra all
        push Not at all
        exact none (here.mpr all)
      have once : 0 < lesson.errors.countP (· ≠ 0) := List.countP_pos_iff.mpr ⟨e, member, by simpa using wrong⟩
      rw [List.countP_cons_of_pos (by simp [none])]
      omega

theorem Taught.all_zero {n last : Network ℝ ℝ} {l : Line} {rate : ℝ} {lessons : List (Lesson ℝ ℝ)}
    (taught : Taught rate 0 n lessons last) (perceptron : n.Perceptron l) (some : samples ≠ [])
    (covers : ∀ lesson ∈ lessons, lesson.Covers .fullPass samples) (right : ∀ s ∈ samples, l.error s = 0) :
    ∀ lesson ∈ lessons, lesson.mean = 0 := by
  have visited (s : Sample ℝ) (member : s ∈ lessons.flatMap Lesson.visits) : l.error s = 0 :=
    right s (mem_of_mem_visits covers member)
  obtain ⟨_, again, -⟩ := perceptron.trainMany_right visited rate
  have errors : lessons.flatMap Lesson.errors = (lessons.flatMap Lesson.visits).map fun _ => 0 :=
    congrArg Prod.fst (Except.ok.inj (taught.trainMany.symm.trans again))
  intro lesson among
  refine ((covers lesson among).mean_eq_zero_iff some).mpr fun e member => ?_
  have listed : e ∈ (lessons.flatMap Lesson.visits).map fun _ => (0 : ℝ) :=
    errors ▸ List.mem_flatMap.mpr ⟨lesson, among, member⟩
  obtain ⟨_, -, rfl⟩ := List.mem_map.mp listed
  rfl

-- The pass that returned zero saw every sample with the line that all later passes start from.
theorem Taught.pairwise {n last : Network ℝ ℝ} {l : Line} {rate : ℝ} {lessons : List (Lesson ℝ ℝ)}
    (taught : Taught rate 0 n lessons last) (perceptron : n.Perceptron l) (some : samples ≠ [])
    (covers : ∀ lesson ∈ lessons, lesson.Covers .fullPass samples) :
    lessons.Pairwise fun earlier later => earlier.mean = 0 → later.mean = 0 := by
  induction taught generalizing l with
  | done => exact .nil
  | @next n m _ lesson rest trained taught ih =>
    have here := covers lesson (by simp)
    have covers' (other : Lesson ℝ ℝ) (later : other ∈ rest) : other.Covers .fullPass samples :=
      covers other (by simp [later])
    obtain ⟨next, moved, right⟩ := perceptron.trained_perceptron trained
    refine .cons (fun later among none => ?_) (ih moved covers')
    obtain ⟨rfl, right⟩ := right ((here.mean_eq_zero_iff some).mp none)
    exact taught.all_zero moved some covers' (fun s member => right s (here.1.mem_iff.mpr member)) later among

noncomputable def mistakeBound {G : Type} (t : Trainer ℝ ℝ G) (u : Line) (margin : ℝ) : ℝ :=
  PlaneNet.mistakeBound (.ofWeights t.network.weights) t.data.samples.toList u margin t.config.learnRate

theorem perceptron_mistakes_are_bounded {G : Type} [Random.Source G] {t : Trainer ℝ ℝ G} (reachable : t.Reachable)
    (topology : t.network.topology = ⟨[2, 1], false⟩) (activation : t.network.activation = .step)
    (momentum : t.config.momentum = 0) {u : Line} {margin : ℝ} (positive : 0 < margin)
    (separates : Separates u margin t.data.samples.toList) :
    (∀ visits : List (Sample ℝ), (∀ s ∈ visits, s ∈ t.data.samples.toList) → ∃ errors after,
      t.network.trainMany t.config.learnRate t.config.momentum visits = .ok (errors, after) ∧
      mistakes errors ≤ t.mistakeBound u margin) ∧
    ∀ calls : Nat, ∃ (lessons : List (Lesson ℝ ℝ)) (after : Trainer ℝ ℝ G),
      t.learnMany calls = (if t.epoch + calls < Word.limit then .ok (lessons.map Lesson.mean, after)
        else .error Word.overflow) ∧
      lessons.length = min calls (Word.limit - t.epoch) ∧
      (∀ lesson ∈ lessons, lesson.Covers t.config.mode t.data.samples.toList) ∧
      t.network.trainMany t.config.learnRate t.config.momentum (lessons.flatMap Lesson.visits) =
        .ok (lessons.flatMap Lesson.errors, after.network) ∧
      mistakes (lessons.flatMap Lesson.errors) ≤ t.mistakeBound u margin ∧
      (t.config.mode = .fullPass →
        (lessons.countP fun lesson => lesson.mean ≠ 0 : Nat) ≤ t.mistakeBound u margin ∧
        lessons.Pairwise fun earlier later => earlier.mean = 0 → later.mean = 0) := by
  have sound := reachable.sound
  have perceptron := Perceptron.ofWeights sound.network topology activation
  obtain ⟨rising, -, -⟩ := (TrainConfig.validate_eq_ok_iff _).mp sound.config
  have some : t.data.samples.toList ≠ [] := by
    refine List.ne_nil_of_length_pos ?_
    rw [Array.length_toList]
    exact sound.positive
  have bounded (visits : List (Sample ℝ)) (given : ∀ s ∈ visits, s ∈ t.data.samples.toList) : ∃ errors after,
      t.network.trainMany t.config.learnRate t.config.momentum visits = .ok (errors, after) ∧
      mistakes errors ≤ t.mistakeBound u margin := by
    obtain ⟨errors, after, last, run, -, turned⟩ :=
      perceptron.trainMany_turned separates rising (.refl _ u margin _ _) given
    rw [Nat.zero_add] at turned
    exact ⟨errors, after, momentum ▸ run, turned.mistakes_le positive rising⟩
  refine ⟨bounded, fun calls => ?_⟩
  obtain ⟨lessons, after, run, count, -, taught, covers⟩ := learnMany_lessons sound calls
  have whole := taught.trainMany
  have few : mistakes (lessons.flatMap Lesson.errors) ≤ t.mistakeBound u margin := by
    obtain ⟨errors, _, again, few⟩ := bounded (lessons.flatMap Lesson.visits) fun s => mem_of_mem_visits covers
    cases whole.symm.trans again
    exact few
  refine ⟨lessons, after, run, count, covers, whole, few, fun mode => ?_⟩
  rw [mode] at covers
  rw [momentum] at taught
  exact ⟨le_trans (Nat.cast_le.mpr (countP_mean_le some covers)) few, taught.pairwise perceptron some covers⟩

theorem perceptron_mistakes_are_bounded_of_two_samples :
    ∃ (n : Network ℝ ℝ) (t : Trainer ℝ ℝ Random.Stream),
      Network.ofWeights ⟨[2, 1], false⟩ .step [1, 0, 0] = .ok n ∧
      ofParts n (.ofSamples [⟨1, 1, .positive⟩, ⟨-1, -1, .negative⟩]) ⟨1, 0, .fullPass⟩ (.ofSeed 1) = .ok t ∧
      t.Reachable ∧ t.network.topology = ⟨[2, 1], false⟩ ∧ t.network.activation = .step ∧ t.config.momentum = 0 ∧
      Separates ⟨0, 1, 1⟩ 2 t.data.samples.toList ∧ t.mistakeBound ⟨0, 1, 1⟩ 2 = 7 / 2 ∧
      ∃ (lessons : List (Lesson ℝ ℝ)) (after : Trainer ℝ ℝ Random.Stream),
        t.learnMany 5 = .ok (lessons.map Lesson.mean, after) ∧ lessons.length = 5 ∧
        (∀ lesson ∈ lessons, lesson.Covers t.config.mode t.data.samples.toList) ∧
        t.network.trainMany t.config.learnRate t.config.momentum (lessons.flatMap Lesson.visits) =
          .ok (lessons.flatMap Lesson.errors, after.network) ∧
        mistakes (lessons.flatMap Lesson.errors) ≤ t.mistakeBound ⟨0, 1, 1⟩ 2 ∧
        (t.config.mode = .fullPass →
          (lessons.countP fun lesson => lesson.mean ≠ 0 : Nat) ≤ t.mistakeBound ⟨0, 1, 1⟩ 2 ∧
          lessons.Pairwise fun earlier later => earlier.mean = 0 → later.mean = 0) := by
  have accepted : Topology.ofSizes [2, 1] false = .ok ⟨[2, 1], false⟩ := rfl
  have enough : ([1, 0, 0] : List ℝ).length = Topology.weightsBelow ⟨[2, 1], false⟩ 2 := rfl
  have valid : (⟨1, 0, .fullPass⟩ : TrainConfig ℝ).validate = .ok () := by
    simp [TrainConfig.validate_eq_ok_iff]
  have filled : ([⟨1, 1, .positive⟩, ⟨-1, -1, .negative⟩] : List (Sample ℝ)) ≠ [] := List.cons_ne_nil _ _
  obtain ⟨n, built, topology, activation, weights, started, reachable⟩ :=
    exists_reachable accepted (by decide) enough .step filled valid (Random.Stream.ofSeed 1)
  have separates : Separates ⟨0, 1, 1⟩ 2 [⟨1, 1, .positive⟩, ⟨-1, -1, .negative⟩] := by
    rintro s member
    rcases List.mem_pair.mp member with rfl | rfl <;>
      norm_num [Sample.target, Label.target, Line.value, real_one]
  refine ⟨n, _, built, started, reachable, topology, activation, rfl, separates, ?_,
    (perceptron_mistakes_are_bounded reachable topology activation rfl two_pos separates).2 5⟩
  norm_num [mistakeBound, PlaneNet.mistakeBound, weights, Line.ofWeights, Line.normSq, Line.dot, reachSq,
    Dataset.ofSamples]

end Trainer

end PlaneNet
