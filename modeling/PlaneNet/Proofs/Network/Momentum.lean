import PlaneNet.Proofs.Activation
import PlaneNet.Proofs.Network.Perceptron

set_option autoImplicit false

namespace PlaneNet.Network

section Values

theorem gaussian_bounds (x y meanX meanY : ℝ) {variance : ℝ} (positive : 0 < variance) :
    0 < gaussian x y meanX meanY variance ∧ gaussian x y meanX meanY variance ≤ 1 := by
  have squares : 0 ≤ (x - meanX) * (x - meanX) + (y - meanY) * (y - meanY) :=
    add_nonneg (mul_self_nonneg _) (mul_self_nonneg _)
  have exponent : -((x - meanX) * (x - meanX) + (y - meanY) * (y - meanY)) / (nat 2 * variance) ≤ 0 := by
    rw [real_nat]
    exact div_nonpos_of_nonpos_of_nonneg (neg_nonpos.mpr squares) (by positivity)
  exact ⟨Real.exp_pos _, Real.exp_le_one_iff.mpr exponent⟩

theorem abs_gaussianOf_le {row : List ℝ} (positive : 0 < row.getD 2 0) (x y : ℝ) : |gaussianOf x y row| ≤ 1 := by
  unfold gaussianOf
  split
  next meanX meanY variance =>
    obtain ⟨low, high⟩ := gaussian_bounds x y meanX meanY positive
    exact (abs_of_pos low).trans_le high
  next =>
    rw [real_zero, abs_zero]
    exact zero_le_one

theorem two_lt_rowLength {t : Topology} (rbf : t.rbf = true) : 2 < t.rowLength 1 := by
  rw [Topology.rowLength_of_gaussian (Topology.isGaussianLayer_one.trans rbf)]
  decide

def PositiveVariances (t : Topology) (weights : List ℝ) : Prop :=
  t.rbf = true → ∀ unit < t.width 1, 0 < weightAt t weights 1 unit 2

variable {t : Topology} {a : Activation} {weights : List ℝ} (x y : ℝ)

theorem abs_response_le (bounded : a ≠ .linear) (variances : PositiveVariances t weights) {layer : Nat}
    (above : 0 < layer) {v : ℝ} (member : v ∈ response t a weights x y layer) : |v| ≤ 1 := by
  cases layer with
  | zero => cases above
  | succ layer =>
    rw [response] at member
    rcases List.mem_cons.mp member with rfl | computed
    · rw [real_one, abs_one]
    · obtain ⟨unit, inLayer, rfl⟩ := List.mem_map.mp computed
      dsimp only
      split
      next gaussian =>
        obtain ⟨rbf, first⟩ := Topology.isGaussianLayer_eq_true_iff.mp gaussian
        obtain rfl : layer = 0 := by omega
        refine abs_gaussianOf_le ?_ _ _
        rw [getD_row weights unit (two_lt_rowLength rbf)]
        exact variances rbf unit (List.mem_range.mp inLayer)
      next => exact Activation.abs_apply_le bounded _

theorem abs_valueAt_le {layer : Nat} {bound : ℝ} (each : ∀ v ∈ response t a weights x y layer, |v| ≤ bound)
    (positive : 0 ≤ bound) (input : Nat) : |valueAt t a weights x y layer input| ≤ bound := by
  rw [valueAt, List.getD_eq_getElem?_getD]
  cases found : (response t a weights x y layer)[input]? with
  | none => simpa using positive
  | some v => exact each v (List.mem_of_getElem? found)

end Values

section Sources

noncomputable def inputBound (samples : List (Sample ℝ)) : ℝ :=
  samples.foldr (fun s bound => max (max |s.x| |s.y|) bound) 1

noncomputable def sourceBound (t : Topology) (samples : List (Sample ℝ)) : ℝ :=
  if 2 < t.depth then 1 else inputBound samples

theorem one_le_inputBound (samples : List (Sample ℝ)) : 1 ≤ inputBound samples := by
  induction samples with
  | nil => exact le_refl _
  | cons s rest ih => exact ih.trans (le_max_right _ _)

theorem abs_le_inputBound {samples : List (Sample ℝ)} {s : Sample ℝ} (member : s ∈ samples) :
    |s.x| ≤ inputBound samples ∧ |s.y| ≤ inputBound samples := by
  induction samples with
  | nil => cases member
  | cons first rest ih =>
    rcases List.mem_cons.mp member with rfl | later
    · exact max_le_iff.mp (le_max_left _ _)
    · exact (ih later).imp (fun x => x.trans (le_max_right _ _)) fun y => y.trans (le_max_right _ _)

theorem one_le_sourceBound (t : Topology) (samples : List (Sample ℝ)) : 1 ≤ sourceBound t samples := by
  rw [sourceBound]
  split
  next => exact le_refl _
  next => exact one_le_inputBound samples

variable {t : Topology} {a : Activation} {weights : List ℝ} {samples : List (Sample ℝ)} {s : Sample ℝ}

theorem abs_source_le (bounded : a ≠ .linear) (variances : PositiveVariances t weights) (member : s ∈ samples)
    (input : Nat) : |valueAt t a weights s.x s.y (t.outputLayer - 1) input| ≤ sourceBound t samples := by
  have positive : 0 ≤ sourceBound t samples := zero_le_one.trans (one_le_sourceBound t samples)
  refine abs_valueAt_le _ _ (fun v source => ?_) positive input
  rw [sourceBound]
  split
  next hidden =>
    have above : 0 < t.outputLayer - 1 := by
      rw [Topology.outputLayer]
      rw [Topology.depth] at hidden
      omega
    exact abs_response_le s.x s.y bounded variances above source
  next none =>
    have first : t.outputLayer - 1 = 0 := by
      rw [Topology.outputLayer]
      rw [Topology.depth] at none
      omega
    obtain ⟨x, y⟩ := abs_le_inputBound member
    rw [first, response] at source
    simp only [List.mem_cons, List.not_mem_nil, or_false] at source
    rcases source with rfl | rfl | rfl
    · rw [real_one, abs_one]
      exact one_le_inputBound samples
    · exact x
    · exact y

end Sources

/-- Where the momentum that is lost in a step makes up for the greatest step. -/
noncomputable def momentumBound (t : Topology) (samples : List (Sample ℝ)) (rate coefficient : ℝ) : ℝ :=
  nat 2 * rate * sourceBound t samples / (1 - coefficient)

theorem momentumBound_eq (t : Topology) (samples : List (Sample ℝ)) (rate coefficient : ℝ) :
    momentumBound t samples rate coefficient = 2 * rate * sourceBound t samples / (1 - coefficient) := by
  rw [momentumBound, real_nat]

theorem step_add_momentumBound {coefficient : ℝ} (shrinks : coefficient < 1) (t : Topology)
    (samples : List (Sample ℝ)) (rate : ℝ) :
    2 * rate * sourceBound t samples + coefficient * momentumBound t samples rate coefficient =
      momentumBound t samples rate coefficient := by
  have lost : 1 - coefficient ≠ 0 := (sub_pos.mpr shrinks).ne'
  rw [momentumBound_eq]
  field_simp
  ring

theorem momentumBound_nonneg {rate coefficient : ℝ} (rising : 0 ≤ rate) (shrinks : coefficient < 1) (t : Topology)
    (samples : List (Sample ℝ)) : 0 ≤ momentumBound t samples rate coefficient := by
  have lost : 0 < 1 - coefficient := sub_pos.mpr shrinks
  have source : 0 ≤ sourceBound t samples := zero_le_one.trans (one_le_sourceBound t samples)
  rw [momentumBound_eq]
  positivity

theorem abs_step_le {rate coefficient source bound slope e v m : ℝ} (rising : 0 ≤ rate) (nonneg : 0 ≤ coefficient)
    (sloped : 0 ≤ slope ∧ slope ≤ 1) (blamed : |e| ≤ 2) (fed : |v| ≤ source) (held : |m| ≤ bound) :
    |slope * e * rate * v + coefficient * m| ≤ 2 * rate * source + coefficient * bound := by
  have positive : 0 ≤ source := (abs_nonneg v).trans fed
  calc |slope * e * rate * v + coefficient * m| ≤ |slope * e * rate * v| + |coefficient * m| := abs_add_le _ _
    _ = slope * |e| * rate * |v| + coefficient * |m| := by
      rw [abs_mul, abs_mul, abs_mul, abs_mul, abs_of_nonneg sloped.1, abs_of_nonneg rising, abs_of_nonneg nonneg]
    _ ≤ 1 * 2 * rate * source + coefficient * bound := by
      have := sloped.2
      gcongr
    _ = 2 * rate * source + coefficient * bound := by ring

def OutputMomentumsWithin (n : Network ℝ ℝ) (bound : ℝ) : Prop :=
  ∀ unit input, n.topology.Wired n.topology.outputLayer unit input → ∃ i m,
    n.layout.weightIndex n.topology.outputLayer unit input = .ok i ∧ n.momentums[i]? = some m ∧ |m| ≤ bound

def OutputWeightsMoveWithin (n : Network ℝ ℝ) (bound : ℝ) (after : Network ℝ ℝ) : Prop :=
  ∀ unit input, n.topology.Wired n.topology.outputLayer unit input → ∃ i w w',
    n.layout.weightIndex n.topology.outputLayer unit input = .ok i ∧ n.weights[i]? = some w ∧
    after.weights[i]? = some w' ∧ |w' - w| ≤ bound

structure Steady (n : Network ℝ ℝ) (bound : ℝ) : Prop where
  sound : n.Sound
  bounded : n.activation ≠ .linear
  variances : PositiveVariances n.topology n.weights
  momentums : n.OutputMomentumsWithin bound

theorem abs_error_le {n : Network ℝ ℝ} (bounded : n.activation ≠ .linear)
    (variances : PositiveVariances n.topology n.weights) (positive : 0 < n.topology.outputLayer) (s : Sample ℝ) :
    |s.target - n.answer s.x s.y| ≤ 2 := by
  have answer : |n.answer s.x s.y| ≤ 1 := by
    rw [answer_eq_valueAt]
    exact abs_valueAt_le _ _ (fun v => abs_response_le _ _ bounded variances positive) zero_le_one _
  have target : |(s.target : ℝ)| = 1 := by
    rcases s.target_eq with same | same
    · rw [same, abs_one]
    · rw [same, abs_neg, abs_one]
  calc |s.target - n.answer s.x s.y| ≤ |s.target| + |n.answer s.x s.y| := abs_sub _ _
    _ ≤ 2 := by linarith

theorem positiveVariances_trained {n : Network ℝ ℝ} (sound : n.Sound)
    (variances : PositiveVariances n.topology n.weights) (x y target rate coefficient : ℝ) :
    PositiveVariances n.topology (n.trained x y target rate coefficient).weights := by
  intro rbf unit inLayer
  have inside := Topology.row_lt_weightCount Nat.one_pos inLayer (two_lt_rowLength rbf)
  obtain ⟨spans, layer, kept⟩ := (trained_backpropagates sound x y target rate coefficient).gaussians rbf
  cases (sound.layer_eq sound.accepted.two_le_depth).symm.trans layer
  have same := (kept (n.topology.place 1 unit 2) (Nat.le_add_right _ _) (Nat.add_lt_add_left inside _)).1
  have positive := variances rbf unit inLayer
  rwa [weightAt, List.getD_eq_getElem?_getD, ← same, ← List.getD_eq_getElem?_getD] at positive

theorem outputMomentumsWithin_of_rest {n : Network ℝ ℝ} (sound : n.Sound) (rest : ∀ m ∈ n.momentums, m = 0)
    {bound : ℝ} (positive : 0 ≤ bound) : n.OutputMomentumsWithin bound := by
  intro unit input wired
  obtain ⟨m, -, held, -, index, -⟩ := connection_trained sound 0 0 0 0 0 wired
  refine ⟨_, m, index, held, ?_⟩
  rwa [rest m (List.mem_of_getElem? held), abs_zero]

section Step

variable {n : Network ℝ ℝ} {samples : List (Sample ℝ)} {rate coefficient : ℝ} (rising : 0 ≤ rate)
  (nonneg : 0 ≤ coefficient) (shrinks : coefficient < 1)

include rising nonneg shrinks

theorem Steady.moved (steady : n.Steady (momentumBound n.topology samples rate coefficient)) {s : Sample ℝ}
    (member : s ∈ samples) {unit input : Nat} (wired : n.topology.Wired n.topology.outputLayer unit input) :
    ∃ i w step, n.layout.weightIndex n.topology.outputLayer unit input = .ok i ∧ n.weights[i]? = some w ∧
      (n.trained s.x s.y s.target rate coefficient).momentums[i]? = some step ∧
      (n.trained s.x s.y s.target rate coefficient).weights[i]? = some (w + step) ∧
      |step| ≤ momentumBound n.topology samples rate coefficient := by
  have sound := steady.sound
  have layer := sound.accepted.outputLayer_holdsSums.1
  obtain ⟨m, step, held, formula, index, weight, momentum, moved⟩ :=
    connection_trained sound s.x s.y s.target rate coefficient wired
  obtain ⟨i, m', place, before, small⟩ := steady.momentums unit input wired
  cases index.symm.trans place
  cases held.symm.trans before
  obtain rfl := sound.accepted.lt_width_outputLayer_iff.mp wired.inLayer
  rw [errorAt_output] at formula
  refine ⟨_, _, step, index, weight, momentum, moved, ?_⟩
  rw [← step_add_momentumBound shrinks, formula]
  exact abs_step_le rising nonneg (Activation.derive_bounds _ _)
    (abs_error_le steady.bounded steady.variances layer s)
    (abs_source_le steady.bounded steady.variances member input) small

theorem Steady.trained (steady : n.Steady (momentumBound n.topology samples rate coefficient)) {s : Sample ℝ}
    (member : s ∈ samples) :
    (n.trained s.x s.y s.target rate coefficient).Steady (momentumBound n.topology samples rate coefficient) ∧
      n.OutputWeightsMoveWithin (momentumBound n.topology samples rate coefficient)
        (n.trained s.x s.y s.target rate coefficient) := by
  have sound := steady.sound
  constructor
  · refine ⟨train_sound sound (train_eq_ok sound s.x s.y s.target rate coefficient), steady.bounded,
      positiveVariances_trained sound steady.variances _ _ _ _ _, fun unit input wired => ?_⟩
    obtain ⟨i, _, step, index, -, momentum, -, small⟩ := steady.moved rising nonneg shrinks member wired
    exact ⟨i, step, index, momentum, small⟩
  · intro unit input wired
    obtain ⟨i, w, step, index, before, -, after, small⟩ := steady.moved rising nonneg shrinks member wired
    refine ⟨i, w, w + step, index, before, after, ?_⟩
    rwa [add_sub_cancel_left]

end Step

theorem ofWeights_rests {t : Topology} {a : Activation} {weights : List ℝ} {n : Network ℝ ℝ}
    (built : ofWeights t a weights = .ok n) : ∀ m ∈ n.momentums, m = 0 := by
  obtain ⟨l, -, built⟩ := (bind_eq_ok_iff _ _ _).mp built
  split at built
  next => cases built
  next =>
    obtain ⟨values, -, done⟩ := (bind_eq_ok_iff _ _ _).mp built
    cases done
    intro m member
    rw [List.eq_of_mem_replicate member]
    exact real_zero

end PlaneNet.Network
