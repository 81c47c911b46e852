import PlaneNet.Proofs.Network.Reachable
import PlaneNet.Proofs.Network.Sums

set_option autoImplicit false

namespace PlaneNet.Network

section Adding

variable {W R : Type} [Scalar R] [Storage W R]

open Scalar (zero)

-- What a backward pass is meant to leave: every hidden error is the weighted sum of the errors above it.
structure HoldsWeightedErrors (n : Network W R) (e : R) : Prop where
  output : n.layerErrors n.topology.outputLayer = .ok [e]
  hidden : ∀ layer, n.topology.HoldsSums layer → layer < n.topology.outputLayer → ∃ above errors,
    n.layerErrors (layer + 1) = .ok above ∧ above.length = n.topology.width (layer + 1) ∧
    n.layerErrors layer = .ok errors ∧ errors.length = n.topology.width layer ∧
    ∀ unit < n.topology.width layer, ∃ sum, n.unitError layer above unit = .ok sum ∧ errors[unit]? = some sum

structure AddsWeightedErrors (n : Network W R) (e : R) (after : Network W R) : Prop where
  output : after.layerErrors n.topology.outputLayer = .ok [e]
  hidden : ∀ layer, n.topology.HoldsSums layer → layer < n.topology.outputLayer → ∃ left above errors,
    n.layerErrors layer = .ok left ∧ left.length = n.topology.width layer ∧
    after.layerErrors (layer + 1) = .ok above ∧ above.length = n.topology.width (layer + 1) ∧
    after.layerErrors layer = .ok errors ∧ errors.length = n.topology.width layer ∧
    ∀ unit < n.topology.width layer, ∃ start sum, left[unit]? = some start ∧
      n.unitErrorFrom start layer above unit = .ok sum ∧ errors[unit]? = some sum
  size : after.errors.length = n.errors.length
  unchanged : after = { n with errors := after.errors }

def Cleared (n : Network W R) : Prop :=
  ∀ layer, n.topology.HoldsSums layer → layer < n.topology.outputLayer →
    n.layerErrors layer = .ok (List.replicate (n.topology.width layer) zero)

variable {n after : Network W R}

theorem backward_adds (sound : n.Sound) (target : R) :
    ∃ out after, n.output = .ok out ∧ n.backward target = .ok (target - out, after) ∧
      n.AddsWeightedErrors (target - out) after := by
  obtain ⟨out, es, read, run, passed⟩ := backward_passedTo sound target
  have kept := sound.with_errors passed.length
  have errors {layer : Nat} (sums : n.topology.HoldsSums layer) (within : layer < n.topology.depth) :
      { n with errors := es }.layerErrors layer = .ok ((n.topology.slotSpan layer).slice es) :=
    kept.layerErrors_eq sums within
  refine ⟨out, _, read, run, ?_⟩
  constructor
  case output =>
    rw [errors sound.accepted.outputLayer_holdsSums sound.accepted.outputLayer_lt, passed.output]
  case hidden =>
    intro layer sums hidden
    have sumsAbove := Topology.holdsSums_succ sums
    have within := sound.accepted.hidden_add_one_lt hidden
    have inside := sound.slotSpan_stop_le_errors sums (Nat.lt_of_succ_lt within)
    have wide := Span.length_slice _ _ (kept.slotSpan_stop_le_errors sumsAbove within)
    have count := Span.length_slice _ _ inside
    refine ⟨_, _, _, sound.layerErrors_eq sums (Nat.lt_of_succ_lt within), count, errors sumsAbove within, wide,
      errors sums (Nat.lt_of_succ_lt within), Span.length_slice _ _ (passed.length ▸ inside), ?_⟩
    intro unit inLayer
    obtain ⟨start, held⟩ := exists_getElem? count inLayer
    obtain ⟨sum, run, entry⟩ := unitErrorFrom_eq_ok sound sums within wide inLayer held
    have low := sound.accepted.firstTrained_le sums (Nat.lt_of_succ_lt within)
    rw [← passed.passed layer sums low hidden] at entry
    exact ⟨start, sum, held, run, entry⟩
  case size => exact passed.length
  case unchanged => rfl

theorem AddsWeightedErrors.holds {e : R} (adds : n.AddsWeightedErrors e after) (cleared : n.Cleared) :
    after.HoldsWeightedErrors e := by
  obtain ⟨es, rfl⟩ : ∃ es, after = { n with errors := es } := ⟨_, adds.unchanged⟩
  constructor
  case output => exact adds.output
  case hidden =>
    intro layer sums hidden
    obtain ⟨left, above, errors, readLeft, -, readAbove, wide, readErrors, count, each⟩ := adds.hidden layer sums hidden
    cases (cleared layer sums hidden).symm.trans readLeft
    refine ⟨above, errors, readAbove, wide, readErrors, count, ?_⟩
    intro unit inLayer
    obtain ⟨start, sum, held, run, entry⟩ := each unit inLayer
    obtain rfl : zero = start := Option.some.inj ((List.getElem?_replicate_of_lt inLayer).symm.trans held)
    exact ⟨sum, run, entry⟩

variable [Exponential R]

theorem answered_cleared (sound : n.Sound) (x y : W) : (n.answered x y).Cleared := by
  intro layer sums hidden
  have within := Nat.lt_of_succ_lt (sound.accepted.hidden_add_one_lt hidden)
  have kept := answered_sound x y sound
  exact (kept.layerErrors_eq sums within).trans
    (congrArg Except.ok (Span.slice_replicate _ _ (Topology.slotSpan_stop_le sums within)))

theorem backward_after_forward (reachable : n.Reachable) (x y : W) (target : R) :
    ∃ out passed after, n.forward x y = .ok (out, passed) ∧
      passed.backward target = .ok (target - out, after) ∧ after.HoldsWeightedErrors (target - out) := by
  have sound := reachable.sound
  have kept := answered_sound x y sound
  obtain ⟨out, after, read, run, adds⟩ := backward_adds kept target
  cases (answered_answers sound x y).output.symm.trans read
  exact ⟨_, _, after, forward_eq_ok x y sound, run, adds.holds (answered_cleared sound x y)⟩

end Adding

section Exact

theorem foldlM_add {α : Type} (term : α → Except Error ℝ) (start sum : ℝ) (xs : List α) :
    xs.foldlM (fun sum a => term a >>= fun v => pure (sum + v)) (start + sum) =
      (start + ·) <$> xs.foldlM (fun sum a => term a >>= fun v => pure (sum + v)) sum := by
  induction xs generalizing sum with
  | nil => rfl
  | cons a xs ih =>
    rw [List.foldlM_cons, List.foldlM_cons]
    cases term a with
    | error e => rfl
    | ok v => exact (congrArg (xs.foldlM _) (add_assoc start sum v)).trans (ih (sum + v))

theorem unitErrorFrom_eq_add (n : Network ℝ ℝ) (start : ℝ) (layer : Nat) (above : List ℝ) (unit : Nat) :
    n.unitErrorFrom start layer above unit = (start + ·) <$> n.unitError layer above unit := by
  have shifted := foldlM_add (fun next => do
    let w ← Buffer.cell (← n.layout.weightIndex (layer + 1) next (unit + 1)) n.weights
    return widen w * (← Buffer.cell next above)) start Scalar.zero (List.range above.length)
  have zero : start + (Scalar.zero : ℝ) = start := (congrArg (start + ·) Nat.cast_zero).trans (add_zero start)
  simp only [bind_assoc, pure_bind, zero] at shifted
  exact shifted

theorem holdsWeightedErrors_iff {n after : Network ℝ ℝ} (reachable : n.Reachable) {target e : ℝ}
    (run : n.backward target = .ok (e, after)) : after.HoldsWeightedErrors e ↔ n.Cleared := by
  obtain ⟨out, _, -, again, adds⟩ := backward_adds reachable.sound target
  cases again.symm.trans run
  refine ⟨fun holds => ?_, adds.holds⟩
  obtain ⟨es, rfl⟩ : ∃ es, after = { n with errors := es } := ⟨_, adds.unchanged⟩
  intro layer sums hidden
  obtain ⟨left, above, errors, readLeft, count, readAbove, -, readErrors, -, each⟩ := adds.hidden layer sums hidden
  obtain ⟨_, _, readAbove', -, readErrors', -, each'⟩ := holds.hidden layer sums hidden
  cases readAbove.symm.trans readAbove'
  cases readErrors.symm.trans readErrors'
  have nothing (start : ℝ) (member : start ∈ left) : start = Scalar.zero := by
    obtain ⟨unit, inside, rfl⟩ := List.mem_iff_getElem.mp member
    obtain ⟨start, sum, held, added, entry⟩ := each unit (count ▸ inside)
    obtain ⟨_, weighted, entry'⟩ := each' unit (count ▸ inside)
    cases entry.symm.trans entry'
    obtain rfl : left[unit] = start := Option.some.inj ((List.getElem?_eq_getElem inside).symm.trans held)
    rw [unitErrorFrom_eq_add] at added
    have same : left[unit] + sum = sum :=
      Except.ok.inj ((congrArg ((left[unit] + ·) <$> ·) weighted).symm.trans added)
    exact (add_eq_right.mp same).trans Nat.cast_zero.symm
  rw [readLeft, List.eq_replicate_of_mem nothing, count]

end Exact

theorem backward_adds_weighted_errors {W R : Type} [Scalar R] [Exponential R] [Storage W R] {n : Network W R}
    (reachable : n.Reachable) (target : R) :
    ∃ out after, n.output = .ok out ∧ n.backward target = .ok (target - out, after) ∧
      n.AddsWeightedErrors (target - out) after ∧ (n.Cleared → after.HoldsWeightedErrors (target - out)) := by
  obtain ⟨out, after, read, run, adds⟩ := backward_adds reachable.sound target
  exact ⟨out, after, read, run, adds, adds.holds⟩

theorem backward_adds_weighted_errors_of_gaussian_net :
    ∃ n : Network Float32 Float, ofWeights ⟨[2, 2, 3, 1], true⟩ .tanh (List.replicate 19 0.5) = .ok n ∧
      n.Reachable ∧ ∃ out after, n.output = .ok out ∧ n.backward 1 = .ok (1 - out, after) ∧
        n.AddsWeightedErrors (1 - out) after ∧ (n.Cleared → after.HoldsWeightedErrors (1 - out)) := by
  have accepted : Topology.ofSizes [2, 2, 3, 1] true = .ok ⟨[2, 2, 3, 1], true⟩ := rfl
  have enough : (List.replicate 19 0.5 : List Float32).length =
      Topology.weightsBelow ⟨[2, 2, 3, 1], true⟩ 4 := rfl
  obtain ⟨n, built, reachable, -⟩ := exists_ofWeights accepted (by decide) enough .tanh
  exact ⟨n, built, reachable, backward_adds_weighted_errors reachable 1⟩

-- One hidden unit with a weight of 2 to the output: its error of 2 is counted again by the second pass.
theorem backward_counts_errors_again :
    ∃ passed first second : Network Float32 Float, passed.Reachable ∧ first.Reachable ∧
      passed.backward 3 = .ok (1, first) ∧ first.backward 3 = .ok (1, second) ∧
      first.layerErrors 1 = .ok [2] ∧ second.layerErrors 1 = .ok [4] ∧ ¬ second.HoldsWeightedErrors 1 := by
  have run : (do
      let n : Network Float32 Float ← ofWeights ⟨[2, 1, 1], false⟩ .linear [0, 1, 0, 0, 2]
      let (_, passed) ← n.forward 1 0
      let (e, first) ← passed.backward 3
      let (e', second) ← first.backward 3
      return ((e, ← first.layerErrors 1), (e', second.topology, ← second.layerErrors 1, ← second.layerErrors 2,
        ← second.unitError 1 [1] 0))) =
      Except.ok ((1, [2]), (1, ⟨[2, 1, 1], false⟩, [4], [1], 2)) := by
    decide +kernel
  obtain ⟨n, built, run⟩ := (bind_eq_ok_iff _ _ _).mp run
  obtain ⟨⟨out, passed⟩, forward, run⟩ := (bind_eq_ok_iff _ _ _).mp run
  obtain ⟨⟨e, first⟩, once, run⟩ := (bind_eq_ok_iff _ _ _).mp run
  obtain ⟨⟨e', second⟩, twice, run⟩ := (bind_eq_ok_iff _ _ _).mp run
  obtain ⟨_, firstErrors, run⟩ := (bind_eq_ok_iff _ _ _).mp run
  obtain ⟨_, secondErrors, run⟩ := (bind_eq_ok_iff _ _ _).mp run
  obtain ⟨_, outputErrors, run⟩ := (bind_eq_ok_iff _ _ _).mp run
  obtain ⟨_, weighted, run⟩ := (bind_eq_ok_iff _ _ _).mp run
  have results := Except.ok.inj run
  simp only [Prod.mk.injEq] at results
  obtain ⟨⟨rfl, rfl⟩, rfl, topology, rfl, rfl, rfl⟩ := results
  have accepted : Topology.ofSizes [2, 1, 1] false = .ok ⟨[2, 1, 1], false⟩ := rfl
  have presented : passed.Reachable :=
    .step (.ofWeights accepted built) (.forward 1 0) (by rw [Operation.run, forward]; rfl)
  have passedOnce : first.Reachable := .step presented (.backward 3) (by rw [Operation.run, once]; rfl)
  refine ⟨passed, first, second, presented, passedOnce, once, twice, firstErrors, secondErrors, fun holds => ?_⟩
  obtain ⟨_, _, readAbove, -, readErrors, -, each⟩ :=
    holds.hidden 1 (by rw [topology]; decide) (by rw [topology]; decide)
  cases outputErrors.symm.trans readAbove
  cases secondErrors.symm.trans readErrors
  obtain ⟨_, summed, entry⟩ := each 0 (by rw [topology]; decide)
  cases weighted.symm.trans summed
  exact absurd (Option.some.inj entry) (by decide +kernel)

end PlaneNet.Network
