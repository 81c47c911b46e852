import PlaneNet.Proofs.KMeans.FixedPoint

set_option autoImplicit false

namespace PlaneNet

variable {W R : Type} [Scalar R] [Storage W R]

section Fits

variable {samples : List (Sample W)} {assignment : List Nat} {fitted others : List (Cluster R)}

-- The samples of a cluster leave it no choice, down to the last bit.
theorem Cluster.Fits.unique {c d : Cluster R} {ms : List (Sample W)} (fits : c.Fits ms) (other : d.Fits ms) :
    c = d := by
  have center : c.center = d.center := by
    simp only [Cluster.center, fits.meanX, fits.meanY, other.meanX, other.meanY]
  have variance : c.variance = d.variance := by
    simp only [fits.variance, other.variance, distanceSq_congr _ _ center]
  cases c
  cases d
  simp_all [Cluster.center]

variable (same : others.length = fitted.length)
  (fits : ∀ i < fitted.length, ∃ c, fitted[i]? = some c ∧ c.Fits (members samples assignment i))

include same fits

theorem refitted_recentered_eq : refitted samples assignment (recentered samples assignment others) = fitted := by
  apply List.ext_getElem?
  intro i
  by_cases within : i < fitted.length
  next =>
    obtain ⟨c, found, fitting⟩ := fits i within
    obtain ⟨d, again, refitting⟩ := refitted_fits samples assignment others (same ▸ within) fitting.nonempty
    rw [again, found, refitting.unique fitting]
  next => simp [refitted, recentered, same, within]

theorem recentered_center :
    (recentered samples assignment others).map (·.center) = fitted.map (·.center) := by
  rw [← refitted_center samples assignment, refitted_recentered_eq same fits]

end Fits

namespace KMeans

variable {m : KMeans} {samples : List (Sample W)} {clusters fitted : List (Cluster R)}

-- The first pass moves all samples, so a run that ends well was allowed at least one update.
theorem exhausted_of_fitFrom_eq_ok (nonempty : 0 < m.k)
    (run : (m.fitFrom samples clusters).value = .ok fitted) : m.exhausted 0 = false := by
  have filled := (fitFrom_fits nonempty run).1
  have start := length_of_fitFrom_eq_ok run
  obtain ⟨fuel, limit⟩ := m.exists_passLimit samples.length
  cases capped : m.exhausted 0 with
  | false => rfl
  | true =>
    have moved := start_ne_assign filled nonempty start
    rw [fitFrom_value m samples start, ended, limit,
      settle_capped m fuel 0 List.length_replicate moved capped] at run
    cases run

theorem exists_passLimit_two (nonempty : 0 < m.k) (going : m.exhausted 0 = false) (count : Nat) :
    ∃ fuel, m.passLimit count = fuel + 2 := by
  simp only [passLimit, exhausted] at going ⊢
  cases cap : m.maxUpdates with
  | none =>
    have some : 0 < m.k ^ count := Nat.pow_pos nonempty
    exact ⟨m.k ^ count - 1, by show m.k ^ count + 1 = _; omega⟩
  | some updates =>
    simp only [cap, decide_eq_false_iff_not] at going
    exact ⟨updates - 1, by show updates + 1 = _; omega⟩

theorem fitFrom_of_centers (nonempty : 0 < m.k) (run : (m.fitFrom samples clusters).value = .ok fitted)
    {others : List (Cluster R)} (same : others.map (·.center) = fitted.map (·.center)) :
    (m.fitFrom samples others).value = .ok fitted := by
  obtain ⟨filled, count, fits⟩ := fitFrom_fits nonempty run
  have going := exhausted_of_fitFrom_eq_ok nonempty run
  obtain ⟨fuel, limit⟩ := exists_passLimit_two nonempty going samples.length
  have length : others.length = fitted.length := by simpa using congrArg List.length same
  have start : others.length = m.k := length.trans count
  have assigned : assign samples others = assign samples fitted := assign_congr samples same
  rw [← count, ← assigned] at fits
  -- The first pass assigns as the result does, and the centers of that assignment are those of the result.
  have recentering : (recentered samples (assign samples others) others).map (·.center) = fitted.map (·.center) :=
    recentered_center length fits
  have still : assign samples others = assign samples (recentered samples (assign samples others) others) :=
    assigned.trans (assign_congr samples recentering).symm
  have full : Filled samples (assign samples others) others.length := by
    intro i within
    obtain ⟨c, -, fitting⟩ := fits i (length ▸ within)
    exact fitting.nonempty
  have inside : ∀ i ∈ assign samples others, i < others.length := assign_lt (start ▸ nonempty)
  have wide := length_recentered samples (assign samples others) others
  have moved := start_ne_assign filled nonempty start
  rw [fitFrom_value m samples start, ended, limit, settle_next m (fuel + 1) 0 List.length_replicate moved going
    (recenter_eq_ok inside full)]
  simp only [settle_still m fuel 1 (length_assign samples others) still, ok_bind, Nat.zero_add]
  rw [fitVariances_eq_ok (wide.symm ▸ inside) (wide.symm ▸ full), refitted_recentered_eq length fits]

theorem refitting_changes_nothing {k : Nat} {cap : Option Nat} {m : KMeans} (made : ofCount k cap = .ok m)
    {samples : List (Sample W)} {start fitted : List (Cluster R)}
    (run : (m.fitFrom samples start).value = .ok fitted) :
    (m.fitFrom samples fitted).value = .ok fitted ∧
      ∀ variance : Nat → R, (m.fitFrom samples (fitted.mapIdx fun i c => { c with variance := variance i })).value =
        .ok fitted := by
  obtain ⟨nonempty, rfl⟩ := ofCount_eq_ok_iff.mp made
  refine ⟨fitFrom_of_centers nonempty run rfl, fun variance => fitFrom_of_centers nonempty run ?_⟩
  apply List.ext_getElem
  · simp
  · simp [Cluster.center]

theorem refitting_changes_nothing_of_three_samples :
    ∃ (m : KMeans) (samples : List (Sample ℚ)) (fitted : List (Cluster ℚ)),
      samples = [⟨0, 0, .negative⟩, ⟨1, 0, .negative⟩, ⟨9, 0, .positive⟩] ∧ ofCount 2 (some 3) = .ok m ∧
      (m.fitFrom samples [⟨0, 0, 0⟩, ⟨1, 0, 0⟩]).value = .ok fitted ∧
      fitted.map (fun c => (c.center, c.variance)) = [((1 / 2, 0), 13 / 50), ((9, 0), 1 / 100)] ∧
      (m.fitFrom samples fitted).value = .ok fitted ∧
      ∀ variance : Nat → ℚ, (m.fitFrom samples (fitted.mapIdx fun i c => { c with variance := variance i })).value =
        .ok fitted := by
  let m : KMeans := ⟨2, some 3⟩
  let samples : List (Sample ℚ) := [⟨0, 0, .negative⟩, ⟨1, 0, .negative⟩, ⟨9, 0, .positive⟩]
  have made : ofCount 2 (some 3) = .ok m := rfl
  have places : (m.fitFrom samples [(⟨0, 0, 0⟩ : Cluster ℚ), ⟨1, 0, 0⟩]).value.toOption.map
      (List.map fun c => (c.center, c.variance)) = some [((1 / 2, 0), 13 / 50), ((9, 0), 1 / 100)] := by
    decide +kernel
  cases run : (m.fitFrom samples [(⟨0, 0, 0⟩ : Cluster ℚ), ⟨1, 0, 0⟩]).value with
  | error e =>
    rw [run] at places
    cases places
  | ok fitted =>
    rw [run] at places
    exact ⟨m, samples, fitted, rfl, made, run, Option.some.inj places, refitting_changes_nothing made run⟩

end KMeans

end PlaneNet
