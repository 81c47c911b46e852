import Mathlib.Data.Fintype.BigOperators
import PlaneNet.Proofs.KMeans.Descent
import PlaneNet.Proofs.KMeans.FixedPoint

/-!
With exact arithmetic the uncapped loop stops. Once a sample has moved, the assignment before never comes back: the
centers would be its means again, from which the samples went elsewhere. So there are no more passes than
assignments, and one.
-/

set_option autoImplicit false

namespace PlaneNet.KMeans

theorem length_le_pow {assignments : List (List Nat)} {k n : Nat} (distinct : assignments.Nodup)
    (each : ∀ a ∈ assignments, a.length = n ∧ ∀ i ∈ a, i < k) : assignments.length ≤ k ^ n := by
  have covered : assignments.toFinset ⊆ (Fintype.piFinset fun _ : Fin n => Finset.range k).image List.ofFn := by
    intro a member
    obtain ⟨rfl, inside⟩ := each a (List.mem_toFinset.mp member)
    refine Finset.mem_image.mpr ⟨a.get, Fintype.mem_piFinset.mpr fun i => ?_, List.ofFn_get a⟩
    exact Finset.mem_range.mpr (inside _ (List.get_mem a i))
  calc assignments.length = assignments.toFinset.card := (List.toFinset_card_of_nodup distinct).symm
    _ ≤ ((Fintype.piFinset fun _ : Fin n => Finset.range k).image List.ofFn).card := Finset.card_le_card covered
    _ ≤ (Fintype.piFinset fun _ : Fin n => Finset.range k).card := Finset.card_image_le
    _ = k ^ n := by rw [Fintype.card_piFinset_const, Finset.card_range]

namespace Runs

section Length

variable {W R : Type} [Scalar R] [Storage W R] {samples : List (Sample W)} {held : List Nat}
  {clusters : List (Cluster R)} {passes : List (List (Cluster R))}

theorem length_of_mem {ending : Option (Except Error (List (Cluster R)))} (nonempty : 0 < clusters.length)
    (runs : Runs samples held clusters passes ending) :
    ∀ p ∈ passes, p.length = clusters.length := by
  induction runs with
  | cut => simp
  | settled => simp
  | emptied => simp
  | next moved found rest ih =>
    obtain ⟨-, -, same⟩ := recenter_assign_eq_ok nonempty found
    rw [same] at ih
    intro p member
    rcases List.mem_cons.mp member with rfl | later
    · rfl
    · exact ih nonempty p later

theorem emptied_of_error {e : Error} (nonempty : 0 < clusters.length)
    (runs : Runs samples held clusters passes (some (.error e))) : ∃ i, e = .emptyCluster i := by
  generalize ended : some (Except.error e) = ending at runs
  induction runs with
  | cut => cases ended
  | settled => cases ended
  | emptied moved refused =>
    cases ended
    exact recenter_assign_eq_error nonempty refused
  | next moved found rest ih =>
    obtain ⟨-, -, same⟩ := recenter_assign_eq_ok nonempty found
    rw [same] at ih
    exact ih nonempty ended

theorem length_le_of_nodup {ending : Option (Except Error (List (Cluster R)))} (nonempty : 0 < clusters.length)
    (runs : Runs samples held clusters passes ending) (distinct : (passes.dropLast.map (assign samples)).Nodup) :
    passes.length ≤ clusters.length ^ samples.length + 1 := by
  have each : ∀ a ∈ passes.dropLast.map (assign samples),
      a.length = samples.length ∧ ∀ i ∈ a, i < clusters.length := by
    intro a member
    obtain ⟨p, before, rfl⟩ := List.mem_map.mp member
    have long := runs.length_of_mem nonempty p (List.mem_of_mem_dropLast before)
    exact ⟨length_assign samples p, long ▸ assign_lt (long.symm ▸ nonempty)⟩
  have bound := length_le_pow distinct each
  rw [List.length_map, List.length_dropLast] at bound
  omega

end Length

variable {V : Type} [Storage V ℚ] {samples : List (Sample V)} {held : List Nat}
  {clusters before : List (Cluster ℚ)} {passes : List (List (Cluster ℚ))}
  {ending : Option (Except Error (List (Cluster ℚ)))}

theorem spread_le (runs : Runs samples held clusters passes ending) (inside : ∀ i ∈ held, i < clusters.length)
    (nonempty : 0 < clusters.length) (length : held.length = samples.length) :
    ∀ p ∈ passes, spread samples (assign samples p) p ≤ spread samples held clusters := by
  induction runs with
  | cut => simp
  | settled => simpa using spread_assign_le inside length
  | emptied => simpa using spread_assign_le inside length
  | @next held clusters after passes ending moved found rest ih =>
    have assigned : ∀ i ∈ assign samples clusters, i < clusters.length := assign_lt nonempty
    obtain ⟨filled, rfl, same⟩ := recenter_assign_eq_ok nonempty found
    have first := spread_assign_le inside length
    rw [same] at ih
    intro p member
    rcases List.mem_cons.mp member with rfl | later
    · exact first
    · calc spread samples (assign samples p) p
          ≤ spread samples (assign samples clusters) (recentered samples (assign samples clusters) clusters) :=
            ih assigned nonempty (length_assign samples clusters) p later
        _ ≤ spread samples (assign samples clusters) clusters := spread_recentered_le assigned filled rfl
        _ ≤ spread samples held clusters := first

theorem spread_pairwise (runs : Runs samples held clusters passes ending) (nonempty : 0 < clusters.length) :
    passes.Pairwise fun p q => spread samples (assign samples q) q ≤ spread samples (assign samples p) p := by
  induction runs with
  | cut => simp
  | settled => simp
  | emptied => simp
  | @next held clusters after passes ending moved found rest ih =>
    have assigned : ∀ i ∈ assign samples clusters, i < clusters.length := assign_lt nonempty
    obtain ⟨filled, rfl, same⟩ := recenter_assign_eq_ok nonempty found
    refine List.pairwise_cons.mpr ⟨fun q later => ?_, ih (same.symm ▸ nonempty)⟩
    exact (rest.spread_le (same.symm ▸ assigned) (same.symm ▸ nonempty) (length_assign samples clusters) q later).trans
      (spread_recentered_le assigned filled rfl)

-- Were the assignment back, the centers could be no better than its means, and no others are as good.
theorem assign_ne_of_moved (runs : Runs samples held (recentered samples held before) passes ending)
    (inside : ∀ i ∈ held, i < before.length) (filled : Filled samples held before.length)
    (nonempty : 0 < before.length) (length : held.length = samples.length)
    (moved : held ≠ assign samples (recentered samples held before)) :
    ∀ p ∈ passes, assign samples p ≠ held := by
  intro p member back
  have same := length_recentered samples held before
  have best := runs.spread_le (same.symm ▸ inside) (same.symm ▸ nonempty) length p member
  have long := (runs.length_of_mem (same.symm ▸ nonempty) p member).trans same
  rw [back] at best
  have centers := centers_eq_of_spread_le inside filled long best
  exact moved (back.symm.trans (assign_congr samples centers))

-- An assignment that was there before is the one of the pass before, and then the loop is at its end.
theorem last_of_repeated (runs : Runs samples held clusters passes ending) (nonempty : 0 < clusters.length)
    {i j : Nat} {p q : List (Cluster ℚ)} (order : i < j) (first : passes[i]? = some p)
    (second : passes[j]? = some q) (repeated : assign samples p = assign samples q) :
    j = i + 1 ∧ j + 1 = passes.length := by
  induction runs generalizing i j with
  | cut => cases first
  | settled =>
    have within := (List.getElem?_eq_some_iff.mp second).1
    rw [List.length_singleton] at within
    omega
  | emptied =>
    have within := (List.getElem?_eq_some_iff.mp second).1
    rw [List.length_singleton] at within
    omega
  | @next held clusters after passes ending moved found rest ih =>
    have assigned : ∀ i ∈ assign samples clusters, i < clusters.length := assign_lt nonempty
    obtain ⟨filled, rfl, same⟩ := recenter_assign_eq_ok nonempty found
    obtain ⟨j, rfl⟩ : ∃ rest, j = rest + 1 := Nat.exists_eq_add_of_le' (by omega)
    rw [List.getElem?_cons_succ] at second
    cases i with
    | succ i =>
      have later := ih (same.symm ▸ nonempty) (Nat.lt_of_succ_lt_succ order) first second
      simpa using later
    | zero =>
      obtain rfl : clusters = p := Option.some.inj first
      by_cases still : assign samples clusters =
          assign samples (recentered samples (assign samples clusters) clusters)
      · cases rest with
        | cut => cases second
        | settled =>
          have within := (List.getElem?_eq_some_iff.mp second).1
          rw [List.length_singleton] at within
          simpa using within
        | emptied moved => exact absurd still moved
        | next moved => exact absurd still moved
      · have fresh := rest.assign_ne_of_moved assigned filled nonempty (length_assign samples clusters) still
        exact absurd repeated.symm (fresh q (List.mem_of_getElem? second))

theorem nodup_dropLast (runs : Runs samples held clusters passes ending) (nonempty : 0 < clusters.length) :
    (passes.dropLast.map (assign samples)).Nodup := by
  refine List.pairwise_iff_getElem.mpr fun i j first second order repeated => ?_
  rw [List.length_map, List.length_dropLast] at first second
  simp only [List.getElem_map, List.getElem_dropLast] at repeated
  have last := runs.last_of_repeated nonempty order (List.getElem?_eq_getElem _) (List.getElem?_eq_getElem _)
    repeated
  omega

theorem length_le (runs : Runs samples held clusters passes ending) (nonempty : 0 < clusters.length) :
    passes.length ≤ clusters.length ^ samples.length + 1 :=
  runs.length_le_of_nodup nonempty (runs.nodup_dropLast nonempty)

theorem exists_result (samples : List (Sample V)) (held : List Nat) (nonempty : 0 < clusters.length) :
    ∃ passes result, Runs samples held clusters passes (some result) := by
  obtain ⟨passes, ending, runs, long⟩ := exists_runs samples held clusters (clusters.length ^ samples.length + 2)
  have bound := runs.length_le nonempty
  cases ending with
  | none => exact absurd (long rfl) (by omega)
  | some result => exact ⟨passes, result, runs⟩

end Runs

variable {V : Type} [Storage V ℚ]

theorem uncapped_fitFrom_stops (m : KMeans) (samples : List (Sample V)) (clusters : List (Cluster ℚ))
    (positive : 1 ≤ m.k) (uncapped : m.maxUpdates = none) (start : clusters.length = m.k) :
    ∃ passes result,
      Runs samples (List.replicate samples.length m.k) clusters passes (some result) ∧
      (m.fitFrom samples clusters).value =
        (result >>= fun final => fitVariances samples (assign samples final) final) ∧
      (m.fitFrom samples clusters).events.countP (·.isPass) = passes.length ∧
      ((∃ fitted, (m.fitFrom samples clusters).value = .ok fitted) ∨
        ∃ i, (m.fitFrom samples clusters).value = .error (.emptyCluster i)) ∧
      (∀ p ∈ passes, p.length = m.k) ∧
      (∀ i j p q, i + 1 < j → passes[i]? = some p → passes[j]? = some q →
        assign samples p ≠ assign samples q) ∧
      (∀ i p q, passes[i]? = some p → passes[i + 1]? = some q →
        spread samples (assign samples q) q ≤ spread samples (assign samples p) p) ∧
      passes.length ≤ m.k ^ samples.length + 1 := by
  have nonempty : 0 < clusters.length := start ▸ positive
  obtain ⟨passes, result, runs⟩ := Runs.exists_result samples (List.replicate samples.length m.k) nonempty
  have bound : passes.length ≤ m.k ^ samples.length + 1 := start ▸ runs.length_le nonempty
  have enough : passes.length ≤ m.passLimit samples.length := by
    rw [passLimit, uncapped]
    exact bound
  obtain ⟨events, value⟩ := runs.settle_eq uncapped List.length_replicate enough 0
  have answer : (m.fitFrom samples clusters).value =
      (result >>= fun final => fitVariances samples (assign samples final) final) := by
    rw [fitFrom_value m samples start, ended, value]
    cases result <;> rfl
  refine ⟨passes, result, runs, answer, (fitFrom_passes m samples start).trans events, ?_,
    start ▸ runs.length_of_mem nonempty, ?_, ?_, bound⟩
  · by_cases empty : samples = []
    · subst empty
      exact .inr ⟨0, fitFrom_nil positive start⟩
    · cases result with
      | error e =>
        obtain ⟨i, rfl⟩ := runs.emptied_of_error nonempty
        exact .inr ⟨i, answer⟩
      | ok final =>
        have ended := settle_start_reproduces positive start value
        exact .inl ⟨_, answer.trans (fitVariances_settled positive ended empty)⟩
  · intro i j p q apart first second repeated
    have last := runs.last_of_repeated nonempty (Nat.lt_of_succ_lt apart) first second repeated
    omega
  · intro i p q first second
    obtain ⟨within, rfl⟩ := List.getElem?_eq_some_iff.mp first
    obtain ⟨next, rfl⟩ := List.getElem?_eq_some_iff.mp second
    exact List.pairwise_iff_getElem.mp (runs.spread_pairwise nonempty) i (i + 1) within next (Nat.lt_succ_self i)

theorem uncapped_fitFrom_stops_at_two_samples :
    ∃ (samples : List (Sample ℚ)) (clusters : List (Cluster ℚ)) (passes : List (List (Cluster ℚ)))
      (result : Except Error (List (Cluster ℚ))),
      samples = [⟨0, 0, .negative⟩, ⟨2, 0, .positive⟩] ∧ clusters = [⟨0, 0, 0⟩, ⟨3, 0, 0⟩] ∧
      Runs samples [2, 2] clusters passes (some result) ∧ passes.length ≤ 2 ^ 2 + 1 ∧
      ((∃ fitted, ((⟨2, none⟩ : KMeans).fitFrom samples clusters).value = .ok fitted) ∨
        ∃ i, ((⟨2, none⟩ : KMeans).fitFrom samples clusters).value = .error (.emptyCluster i)) := by
  obtain ⟨passes, result, runs, -, -, ended, -, -, -, bound⟩ :=
    uncapped_fitFrom_stops ⟨2, none⟩ [(⟨0, 0, .negative⟩ : Sample ℚ), ⟨2, 0, .positive⟩]
      [⟨0, 0, 0⟩, ⟨3, 0, 0⟩] (by decide) rfl rfl
  exact ⟨_, _, passes, result, rfl, rfl, runs, bound, ended⟩

end PlaneNet.KMeans
