import PlaneNet.Binary.Machine
import PlaneNet.Proofs.Exact
import PlaneNet.Proofs.KMeans.Passes

set_option autoImplicit false

namespace PlaneNet

variable {W R : Type} [Scalar R] [Storage W R]

open Scalar (zero)

structure Cluster.Fits (c : Cluster R) (members : List (Sample W)) : Prop where
  nonempty : members ≠ []
  meanX : c.meanX = members.foldl (fun sum s => sum + widen s.x) zero / nat members.length
  meanY : c.meanY = members.foldl (fun sum s => sum + widen s.y) zero / nat members.length
  variance : c.variance =
    members.foldl (fun sum s => sum + c.distanceSq (widen s.x) (widen s.y)) zero / nat members.length +
      varianceSmoothing

section Centers

variable (samples : List (Sample W)) (assignment : List Nat) (clusters : List (Cluster R))

theorem refitted_center :
    (refitted samples assignment clusters).map (·.center) = clusters.map (·.center) := by
  apply List.ext_getElem
  · simp [refitted]
  · intro i _ _
    simp [refitted, toVariance, Cluster.center]

theorem refitted_fits {i : Nat} (within : i < clusters.length) (filled : members samples assignment i ≠ []) :
    ∃ c, (refitted samples assignment (recentered samples assignment clusters))[i]? = some c ∧
      c.Fits (members samples assignment i) := by
  let moved := toMean clusters[i] (gathered (members samples assignment i))
  refine ⟨toVariance moved (spreadAround moved (members samples assignment i)), ?_, filled, ?_, ?_, ?_⟩
  · simp [refitted, recentered, within, moved]
  · simp only [toVariance, moved, toMean, gathered, foldl_add, Nat.zero_add]
  · simp only [toVariance, moved, toMean, gathered, foldl_add, Nat.zero_add]
  · simp only [toVariance, spreadAround, foldl_add, Nat.zero_add]
    rfl

end Centers

namespace KMeans

structure Reproduces (samples : List (Sample W)) (k : Nat) (settled : Settled R) : Prop where
  length : settled.clusters.length = k
  still : settled.assignment = assign samples settled.clusters
  means : samples ≠ [] → Filled samples settled.assignment k ∧
    ∃ before, before.length = k ∧ settled.clusters = recentered samples settled.assignment before

section Settling

variable {m : KMeans} {samples : List (Sample W)} {clusters : List (Cluster R)}

theorem settle_reproduces {held : List Nat} {fuel updates : Nat} {settled : Settled R}
    (nonempty : 0 < clusters.length) (length : held.length = samples.length)
    (means : held = assign samples clusters → samples ≠ [] → Filled samples held clusters.length ∧
      ∃ before, before.length = clusters.length ∧ clusters = recentered samples held before)
    (run : (m.settle samples fuel updates held clusters).value = .ok settled) :
    Reproduces samples clusters.length settled := by
  induction fuel generalizing held clusters updates with
  | zero => cases run
  | succ fuel ih =>
    by_cases still : held = assign samples clusters
    · rw [settle_still m fuel updates length still] at run
      cases run
      exact ⟨rfl, still, means still⟩
    · cases capped : m.exhausted updates with
      | true =>
        rw [settle_capped m fuel updates length still capped] at run
        cases run
      | false =>
        cases found : recenter samples (assign samples clusters) clusters with
        | error e =>
          rw [settle_refused m fuel updates length still capped found] at run
          cases run
        | ok after =>
          rw [settle_next m fuel updates length still capped found] at run
          obtain ⟨filled, rfl, same⟩ := recenter_assign_eq_ok nonempty found
          have rest := ih (same ▸ nonempty) (length_assign samples clusters)
            (fun _ _ => same.symm ▸ ⟨filled, clusters, rfl, rfl⟩) run
          rwa [same] at rest

inductive Unclustered : Error → Prop where
  | emptied (cluster : Nat) : Unclustered (.emptyCluster cluster)
  | capped (updates : Nat) : Unclustered (.notConverged updates)
  | endless : Unclustered .endless

theorem settle_unclustered {held : List Nat} {fuel updates : Nat} {e : Error} (nonempty : 0 < clusters.length)
    (length : held.length = samples.length)
    (failed : (m.settle samples fuel updates held clusters).value = .error e) : Unclustered e := by
  induction fuel generalizing held clusters updates with
  | zero =>
    cases failed
    exact .endless
  | succ fuel ih =>
    by_cases still : held = assign samples clusters
    · rw [settle_still m fuel updates length still] at failed
      cases failed
    · cases capped : m.exhausted updates with
      | true =>
        rw [settle_capped m fuel updates length still capped] at failed
        cases failed
        exact .capped updates
      | false =>
        cases found : recenter samples (assign samples clusters) clusters with
        | error e' =>
          obtain ⟨cluster, rfl⟩ := recenter_assign_eq_error nonempty found
          rw [settle_refused m fuel updates length still capped found] at failed
          cases failed
          exact .emptied cluster
        | ok after =>
          obtain ⟨-, -, same⟩ := recenter_assign_eq_ok nonempty found
          rw [settle_next m fuel updates length still capped found] at failed
          exact ih (same ▸ nonempty) (length_assign samples clusters) failed

-- No center is number `k`, so the first pass over any samples moves all of them.
theorem start_ne_assign (filled : samples ≠ []) (nonempty : 0 < m.k) (start : clusters.length = m.k) :
    List.replicate samples.length m.k ≠ assign samples clusters := by
  intro same
  have member : m.k ∈ assign samples clusters := by
    rw [← same]
    exact List.mem_replicate.mpr ⟨mt List.length_eq_zero_iff.mp filled, rfl⟩
  have inside := assign_lt (start.symm ▸ nonempty) _ member
  omega

theorem settle_start_reproduces {fuel : Nat} {settled : Settled R} (nonempty : 0 < m.k)
    (start : clusters.length = m.k)
    (run : (m.settle samples fuel 0 (List.replicate samples.length m.k) clusters).value = .ok settled) :
    Reproduces samples m.k settled := by
  have moved (filled : samples ≠ []) := start_ne_assign filled nonempty start
  rw [← start] at nonempty ⊢
  exact settle_reproduces nonempty List.length_replicate (fun same filled => absurd same (moved filled)) run

theorem fitVariances_settled {k : Nat} (nonempty : 0 < k) {settled : Settled R}
    (ended : Reproduces samples k settled) (filled : samples ≠ []) :
    fitVariances samples settled.assignment settled.clusters =
      .ok (refitted samples settled.assignment settled.clusters) := by
  have inside : ∀ i ∈ settled.assignment, i < settled.clusters.length := by
    rw [ended.still]
    exact assign_lt (ended.length ▸ nonempty)
  exact fitVariances_eq_ok inside (ended.length ▸ (ended.means filled).1)

theorem fitVariances_nil (nonempty : 0 < clusters.length) :
    fitVariances ([] : List (Sample W)) [] clusters = .error (.emptyCluster 0) := by
  obtain ⟨c, cs, rfl⟩ := List.exists_cons_of_length_pos nonempty
  rw [fitVariances_eq (by simp)]
  rfl

end Settling

section Result

variable {m : KMeans} {samples : List (Sample W)} {clusters : List (Cluster R)}

theorem length_of_fitFrom_eq_ok {fitted : List (Cluster R)}
    (run : (m.fitFrom samples clusters).value = .ok fitted) : clusters.length = m.k := by
  by_contra other
  rw [fitFrom, if_pos other] at run
  cases run

theorem fitFrom_nil (nonempty : 0 < m.k) (start : clusters.length = m.k) :
    (m.fitFrom ([] : List (Sample W)) clusters).value = .error (.emptyCluster 0) := by
  obtain ⟨fuel, limit⟩ := m.exists_passLimit 0
  have run : m.ended ([] : List (Sample W)) clusters = ⟨[.pass 0 0], .ok ⟨0, [], clusters⟩⟩ := by
    rw [ended, List.length_nil, limit]
    exact settle_still m fuel 0 rfl rfl
  rw [fitFrom_value m [] start, run, ok_bind]
  exact fitVariances_nil (start ▸ nonempty)

theorem fitFrom_unclustered (nonempty : 0 < m.k) (start : clusters.length = m.k) (filled : samples ≠ []) {e : Error}
    (failed : (m.fitFrom samples clusters).value = .error e) : Unclustered e := by
  rw [fitFrom_value m samples start] at failed
  cases run : (m.ended samples clusters).value with
  | error e' =>
    rw [run, error_bind] at failed
    cases failed
    exact settle_unclustered (start ▸ nonempty) List.length_replicate run
  | ok settled =>
    have ended := settle_start_reproduces nonempty start run
    rw [run, ok_bind, fitVariances_settled nonempty ended filled] at failed
    cases failed

theorem fitFrom_fits (nonempty : 0 < m.k) {fitted : List (Cluster R)}
    (run : (m.fitFrom samples clusters).value = .ok fitted) :
    samples ≠ [] ∧ fitted.length = m.k ∧
      ∀ i < m.k, ∃ c, fitted[i]? = some c ∧ c.Fits (members samples (assign samples fitted) i) := by
  have start := length_of_fitFrom_eq_ok run
  obtain ⟨settled, settling, varied⟩ := (bind_eq_ok_iff _ _ _).mp ((fitFrom_value m samples start).symm.trans run)
  have ended := settle_start_reproduces nonempty start settling
  have filled : samples ≠ [] := by
    rintro rfl
    cases (fitFrom_nil nonempty start).symm.trans run
  obtain rfl := Except.ok.inj ((fitVariances_settled nonempty ended filled).symm.trans varied)
  obtain ⟨each, before, length, means⟩ := ended.means filled
  have same := assign_congr samples (refitted_center samples settled.assignment settled.clusters)
  refine ⟨filled, by rw [refitted, List.length_mapIdx, ended.length], fun i within => ?_⟩
  rw [same, ← ended.still, means]
  exact refitted_fits samples settled.assignment before (length ▸ within) (each i within)

end Result

theorem variance_ge {c : Cluster ℚ} {V : Type} [Storage V ℚ] {members : List (Sample V)} (fits : c.Fits members) :
    varianceSmoothing ≤ c.variance := by
  rw [fits.variance, foldl_add_eq_sum]
  have squares : 0 ≤ (members.map fun s => c.distanceSq (widen s.x) (widen s.y)).sum := by
    refine List.sum_nonneg fun d member => ?_
    obtain ⟨s, -, rfl⟩ := List.mem_map.mp member
    exact add_nonneg (mul_self_nonneg _) (mul_self_nonneg _)
  have count : (0 : ℚ) ≤ nat members.length := Nat.cast_nonneg _
  exact le_add_of_nonneg_left (div_nonneg squares count)

theorem fitFrom_is_fixed_point :
    (∀ (W R : Type) [Scalar R] [Storage W R] (m : KMeans) (samples : List (Sample W))
        (clusters : List (Cluster R)), 1 ≤ m.k →
      (∀ fitted, (m.fitFrom samples clusters).value = .ok fitted →
        samples ≠ [] ∧ fitted.length = m.k ∧
          ∀ i < m.k, ∃ c, fitted[i]? = some c ∧ c.Fits (members samples (assign samples fitted) i)) ∧
      (samples ≠ [] → clusters.length = m.k → ∀ fuel settled,
        (m.settle samples fuel 0 (List.replicate samples.length m.k) clusters).value = .ok settled →
        ∃ fitted, fitVariances samples settled.assignment settled.clusters = .ok fitted) ∧
      (clusters.length = m.k →
        (m.fitFrom ([] : List (Sample W)) clusters).value = .error (.emptyCluster 0))) ∧
    ∀ (W : Type) [Storage W ℚ] (m : KMeans) (samples : List (Sample W)) (clusters fitted : List (Cluster ℚ)),
      1 ≤ m.k → (m.fitFrom samples clusters).value = .ok fitted →
        ∀ c ∈ fitted, varianceSmoothing ≤ c.variance := by
  constructor
  · intro W R _ _ m samples clusters nonempty
    refine ⟨fun fitted run => fitFrom_fits nonempty run, ?_, fitFrom_nil nonempty⟩
    intro filled start fuel settled settling
    have ended := settle_start_reproduces nonempty start settling
    exact ⟨_, fitVariances_settled nonempty ended filled⟩
  · intro W _ m samples clusters fitted nonempty run c member
    obtain ⟨-, length, fits⟩ := fitFrom_fits nonempty run
    obtain ⟨i, within, rfl⟩ := List.getElem_of_mem member
    obtain ⟨c, found, fitting⟩ := fits i (length ▸ within)
    obtain rfl : fitted[i] = c := Option.some.inj ((List.getElem?_eq_getElem within).symm.trans found)
    exact variance_ge fitting

theorem fitFrom_is_fixed_point_of_two_samples :
    ∃ (samples : List (Sample ℚ)) (fitted : List (Cluster ℚ)) (settled : Settled ℚ),
      samples = [⟨0, 0, .negative⟩, ⟨2, 0, .positive⟩] ∧
      ((⟨1, none⟩ : KMeans).fitFrom samples [⟨0, 0, 0⟩]).value = .ok fitted ∧
      ((⟨1, none⟩ : KMeans).settle samples 2 0 [1, 1] [⟨0, 0, 0⟩]).value = .ok settled ∧
      (∀ i < 1, ∃ c, fitted[i]? = some c ∧ c.Fits (members samples (assign samples fitted) i)) ∧
      (∃ varied, fitVariances samples settled.assignment settled.clusters = .ok varied) ∧
      ((⟨1, none⟩ : KMeans).fitFrom ([] : List (Sample ℚ)) [(⟨0, 0, 0⟩ : Cluster ℚ)]).value =
        .error (.emptyCluster 0) ∧
      ∀ c ∈ fitted, varianceSmoothing ≤ c.variance := by
  let samples : List (Sample ℚ) := [⟨0, 0, .negative⟩, ⟨2, 0, .positive⟩]
  obtain ⟨fitted, run⟩ : ∃ fitted : List (Cluster ℚ),
      ((⟨1, none⟩ : KMeans).fitFrom samples [⟨0, 0, 0⟩]).value = .ok fitted := ⟨_, rfl⟩
  obtain ⟨settled, settling⟩ : ∃ settled : Settled ℚ,
      ((⟨1, none⟩ : KMeans).settle samples 2 0 [1, 1] [⟨0, 0, 0⟩]).value = .ok settled := ⟨_, rfl⟩
  obtain ⟨fixed, varied, empty⟩ :=
    fitFrom_is_fixed_point.1 ℚ ℚ ⟨1, none⟩ samples [⟨0, 0, 0⟩] (Nat.le_refl 1)
  exact ⟨samples, fitted, settled, rfl, run, settling, (fixed fitted run).2.2, varied nofun rfl 2 settled settling,
    empty rfl, fitFrom_is_fixed_point.2 ℚ _ _ _ _ (Nat.le_refl 1) run⟩

-- The wrong number of starting centers is refused before anything else.
theorem fitFrom_nil_refuses_missing_centers :
    ((⟨1, none⟩ : KMeans).fitFrom ([] : List (Sample Float32)) ([] : List (Cluster Float))).value =
        .error (.invalidConfig (.startingCenters 1 0)) ∧
      ((⟨1, none⟩ : KMeans).fitFrom ([] : List (Sample Float32)) ([] : List (Cluster Float))).value ≠
        .error (.emptyCluster 0) :=
  ⟨rfl, nofun⟩

end KMeans

end PlaneNet
