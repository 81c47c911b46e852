import PlaneNet.Proofs.KMeans.FixedPoint

set_option autoImplicit false

namespace PlaneNet

variable {W R : Type}

def Sample.point (s : Sample W) : W × W := (s.x, s.y)

def SamePoints (samples others : List (Sample W)) : Prop :=
  (samples.map Sample.point).Perm (others.map Sample.point)

theorem SamePoints.length_eq {samples others : List (Sample W)} (same : SamePoints samples others) :
    others.length = samples.length := by
  have length := same.symm.length_eq
  rwa [List.length_map, List.length_map] at length

def heldPoints (samples : List (Sample W)) (held : List Nat) : List ((W × W) × Nat) :=
  (samples.map Sample.point).zip held

theorem heldPoints_filter (samples : List (Sample W)) (held : List Nat) (i : Nat) :
    ((heldPoints samples held).filter fun pair => pair.2 = i).map Prod.fst =
      (members samples held i).map Sample.point := by
  rw [heldPoints, members, List.zip_map_left, List.filter_map, List.map_map, List.map_map]
  rfl

theorem members_perm {samples others : List (Sample W)} {held held' : List Nat}
    (perm : (heldPoints samples held).Perm (heldPoints others held')) (i : Nat) :
    ((members samples held i).map Sample.point).Perm ((members others held' i).map Sample.point) := by
  rw [← heldPoints_filter, ← heldPoints_filter]
  exact (perm.filter _).map _

theorem SamePoints.heldPoints_map {samples others : List (Sample W)} (same : SamePoints samples others)
    (f : W × W → Nat) :
    (heldPoints samples (samples.map fun s => f s.point)).Perm (heldPoints others (others.map fun s => f s.point)) := by
  have paired (samples : List (Sample W)) : heldPoints samples (samples.map fun s => f s.point) =
      (samples.map Sample.point).map fun p => (p, f p) := by
    rw [heldPoints, List.zip_map', List.map_map]
    rfl
  rw [paired, paired]
  exact same.map _

variable [Scalar R]

theorem foldl_add_of_perm (swap : ∀ a b c : R, a + b + c = a + c + b) (fx fy : W × W → R)
    {ms ms' : List (Sample W)} (perm : (ms.map Sample.point).Perm (ms'.map Sample.point)) (t : Tally R) :
    ms.foldl (fun t s => t.add (fx s.point) (fy s.point)) t =
      ms'.foldl (fun t s => t.add (fx s.point) (fy s.point)) t := by
  have folded := perm.foldl_eq' (f := fun t p => t.add (fx p) (fy p))
    (fun p _ q _ t => by simp only [Tally.add, swap _ (fx p), swap _ (fy p)]) t
  rwa [List.foldl_map, List.foldl_map] at folded

variable [Storage W R] {samples others : List (Sample W)} {held held' : List Nat} {clusters : List (Cluster R)}

def nearestTo (clusters : List (Cluster R)) (p : W × W) : Nat := nearest clusters (widen p.1) (widen p.2)

theorem reassign_snd_eq_countP (clusters : List (Cluster R)) (samples : List (Sample W)) (held : List Nat) :
    (reassign clusters samples held).2 =
      (heldPoints samples held).countP fun pair => pair.2 ≠ nearestTo clusters pair.1 := by
  induction samples generalizing held with
  | nil => rfl
  | cons s rest ih =>
    cases held with
    | nil => rfl
    | cons i held =>
      have later := ih held
      simp only [heldPoints, List.map_cons, List.zip_cons_cons, List.countP_cons, reassign] at later ⊢
      rw [later]
      by_cases stays : i = s.nearest clusters
      · simp [stays, Sample.nearest, nearestTo, Sample.point]
      · have moves : i ≠ nearestTo clusters s.point := stays
        simp [stays, moves]

theorem heldPoints_assign_perm (same : SamePoints samples others) (clusters : List (Cluster R)) :
    (heldPoints samples (assign samples clusters)).Perm (heldPoints others (assign others clusters)) :=
  same.heldPoints_map (nearestTo clusters)

section Pass

variable (perm : (heldPoints samples held).Perm (heldPoints others held'))

include perm

theorem reassign_snd_of_perm (clusters : List (Cluster R)) :
    (reassign clusters samples held).2 = (reassign clusters others held').2 := by
  rw [reassign_snd_eq_countP, reassign_snd_eq_countP]
  exact perm.countP_eq _

variable (swap : ∀ a b c : R, a + b + c = a + c + b) (inside : ∀ i ∈ held, i < clusters.length)
  (inside' : ∀ i ∈ held', i < clusters.length)

include swap inside inside'

theorem recenter_of_perm : recenter samples held clusters = recenter others held' clusters := by
  have tallies (i : Nat) : (gathered (members samples held i) : Tally R) = gathered (members others held' i) :=
    foldl_add_of_perm swap (fun p => widen p.1) (fun p => widen p.2) (members_perm perm i) _
  rw [recenter_eq inside, recenter_eq inside']
  simp only [tallies]

theorem fitVariances_of_perm : fitVariances samples held clusters = fitVariances others held' clusters := by
  have spreads (i : Nat) := foldl_add_of_perm swap
    (fun p => (clusters[i]?).elim Scalar.zero (·.distanceSq (widen p.1) (widen p.2))) (fun _ => Scalar.zero)
    (members_perm perm i) ⟨Scalar.zero, Scalar.zero, 0⟩
  simp only [Sample.point] at spreads
  rw [fitVariances_eq inside, fitVariances_eq inside']
  simp only [spreads]

end Pass

namespace KMeans

-- What the report and the result depend on; the assignment lists its samples in their order.
def Settled.centers (settled : Settled R) : Nat × List (Cluster R) := (settled.updates, settled.clusters)

section Runs

variable (m : KMeans) (swap : ∀ a b c : R, a + b + c = a + c + b) (same : SamePoints samples others)

include swap same

-- The two loops stay in step: after each pass the same points are held by the same clusters.
theorem settle_of_samePoints (fuel updates : Nat) (nonempty : 0 < clusters.length)
    (length : held.length = samples.length) (length' : held'.length = others.length)
    (perm : (heldPoints samples held).Perm (heldPoints others held')) :
    (m.settle samples fuel updates held clusters).events = (m.settle others fuel updates held' clusters).events ∧
      (m.settle samples fuel updates held clusters).value.map Settled.centers =
        (m.settle others fuel updates held' clusters).value.map Settled.centers := by
  induction fuel generalizing updates held held' clusters with
  | zero => exact ⟨rfl, rfl⟩
  | succ fuel ih =>
    have count := reassign_snd_of_perm perm clusters
    have together : held = assign samples clusters ↔ held' = assign others clusters := by
      rw [← reassign_snd_eq_zero_iff clusters length, ← reassign_snd_eq_zero_iff clusters length', count]
    by_cases still : held = assign samples clusters
    · rw [settle_still m fuel updates length still, settle_still m fuel updates length' (together.mp still)]
      exact ⟨rfl, rfl⟩
    · have moved := mt together.mpr still
      cases capped : m.exhausted updates with
      | true =>
        rw [settle_capped m fuel updates length still capped, settle_capped m fuel updates length' moved capped, count]
        exact ⟨rfl, rfl⟩
      | false =>
        have next := heldPoints_assign_perm same clusters
        have centers := recenter_of_perm next swap (assign_lt nonempty) (assign_lt nonempty)
        cases found : recenter samples (assign samples clusters) clusters with
        | error e =>
          rw [settle_refused m fuel updates length still capped found,
            settle_refused m fuel updates length' moved capped (centers.symm.trans found), count]
          exact ⟨rfl, rfl⟩
        | ok after =>
          obtain ⟨-, -, kept⟩ := recenter_assign_eq_ok nonempty found
          obtain ⟨events, value⟩ := ih (updates + 1) (kept.symm ▸ nonempty) (length_assign samples clusters)
            (length_assign others clusters) next
          rw [settle_next m fuel updates length still capped found,
            settle_next m fuel updates length' moved capped (centers.symm.trans found), count]
          exact ⟨congrArg (_ :: ·) events, value⟩

theorem fitVariances_of_settled {settled settled' : Settled R} (positive : 0 < m.k)
    (ended : Reproduces samples m.k settled) (ended' : Reproduces others m.k settled')
    (centers : settled.clusters = settled'.clusters) :
    fitVariances samples settled.assignment settled.clusters =
      fitVariances others settled'.assignment settled'.clusters := by
  have nonempty : 0 < settled.clusters.length := ended.length.symm ▸ positive
  rw [ended.still, ended'.still, ← centers]
  exact fitVariances_of_perm (heldPoints_assign_perm same _) swap (assign_lt nonempty) (assign_lt nonempty)

theorem fitFrom_of_samePoints (positive : 0 < m.k) (clusters : List (Cluster R)) :
    m.fitFrom others clusters = m.fitFrom samples clusters := by
  by_cases start : clusters.length = m.k
  · have first := same.heldPoints_map fun _ => m.k
    rw [List.map_const', List.map_const'] at first
    obtain ⟨events, value⟩ := settle_of_samePoints m swap same (m.passLimit samples.length) 0 (start.symm ▸ positive)
      List.length_replicate List.length_replicate first
    have limit : m.passLimit others.length = m.passLimit samples.length := by rw [same.length_eq]
    rw [fitFrom_eq m others start, fitFrom_eq m samples start, ended, ended, limit, ← events]
    rcases map_eq_map value with ⟨e, run, run'⟩ | ⟨settled, settled', run, run', agree⟩
    · rw [run, run']
    · obtain ⟨updates, centers⟩ := Prod.mk.inj agree
      simp only [run, run', fitVariances_of_settled m swap same positive (settle_start_reproduces positive start run)
        (settle_start_reproduces positive start run') centers, updates]
  · rw [fitFrom, fitFrom, if_pos start, if_pos start]

end Runs

theorem fitFrom_ignores_order_and_classes {V : Type} [Storage V ℚ] {k : Nat} {cap : Option Nat} {m : KMeans}
    (made : ofCount k cap = .ok m) {samples others : List (Sample V)} (same : SamePoints samples others)
    (clusters : List (Cluster ℚ)) : m.fitFrom others clusters = m.fitFrom samples clusters := by
  obtain ⟨positive, rfl⟩ := ofCount_eq_ok_iff.mp made
  exact fitFrom_of_samePoints _ add_right_comm same positive clusters

theorem fitFrom_ignores_order_and_classes_of_three_samples :
    ∃ (m : KMeans) (samples others : List (Sample ℚ)) (clusters : List (Cluster ℚ)),
      samples = [⟨0, 0, .negative⟩, ⟨1, 0, .negative⟩, ⟨9, 0, .positive⟩] ∧
      others = [⟨9, 0, .negative⟩, ⟨0, 0, .positive⟩, ⟨1, 0, .negative⟩] ∧
      clusters = [⟨0, 0, 0⟩, ⟨1, 0, 0⟩] ∧ ofCount 2 (some 3) = .ok m ∧ SamePoints samples others ∧
      m.fitFrom others clusters = m.fitFrom samples clusters ∧
      (m.fitFrom others clusters).events = [.pass 0 3, .pass 1 1, .pass 2 0, .converged 2 2] := by
  let samples : List (Sample ℚ) := [⟨0, 0, .negative⟩, ⟨1, 0, .negative⟩, ⟨9, 0, .positive⟩]
  let others : List (Sample ℚ) := [⟨9, 0, .negative⟩, ⟨0, 0, .positive⟩, ⟨1, 0, .negative⟩]
  let clusters : List (Cluster ℚ) := [⟨0, 0, 0⟩, ⟨1, 0, 0⟩]
  have made : ofCount 2 (some 3) = .ok ⟨2, some 3⟩ := rfl
  have same : SamePoints samples others := by
    rw [SamePoints]
    decide
  have events : ((⟨2, some 3⟩ : KMeans).fitFrom others clusters).events =
      [.pass 0 3, .pass 1 1, .pass 2 0, .converged 2 2] := by
    decide +kernel
  exact ⟨_, samples, others, clusters, rfl, rfl, rfl, made, same,
    fitFrom_ignores_order_and_classes made same clusters, events⟩

end KMeans

end PlaneNet
