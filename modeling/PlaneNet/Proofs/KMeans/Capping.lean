import Mathlib.Data.ENat.Basic
import PlaneNet.Proofs.KMeans.Stopping

set_option autoImplicit false

namespace PlaneNet.KMeans

variable {W R : Type} [Scalar R] [Storage W R]

-- The update that finds an empty cluster counts; a pass in which no sample moves makes none.
def updates : List (List (Cluster R)) → Option (Except Error (List (Cluster R))) → Nat
  | passes, some (.ok _) => passes.length - 1
  | passes, _ => passes.length

/--
How many updates of the centers are made without a limit, `⊤` when the loop never stops. The wrong number of starting
centers is refused before the first one.
-/
inductive Makes (m : KMeans) (samples : List (Sample W)) (clusters : List (Cluster R)) : ℕ∞ → Prop
  | refused (other : clusters.length ≠ m.k) : Makes m samples clusters 0
  | stopped {passes : List (List (Cluster R))} {result : Except Error (List (Cluster R))}
      (start : clusters.length = m.k)
      (runs : Runs samples (List.replicate samples.length m.k) clusters passes (some result)) :
      Makes m samples clusters (updates passes (some result))
  | endless (start : clusters.length = m.k)
      (going : ∀ count, ∃ passes, passes.length = count ∧
        Runs samples (List.replicate samples.length m.k) clusters passes none) :
      Makes m samples clusters ⊤

structure OnlyCutsOff (m : KMeans) (samples : List (Sample W)) (clusters : List (Cluster R)) (u : ℕ∞) : Prop where
  counted : ∀ v, m.Makes samples clusters v ↔ v = u
  unlimited : clusters.length = m.k → u ≠ ⊤ →
    (∃ (i : Nat) (fitted : List (Cluster R)), u = i ∧ (m.fitFrom samples clusters).value = .ok fitted ∧
        .converged i m.k ∈ (m.fitFrom samples clusters).events) ∨
      ∃ i, (m.fitFrom samples clusters).value = .error (.emptyCluster i)
  endless : u = ⊤ ↔ (m.fitFrom samples clusters).value = .error .endless
  enough : ∀ n : Nat, u ≤ n → (m.capped n).fitFrom samples clusters = m.fitFrom samples clusters
  short : ∀ n : Nat, n < u → ((m.capped n).fitFrom samples clusters).value = .error (.notConverged n)
  reported : ∀ n i, ((m.capped n).fitFrom samples clusters).value = .error (.notConverged i) → i = n
  raised : ∀ n higher, n ≤ higher →
    (∀ i, ((m.capped n).fitFrom samples clusters).value ≠ .error (.notConverged i)) →
    (m.capped higher).fitFrom samples clusters = (m.capped n).fitFrom samples clusters
  passes : ∀ n, ((m.capped n).fitFrom samples clusters).events.countP (·.isPass) ≤ n + 1
  stops : ∀ n fuel, n < fuel →
    (m.capped n).settle samples fuel 0 (List.replicate samples.length m.k) clusters =
      (m.capped n).ended samples clusters

namespace Runs

variable {samples : List (Sample W)} {held : List Nat} {clusters others : List (Cluster R)}
  {passes passes' : List (List (Cluster R))} {result : Except Error (List (Cluster R))}
  {ending : Option (Except Error (List (Cluster R)))}

section Comparison

theorem recenter_of_centers (nonempty : 0 < clusters.length)
    (same : clusters.map (·.center) = others.map (·.center)) {after : List (Cluster R)}
    (found : recenter samples (assign samples clusters) clusters = .ok after) :
    ∃ after', recenter samples (assign samples others) others = .ok after' ∧
      after.map (·.center) = after'.map (·.center) := by
  have count : clusters.length = others.length := by simpa using congrArg List.length same
  obtain ⟨filled, rfl, -⟩ := recenter_assign_eq_ok nonempty found
  rw [assign_congr samples same] at filled ⊢
  exact ⟨_, recenter_eq_ok (assign_lt (count ▸ nonempty)) (count ▸ filled), recentered_centers samples _ count⟩

-- Only the centers decide how a run goes on. One that is looked at for a shorter time has not ended yet.
theorem shorter_or_ended (nonempty : 0 < clusters.length) (same : clusters.map (·.center) = others.map (·.center))
    (first : Runs samples held clusters passes (some result)) (second : Runs samples held others passes' ending) :
    (ending = none ∧ passes'.length < passes.length) ∨
      passes'.length = passes.length ∧ ∃ result', ending = some result' ∧ result'.isOk = result.isOk := by
  have assigned {clusters others : List (Cluster R)} (same : clusters.map (·.center) = others.map (·.center)) :
      assign samples clusters = assign samples others := assign_congr samples same
  generalize closed : some result = closing at first
  induction first generalizing others passes' with
  | cut => cases closed
  | settled still =>
    cases closed
    cases second with
    | cut => exact .inl ⟨rfl, Nat.one_pos⟩
    | settled => exact .inr ⟨rfl, _, rfl, rfl⟩
    | emptied moved => exact absurd (still.trans (assigned same)) moved
    | next moved => exact absurd (still.trans (assigned same)) moved
  | emptied moved refused =>
    cases closed
    cases second with
    | cut => exact .inl ⟨rfl, Nat.one_pos⟩
    | settled still => exact absurd (still.trans (assigned same).symm) moved
    | emptied => exact .inr ⟨rfl, _, rfl, rfl⟩
    | next _ found =>
      have count := congrArg List.length same
      rw [List.length_map, List.length_map] at count
      obtain ⟨after, again, -⟩ := recenter_of_centers (count ▸ nonempty) same.symm found
      cases refused.symm.trans again
  | next moved found rest ih =>
    obtain ⟨after, again, centers⟩ := recenter_of_centers nonempty same found
    obtain ⟨-, -, kept⟩ := recenter_assign_eq_ok nonempty found
    cases second with
    | cut => exact .inl ⟨rfl, Nat.succ_pos _⟩
    | settled still => exact absurd (still.trans (assigned same).symm) moved
    | emptied _ refused => cases refused.symm.trans again
    | next _ found' rest' =>
      cases again.symm.trans found'
      rw [← assigned same] at rest'
      rcases ih (kept.symm ▸ nonempty) centers rest' closed with ⟨open', shorter⟩ | ⟨long, ended⟩
      · exact .inl ⟨open', Nat.succ_lt_succ shorter⟩
      · exact .inr ⟨congrArg Nat.succ long, ended⟩

end Comparison

section Repetition

theorem ne_nil (runs : Runs samples held clusters passes (some result)) : passes ≠ [] := by
  cases runs <;> simp

theorem resume (nonempty : 0 < clusters.length) (runs : Runs samples held clusters passes (some result)) :
    ∀ p ∈ passes.dropLast, ∃ tail, tail.length < passes.length ∧
      Runs samples (assign samples p) (recentered samples (assign samples p) p) tail (some result) := by
  generalize closed : some result = closing at runs
  induction runs with
  | cut => cases closed
  | settled => simp
  | emptied => simp
  | next moved found rest ih =>
    subst closed
    obtain ⟨-, rfl, kept⟩ := recenter_assign_eq_ok nonempty found
    intro p member
    rw [List.dropLast_cons_of_ne_nil rest.ne_nil] at member
    rcases List.mem_cons.mp member with rfl | later
    · exact ⟨_, Nat.lt_succ_self _, rest⟩
    · obtain ⟨tail, shorter, resumed⟩ := ih (kept.symm ▸ nonempty) rfl p later
      exact ⟨tail, Nat.lt_succ_of_lt shorter, resumed⟩

-- Were an assignment back, the run from there would be over as early as the run from where it was first.
theorem nodup_of_ended (nonempty : 0 < clusters.length) (runs : Runs samples held clusters passes (some result)) :
    (passes.dropLast.map (assign samples)).Nodup := by
  generalize closed : some result = closing at runs
  induction runs with
  | cut => cases closed
  | settled => simp
  | emptied => simp
  | @next held clusters after passes ending moved found rest ih =>
    subst closed
    obtain ⟨-, rfl, kept⟩ := recenter_assign_eq_ok nonempty found
    have positive := kept.symm ▸ nonempty
    rw [List.dropLast_cons_of_ne_nil rest.ne_nil, List.map_cons, List.nodup_cons]
    refine ⟨fun back => ?_, ih positive rfl⟩
    obtain ⟨p, before, same⟩ := List.mem_map.mp back
    obtain ⟨tail, shorter, resumed⟩ := rest.resume positive p before
    have count := (rest.length_of_mem positive p (List.mem_of_mem_dropLast before)).trans kept
    rw [same] at resumed
    have centers := recentered_centers samples (assign samples clusters) count.symm
    rcases rest.shorter_or_ended positive centers resumed with ⟨closed, -⟩ | ⟨long, -⟩
    · cases closed
    · omega

end Repetition

section Updates

theorem updates_next (rest : Runs samples held clusters passes ending) (first : List (Cluster R)) :
    updates (first :: passes) ending = updates passes ending + 1 := by
  match ending with
  | none => rfl
  | some (.error _) => rfl
  | some (.ok _) =>
    have some := List.length_pos_iff.mpr rest.ne_nil
    simp only [updates, List.length_cons]
    omega

omit [Scalar R] in
theorem length_le_updates (passes : List (List (Cluster R))) (ending : Option (Except Error (List (Cluster R)))) :
    passes.length ≤ updates passes ending + 1 := by
  match ending with
  | none => exact Nat.le_succ _
  | some (.error _) => exact Nat.le_succ _
  | some (.ok _) =>
    simp only [updates]
    omega

omit [Scalar R] in
theorem updates_congr {result' : Except Error (List (Cluster R))} (long : passes'.length = passes.length)
    (kind : result'.isOk = result.isOk) : updates passes' (some result') = updates passes (some result) := by
  match result, result', kind with
  | .ok _, .ok _, _ => exact congrArg (· - 1) long
  | .error _, .error _, _ => exact long

theorem settle_congr {m m' : KMeans} (runs : Runs samples held clusters passes (some result))
    (length : held.length = samples.length) {fuel fuel' start : Nat} (enough : passes.length ≤ fuel)
    (enough' : passes.length ≤ fuel')
    (allowed : ∀ i, start ≤ i → i < start + updates passes (some result) → m.exhausted i = false)
    (allowed' : ∀ i, start ≤ i → i < start + updates passes (some result) → m'.exhausted i = false) :
    m.settle samples fuel start held clusters = m'.settle samples fuel' start held clusters := by
  generalize closed : some result = closing at runs
  induction runs generalizing fuel fuel' start with
  | cut => cases closed
  | settled still =>
    obtain ⟨fuel, rfl⟩ := Nat.exists_eq_add_of_le' enough
    obtain ⟨fuel', rfl⟩ := Nat.exists_eq_add_of_le' enough'
    rw [List.length_singleton, settle_still m fuel start length still, settle_still m' fuel' start length still]
  | emptied moved refused =>
    cases closed
    obtain ⟨fuel, rfl⟩ := Nat.exists_eq_add_of_le' enough
    obtain ⟨fuel', rfl⟩ := Nat.exists_eq_add_of_le' enough'
    have going := allowed start le_rfl (Nat.lt_succ_self start)
    have going' := allowed' start le_rfl (Nat.lt_succ_self start)
    rw [List.length_singleton, settle_refused m fuel start length moved going refused,
      settle_refused m' fuel' start length moved going' refused]
  | @next held clusters after passes ending moved found rest ih =>
    subst closed
    rw [List.length_cons] at enough enough'
    obtain ⟨fuel, rfl⟩ := Nat.exists_eq_add_of_le' (Nat.le_trans (Nat.le_add_left 1 _) enough)
    obtain ⟨fuel', rfl⟩ := Nat.exists_eq_add_of_le' (Nat.le_trans (Nat.le_add_left 1 _) enough')
    rw [rest.updates_next] at allowed allowed'
    have later : m.settle samples fuel (start + 1) (assign samples clusters) after =
        m'.settle samples fuel' (start + 1) (assign samples clusters) after :=
      ih (length_assign samples _) (Nat.le_of_succ_le_succ enough) (Nat.le_of_succ_le_succ enough')
        (fun i low high => allowed i (by omega) (by omega)) (fun i low high => allowed' i (by omega) (by omega)) rfl
    rw [settle_next m fuel start length moved (allowed start le_rfl (by omega)) found,
      settle_next m' fuel' start length moved (allowed' start le_rfl (by omega)) found, later]

theorem settle_short {m : KMeans} {n : Nat} (cap : m.maxUpdates = some n)
    (runs : Runs samples held clusters passes ending) (length : held.length = samples.length) {fuel start : Nat}
    (low : start ≤ n) (high : n < start + updates passes ending) (enough : n < start + fuel) :
    (m.settle samples fuel start held clusters).value = .error (.notConverged n) := by
  have limit (i : Nat) : m.exhausted i = decide (n ≤ i) := by rw [exhausted, cap]
  induction runs generalizing fuel start with
  | cut => exact absurd high (Nat.not_lt.mpr low)
  | settled => exact absurd high (Nat.not_lt.mpr low)
  | emptied moved =>
    obtain rfl : start = n := Nat.le_antisymm low (Nat.le_of_lt_succ high)
    obtain ⟨fuel, rfl⟩ := Nat.exists_eq_add_of_le' (show 1 ≤ fuel by omega)
    rw [settle_capped m fuel start length moved (by simp [limit])]
  | next moved found rest ih =>
    obtain ⟨fuel, rfl⟩ := Nat.exists_eq_add_of_le' (show 1 ≤ fuel by omega)
    rw [rest.updates_next] at high
    rcases Nat.eq_or_lt_of_le low with rfl | below
    · rw [settle_capped m fuel start length moved (by simp [limit])]
    · rw [settle_next m fuel start length moved (by simp [limit, below]) found]
      exact ih (length_assign samples _) below (by omega) (by omega)

theorem settle_endless {m : KMeans} (uncapped : m.maxUpdates = none)
    (runs : Runs samples held clusters passes none) (length : held.length = samples.length) (start : Nat) :
    (m.settle samples passes.length start held clusters).value = .error .endless := by
  have going (i : Nat) : m.exhausted i = false := by rw [exhausted, uncapped]
  generalize closed : none = closing at runs
  induction runs generalizing start with
  | cut => rfl
  | settled => cases closed
  | emptied => cases closed
  | next moved found rest ih =>
    rw [List.length_cons, settle_next m _ start length moved (going start) found]
    exact ih (length_assign samples _) (start + 1) closed

end Updates

end Runs

section Limited

variable {m : KMeans} {samples : List (Sample W)} {clusters : List (Cluster R)} {u : ℕ∞} {n : Nat}

theorem settle_stops (cap : m.maxUpdates = some n) (samples : List (Sample W)) {fuel fuel' start : Nat}
    (low : start ≤ n) (enough : n < start + fuel) (more : fuel ≤ fuel') (held : List Nat) (clusters : List (Cluster R)) :
    m.settle samples fuel' start held clusters = m.settle samples fuel start held clusters := by
  induction fuel generalizing fuel' start held clusters with
  | zero => omega
  | succ fuel ih =>
    obtain ⟨fuel', rfl⟩ := Nat.exists_eq_add_of_le' (Nat.le_trans (Nat.le_add_left 1 fuel) more)
    rw [settle, settle]
    dsimp only
    split
    next => rfl
    next =>
      split
      next => rfl
      next going =>
        have below : start < n := by simpa [exhausted, cap] using going
        cases recenter samples (reassign clusters samples held).1 clusters with
        | error e => rfl
        | ok after =>
          dsimp only
          rw [ih below (by omega) (Nat.le_of_succ_le_succ more)]

theorem settle_passes_le (m : KMeans) (samples : List (Sample W)) (fuel start : Nat) (held : List Nat)
    (clusters : List (Cluster R)) :
    (m.settle samples fuel start held clusters).events.countP (·.isPass) ≤ fuel := by
  induction fuel generalizing start held clusters with
  | zero => exact Nat.le_refl 0
  | succ fuel ih =>
    rw [settle]
    dsimp only
    split
    next => exact Nat.le_add_left 1 fuel
    next =>
      split
      next => exact Nat.le_add_left 1 fuel
      next =>
        split
        next => exact Nat.le_add_left 1 fuel
        next after _ =>
          have later := ih (start + 1) (reassign clusters samples held).1 after
          exact (List.countP_cons_of_pos rfl).trans_le (Nat.succ_le_succ later)

theorem fitFrom_refused (samples : List (Sample W)) (other : clusters.length ≠ m.k) :
    m.fitFrom samples clusters = ⟨[], .error (.invalidConfig (.startingCenters m.k clusters.length))⟩ :=
  if_pos other

theorem fitFrom_congr {m' : KMeans} (same : m'.k = m.k)
    (ended : clusters.length = m.k → m'.ended samples clusters = m.ended samples clusters) :
    m'.fitFrom samples clusters = m.fitFrom samples clusters := by
  by_cases start : clusters.length = m.k
  · rw [fitFrom_eq m samples start, fitFrom_eq m' samples (start.trans same.symm), ended start, same]
  · rw [fitFrom_refused samples start, fitFrom_refused samples (same.symm ▸ start), same]

theorem fitFrom_short {passes : List (List (Cluster R))} {ending : Option (Except Error (List (Cluster R)))}
    (start : clusters.length = m.k)
    (runs : Runs samples (List.replicate samples.length m.k) clusters passes ending)
    (short : n < updates passes ending) :
    ((m.capped n).fitFrom samples clusters).value = .error (.notConverged n) := by
  have stopped : ((m.capped n).ended samples clusters).value = .error (.notConverged n) :=
    runs.settle_short rfl List.length_replicate (Nat.zero_le n) (by omega) (show n < 0 + (n + 1) by omega)
  rw [fitFrom_value (m.capped n) samples start, stopped, error_bind]

end Limited

section Unlimited

variable {m : KMeans} {samples : List (Sample W)} {clusters : List (Cluster R)}
  {passes : List (List (Cluster R))} {result : Except Error (List (Cluster R))}
  (positive : 0 < m.k) (uncapped : m.maxUpdates = none) (start : clusters.length = m.k)

include positive uncapped start

theorem length_le_passLimit
    (runs : Runs samples (List.replicate samples.length m.k) clusters passes (some result)) :
    passes.length ≤ m.passLimit samples.length := by
  have nonempty := start.symm ▸ positive
  have bound := runs.length_le_of_nodup nonempty (runs.nodup_of_ended nonempty)
  rw [passLimit, uncapped]
  rwa [start] at bound

theorem fitFrom_ends
    (runs : Runs samples (List.replicate samples.length m.k) clusters passes (some result)) :
    (∃ fitted, (m.fitFrom samples clusters).value = .ok fitted ∧
        .converged (updates passes (some result)) m.k ∈ (m.fitFrom samples clusters).events) ∨
      ∃ i, (m.fitFrom samples clusters).value = .error (.emptyCluster i) := by
  have enough := length_le_passLimit positive uncapped start runs
  have value : (m.ended samples clusters).value = _ := (runs.settle_eq uncapped List.length_replicate enough 0).2
  by_cases empty : samples = []
  · subst empty
    exact .inr ⟨0, fitFrom_nil positive start⟩
  · cases result with
    | error e =>
      obtain ⟨i, rfl⟩ := runs.emptied_of_error (start.symm ▸ positive)
      rw [fitFrom_value m samples start, value]
      exact .inr ⟨i, rfl⟩
    | ok final =>
      have ended := settle_start_reproduces positive start value
      rw [fitFrom_eq m samples start, value]
      simp only [Except.map, fitVariances_settled positive ended empty, updates]
      exact .inl ⟨_, rfl, by simp⟩

end Unlimited

namespace Makes

variable {m : KMeans} {samples : List (Sample W)} {clusters : List (Cluster R)} {u v : ℕ∞} {n : Nat}

theorem exists_makes (m : KMeans) (samples : List (Sample W)) (clusters : List (Cluster R)) :
    ∃ u, m.Makes samples clusters u := by
  by_cases start : clusters.length = m.k
  · by_cases stops : ∃ passes result,
        Runs samples (List.replicate samples.length m.k) clusters passes (some result)
    · obtain ⟨passes, result, runs⟩ := stops
      exact ⟨_, .stopped start runs⟩
    · refine ⟨⊤, .endless start fun count => ?_⟩
      obtain ⟨passes, ending, runs, long⟩ :=
        Runs.exists_runs samples (List.replicate samples.length m.k) clusters count
      cases ending with
      | none => exact ⟨passes, long rfl, runs⟩
      | some result => exact absurd ⟨passes, result, runs⟩ stops
  · exact ⟨0, .refused start⟩

theorem unique (positive : 0 < m.k) (first : m.Makes samples clusters u) (second : m.Makes samples clusters v) :
    u = v := by
  have not_endless {passes : List (List (Cluster R))} {result : Except Error (List (Cluster R))}
      (start : clusters.length = m.k)
      (runs : Runs samples (List.replicate samples.length m.k) clusters passes (some result)) :
      ¬ ∀ count, ∃ passes, passes.length = count ∧
        Runs samples (List.replicate samples.length m.k) clusters passes none := by
    intro going
    obtain ⟨others, long, open'⟩ := going passes.length
    rcases runs.shorter_or_ended (start.symm ▸ positive) rfl open' with ⟨-, shorter⟩ | ⟨-, _, closed, -⟩
    · omega
    · cases closed
  cases first with
  | refused other =>
    cases second with
    | refused => rfl
    | stopped start => exact absurd start other
    | endless start => exact absurd start other
  | stopped start runs =>
    cases second with
    | refused other => exact absurd start other
    | stopped _ runs' =>
      rcases runs.shorter_or_ended (start.symm ▸ positive) rfl runs' with ⟨open', -⟩ | ⟨long, _, closed, kind⟩
      · cases open'
      · cases closed
        rw [Runs.updates_congr long kind]
    | endless _ going => exact absurd going (not_endless start runs)
  | endless start going =>
    cases second with
    | refused other => exact absurd start other
    | stopped _ runs => exact absurd going (not_endless start runs)
    | endless => rfl

variable (makes : m.Makes samples clusters u)

include makes

theorem fitFrom_capped_of_lt (short : (n : ℕ∞) < u) :
    ((m.capped n).fitFrom samples clusters).value = .error (.notConverged n) := by
  cases makes with
  | refused => exact absurd short not_lt_zero
  | stopped start runs => exact fitFrom_short start runs (Nat.cast_lt.mp short)
  | endless start going =>
    obtain ⟨passes, long, runs⟩ := going (n + 1)
    exact fitFrom_short start runs (Nat.lt_of_succ_le long.ge)

variable (positive : 0 < m.k) (uncapped : m.maxUpdates = none)

include positive uncapped

theorem fitFrom_capped_of_le (enough : u ≤ n) :
    (m.capped n).fitFrom samples clusters = m.fitFrom samples clusters := by
  cases makes with
  | refused other => exact fitFrom_congr rfl fun start => absurd start other
  | @stopped passes result start runs =>
    have room : updates passes (some result) ≤ n := Nat.cast_le.mp enough
    have long : passes.length ≤ n + 1 := (Runs.length_le_updates passes _).trans (Nat.succ_le_succ room)
    have limited (i : Nat) (_ : 0 ≤ i) (before : i < 0 + updates passes (some result)) :
        (m.capped n).exhausted i = false := by
      simp only [exhausted, capped, decide_eq_false_iff_not]
      omega
    have unlimited (i : Nat) (_ : 0 ≤ i) (_ : i < 0 + updates passes (some result)) : m.exhausted i = false := by
      rw [exhausted, uncapped]
    exact fitFrom_congr rfl fun _ => runs.settle_congr List.length_replicate long
      (length_le_passLimit positive uncapped start runs) limited unlimited
  | endless => exact absurd (top_le_iff.mp enough) (ENat.natCast_ne_top n)

theorem eq_top_iff : u = ⊤ ↔ (m.fitFrom samples clusters).value = .error .endless := by
  cases makes with
  | refused other =>
    rw [fitFrom_refused samples other]
    simp
  | stopped start runs =>
    refine ⟨fun top => absurd top (ENat.natCast_ne_top _), fun value => ?_⟩
    rcases fitFrom_ends positive uncapped start runs with ⟨fitted, ended, -⟩ | ⟨i, ended⟩
    · cases ended.symm.trans value
    · cases ended.symm.trans value
  | endless start going =>
    obtain ⟨passes, long, runs⟩ := going (m.passLimit samples.length)
    have ended := runs.settle_endless uncapped List.length_replicate 0
    rw [long] at ended
    refine iff_of_true rfl ?_
    rw [fitFrom_value m samples start, KMeans.ended, ended, error_bind]

theorem fitFrom_ne_notConverged (i : Nat) : (m.fitFrom samples clusters).value ≠ .error (.notConverged i) := by
  intro value
  cases makes with
  | refused other =>
    rw [fitFrom_refused samples other] at value
    cases value
  | stopped start runs =>
    rcases fitFrom_ends positive uncapped start runs with ⟨fitted, ended, -⟩ | ⟨i, ended⟩
    · cases ended.symm.trans value
    · cases ended.symm.trans value
  | endless start going =>
    have ended := (eq_top_iff (.endless start going) positive uncapped).mp rfl
    cases ended.symm.trans value

theorem onlyCutsOff : m.OnlyCutsOff samples clusters u where
  counted v := ⟨fun other => unique positive other makes, fun same => same ▸ makes⟩
  unlimited := by
    intro start stops
    cases makes with
    | refused other => exact absurd start other
    | stopped _ runs =>
      rcases fitFrom_ends positive uncapped start runs with ⟨fitted, ended⟩ | empty
      · exact .inl ⟨_, fitted, rfl, ended⟩
      · exact .inr empty
    | endless => exact absurd rfl stops
  endless := makes.eq_top_iff positive uncapped
  enough _ := makes.fitFrom_capped_of_le positive uncapped
  short _ := makes.fitFrom_capped_of_lt
  reported := by
    intro n i value
    rcases le_or_gt u n with room | short
    · rw [makes.fitFrom_capped_of_le positive uncapped room] at value
      exact absurd value (makes.fitFrom_ne_notConverged positive uncapped i)
    · cases (makes.fitFrom_capped_of_lt short).symm.trans value
      rfl
  raised := by
    intro n higher more settled
    have room : u ≤ n := le_of_not_gt fun short => settled n (makes.fitFrom_capped_of_lt short)
    rw [makes.fitFrom_capped_of_le positive uncapped room,
      makes.fitFrom_capped_of_le positive uncapped (room.trans (Nat.cast_le.mpr more))]
  passes := by
    intro n
    by_cases start : clusters.length = m.k
    · rw [fitFrom_passes (m.capped n) samples start]
      exact settle_passes_le _ _ _ _ _ _
    · rw [fitFrom_refused (m := m.capped n) samples start]
      exact Nat.zero_le _
  stops := by
    intro n fuel more
    exact settle_stops rfl samples (Nat.zero_le n) (show n < 0 + (n + 1) by omega) more _ _

end Makes

theorem limit_only_cuts_off (m : KMeans) (positive : 1 ≤ m.k) (uncapped : m.maxUpdates = none)
    (samples : List (Sample W)) (clusters : List (Cluster R)) : ∃ u, m.OnlyCutsOff samples clusters u := by
  obtain ⟨u, makes⟩ := Makes.exists_makes m samples clusters
  exact ⟨u, makes.onlyCutsOff positive uncapped⟩

theorem limit_only_cuts_off_of_three_samples :
    ∃ (samples : List (Sample ℚ)) (clusters : List (Cluster ℚ)),
      samples = [⟨0, 0, .positive⟩, ⟨1, 0, .positive⟩, ⟨5, 0, .negative⟩] ∧ clusters = [⟨0, 0, 0⟩, ⟨1, 0, 0⟩] ∧
      (⟨2, none⟩ : KMeans).OnlyCutsOff samples clusters 2 ∧
      ((⟨2, some 1⟩ : KMeans).fitFrom samples clusters).value = .error (.notConverged 1) := by
  let m : KMeans := ⟨2, none⟩
  let samples : List (Sample ℚ) := [⟨0, 0, .positive⟩, ⟨1, 0, .positive⟩, ⟨5, 0, .negative⟩]
  let clusters : List (Cluster ℚ) := [⟨0, 0, 0⟩, ⟨1, 0, 0⟩]
  obtain ⟨u, cuts⟩ := limit_only_cuts_off m (by decide) rfl samples clusters
  have succeeds : (m.fitFrom samples clusters).value.isOk = true := by decide +kernel
  have events : (m.fitFrom samples clusters).events = [.pass 0 3, .pass 1 1, .pass 2 0, .converged 2 2] := by
    decide +kernel
  obtain ⟨fitted, value⟩ := exists_of_isOk succeeds
  have stops : u ≠ ⊤ := fun top => by cases value.symm.trans (cuts.endless.mp top)
  rcases cuts.unlimited rfl stops with ⟨i, _, rfl, -, logged⟩ | ⟨i, empty⟩
  · rw [events] at logged
    obtain rfl : i = 2 := by simpa [m] using logged
    exact ⟨samples, clusters, rfl, rfl, cuts, cuts.short 1 (by decide)⟩
  · cases value.symm.trans empty

end PlaneNet.KMeans
