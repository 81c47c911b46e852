import PlaneNet.Proofs.KMeans.Fitting

set_option autoImplicit false

namespace PlaneNet

def Event.isPass : Event → Bool
  | .pass _ _ => true
  | _ => false

namespace KMeans

variable {W R : Type} [Scalar R] [Storage W R]

section Pass

variable (m : KMeans) {samples : List (Sample W)} {held : List Nat} {clusters : List (Cluster R)}
  (passes updates : Nat) (length : held.length = samples.length)

include length

theorem settle_still (still : held = assign samples clusters) :
    m.settle samples (passes + 1) updates held clusters =
      ⟨[.pass updates 0], .ok ⟨updates, held, clusters⟩⟩ := by
  have none := (reassign_snd_eq_zero_iff clusters length).mpr still
  simp only [settle, none, if_true, reassign_fst clusters length, ← still]

theorem settle_capped (moved : held ≠ assign samples clusters) (capped : m.exhausted updates = true) :
    m.settle samples (passes + 1) updates held clusters =
      ⟨[.pass updates (reassign clusters samples held).2], .error (.notConverged updates)⟩ := by
  have some := mt (reassign_snd_eq_zero_iff clusters length).mp moved
  simp only [settle, some, if_false, capped, if_true]

variable (moved : held ≠ assign samples clusters) (going : m.exhausted updates = false)

include moved going

theorem settle_refused {e : Error} (refused : recenter samples (assign samples clusters) clusters = .error e) :
    m.settle samples (passes + 1) updates held clusters =
      ⟨[.pass updates (reassign clusters samples held).2], .error e⟩ := by
  have some := mt (reassign_snd_eq_zero_iff clusters length).mp moved
  simp only [settle, some, if_false, going, Bool.false_eq_true, reassign_fst clusters length, refused]

theorem settle_next {after : List (Cluster R)}
    (found : recenter samples (assign samples clusters) clusters = .ok after) :
    m.settle samples (passes + 1) updates held clusters =
      let later := m.settle samples passes (updates + 1) (assign samples clusters) after
      ⟨.pass updates (reassign clusters samples held).2 :: later.events, later.value⟩ := by
  have some := mt (reassign_snd_eq_zero_iff clusters length).mp moved
  simp only [settle, some, if_false, going, Bool.false_eq_true, reassign_fst clusters length, found]

end Pass

/--
Some first passes without a cap, each given by the centers it starts from, and how the loop ended if it did:
with centers that reproduce the assignment, or with a cluster that lost all its samples.
-/
inductive Runs (samples : List (Sample W)) :
    List Nat → List (Cluster R) → List (List (Cluster R)) → Option (Except Error (List (Cluster R))) → Prop
  | cut (held : List Nat) (clusters : List (Cluster R)) : Runs samples held clusters [] none
  | settled {held : List Nat} {clusters : List (Cluster R)} (still : held = assign samples clusters) :
      Runs samples held clusters [clusters] (some (.ok clusters))
  | emptied {held : List Nat} {clusters : List (Cluster R)} {e : Error}
      (moved : held ≠ assign samples clusters)
      (refused : recenter samples (assign samples clusters) clusters = .error e) :
      Runs samples held clusters [clusters] (some (.error e))
  | next {held : List Nat} {clusters after : List (Cluster R)} {passes : List (List (Cluster R))}
      {ending : Option (Except Error (List (Cluster R)))} (moved : held ≠ assign samples clusters)
      (recentered : recenter samples (assign samples clusters) clusters = .ok after)
      (rest : Runs samples (assign samples clusters) after passes ending) :
      Runs samples held clusters (clusters :: passes) ending

namespace Runs

variable {samples : List (Sample W)} {held : List Nat} {clusters : List (Cluster R)}
  {passes : List (List (Cluster R))}

theorem exists_runs (samples : List (Sample W)) (held : List Nat) (clusters : List (Cluster R)) (count : Nat) :
    ∃ passes ending, Runs samples held clusters passes ending ∧
      (ending = none → passes.length = count) := by
  induction count generalizing held clusters with
  | zero => exact ⟨_, _, .cut held clusters, fun _ => rfl⟩
  | succ count ih =>
    by_cases still : held = assign samples clusters
    · exact ⟨_, _, .settled still, nofun⟩
    · cases found : recenter samples (assign samples clusters) clusters with
      | error e => exact ⟨_, _, .emptied still found, nofun⟩
      | ok after =>
        obtain ⟨passes, ending, rest, long⟩ := ih (assign samples clusters) after
        exact ⟨_, _, .next still found rest, fun stays => congrArg Nat.succ (long stays)⟩

theorem settle_eq {m : KMeans} (uncapped : m.maxUpdates = none) {result : Except Error (List (Cluster R))}
    (runs : Runs samples held clusters passes (some result)) (length : held.length = samples.length)
    {fuel : Nat} (enough : passes.length ≤ fuel) (updates : Nat) :
    (m.settle samples fuel updates held clusters).events.countP (·.isPass) = passes.length ∧
      (m.settle samples fuel updates held clusters).value = result.map fun final =>
        ⟨updates + passes.length - 1, assign samples final, final⟩ := by
  have going (updates : Nat) : m.exhausted updates = false := by rw [exhausted, uncapped]
  generalize closed : some result = ending at runs
  induction runs generalizing fuel updates with
  | cut => cases closed
  | settled still =>
    cases closed
    obtain ⟨fuel, rfl⟩ := Nat.exists_eq_add_of_le' enough
    rw [List.length_singleton, settle_still m fuel updates length still]
    exact ⟨rfl, by rw [Except.map, still]; rfl⟩
  | emptied moved refused =>
    cases closed
    obtain ⟨fuel, rfl⟩ := Nat.exists_eq_add_of_le' enough
    rw [List.length_singleton, settle_refused m fuel updates length moved (going updates) refused]
    exact ⟨rfl, rfl⟩
  | next moved found rest ih =>
    obtain ⟨fuel, rfl⟩ : ∃ rest, fuel = rest + 1 := Nat.exists_eq_add_of_le' (Nat.le_trans (Nat.le_add_left 1 _) enough)
    obtain ⟨events, value⟩ := ih (length_assign samples _) (Nat.le_of_succ_le_succ enough) (updates + 1) closed
    rw [settle_next m fuel updates length moved (going updates) found]
    refine ⟨(List.countP_cons_of_pos rfl).trans (congrArg Nat.succ events), value.trans ?_⟩
    rw [List.length_cons, Nat.add_right_comm, ← Nat.add_assoc]

end Runs

theorem ofCount_eq_ok_iff {k : Nat} {cap : Option Nat} {m : KMeans} :
    ofCount k cap = .ok m ↔ 0 < k ∧ m = ⟨k, cap⟩ := by
  rw [ofCount]
  by_cases none : k = 0
  next => simp [none]
  next => simp [none, Nat.pos_of_ne_zero none, eq_comm]

theorem exists_passLimit (m : KMeans) (samples : Nat) : ∃ fuel, m.passLimit samples = fuel + 1 := by
  rw [passLimit]
  split
  next => exact ⟨_, rfl⟩
  next => exact ⟨_, rfl⟩

section Result

variable (m : KMeans) (samples : List (Sample W)) {clusters : List (Cluster R)}

def ended (m : KMeans) (samples : List (Sample W)) (clusters : List (Cluster R)) :
    Reported (Except Error (Settled R)) :=
  m.settle samples (m.passLimit samples.length) 0 (List.replicate samples.length m.k) clusters

variable (start : clusters.length = m.k)

include start

theorem fitFrom_eq :
    m.fitFrom samples clusters =
      match (m.ended samples clusters).value with
      | .error e => ⟨(m.ended samples clusters).events, .error e⟩
      | .ok settled =>
        match fitVariances samples settled.assignment settled.clusters with
        | .error e => ⟨(m.ended samples clusters).events, .error e⟩
        | .ok fitted => ⟨(m.ended samples clusters).events ++ [.converged settled.updates m.k], .ok fitted⟩ := by
  rw [fitFrom, if_neg (not_not.mpr start)]
  rfl

theorem fitFrom_value :
    (m.fitFrom samples clusters).value =
      (m.ended samples clusters).value >>= fun settled =>
        fitVariances samples settled.assignment settled.clusters := by
  rw [fitFrom_eq m samples start]
  cases (m.ended samples clusters).value with
  | error e => rfl
  | ok settled =>
    dsimp only [ok_bind]
    cases fitVariances samples settled.assignment settled.clusters <;> rfl

theorem fitFrom_passes :
    (m.fitFrom samples clusters).events.countP (·.isPass) =
      (m.ended samples clusters).events.countP (·.isPass) := by
  rw [fitFrom_eq m samples start]
  cases (m.ended samples clusters).value with
  | error e => rfl
  | ok settled =>
    dsimp only
    cases fitVariances samples settled.assignment settled.clusters with
    | error e => rfl
    | ok fitted => exact List.countP_append

end Result

end KMeans

end PlaneNet
