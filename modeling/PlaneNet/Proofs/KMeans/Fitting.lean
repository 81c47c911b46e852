import Mathlib.Logic.Function.Basic
import PlaneNet.KMeans
import PlaneNet.Proofs.Checked

set_option autoImplicit false

namespace PlaneNet

variable {W R : Type} [Scalar R]

open Scalar (zero)

section Nearest

variable {clusters others : List (Cluster R)} (x y : R)

theorem nearestFrom_lt {i best : Nat} (distance : Option R) (inside : best < i + clusters.length) :
    nearestFrom x y i best distance clusters < i + clusters.length := by
  induction clusters generalizing i best distance with
  | nil => exact inside
  | cons c cs ih =>
    rw [List.length_cons, ← Nat.succ_add_eq_add_succ] at inside ⊢
    dsimp only [nearestFrom]
    split
    next => exact ih _ (by omega)
    next => exact ih _ inside

theorem nearest_lt (nonempty : 0 < clusters.length) : nearest clusters x y < clusters.length := by
  rw [← Nat.zero_add clusters.length] at nonempty ⊢
  exact nearestFrom_lt x y none nonempty

def Cluster.center (c : Cluster R) : R × R := (c.meanX, c.meanY)

theorem distanceSq_congr {c d : Cluster R} (same : c.center = d.center) :
    c.distanceSq x y = d.distanceSq x y := by
  obtain ⟨sameX, sameY⟩ := Prod.mk.inj same
  rw [Cluster.distanceSq, Cluster.distanceSq, sameX, sameY]

theorem nearestFrom_congr (same : clusters.map (·.center) = others.map (·.center)) (i best : Nat)
    (distance : Option R) :
    nearestFrom x y i best distance clusters = nearestFrom x y i best distance others := by
  induction clusters generalizing others i best distance with
  | nil =>
    rw [List.map_nil, eq_comm, List.map_eq_nil_iff] at same
    rw [same]
  | cons c cs ih =>
    cases others with
    | nil => cases same
    | cons d ds =>
      rw [List.map_cons, List.map_cons, List.cons.injEq] at same
      simp only [nearestFrom, distanceSq_congr x y same.1, ih same.2]

end Nearest

variable [Storage W R]

theorem assign_congr (samples : List (Sample W)) {clusters others : List (Cluster R)}
    (same : clusters.map (·.center) = others.map (·.center)) :
    assign samples clusters = assign samples others :=
  List.map_congr_left fun _ _ => nearestFrom_congr _ _ same 0 0 none

theorem length_assign (samples : List (Sample W)) (clusters : List (Cluster R)) :
    (assign samples clusters).length = samples.length :=
  List.length_map _

theorem assign_lt {samples : List (Sample W)} {clusters : List (Cluster R)} (nonempty : 0 < clusters.length) :
    ∀ i ∈ assign samples clusters, i < clusters.length := by
  intro i member
  obtain ⟨s, -, rfl⟩ := List.mem_map.mp member
  exact nearest_lt _ _ nonempty

section Reassign

variable (clusters : List (Cluster R)) {samples : List (Sample W)} {held : List Nat}
  (length : held.length = samples.length)

include length

theorem reassign_fst : (reassign clusters samples held).1 = assign samples clusters := by
  induction samples generalizing held with
  | nil => exact List.eq_nil_of_length_eq_zero length
  | cons s rest ih =>
    cases held with
    | nil => cases length
    | cons i held => exact congrArg (_ :: ·) (ih (Nat.succ.inj length))

theorem reassign_snd_eq_zero_iff : (reassign clusters samples held).2 = 0 ↔ held = assign samples clusters := by
  induction samples generalizing held with
  | nil =>
    have empty := List.eq_nil_of_length_eq_zero length
    simp [empty, reassign, assign]
  | cons s rest ih =>
    cases held with
    | nil => cases length
    | cons i held =>
      have tail := ih (Nat.succ.inj length)
      by_cases same : i = s.nearest clusters
      · simpa [reassign, assign, same] using tail
      · simp [reassign, assign, same]

end Reassign

def members (samples : List (Sample W)) (assignment : List Nat) (i : Nat) : List (Sample W) :=
  ((samples.zip assignment).filter fun held => held.2 = i).map Prod.fst

section Tallies

theorem modify_map_range {τ : Type} (k place : Nat) (start : Nat → τ) (f : τ → τ) :
    ((List.range k).map start).modify place f =
      (List.range k).map (Function.update start place (f (start place))) := by
  apply List.ext_getElem
  · simp
  · intro i _ within
    by_cases same : place = i
    · simp [same]
    · simp [same, Function.update_of_ne (Ne.symm same)]

theorem foldlM_modifyAt {α τ : Type} {f : List τ → α × Nat → Except Error (List τ)} {g : Nat → τ → α → τ}
    {k : Nat} (pairs : List (α × Nat)) (inside : ∀ p ∈ pairs, p.2 < k)
    (step : ∀ (tallies : List τ) (p : α × Nat), p.2 < k →
      f tallies p = modifyAt p.2 (g p.2 · p.1) tallies) (start : Nat → τ) :
    pairs.foldlM f ((List.range k).map start) =
      .ok ((List.range k).map fun i =>
        ((pairs.filter fun p => p.2 = i).map Prod.fst).foldl (g i) (start i)) := by
  induction pairs generalizing start with
  | nil => rfl
  | cons p rest ih =>
    obtain ⟨a, place⟩ := p
    have first : place < k := inside _ List.mem_cons_self
    rw [List.foldlM_cons, step _ _ first, modifyAt, if_pos (by simpa using first), modify_map_range, ok_bind,
      ih fun p member => inside p (List.mem_cons_of_mem _ member)]
    congr 1
    refine List.map_congr_left fun i _ => ?_
    by_cases same : place = i
    · simp [same]
    · simp [same, Function.update_of_ne (Ne.symm same)]

def gathered (members : List (Sample W)) : Tally R :=
  members.foldl (fun t s => t.add (widen s.x) (widen s.y)) ⟨zero, zero, 0⟩

-- The squared distances go where `gathered` has the first coordinates.
def spreadAround (c : Cluster R) (members : List (Sample W)) : Tally R :=
  members.foldl (fun t s => t.add (c.distanceSq (widen s.x) (widen s.y)) zero) ⟨zero, zero, 0⟩

theorem foldl_add {α : Type} (fx fy : α → R) (xs : List α) (t : Tally R) :
    xs.foldl (fun t a => t.add (fx a) (fy a)) t =
      ⟨xs.foldl (fun sum a => sum + fx a) t.sumX, xs.foldl (fun sum a => sum + fy a) t.sumY,
        t.count + xs.length⟩ := by
  induction xs generalizing t with
  | nil => rfl
  | cons a rest ih =>
    rw [List.foldl_cons, ih, List.length_cons, Nat.add_comm rest.length, ← Nat.add_assoc]
    rfl

theorem gathered_count (members : List (Sample W)) : (gathered members : Tally R).count = members.length := by
  rw [gathered, foldl_add]
  exact Nat.zero_add _

end Tallies

section EachCluster

variable {f : Cluster R → Tally R → Cluster R} {tallyOf : Nat → Tally R} (start : Nat)
  (clusters : List (Cluster R))

omit [Scalar R] in
theorem fitEach_range (filled : ∀ i, start ≤ i → i < start + clusters.length → (tallyOf i).count ≠ 0) :
    fitEach f start clusters ((List.range' start clusters.length).map tallyOf) =
      .ok (clusters.mapIdx fun i c => f c (tallyOf (start + i))) := by
  induction clusters generalizing start with
  | nil => rfl
  | cons c cs ih =>
    rw [List.length_cons] at filled
    have rest := ih (start + 1) fun i low high => filled i (by omega) (by omega)
    rw [List.length_cons, List.range'_succ, List.map_cons, fitEach, if_neg (filled start (by omega) (by omega)),
      rest, List.mapIdx_cons]
    simp only [ok_bind, pure_eq_ok, Nat.add_zero, Nat.add_assoc, Nat.add_comm 1]

omit [Scalar R] in
theorem fitEach_range_empty {i : Nat} (low : start ≤ i) (high : i < start + clusters.length)
    (empty : (tallyOf i).count = 0) :
    ∃ j, fitEach f start clusters ((List.range' start clusters.length).map tallyOf) =
      .error (.emptyCluster j) := by
  induction clusters generalizing start with
  | nil => exact absurd high (by simp [low])
  | cons c cs ih =>
    rw [List.length_cons] at high
    rw [List.length_cons, List.range'_succ, List.map_cons, fitEach]
    by_cases here : (tallyOf start).count = 0
    · exact ⟨start, if_pos here⟩
    · have later : start ≠ i := fun same => here (same ▸ empty)
      obtain ⟨j, refused⟩ := ih (start + 1) (by omega) (by omega)
      exact ⟨j, by rw [if_neg here, refused, error_bind]⟩

end EachCluster

section Means

variable {samples : List (Sample W)} {assignment : List Nat} {clusters : List (Cluster R)}

def Filled (samples : List (Sample W)) (assignment : List Nat) (k : Nat) : Prop :=
  ∀ i < k, members samples assignment i ≠ []

def recentered (samples : List (Sample W)) (assignment : List Nat) (clusters : List (Cluster R)) :
    List (Cluster R) :=
  clusters.mapIdx fun i c => toMean c (gathered (members samples assignment i))

def refitted (samples : List (Sample W)) (assignment : List Nat) (clusters : List (Cluster R)) :
    List (Cluster R) :=
  clusters.mapIdx fun i c => toVariance c (spreadAround c (members samples assignment i))

theorem length_recentered (samples : List (Sample W)) (assignment : List Nat) (clusters : List (Cluster R)) :
    (recentered samples assignment clusters).length = clusters.length :=
  List.length_mapIdx

theorem recentered_centers (samples : List (Sample W)) (assignment : List Nat) {clusters others : List (Cluster R)}
    (same : clusters.length = others.length) :
    (recentered samples assignment clusters).map (·.center) = (recentered samples assignment others).map (·.center) := by
  apply List.ext_getElem
  · simp [recentered, same]
  · intro i _ _
    simp [recentered, toMean, Cluster.center]

variable (inside : ∀ i ∈ assignment, i < clusters.length)

include inside

theorem recenter_eq :
    recenter samples assignment clusters =
      fitEach toMean 0 clusters
        ((List.range' 0 clusters.length).map fun i => gathered (members samples assignment i)) := by
  have pairs : ∀ p ∈ samples.zip assignment, p.2 < clusters.length :=
    fun p member => inside _ (List.of_mem_zip member).2
  have tallied := foldlM_modifyAt (g := fun _ t (s : Sample W) => t.add (widen s.x) (widen s.y))
    (samples.zip assignment) pairs (fun _ _ _ => rfl) fun _ => (⟨zero, zero, 0⟩ : Tally R)
  rw [List.map_const', List.length_range] at tallied
  rw [recenter, tally, tallied, List.range_eq_range']
  rfl

theorem fitVariances_eq :
    fitVariances samples assignment clusters =
      fitEach toVariance 0 clusters
        ((List.range' 0 clusters.length).map fun i =>
          (members samples assignment i).foldl
            (fun t s => t.add ((clusters[i]?).elim zero (·.distanceSq (widen s.x) (widen s.y))) zero)
            ⟨zero, zero, 0⟩) := by
  have pairs : ∀ p ∈ samples.zip assignment, p.2 < clusters.length :=
    fun p member => inside _ (List.of_mem_zip member).2
  have tallied := foldlM_modifyAt
    (f := fun tallies p => addSpread clusters tallies p.1 p.2)
    (g := fun i t (s : Sample W) =>
      t.add ((clusters[i]?).elim zero (·.distanceSq (widen s.x) (widen s.y))) zero)
    (samples.zip assignment) pairs
    (fun tallies p within => by simp only [addSpread, List.getElem?_eq_getElem within]; rfl)
    fun _ => (⟨zero, zero, 0⟩ : Tally R)
  rw [List.map_const', List.length_range] at tallied
  rw [fitVariances, tallied, List.range_eq_range']
  rfl

theorem recenter_eq_ok (filled : Filled samples assignment clusters.length) :
    recenter samples assignment clusters = .ok (recentered samples assignment clusters) := by
  rw [recenter_eq inside, fitEach_range, recentered]
  · simp only [Nat.zero_add]
  · intro i _ high
    rw [gathered_count]
    exact Nat.ne_of_gt (List.length_pos_iff.mpr (filled i (by omega)))

theorem recenter_eq_error (unfilled : ¬ Filled samples assignment clusters.length) :
    ∃ i, recenter samples assignment clusters = .error (.emptyCluster i) := by
  obtain ⟨i, within, empty⟩ : ∃ i < clusters.length, members samples assignment i = [] := by
    simpa [Filled] using unfilled
  rw [recenter_eq inside]
  exact fitEach_range_empty 0 clusters (Nat.zero_le i) (by omega) (by rw [gathered_count, empty]; rfl)

theorem recenter_eq_ok_iff (after : List (Cluster R)) :
    recenter samples assignment clusters = .ok after ↔
      Filled samples assignment clusters.length ∧ recentered samples assignment clusters = after := by
  by_cases filled : Filled samples assignment clusters.length
  · simp [recenter_eq_ok inside filled, filled]
  · obtain ⟨i, refused⟩ := recenter_eq_error inside filled
    simp [refused, filled]

omit inside in
theorem recenter_assign_eq_ok {after : List (Cluster R)} (nonempty : 0 < clusters.length)
    (found : recenter samples (assign samples clusters) clusters = .ok after) :
    Filled samples (assign samples clusters) clusters.length ∧
      recentered samples (assign samples clusters) clusters = after ∧ after.length = clusters.length := by
  obtain ⟨filled, same⟩ := (recenter_eq_ok_iff (assign_lt nonempty) after).mp found
  exact ⟨filled, same, same ▸ length_recentered samples _ clusters⟩

omit inside in
theorem recenter_assign_eq_error {e : Error} (nonempty : 0 < clusters.length)
    (refused : recenter samples (assign samples clusters) clusters = .error e) : ∃ i, e = .emptyCluster i := by
  by_cases filled : Filled samples (assign samples clusters) clusters.length
  · cases (recenter_eq_ok (assign_lt nonempty) filled).symm.trans refused
  · obtain ⟨i, empty⟩ := recenter_eq_error (assign_lt nonempty) filled
    cases empty.symm.trans refused
    exact ⟨i, rfl⟩

theorem fitVariances_eq_ok (filled : Filled samples assignment clusters.length) :
    fitVariances samples assignment clusters = .ok (refitted samples assignment clusters) := by
  rw [fitVariances_eq inside, fitEach_range]
  · refine congrArg Except.ok (List.ext_getElem (by simp [refitted]) fun i _ within => ?_)
    rw [refitted, List.length_mapIdx] at within
    simp [refitted, spreadAround, within]
  · intro i _ high
    rw [foldl_add]
    have := List.length_pos_iff.mpr (filled i (by omega))
    dsimp only
    omega

end Means

end PlaneNet
