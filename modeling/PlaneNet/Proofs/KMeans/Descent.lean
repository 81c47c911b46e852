import Mathlib.Algebra.Order.BigOperators.Group.Finset
import Mathlib.Tactic.FieldSimp
import Mathlib.Tactic.Linarith
import PlaneNet.Proofs.Exact
import PlaneNet.Proofs.KMeans.Nearest
import PlaneNet.Proofs.KMeans.Passes

set_option autoImplicit false

namespace PlaneNet

section Nearest

theorem ranked_rat : Ranked (fun _ : ℚ => True) (fun q => (q : WithTop ℚ)) ⊤ where
  lt_iff _ _ := decide_eq_true_iff.trans WithTop.coe_lt_coe.symm
  le_iff _ _ := decide_eq_true_iff.trans WithTop.coe_le_coe.symm
  belowInfinity_iff _ := iff_of_true rfl (WithTop.coe_lt_top _)
  le_top _ := le_top

theorem nearest_least (x y : ℚ) {clusters : List (Cluster ℚ)} (nonempty : clusters ≠ []) :
    ∃ c, clusters[nearest clusters x y]? = some c ∧ ∀ d ∈ clusters, c.distanceSq x y ≤ d.distanceSq x y := by
  obtain ⟨c, found, least, -⟩ := ranked_rat.nearest_firstNearest x y nonempty fun _ _ => trivial
  refine ⟨c, found, fun d member => ?_⟩
  obtain ⟨j, there⟩ := List.mem_iff_getElem?.mp member
  exact of_decide_eq_true (least j d there)

end Nearest

variable {V : Type} [Storage V ℚ]

def distanceTo (clusters : List (Cluster ℚ)) (s : Sample V) (i : Nat) : ℚ :=
  (clusters[i]?).elim 0 fun c => c.distanceSq (widen s.x) (widen s.y)

def spread (samples : List (Sample V)) (assignment : List Nat) (clusters : List (Cluster ℚ)) : ℚ :=
  ((samples.zip assignment).map fun held => distanceTo clusters held.1 held.2).sum

theorem spread_assign_le {samples : List (Sample V)} {held : List Nat} {clusters : List (Cluster ℚ)}
    (inside : ∀ i ∈ held, i < clusters.length) (length : held.length = samples.length) :
    spread samples (assign samples clusters) clusters ≤ spread samples held clusters := by
  induction samples generalizing held with
  | nil => simp [spread]
  | cons s rest ih =>
    cases held with
    | nil => cases length
    | cons i held =>
      have within : i < clusters.length := inside i List.mem_cons_self
      obtain ⟨c, found, least⟩ := nearest_least (widen s.x) (widen s.y) (List.ne_nil_of_length_pos (Nat.zero_lt_of_lt within))
      have first : distanceTo clusters s (s.nearest clusters) ≤ distanceTo clusters s i := by
        rw [distanceTo, distanceTo, Sample.nearest, found, List.getElem?_eq_getElem within]
        exact least _ (List.getElem_mem within)
      have others := ih (fun j member => inside j (List.mem_cons_of_mem _ member)) (Nat.succ.inj length)
      exact add_le_add first others

section Means

variable {ms : List (Sample V)}

theorem sum_distanceSq (c : Cluster ℚ) (ms : List (Sample V)) :
    (ms.map fun s => c.distanceSq (widen s.x) (widen s.y)).sum =
      (ms.map fun s => widen s.x * widen s.x + widen s.y * widen s.y).sum -
        2 * (c.meanX * (ms.map fun s => (widen s.x : ℚ)).sum + c.meanY * (ms.map fun s => (widen s.y : ℚ)).sum) +
        ms.length * (c.meanX * c.meanX + c.meanY * c.meanY) := by
  induction ms with
  | nil => simp
  | cons s rest ih =>
    simp only [List.map_cons, List.sum_cons, List.length_cons, ih]
    rw [Cluster.distanceSq]
    push_cast
    ring

structure Cluster.IsMean (c : Cluster ℚ) (ms : List (Sample V)) : Prop where
  x : (ms.map fun s => (widen s.x : ℚ)).sum = ms.length * c.meanX
  y : (ms.map fun s => (widen s.y : ℚ)).sum = ms.length * c.meanY

theorem sum_distanceSq_of_mean {c : Cluster ℚ} (mean : c.IsMean ms) (d : Cluster ℚ) :
    (ms.map fun s => d.distanceSq (widen s.x) (widen s.y)).sum =
      (ms.map fun s => c.distanceSq (widen s.x) (widen s.y)).sum +
        ms.length * d.distanceSq c.meanX c.meanY := by
  rw [sum_distanceSq, sum_distanceSq c, mean.x, mean.y]
  simp only [Cluster.distanceSq]
  ring

theorem distanceSq_nonneg (c : Cluster ℚ) (x y : ℚ) : 0 ≤ c.distanceSq x y :=
  add_nonneg (mul_self_nonneg _) (mul_self_nonneg _)

theorem center_eq_of_distanceSq {c d : Cluster ℚ} (none : d.distanceSq c.meanX c.meanY ≤ 0) :
    d.center = c.center := by
  have squares : (c.meanX - d.meanX) * (c.meanX - d.meanX) + (c.meanY - d.meanY) * (c.meanY - d.meanY) = 0 :=
    none.antisymm (distanceSq_nonneg d _ _)
  obtain ⟨sameX, sameY⟩ := mul_self_add_mul_self_eq_zero.mp squares
  exact Prod.ext (sub_eq_zero.mp sameX).symm (sub_eq_zero.mp sameY).symm

theorem mean_le {c : Cluster ℚ} (mean : c.IsMean ms) (d : Cluster ℚ) :
    (ms.map fun s => c.distanceSq (widen s.x) (widen s.y)).sum ≤
      (ms.map fun s => d.distanceSq (widen s.x) (widen s.y)).sum := by
  rw [sum_distanceSq_of_mean mean d]
  exact le_add_of_nonneg_right (mul_nonneg (Nat.cast_nonneg _) (distanceSq_nonneg d _ _))

theorem center_eq_of_le_mean {c d : Cluster ℚ} (mean : c.IsMean ms) (filled : ms ≠ [])
    (best : (ms.map fun s => d.distanceSq (widen s.x) (widen s.y)).sum ≤
      (ms.map fun s => c.distanceSq (widen s.x) (widen s.y)).sum) :
    d.center = c.center := by
  have count : (0 : ℚ) < ms.length := Nat.cast_pos.mpr (List.length_pos_iff.mpr filled)
  rw [sum_distanceSq_of_mean mean d] at best
  apply center_eq_of_distanceSq
  have total : ms.length * d.distanceSq c.meanX c.meanY ≤ 0 := by linarith
  exact nonpos_of_mul_nonpos_right total count

theorem toMean_isMean (before : Cluster ℚ) (filled : ms ≠ []) : (toMean before (gathered ms)).IsMean ms := by
  have count : (ms.length : ℚ) ≠ 0 := Nat.cast_ne_zero.mpr (mt List.length_eq_zero_iff.mp filled)
  have coordinates : toMean before (gathered ms) =
      { before with
        meanX := (ms.map fun s => widen s.x).sum / (ms.length : ℚ)
        meanY := (ms.map fun s => widen s.y).sum / (ms.length : ℚ) } := by
    rw [toMean, gathered, foldl_add, foldl_add_eq_sum, foldl_add_eq_sum, Nat.zero_add]
    rfl
  rw [coordinates]
  exact ⟨(mul_div_cancel₀ _ count).symm, (mul_div_cancel₀ _ count).symm⟩

end Means

section Recentering

theorem sum_map_eq_sum_places {α : Type} {k : Nat} (f : α → Nat → ℚ) (pairs : List (α × Nat))
    (inside : ∀ p ∈ pairs, p.2 < k) :
    (pairs.map fun p => f p.1 p.2).sum =
      ∑ i ∈ Finset.range k, (((pairs.filter fun p => p.2 = i).map Prod.fst).map (f · i)).sum := by
  induction pairs with
  | nil => simp
  | cons p rest ih =>
    have place := inside p List.mem_cons_self
    have each (i : Nat) :
        ((((p :: rest).filter fun p => p.2 = i).map Prod.fst).map (f · i)).sum =
          (if p.2 = i then f p.1 i else 0) + (((rest.filter fun p => p.2 = i).map Prod.fst).map (f · i)).sum := by
      by_cases here : p.2 = i <;> simp [here]
    rw [List.map_cons, List.sum_cons, ih fun p member => inside p (List.mem_cons_of_mem _ member),
      Finset.sum_congr rfl fun i _ => each i, Finset.sum_add_distrib, Finset.sum_ite_eq,
      if_pos (Finset.mem_range.mpr place)]

variable {samples : List (Sample V)} {held : List Nat} {clusters : List (Cluster ℚ)}

theorem spread_eq_sum (inside : ∀ i ∈ held, i < clusters.length) :
    spread samples held clusters =
      ∑ i ∈ Finset.range clusters.length,
        ((members samples held i).map (distanceTo clusters · i)).sum :=
  sum_map_eq_sum_places _ _ fun _ member => inside _ (List.of_mem_zip member).2

theorem sum_distanceTo (ms : List (Sample V)) {i : Nat} (within : i < clusters.length) :
    (ms.map (distanceTo clusters · i)).sum =
      (ms.map fun s => clusters[i].distanceSq (widen s.x) (widen s.y)).sum := by
  simp [distanceTo, within]

variable {before : List (Cluster ℚ)} (inside : ∀ i ∈ held, i < before.length)
  (filled : Filled samples held before.length) (same : clusters.length = before.length)

include filled in
theorem recentered_isMean {i : Nat} (within : i < (recentered samples held before).length) :
    (recentered samples held before)[i].IsMean (members samples held i) := by
  have inBefore : i < before.length := by rwa [recentered, List.length_mapIdx] at within
  simp only [recentered, List.getElem_mapIdx]
  exact toMean_isMean _ (filled i inBefore)

include filled same in
theorem sum_recentered_le {i : Nat} (within : i < before.length) :
    ((members samples held i).map (distanceTo (recentered samples held before) · i)).sum ≤
      ((members samples held i).map (distanceTo clusters · i)).sum := by
  have inMeans : i < (recentered samples held before).length := by rwa [recentered, List.length_mapIdx]
  rw [sum_distanceTo _ inMeans, sum_distanceTo _ (same ▸ within)]
  exact mean_le (recentered_isMean filled inMeans) _

include inside filled same

theorem spread_recentered_le :
    spread samples held (recentered samples held before) ≤ spread samples held clusters := by
  have length : (recentered samples held before).length = before.length := List.length_mapIdx
  rw [spread_eq_sum (length ▸ inside), spread_eq_sum (same ▸ inside), length, same]
  exact Finset.sum_le_sum fun i member => sum_recentered_le filled same (Finset.mem_range.mp member)

theorem centers_eq_of_spread_le
    (best : spread samples held clusters ≤ spread samples held (recentered samples held before)) :
    clusters.map (·.center) = (recentered samples held before).map (·.center) := by
  have length : (recentered samples held before).length = before.length := List.length_mapIdx
  have total := (spread_recentered_le inside filled same).antisymm best
  rw [spread_eq_sum (length ▸ inside), spread_eq_sum (same ▸ inside), length, same] at total
  have equal := (Finset.sum_eq_sum_iff_of_le fun i member =>
    sum_recentered_le filled same (Finset.mem_range.mp member)).mp total
  apply List.ext_getElem
  · simp [length, same]
  · intro i inClusters inMeans
    rw [List.length_map] at inClusters inMeans
    have part := equal i (Finset.mem_range.mpr (same ▸ inClusters))
    rw [sum_distanceTo _ inMeans, sum_distanceTo _ inClusters] at part
    rw [List.getElem_map, List.getElem_map]
    exact center_eq_of_le_mean (recentered_isMean filled inMeans) (filled i (same ▸ inClusters)) part.ge

end Recentering

end PlaneNet
