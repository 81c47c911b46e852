import Mathlib.Order.Lattice
import PlaneNet.Proofs.KMeans.Fitting

set_option autoImplicit false

namespace PlaneNet

section Least

variable {K : Type} [LinearOrder K]

structure FirstLeast (keys : List K) (i : Nat) (k : K) : Prop where
  found : keys[i]? = some k
  least : ∀ other ∈ keys, k ≤ other
  first : ∀ other ∈ keys.take i, k < other

namespace FirstLeast

variable {keys : List K} {i : Nat} {k next : K}

theorem single (k : K) : FirstLeast [k] 0 k := ⟨rfl, by simp, by simp⟩

theorem index_lt (holds : FirstLeast keys i k) : i < keys.length := (List.getElem?_eq_some_iff.mp holds.found).1

theorem concat_of_lt (holds : FirstLeast keys i k) (less : next < k) :
    FirstLeast (keys ++ [next]) keys.length next where
  found := List.getElem?_concat_length
  least other member := by
    rcases List.mem_append.mp member with before | last
    · exact less.le.trans (holds.least other before)
    · rw [List.mem_singleton.mp last]
  first other member := by
    rw [List.take_left] at member
    exact less.trans_le (holds.least other member)

theorem concat_of_le (holds : FirstLeast keys i k) (notLess : k ≤ next) : FirstLeast (keys ++ [next]) i k where
  found := by rw [List.getElem?_append_left holds.index_lt, holds.found]
  least other member := by
    rcases List.mem_append.mp member with before | last
    · exact holds.least other before
    · rw [List.mem_singleton.mp last]
      exact notLess
  first other member := by
    rw [List.take_append_of_le_length (Nat.le_of_lt holds.index_lt)] at member
    exact holds.first other member

end FirstLeast

end Least

variable {R : Type} [Scalar R]

open Scalar (lt le belowInfinity)

/-- Numbers that compare as their ranks do. None ranks above `top`, and those of this rank are not below infinity. -/
structure Ranked {K : Type} [LinearOrder K] (number : R → Prop) (rank : R → K) (top : K) : Prop where
  lt_iff : ∀ {a b : R}, number a → number b → (lt a b = true ↔ rank a < rank b)
  le_iff : ∀ {a b : R}, number a → number b → (le a b = true ↔ rank a ≤ rank b)
  belowInfinity_iff : ∀ {a : R}, number a → (belowInfinity a = true ↔ rank a < top)
  le_top : ∀ a : R, rank a ≤ top

structure FirstNearest (clusters : List (Cluster R)) (x y : R) (i : Nat) (c : Cluster R) : Prop where
  found : clusters[i]? = some c
  least : ∀ (j : Nat) (d : Cluster R), clusters[j]? = some d → le (c.distanceSq x y) (d.distanceSq x y) = true
  first : ∀ j < i, ∀ d : Cluster R, clusters[j]? = some d → lt (c.distanceSq x y) (d.distanceSq x y) = true

section Scan

variable {K : Type} [LinearOrder K] {number : R → Prop} {rank : R → K} {top : K} (x y : R)

def distanceRanks (rank : R → K) (x y : R) (clusters : List (Cluster R)) : List K :=
  clusters.map fun c => rank (c.distanceSq x y)

variable (ranked : Ranked number rank top)

include ranked

namespace Ranked

theorem nearer_iff {d : R} (isNumber : number d) {distance : Option R} (held : ∀ best ∈ distance, number best) :
    nearer d distance = true ↔ rank d < distance.elim top rank := by
  cases distance with
  | none => exact ranked.belowInfinity_iff isNumber
  | some best => exact ranked.lt_iff isNumber (held best rfl)

-- The invariant of the scan is that it holds the first of the nearest centers behind it, `done`.
theorem nearestFrom_firstLeast {done : List (Cluster R)} {best : Nat} {distance : Option R} (rest : List (Cluster R))
    (held : ∀ best ∈ distance, number best) (numbers : ∀ c ∈ rest, number (c.distanceSq x y))
    (before : FirstLeast (distanceRanks rank x y done) best (distance.elim top rank)) :
    ∃ k, FirstLeast (distanceRanks rank x y (done ++ rest)) (nearestFrom x y done.length best distance rest) k := by
  induction rest generalizing done best distance with
  | nil => exact ⟨_, by simpa [nearestFrom] using before⟩
  | cons c rest ih =>
    obtain ⟨isNumber, others⟩ := List.forall_mem_cons.mp numbers
    have behind : done ++ c :: rest = (done ++ [c]) ++ rest := by simp
    have length : done.length + 1 = (done ++ [c]).length := by simp
    have ranks : distanceRanks rank x y (done ++ [c]) = distanceRanks rank x y done ++ [rank (c.distanceSq x y)] := by
      simp [distanceRanks]
    rw [behind, nearestFrom, length]
    by_cases closer : rank (c.distanceSq x y) < distance.elim top rank
    · rw [if_pos ((ranked.nearer_iff isNumber held).mpr closer)]
      refine ih (by simpa using isNumber) others ?_
      have now := before.concat_of_lt closer
      rwa [← ranks, show (distanceRanks rank x y done).length = done.length from List.length_map _] at now
    · rw [if_neg (mt (ranked.nearer_iff isNumber held).mp closer)]
      refine ih held others ?_
      rw [ranks]
      exact before.concat_of_le (not_lt.mp closer)

theorem nearest_firstLeast {clusters : List (Cluster R)} (nonempty : clusters ≠ [])
    (numbers : ∀ c ∈ clusters, number (c.distanceSq x y)) :
    ∃ k, FirstLeast (distanceRanks rank x y clusters) (nearest clusters x y) k := by
  obtain ⟨c, rest, rfl⟩ := List.exists_cons_of_ne_nil nonempty
  obtain ⟨isNumber, others⟩ := List.forall_mem_cons.mp numbers
  have alone : FirstLeast (distanceRanks rank x y [c]) 0 (rank (c.distanceSq x y)) := .single _
  have none : ∀ best ∈ (none : Option R), number best := by simp
  rw [nearest, nearestFrom]
  by_cases below : rank (c.distanceSq x y) < top
  · rw [if_pos ((ranked.nearer_iff isNumber none).mpr below)]
    have first : ∀ best ∈ some (c.distanceSq x y), number best := by simpa using isNumber
    exact ranked.nearestFrom_firstLeast x y rest first others alone
  · -- The first center is as far as can be and stands in until one is nearer.
    rw [if_neg (mt (ranked.nearer_iff isNumber none).mp below)]
    rw [(ranked.le_top _).eq_of_not_lt below] at alone
    exact ranked.nearestFrom_firstLeast x y rest none others alone

theorem nearest_firstNearest {clusters : List (Cluster R)} (nonempty : clusters ≠ [])
    (numbers : ∀ c ∈ clusters, number (c.distanceSq x y)) :
    ∃ c, FirstNearest clusters x y (nearest clusters x y) c := by
  obtain ⟨k, ranks, least, first⟩ := ranked.nearest_firstLeast x y nonempty numbers
  rw [distanceRanks, List.getElem?_map] at ranks
  obtain ⟨c, found, rfl⟩ := Option.map_eq_some_iff.mp ranks
  have isNumber := numbers c (List.mem_of_getElem? found)
  refine ⟨c, found, fun j d there => ?_, fun j before d there => ?_⟩
  · have member := List.mem_of_getElem? there
    exact (ranked.le_iff isNumber (numbers d member)).mpr (least _ (List.mem_map_of_mem member))
  · have taken : d ∈ clusters.take (nearest clusters x y) := by
      apply List.mem_of_getElem? (i := j)
      rw [List.getElem?_take_of_lt before, there]
    refine (ranked.lt_iff isNumber (numbers d (List.mem_of_mem_take taken))).mpr (first _ ?_)
    rw [distanceRanks, ← List.map_take]
    exact List.mem_map_of_mem taken

end Ranked

end Scan

end PlaneNet
