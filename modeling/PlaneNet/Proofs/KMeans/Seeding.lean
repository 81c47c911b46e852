import PlaneNet.Proofs.Dataset
import PlaneNet.Proofs.KMeans.FixedPoint

set_option autoImplicit false

namespace PlaneNet.KMeans

variable {W R G : Type} [Scalar R] [Storage W R] [Random.Source G]

def fitInOrder (m : KMeans) (d : Dataset W) : Except Error (List (Cluster R)) := do
  let seeds ← (List.range m.k).mapM (seedAt d)
  (m.fitFrom d.samples.toList seeds).value

variable {m : KMeans} {d : Dataset W} (words : G)

theorem fit_of_lt (few : d.size < m.k) :
    m.fit (R := R) d words = ⟨d, words, [], .error (.invalidConfig (.fewSamples m.k d.size))⟩ :=
  if_pos few

theorem fit_of_le (enough : m.k ≤ d.size) :
    (m.fit (R := R) d words).data = (d.shuffle words).1 ∧
      (m.fit (R := R) d words).words = (d.shuffle words).2 ∧
      (m.fit (R := R) d words).result.value = m.fitInOrder (d.shuffle words).1 := by
  rw [fit, if_neg (Nat.not_lt.mpr enough)]
  dsimp only [fitInOrder]
  cases (List.range m.k).mapM (seedAt (R := R) (d.shuffle words).1) with
  | error e => exact ⟨rfl, rfl, rfl⟩
  | ok seeds => exact ⟨rfl, rfl, rfl⟩

theorem length_of_fitInOrder_eq_ok {clusters : List (Cluster R)} (nonempty : 0 < m.k)
    (clustered : m.fitInOrder d = .ok clusters) : clusters.length = m.k := by
  obtain ⟨seeds, -, run⟩ := (bind_eq_ok_iff _ _ _).mp clustered
  exact (fitFrom_fits nonempty run).2.1

section Sources

open Scalar (zero)

def seedOf (s : Sample W) : Cluster R := ⟨widen s.x, widen s.y, zero⟩

/--
Clustering as it should start: not at all when there are too few samples, and otherwise from the first samples of the
order that one shuffle leads to. That order is what is left behind.
-/
structure Seeds (m : KMeans) (d : Dataset W) (source : G) (shuffled : Array Nat × G)
    (fit : Dataset W × G × Reported (Except Error (List (Cluster R)))) : Prop where
  few : d.size < m.k → fit = (d, source, ⟨[], .error (.invalidConfig (.fewSamples m.k d.size))⟩)
  enough : m.k ≤ d.size →
    fit.1 = { d with order := shuffled.1 } ∧ fit.2.1 = shuffled.2 ∧
    fit.1.order.toList.Perm (List.range d.size) ∧
    ∃ (indices : List Nat) (picked : List (Sample W)), indices = fit.1.order.toList.take m.k ∧
      indices.length = m.k ∧ indices.Nodup ∧ indices.map (d.samples[·]?) = picked.map some ∧
      fit.2.2 = m.fitFrom d.samples.toList (picked.map seedOf)

theorem exists_picked (positive : 0 < m.k) (permuted : d.Permuted) (enough : m.k ≤ d.size) :
    ∃ picked : List (Sample W), (d.order.toList.take m.k).map (d.samples[·]?) = picked.map some ∧
      (List.range m.k).mapM (seedAt (R := R) d) = .ok (picked.map seedOf) := by
  have filled : 0 < d.samples.size := Nat.lt_of_lt_of_le positive enough
  let sampleAt (i : Nat) : Sample W := d.samples.getD i d.samples[0]
  have inOrder (i : Nat) (member : i ∈ d.order.toList) : d.samples[i]? = some (sampleAt i) := by
    have within : i < d.samples.size := List.mem_range.mp (permuted.mem_iff.mp member)
    simp [sampleAt, within]
  have seed (position : Nat) (member : position ∈ List.range m.k) :
      seedAt (R := R) d position = .ok (seedOf (sampleAt (d.order.toList.getD position 0))) := by
    have within : position < d.order.toList.length :=
      permuted.length_order.symm ▸ Nat.lt_of_lt_of_le (List.mem_range.mp member) enough
    have place := List.getElem?_eq_getElem within
    have visited := (Dataset.visited_eq_ok_iff _ _ _).mpr ⟨_, place, inOrder _ (List.getElem_mem within)⟩
    rw [seedAt, visited, List.getD_eq_getElem?_getD, place]
    rfl
  have firsts : (List.range m.k).map (d.order.toList.getD · 0) = d.order.toList.take m.k := by
    refine List.ext_getElem (by simp [permuted.length_order, enough]) fun position _ taken => ?_
    have within : position < d.order.toList.length := Nat.lt_of_lt_of_le taken (List.length_take_le' _ _)
    rw [List.getElem_map, List.getElem_range, List.getElem_take, List.getD_eq_getElem?_getD,
      List.getElem?_eq_getElem within, Option.getD_some]
  refine ⟨(d.order.toList.take m.k).map sampleAt, ?_, ?_⟩
  · rw [List.map_map]
    exact List.map_congr_left fun i member => inOrder i (List.mem_of_mem_take member)
  · rw [mapM_eq_ok _ seed, ← firsts, List.map_map, List.map_map]
    rfl

theorem fitInOrder_unclustered (positive : 0 < m.k) (permuted : d.Permuted) (enough : m.k ≤ d.size) {e : Error}
    (failed : m.fitInOrder d = (.error e : Except Error (List (Cluster R)))) : Unclustered e := by
  obtain ⟨picked, places, seeds⟩ := exists_picked (R := R) positive permuted enough
  have count : (picked.map (seedOf (R := R))).length = m.k := by
    have taken := congrArg List.length places
    rw [List.length_map, List.length_map, List.length_take, permuted.length_order, Nat.min_eq_left enough] at taken
    rw [List.length_map, taken]
  have filled : d.samples.toList ≠ [] := by
    have size : 0 < d.samples.size := Nat.lt_of_lt_of_le positive enough
    exact fun empty => by simp [Array.toList_eq_nil_iff.mp empty] at size
  rw [fitInOrder, seeds, ok_bind] at failed
  exact fitFrom_unclustered positive count filled failed

theorem fit_seeds (positive : 0 < m.k) (permuted : d.Permuted) :
    m.Seeds (R := R) d words (Random.Source.shuffle d.order words)
      ((m.fit d words).data, (m.fit (R := R) d words).words, (m.fit d words).result) := by
  constructor
  case few =>
    intro few
    rw [fit, if_pos few]
  case enough =>
    intro enough
    have shuffled := permuted.shuffle words
    obtain ⟨picked, places, seeds⟩ := exists_picked (R := R) positive shuffled enough
    have run : m.fit (R := R) d words =
        ⟨(d.shuffle words).1, (d.shuffle words).2, m.fitFrom d.samples.toList (picked.map seedOf)⟩ := by
      rw [fit, if_neg (Nat.not_lt.mpr enough)]
      dsimp only
      rw [seeds]
      rfl
    rw [run]
    refine ⟨rfl, rfl, shuffled, _, picked, rfl, ?_, ?_, places, rfl⟩
    · rw [List.length_take, shuffled.length_order]
      exact Nat.min_eq_left enough
    · exact (shuffled.nodup_iff.mpr List.nodup_range).sublist (List.take_sublist _ _)

variable {k : Nat} {cap : Option Nat}

theorem fit_seeds_from_different_samples (made : ofCount k cap = .ok m) (permuted : d.Permuted) :
    (∀ words, m.Seeds (R := R) d words (Random.shuffle d.order words)
      ((m.fit d words).data, (m.fit (R := R) d words).words, (m.fit d words).result)) ∧
    ∀ (G : Type) [Random.Source G] (words : G), m.Seeds (R := R) d words (Random.Source.shuffle d.order words)
      ((m.fit d words).data, (m.fit (R := R) d words).words, (m.fit d words).result) := by
  obtain ⟨positive, rfl⟩ := ofCount_eq_ok_iff.mp made
  exact ⟨fun words => fit_seeds words positive permuted, fun _ _ words => fit_seeds words positive permuted⟩

theorem fit_seeds_from_different_samples_of_three_samples :
    ∃ (m : KMeans) (d : Dataset ℚ) (words : Random.Stream),
      d = .ofSamples [⟨0, 0, .negative⟩, ⟨1, 0, .negative⟩, ⟨9, 0, .positive⟩] ∧ ofCount 2 none = .ok m ∧ d.Permuted ∧
      (Random.shuffle d.order words).1 = #[2, 0, 1] ∧
      m.Seeds (R := ℚ) d words (Random.shuffle d.order words)
        ((m.fit d words).data, (m.fit (R := ℚ) d words).words, (m.fit d words).result) ∧
      (m.fit (R := ℚ) d words).result =
        m.fitFrom d.samples.toList ([⟨9, 0, .positive⟩, ⟨0, 0, .negative⟩].map (seedOf (W := ℚ))) := by
  let d : Dataset ℚ := .ofSamples [⟨0, 0, .negative⟩, ⟨1, 0, .negative⟩, ⟨9, 0, .positive⟩]
  have made : ofCount 2 none = .ok ⟨2, none⟩ := rfl
  have permuted : d.Permuted := (Dataset.Reachable.ofSamples _).permuted
  have order : (Random.shuffle d.order (.ofSeed 7)).1 = #[2, 0, 1] := by decide +kernel
  have seeds := (fit_seeds_from_different_samples (R := ℚ) made permuted).1 (.ofSeed 7)
  refine ⟨_, d, .ofSeed 7, rfl, made, permuted, order, seeds, ?_⟩
  obtain ⟨same, -, -, indices, picked, first, -, -, places, result⟩ := seeds.enough (by decide)
  rw [same, order] at first
  rw [first] at places
  have two : [⟨9, 0, .positive⟩, ⟨0, 0, .negative⟩] = picked :=
    List.map_injective_iff.mpr (Option.some_injective _) places
  dsimp only at result
  rw [two]
  exact result

end Sources

end PlaneNet.KMeans
