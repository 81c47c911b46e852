import Mathlib.Data.List.GetD
import Mathlib.Tactic.SplitIfs
import PlaneNet.Topology

set_option autoImplicit false

namespace PlaneNet.Topology

structure Accepted (t : Topology) : Prop where
  two_le_depth : 2 ≤ t.depth
  input : t.width 0 = 2
  output : t.width t.outputLayer = 1
  positive : ∀ layer < t.depth, 0 < t.width layer
  three_le_depth : t.rbf = true → 3 ≤ t.depth

theorem findIdx?_zero_eq_none_iff (sizes : List Nat) :
    sizes.findIdx? (· = 0) = none ↔ ∀ layer < sizes.length, 0 < sizes.getD layer 0 := by
  rw [List.findIdx?_eq_none_iff]
  constructor
  · intro all layer within
    rw [List.getD_eq_getElem _ _ within]
    simpa [Nat.pos_iff_ne_zero] using all _ (List.getElem_mem within)
  · intro all x member
    obtain ⟨layer, within, rfl⟩ := List.mem_iff_getElem.mp member
    have positive := all layer within
    rw [List.getD_eq_getElem _ _ within] at positive
    simpa [Nat.pos_iff_ne_zero] using positive

theorem fault?_eq_none_iff (sizes : List Nat) (rbf : Bool) :
    fault? sizes rbf = none ↔ (⟨sizes, rbf⟩ : Topology).Accepted := by
  cases sizes with
  | nil =>
    refine ⟨fun none => by simp [fault?] at none, fun accepted => ?_⟩
    exact absurd accepted.two_le_depth (by simp [depth])
  | cons input rest =>
    have last : (input :: rest).getLast? = some ((input :: rest).getD rest.length 0) := by
      rw [List.getLast?_eq_getElem?]
      simp [List.getD_eq_getElem?_getD]
    have positive := findIdx?_zero_eq_none_iff (input :: rest)
    simp only [fault?, List.head?_cons, last]
    constructor
    · intro none
      cases found : (input :: rest).findIdx? (· = 0) with
      | some layer =>
        rw [found] at none
        split_ifs at none
      | none =>
        rw [found] at none
        split_ifs at none with short wide high room
        exact
          { two_le_depth := Nat.le_of_not_lt short
            input := not_not.mp wide
            output := not_not.mp high
            positive := positive.mp found
            three_le_depth := fun holds => by simpa [show rbf = true from holds, depth] using room }
    · intro accepted
      have short := Nat.not_lt.mpr accepted.two_le_depth
      have wide := accepted.input
      have high := accepted.output
      have room := accepted.three_le_depth
      simp only [width, List.getD_cons_zero] at wide
      simp only [width, outputLayer, List.length_cons, Nat.add_sub_cancel] at high
      simp only [depth] at short room
      rw [if_neg short, if_neg (by simpa [inputWidth] using wide),
        if_neg (by simpa [outputWidth] using high), positive.mpr accepted.positive]
      simpa using room

theorem ofSizes_eq_ok_iff (sizes : List Nat) (rbf : Bool) (t : Topology) :
    ofSizes sizes rbf = .ok t ↔ t = ⟨sizes, rbf⟩ ∧ t.Accepted := by
  rw [ofSizes]
  cases found : fault? sizes rbf with
  | some cause =>
    simp only [reduceCtorEq, false_iff, not_and]
    rintro rfl accepted
    simp [(fault?_eq_none_iff sizes rbf).mpr accepted] at found
  | none =>
    have accepted := (fault?_eq_none_iff sizes rbf).mp found
    constructor
    · intro same
      cases same
      exact ⟨rfl, accepted⟩
    · rintro ⟨rfl, _⟩
      rfl

def HoldsSums (t : Topology) (layer : Nat) : Prop := 0 < layer ∧ t.isGaussianLayer layer = false

instance (t : Topology) (layer : Nat) : Decidable (t.HoldsSums layer) :=
  inferInstanceAs (Decidable (0 < layer ∧ t.isGaussianLayer layer = false))

variable {t : Topology}

theorem isGaussianLayer_one : t.isGaussianLayer 1 = t.rbf := by simp [isGaussianLayer]

theorem isGaussianLayer_of_one_lt {layer : Nat} (above : 1 < layer) :
    t.isGaussianLayer layer = false := by
  have other : ¬ layer = 1 := by omega
  simp [isGaussianLayer, other]

theorem holdsSums_succ {layer : Nat} (sums : t.HoldsSums layer) : t.HoldsSums (layer + 1) :=
  ⟨Nat.succ_pos _, isGaussianLayer_of_one_lt (Nat.succ_lt_succ sums.1)⟩

theorem holdsSums_of_le {layer higher : Nat} (sums : t.HoldsSums layer) (above : layer ≤ higher) :
    t.HoldsSums higher := by
  induction above with
  | refl => exact sums
  | step _ ih => exact holdsSums_succ ih

theorem isGaussianLayer_eq_true_iff {layer : Nat} :
    t.isGaussianLayer layer = true ↔ t.rbf = true ∧ layer = 1 := by
  simp [isGaussianLayer]

theorem gaussianUnits_eq_some_iff {k : Nat} : t.gaussianUnits = some k ↔ t.rbf = true ∧ t.width 1 = k := by
  rw [gaussianUnits]
  cases t.rbf with
  | false => simp
  | true => simp

theorem gaussianUnits_eq_none_iff : t.gaussianUnits = none ↔ t.rbf = false := by
  rw [gaussianUnits]
  cases t.rbf with
  | false => simp
  | true => simp

namespace Accepted

variable (accepted : t.Accepted)

include accepted

theorem sizes_ne_nil : t.sizes ≠ [] := by
  intro empty
  have := accepted.two_le_depth
  simp [depth, empty] at this

theorem outputLayer_add_one : t.outputLayer + 1 = t.depth := by
  have := accepted.two_le_depth
  simp only [outputLayer, depth] at *
  omega

theorem outputLayer_lt : t.outputLayer < t.depth :=
  Nat.le_of_eq accepted.outputLayer_add_one

theorem le_outputLayer {layer : Nat} (within : layer < t.depth) : layer ≤ t.outputLayer :=
  Nat.le_of_lt_succ (Nat.lt_of_lt_of_eq within accepted.outputLayer_add_one.symm)

theorem lt_width_outputLayer_iff {unit : Nat} : unit < t.width t.outputLayer ↔ unit = 0 := by
  rw [accepted.output, Nat.lt_one_iff]

theorem hidden_add_one_lt {layer : Nat} (hidden : layer < t.outputLayer) : layer + 1 < t.depth :=
  accepted.outputLayer_add_one ▸ Nat.add_lt_add_right hidden 1

theorem outputLayer_holdsSums : t.HoldsSums t.outputLayer := by
  have two := accepted.two_le_depth
  have three := accepted.three_le_depth
  simp only [HoldsSums, isGaussianLayer, outputLayer, depth] at *
  cases gaussian : t.rbf with
  | false => exact ⟨by omega, by simp⟩
  | true =>
    have := three gaussian
    exact ⟨by omega, by simp; omega⟩

theorem mem_trainedLayers_iff {layer : Nat} :
    layer ∈ t.trainedLayers ↔ t.HoldsSums layer ∧ layer < t.depth := by
  have two := accepted.two_le_depth
  have three := accepted.three_le_depth
  simp only [trainedLayers, List.mem_range'_1, firstTrained, HoldsSums, isGaussianLayer]
  cases gaussian : t.rbf with
  | false => simp; omega
  | true =>
    have := three gaussian
    simp
    omega

theorem gaussianUnits_pos {k : Nat} (units : t.gaussianUnits = some k) : 0 < k := by
  obtain ⟨-, rfl⟩ := gaussianUnits_eq_some_iff.mp units
  exact accepted.positive 1 accepted.two_le_depth

theorem firstTrained_le {layer : Nat} (sums : t.HoldsSums layer) (within : layer < t.depth) :
    t.firstTrained ≤ layer :=
  (List.mem_range'_1.mp (accepted.mem_trainedLayers_iff.mpr ⟨sums, within⟩)).1

end Accepted

end PlaneNet.Topology
