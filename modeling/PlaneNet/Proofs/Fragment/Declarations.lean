import PlaneNet.Proofs.Fragment.Collisions
import PlaneNet.Proofs.Fragment.Numbering
import PlaneNet.Proofs.Fragment.Reading

set_option autoImplicit false

namespace PlaneNet.Fragment

def declaredName (line : String) : Option String := (Declaration.ofLine? line).map (·.name)

def fixedNames : List String := ["pos", "class1", "class2", "unclass"]

def declaredNames (t : Topology) : List String :=
  [unitName 0 0, unitName 0 1] ++ (lines (equations t)).filterMap declaredName ++ fixedNames

def innerUnits (t : Topology) : List (Nat × Nat) :=
  blocks (fun layer => (List.range (t.width layer)).map fun unit => (layer, unit)) t.outputLayer

section Units

variable {t : Topology}

theorem mem_innerUnits_iff {u : Nat × Nat} : u ∈ innerUnits t ↔ u.1 < t.outputLayer ∧ u.2 < t.width u.1 := by
  obtain ⟨layer, unit⟩ := u
  simp only [innerUnits, blocks, List.mem_flatMap, List.mem_range, List.mem_map, Prod.mk.injEq]
  constructor
  · rintro ⟨_, within, _, inLayer, rfl, rfl⟩
    exact ⟨within, inLayer⟩
  · rintro ⟨within, inLayer⟩
    exact ⟨layer, within, unit, inLayer, rfl, rfl⟩

theorem nodup_innerUnits (t : Topology) : (innerUnits t).Nodup := by
  rw [innerUnits, blocks, List.nodup_flatMap]
  constructor
  · intro layer _
    exact List.nodup_range.map fun unit unit' same => congrArg Prod.snd same
  · refine List.nodup_range.imp ?_
    intro layer layer' other u inFirst inSecond
    obtain ⟨unit, -, rfl⟩ := List.mem_map.mp inFirst
    obtain ⟨unit', -, same⟩ := List.mem_map.mp inSecond
    exact other (congrArg Prod.fst same).symm

theorem inputs_append_units (accepted : t.Accepted) :
    [(0, 0), (0, 1)] ++ units t = innerUnits t ++ [(t.outputLayer, 0)] := by
  have layers (n : Nat) : blocks (fun layer => (List.range (t.width layer)).map fun unit => (layer, unit)) (n + 1) =
      [(0, 0), (0, 1)] ++ blocks (layerUnits t) (n + 1) := by
    induction n with
    | zero =>
      rw [blocks_succ, accepted.input]
      rfl
    | succ n ih =>
      rw [blocks_succ, ih, blocks_succ (layerUnits t) (n + 1), List.append_assoc]
      rfl
  have whole := layers t.outputLayer
  rw [blocks_succ, accepted.output, accepted.outputLayer_add_one, ← units_eq_blocks] at whole
  exact whole.symm

theorem declaredName_lineOf (t : Topology) (u : Nat × Nat) :
    declaredName (lineOf t u) = some (variableOf t u.1 u.2).text := by
  rw [declaredName, lineOf, ofLine?_text, ← target_equationOf]
  rfl

theorem declaredNames_eq (accepted : t.Accepted) :
    declaredNames t = (innerUnits t).map (fun u => unitName u.1 u.2) ++ outputName :: fixedNames := by
  have hidden : (0 : Nat) < t.outputLayer := accepted.outputLayer_holdsSums.1
  have named : (lines (equations t)).filterMap declaredName = (units t).map fun u => (variableOf t u.1 u.2).text := by
    rw [lines_eq_map, List.filterMap_map]
    exact List.filterMap_eq_map_iff_forall_eq_some.mpr fun u _ => declaredName_lineOf t u
  have inputs : [unitName 0 0, unitName 0 1] = [(0, 0), (0, 1)].map fun u => (variableOf t u.1 u.2).text := by
    simp only [List.map_cons, List.map_nil, variableOf_of_lt hidden, Variable.text]
  rw [declaredNames, named, inputs, ← List.map_append, inputs_append_units accepted, List.map_append, List.append_assoc]
  congr 1
  · refine List.map_congr_left fun u member => ?_
    rw [variableOf_of_lt (mem_innerUnits_iff.mp member).1]
    rfl
  · rw [List.map_singleton, variableOf, if_pos rfl]
    rfl

theorem unitName_not_mem_fixedNames (layer unit : Nat) : unitName layer unit ∉ fixedNames := by
  intro member
  have heads : ∀ name ∈ fixedNames, name.toList.head? ≠ some 'v' := by decide
  refine heads _ member ?_
  rw [toList_unitName, List.head?_cons]

end Units

theorem nodup_declaredNames_iff {t : Topology} (accepted : t.Accepted) : (declaredNames t).Nodup ↔
    ∀ layer < t.outputLayer, ∀ unit < t.width layer, ∀ layer' < t.outputLayer, ∀ unit' < t.width layer',
      ¬ Shifted layer unit layer' unit' := by
  have apart : List.Disjoint ((innerUnits t).map fun u => unitName u.1 u.2) (outputName :: fixedNames) := by
    intro name inner other
    obtain ⟨u, -, rfl⟩ := List.mem_map.mp inner
    rcases List.mem_cons.mp other with output | fixed
    · exact unitName_ne_outputName u.1 u.2 output
    · exact unitName_not_mem_fixedNames u.1 u.2 fixed
  rw [declaredNames_eq accepted, List.nodup_append', List.nodup_map_iff_inj_on (nodup_innerUnits t)]
  constructor
  · rintro ⟨injective, -, -⟩ layer within unit inLayer layer' within' unit' inLayer' shifted
    have same := injective (layer, unit) (mem_innerUnits_iff.mpr ⟨within, inLayer⟩) (layer', unit')
      (mem_innerUnits_iff.mpr ⟨within', inLayer'⟩) (unitName_eq_iff.mpr (.inr (.inl shifted)))
    exact absurd (congrArg Prod.fst same) (Nat.ne_of_lt shifted.lt.2.2)
  · intro free
    refine ⟨?_, by decide, apart⟩
    rintro ⟨layer, unit⟩ member ⟨layer', unit'⟩ member' same
    obtain ⟨within, inLayer⟩ := mem_innerUnits_iff.mp member
    obtain ⟨within', inLayer'⟩ := mem_innerUnits_iff.mp member'
    rcases unitName_eq_iff.mp same with ⟨rfl, rfl⟩ | shifted | shifted
    · rfl
    · exact absurd shifted (free layer within unit inLayer layer' within' unit' inLayer')
    · exact absurd shifted (free layer' within' unit' inLayer' layer within unit inLayer)

section Wide

def oneWideLayer (below wide above : Nat) : Topology :=
  ⟨2 :: (List.replicate below 1 ++ wide :: List.replicate (above + 1) 1), false⟩

variable {below wide above layer : Nat}

theorem depth_oneWideLayer : (oneWideLayer below wide above).depth = below + above + 3 := by
  simp only [oneWideLayer, Topology.depth, List.length_cons, List.length_append, List.length_replicate]
  omega

theorem width_oneWideLayer (within : layer < below + above + 2) :
    (oneWideLayer below wide above).width (layer + 1) = if layer = below then wide else 1 := by
  rw [oneWideLayer, Topology.width, List.getD_cons_succ, List.getD_eq_getElem?_getD]
  rcases Nat.lt_trichotomy layer below with lower | rfl | higher
  · rw [List.getElem?_append_left (by rwa [List.length_replicate]), List.getElem?_replicate, if_pos lower,
      if_neg (Nat.ne_of_lt lower)]
    rfl
  · rw [List.getElem?_append_right (by rw [List.length_replicate]), List.length_replicate, Nat.sub_self, if_pos rfl]
    rfl
  · obtain ⟨past, rfl⟩ : ∃ past, layer = below + (past + 1) := ⟨layer - below - 1, by omega⟩
    rw [List.getElem?_append_right (by rw [List.length_replicate]; omega), List.length_replicate, Nat.add_sub_cancel_left,
      List.getElem?_cons_succ, List.getElem?_replicate, if_pos (by omega), if_neg (by omega)]
    rfl

theorem outputLayer_oneWideLayer : (oneWideLayer below wide above).outputLayer = below + above + 2 := by
  rw [Topology.outputLayer, ← Topology.depth, depth_oneWideLayer]
  rfl

theorem accepted_oneWideLayer (positive : 0 < wide) : (oneWideLayer below wide above).Accepted := by
  refine ⟨?_, rfl, ?_, ?_, nofun⟩
  · rw [depth_oneWideLayer]
    omega
  · rw [outputLayer_oneWideLayer, width_oneWideLayer (Nat.lt_succ_self _), if_neg (by omega)]
  · intro layer within
    rw [depth_oneWideLayer] at within
    cases layer with
    | zero => exact Nat.two_pos
    | succ layer =>
      rw [width_oneWideLayer (by omega)]
      split
      · exact positive
      · exact Nat.one_pos

theorem width_oneWideLayer_le (two : 2 ≤ wide) (layer : Nat) : (oneWideLayer below wide above).width layer ≤ wide := by
  cases layer with
  | zero => exact two
  | succ layer =>
    by_cases within : layer < below + above + 2
    · rw [width_oneWideLayer within]
      split <;> omega
    · rw [Topology.width, List.getD_eq_default]
      · exact Nat.zero_le _
      · rw [← Topology.depth, depth_oneWideLayer]
        omega

end Wide

theorem names_coincide_when_digits_shift (layer unit layer' unit' : Nat) :
    (unitName layer unit = unitName layer' unit' ↔
      layer = layer' ∧ unit = unit' ∨ Shifted layer unit layer' unit' ∨ Shifted layer' unit' layer unit) ∧
    (Shifted layer unit layer' unit' → 0xffff < layer' ∧ 0xffff < unit) ∧
    unitName layer unit ≠ outputName ∧
    ∀ sizes rbf t, Topology.ofSizes sizes rbf = .ok t → ((declaredNames t).Nodup ↔
      ∀ layer < t.outputLayer, ∀ unit < t.width layer, ∀ layer' < t.outputLayer, ∀ unit' < t.width layer',
        ¬ Shifted layer unit layer' unit') := by
  refine ⟨unitName_eq_iff, ?_, unitName_ne_outputName layer unit, ?_⟩
  · intro shifted
    exact ⟨shifted.lt.1, shifted.lt.2.1⟩
  · intro sizes rbf t accepted
    exact nodup_declaredNames_iff ((Topology.ofSizes_eq_ok_iff sizes rbf t).mp accepted).2

theorem two_units_share_a_name :
    unitName 0x1000 0x10000 = unitName 0x10001 0 ∧
      Topology.ofSizes (oneWideLayer 0xfff 0x10001 0xf001).sizes false = .ok (oneWideLayer 0xfff 0x10001 0xf001) ∧
      (oneWideLayer 0xfff 0x10001 0xf001).Fits ∧
      ¬ (declaredNames (oneWideLayer 0xfff 0x10001 0xf001)).Nodup := by
  have accepted : (oneWideLayer 0xfff 0x10001 0xf001).Accepted := accepted_oneWideLayer (by decide)
  have shifted : Shifted 0x1000 0x10000 0x10001 0 := ⟨1, by decide, by decide, rfl, rfl⟩
  refine ⟨unitName_eq_iff.mpr (.inr (.inl shifted)), (Topology.ofSizes_eq_ok_iff _ _ _).mpr ⟨rfl, accepted⟩, ?_, ?_⟩
  · refine Topology.fits_of_width_le (width_oneWideLayer_le (by decide)) ?_
    rw [depth_oneWideLayer]
    decide
  · rw [nodup_declaredNames_iff accepted]
    intro free
    refine free 0x1000 ?_ 0x10000 ?_ 0x10001 ?_ 0 ?_ shifted
    · rw [outputLayer_oneWideLayer]
      decide
    · rw [width_oneWideLayer (by decide), if_pos rfl]
      decide
    · rw [outputLayer_oneWideLayer]
      decide
    · rw [width_oneWideLayer (by decide), if_neg (by decide)]
      decide

end PlaneNet.Fragment
