import PlaneNet.Proofs.Fragment.Numbering
import PlaneNet.Proofs.Fragment.Reading
import PlaneNet.Proofs.Network.Response

set_option autoImplicit false

namespace PlaneNet.Fragment

open Network
open Scalar (zero one)

variable {W R : Type} [Scalar R] [Exponential R] [Storage W R]

section Evaluation

variable (a : Activation) (weights : List W) (known : List (String × R))

theorem values?_terms (terms : List (Nat × Variable)) (ws : List W) (vs : List R) (total : Term) (start : R)
    (entries : terms.map (fun term => weights[term.1]?) = ws.map some)
    (names : terms.map (fun term => known.lookup term.2.text) = vs.map some)
    (first : total.values? a weights known = some [.number start]) :
    (terms.foldl addTerm total).values? a weights known = some [.number (weightedSum start ws vs)] := by
  induction terms generalizing ws vs total start with
  | nil =>
    cases ws with
    | nil => exact first
    | cons w ws => cases entries
  | cons term rest ih =>
    match ws, vs, entries, names with
    | w :: ws, v :: vs, entries, names =>
      simp only [List.map_cons, List.cons.injEq] at entries names
      have next : (addTerm total term).values? a weights known = some [.number (start + widen w * v)] := by
        simp [addTerm, Term.values?, first, entries.1, names.1, number?]
      exact ih ws vs _ _ entries.2 names.2 next

theorem map_range_getElem? {α : Type} (xs : List α) (n : Nat) (length : xs.length = n) :
    (List.range n).map (fun i => xs[i]?) = xs.map some := by
  subst length
  apply List.ext_getElem?
  intro i
  by_cases within : i < xs.length
  · simp [within]
  · simp [within]

theorem declare_text {s : Statement} {v : R}
    (value : s.value.term.values? a weights known = some [.number v]) :
    declare a weights known s.text = some ((s.target.text, v) :: known) := by
  rw [declare, ofLine?_text]
  simp only [Option.bind_eq_bind, Option.bind_some, Statement.declaration, value, number?]
  rfl

end Evaluation

-- Before the line of a unit, the layer below and the units before it have their values.
structure Holds (t : Topology) (a : Activation) (weights : List W) (x y : W) (layer unit : Nat)
    (known : List (String × R)) : Prop where
  below : ∀ source < t.width (layer - 1), known.lookup (unitName (layer - 1) source) =
    (response t a weights x y (layer - 1))[source + 1]?
  level : ∀ earlier < unit, known.lookup (variableOf t layer earlier).text =
    (response t a weights x y layer)[earlier + 1]?

section Step

variable {t : Topology} {a : Activation} {weights : List W} {x y : W} {layer unit : Nat}
  {known : List (String × R)}

theorem value?_gaussian (accepted : t.Accepted) (full : weights.length = t.weightsBelow t.depth)
    (holds : Holds t a weights x y layer unit known) (gaussian : t.isGaussianLayer layer = true)
    (within : layer < t.depth) (inLayer : unit < t.width layer) :
    ∃ v, (response t a weights x y layer)[unit + 1]? = some v ∧
      (equationOf t (layer, unit)).statement.value.term.values? a weights known = some [.number v] := by
  obtain ⟨-, first⟩ := Topology.isGaussianLayer_eq_true_iff.mp gaussian
  subst first
  have three := Topology.rowLength_of_gaussian gaussian
  have long := Topology.length_row full Nat.one_pos within inLayer
  have entry (input : Nat) (inRow : input < 3) :
      weights[firstWeight t 1 unit + input]? = (t.row weights 1 unit)[input]? :=
    (Topology.getElem?_row weights unit (three.symm ▸ inRow)).symm
  have pointX := holds.below 0 (by rw [accepted.input]; decide)
  have pointY := holds.below 1 (by rw [accepted.input]; decide)
  have values := response_of_gaussian a weights x y gaussian
  rw [three, gaussianWeights] at long
  obtain ⟨meanX, meanY, variance, row⟩ := List.length_eq_three.mp long
  rw [row] at entry
  have entryX := entry 0 (by decide)
  have entryY := entry 1 (by decide)
  have entryV := entry 2 (by decide)
  refine ⟨gaussianOf (widen x) (widen y) (t.row weights 1 unit), ?_, ?_⟩
  · simp [values, inLayer]
  · rw [Nat.add_zero] at entryX
    rw [equationOf, unitEquation, if_pos gaussian, row]
    simp only [gaussianEquation, Expression.term, Term.values?, Variable.text, entryX, entryY, entryV]
    simp [pointX, pointY, response, applied?, gaussianOf]

theorem map_entries {w : W} {ws : List W} {count : Nat} (row : t.row weights layer unit = w :: ws)
    (length : ws.length = count) (wide : t.rowLength layer = count + 1) :
    weights[firstWeight t layer unit]? = some w ∧
      (List.range count).map (fun i => weights[firstWeight t layer unit + 1 + i]?) = ws.map some := by
  have entry (input : Nat) (inRow : input < t.rowLength layer) :
      weights[firstWeight t layer unit + input]? = (w :: ws)[input]? := by
    rw [← row]
    exact (Topology.getElem?_row weights unit inRow).symm
  constructor
  · have first := entry 0 (by omega)
    rw [Nat.add_zero] at first
    exact first
  · rw [← map_range_getElem? ws count length]
    refine List.map_congr_left fun i member => ?_
    have inRow := List.mem_range.mp member
    rw [Nat.add_assoc, Nat.add_comm 1, entry (i + 1) (by omega)]
    rfl

theorem Holds.map_names (holds : Holds t a weights x y layer unit known) {v : R} {vs : List R}
    (values : response t a weights x y (layer - 1) = v :: vs) (length : vs.length = t.width (layer - 1)) :
    (List.range (t.width (layer - 1))).map (fun i => known.lookup (unitName (layer - 1) i)) = vs.map some := by
  rw [← map_range_getElem? vs _ length]
  refine List.map_congr_left fun i member => ?_
  rw [holds.below i (List.mem_range.mp member), values]
  rfl

-- The sum of a forward pass starts at zero and adds the bias weight times one, the text starts at the bias weight.
theorem value?_sums (law : ∀ v : R, zero + v * one = v) (accepted : t.Accepted)
    (full : weights.length = t.weightsBelow t.depth) (holds : Holds t a weights x y layer unit known)
    (sums : t.HoldsSums layer) (within : layer < t.depth) (inLayer : unit < t.width layer) :
    ∃ v, (response t a weights x y layer)[unit + 1]? = some v ∧
      (equationOf t (layer, unit)).statement.value.term.values? a weights known = some [.number v] := by
  have width := Topology.rowLength_of_sums sums
  have long := Topology.length_row full sums.1 within inLayer
  have wide := length_response a weights x y accepted (layer - 1)
  have bias := response_bias a weights x y t (layer - 1)
  rw [width] at long
  obtain ⟨w, ws, row⟩ := List.exists_cons_of_length_eq_add_one long
  obtain ⟨v, vs, values⟩ := List.exists_cons_of_length_eq_add_one wide
  rw [row, List.length_cons, Nat.add_right_cancel_iff] at long
  rw [values, List.length_cons, Nat.add_right_cancel_iff] at wide
  rw [values] at bias
  cases bias
  obtain ⟨first, entries⟩ := map_entries row long width
  have names := holds.map_names values wide
  have start : (Term.entry weightsName (firstWeight t layer unit)).values? a weights known =
      some [.number (widen w)] := by
    simp [Term.values?, first]
  have whole := values?_terms a weights known
    ((List.range (t.width (layer - 1))).map fun i =>
      (firstWeight t layer unit + 1 + i, Variable.unit (layer - 1) (0 + i)))
    ws vs _ _ (by rw [List.map_map]; exact entries)
    (by rw [List.map_map]; simp only [Function.comp_def, Nat.zero_add]; exact names) start
  refine ⟨a.apply (weightedSum (widen w) ws vs), ?_, ?_⟩
  · have same : weightedSum zero (w :: ws) (one :: vs) = weightedSum (widen w) ws vs := by
      rw [weightedSum, law]
    rw [response_of_sums a weights x y sums, List.getElem?_cons_succ, responseSums, if_pos sums]
    simp [inLayer, row, values, same]
  · rw [equationOf, unitEquation, if_neg (by simp [sums.2])]
    simp only [sumEquation, terms_eq, Expression.term, Term.values?, whole]
    rfl

-- Only names of the layer below and of earlier units are still to be read, and the new one is none of these.
theorem Holds.declared (accepted : t.Accepted) (holds : Holds t a weights x y layer unit known)
    (above : 0 < layer) (within : layer < t.depth) (inLayer : unit < t.width layer) {v : R}
    (value : (response t a weights x y layer)[unit + 1]? = some v) :
    Holds t a weights x y layer (unit + 1) (((variableOf t layer unit).text, v) :: known) := by
  have last : layer < t.outputLayer ∨ layer = t.outputLayer := by
    simp only [Topology.outputLayer, Topology.depth] at *
    omega
  constructor
  · intro source inBelow
    have other : unitName (layer - 1) source ≠ (variableOf t layer unit).text := by
      rcases last with lower | output
      · have names := unitName_ne_of_succ (layer - 1) source unit
        rw [Nat.sub_add_cancel above] at names
        rw [variableOf_of_lt lower]
        exact names
      · rw [variableOf, if_pos output]
        exact unitName_ne_outputName _ _
    rw [List.lookup_cons, beq_false_of_ne other]
    exact holds.below source inBelow
  · intro earlier before
    rcases Nat.lt_succ_iff_lt_or_eq.mp before with earlier' | rfl
    · have lower : layer < t.outputLayer := by
        rcases last with lower | output
        · exact lower
        · rw [output, accepted.output] at inLayer
          omega
      have other : (variableOf t layer earlier).text ≠ (variableOf t layer unit).text := by
        rw [variableOf_of_lt lower, variableOf_of_lt lower]
        intro same
        exact absurd (unitName_injective same) (by omega)
      rw [List.lookup_cons, beq_false_of_ne other]
      exact holds.level earlier earlier'
    · rw [List.lookup_cons_self, value]

theorem declare_line (law : ∀ v : R, zero + v * one = v) (accepted : t.Accepted)
    (full : weights.length = t.weightsBelow t.depth) (holds : Holds t a weights x y layer unit known)
    (above : 0 < layer) (within : layer < t.depth) (inLayer : unit < t.width layer) :
    ∃ v, (response t a weights x y layer)[unit + 1]? = some v ∧
      declare a weights known (lineOf t (layer, unit)) =
        some (((variableOf t layer unit).text, v) :: known) := by
  have target : (equationOf t (layer, unit)).statement.target = variableOf t layer unit := by
    rw [equationOf, unitEquation]
    split <;> rfl
  have value : ∃ v, (response t a weights x y layer)[unit + 1]? = some v ∧
      (equationOf t (layer, unit)).statement.value.term.values? a weights known = some [.number v] := by
    cases gaussian : t.isGaussianLayer layer with
    | true => exact value?_gaussian accepted full holds gaussian within inLayer
    | false => exact value?_sums law accepted full holds ⟨above, gaussian⟩ within inLayer
  obtain ⟨v, stored, value⟩ := value
  refine ⟨v, stored, ?_⟩
  rw [lineOf, declare_text a weights known value, target]

end Step

end PlaneNet.Fragment
