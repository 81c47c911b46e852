import Mathlib.Data.List.Infix
import PlaneNet.Proofs.Fragment.Declarations

set_option autoImplicit false

namespace PlaneNet.Fragment

def opening : List Char := ['w', 'e', 'i', 'g', 'h', 't', 's', '[']

def digitsAfter (cs : List Char) : List Char := (cs.drop opening.length).takeWhile Decimal.isDigit

/-- The word `weights` and a decimal number in brackets, when a text starts with them. -/
def weightAt? (cs : List Char) : Option String :=
  if opening <+: cs ∧ digitsAfter cs ≠ [] ∧ (cs.drop (opening.length + (digitsAfter cs).length)).head? = some ']'
  then some (String.ofList (opening ++ digitsAfter cs ++ [']']))
  else none

def weightsIn (text : String) : List String := text.toList.tails.filterMap weightAt?

def occurrences (pattern text : String) : Nat := text.toList.tails.countP pattern.toList.isPrefixOf

section Entries

theorem toList_weightText (i : Nat) : (weightText i).toList = opening ++ Nat.toDigits 10 i ++ [']'] := by
  rw [weightText, String.toList_append, String.toList_append, String.toList_append, Nat.toString_eq_repr, Nat.toList_repr]
  rfl

theorem weightText_injective {i j : Nat} (same : weightText i = weightText j) : i = j := by
  have chars := congrArg String.toList same
  rw [toList_weightText, toList_weightText] at chars
  have digits := List.append_cancel_left (List.append_cancel_right chars)
  rw [← Decimal.value_toDigits i, digits, Decimal.value_toDigits]

theorem weightAt?_weightText (i : Nat) (rest : List Char) :
    weightAt? ((weightText i).toList ++ rest) = some (weightText i) := by
  have number (c : Char) (member : c ∈ Nat.toDigits 10 i) : Decimal.isDigit c = true :=
    List.all_eq_true.mp (Decimal.all_isDigit_toDigits i) c member
  have digits : digitsAfter (opening ++ (Nat.toDigits 10 i ++ ']' :: rest)) = Nat.toDigits 10 i := by
    rw [digitsAfter, List.drop_left, List.takeWhile_append_of_pos number, List.takeWhile_cons_of_neg (by decide),
      List.append_nil]
  have text : (weightText i).toList ++ rest = opening ++ (Nat.toDigits 10 i ++ ']' :: rest) := by
    simp [toList_weightText]
  rw [text, weightAt?, digits, if_pos, ← toList_weightText, String.ofList_toList]
  refine ⟨List.prefix_append _ _, Nat.toDigits_ne_nil, ?_⟩
  rw [← List.drop_drop, List.drop_left, List.drop_left, List.head?_cons]

theorem weightAt?_of_ne {c : Char} (other : c ≠ 'w') (cs : List Char) : weightAt? (c :: cs) = none := by
  refine if_neg fun ⟨starts, _⟩ => ?_
  exact other (List.cons_prefix_cons.mp starts).1.symm

theorem toList_prefix_of_weightAt? {cs : List Char} {entry : String} (found : weightAt? cs = some entry) :
    entry.toList <+: cs := by
  rw [weightAt?] at found
  split at found
  next starts =>
    obtain ⟨⟨rest, rfl⟩, -, closed⟩ := starts
    have split : digitsAfter (opening ++ rest) <+: rest := by
      rw [digitsAfter, List.drop_left]
      exact List.takeWhile_prefix _
    generalize digitsAfter (opening ++ rest) = digits at found closed split
    obtain ⟨after, rfl⟩ := split
    rw [← List.drop_drop, List.drop_left, List.drop_left] at closed
    cases after with
    | nil => cases closed
    | cons c after =>
      cases closed
      cases found
      exact ⟨after, by simp⟩
  next => cases found

theorem weightAt?_eq_iff {cs : List Char} {i : Nat} :
    weightAt? cs = some (weightText i) ↔ (weightText i).toList <+: cs := by
  constructor
  · exact toList_prefix_of_weightAt?
  · rintro ⟨rest, rfl⟩
    exact weightAt?_weightText i rest

theorem occurrences_weightText (i : Nat) (text : String) :
    occurrences (weightText i) text = (weightsIn text).count (weightText i) := by
  rw [weightsIn, List.count_filterMap, occurrences]
  refine List.countP_congr fun cs _ => ?_
  rw [List.isPrefixOf_iff_prefix, beq_iff_eq, weightAt?_eq_iff]

-- The number goes on to the bracket, so neither of the two entries stands in the other.
example : weightsIn "weights[1] + weights[10] * weight[1]" = ["weights[1]", "weights[10]"] := by decide

end Entries

section Scanning

/-- What is found in a text, whatever comes after it. No entry may start in the text and end behind it. -/
def Finds (text : String) (found : List String) : Prop :=
  ∀ rest, (text.toList ++ rest).tails.filterMap weightAt? = found ++ rest.tails.filterMap weightAt?

variable {front back : String} {found later : List String}

theorem Finds.append (first : Finds front found) (second : Finds back later) :
    Finds (front ++ back) (found ++ later) := by
  intro rest
  rw [String.toList_append, List.append_assoc, first, second, List.append_assoc]

theorem filterMap_tails_of_not_mem {cs : List Char} (silent : 'w' ∉ cs) (rest : List Char) :
    (cs ++ rest).tails.filterMap weightAt? = rest.tails.filterMap weightAt? := by
  induction cs with
  | nil => rfl
  | cons c cs ih =>
    have other : c ≠ 'w' := fun same => silent (same ▸ .head cs)
    have others : 'w' ∉ cs := fun member => silent (.tail c member)
    rw [List.cons_append, List.tails_cons, List.filterMap_cons_none (weightAt?_of_ne other _), ih others]

theorem finds_nothing (silent : 'w' ∉ front.toList) : Finds front [] := filterMap_tails_of_not_mem silent

-- Behind its first letter an entry has no other one that could start an entry.
theorem finds_weight (i : Nat) : Finds (weightText i) [weightText i] := by
  intro rest
  have found := weightAt?_weightText i rest
  have text : (weightText i).toList = 'w' :: (opening.tail ++ Nat.toDigits 10 i ++ [']']) := by
    rw [toList_weightText]
    rfl
  have silent : 'w' ∉ opening.tail ++ Nat.toDigits 10 i ++ [']'] := by
    intro member
    simp only [List.mem_append] at member
    rcases member with (word | digit) | bracket
    · exact absurd word (by decide)
    · exact absurd (List.all_eq_true.mp (Decimal.all_isDigit_toDigits i) _ digit) (by decide)
    · exact absurd bracket (by decide)
  rw [text, List.cons_append] at found ⊢
  rw [List.tails_cons, List.filterMap_cons_some found, filterMap_tails_of_not_mem silent]
  rfl

theorem finds_variable (v : Variable) : Finds v.text [] := by
  refine finds_nothing ?_
  cases v with
  | unit layer index =>
    have apart (d : Nat) (small : d < 16) : 'w' ≠ d.digitChar := by interval_cases d <;> decide
    have number (n : Nat) : 'w' ∉ (hexName n).toList := by
      intro member
      obtain ⟨d, small, same⟩ := exists_digit_of_mem_hexName n member
      exact apart d small same
    rw [Variable.text, toList_unitName, List.mem_cons, List.mem_append, not_or, not_or]
    exact ⟨by decide, number layer, number index⟩
  | output => decide

theorem finds_term (term : Nat × Variable) : Finds (termText term) [weightText term.1] := by
  have plus : Finds " + " [] := finds_nothing (by decide)
  have times : Finds " * " [] := finds_nothing (by decide)
  exact ((plus.append (finds_weight term.1)).append times).append (finds_variable term.2)

theorem finds_terms (terms : List (Nat × Variable)) :
    Finds (String.join (terms.map termText)) (terms.map fun term => weightText term.1) := by
  induction terms with
  | nil => exact fun _ => rfl
  | cons term rest ih =>
    rw [List.map_cons, String.join_cons]
    exact (finds_term term).append ih

def Expression.weights : Expression → List Nat
  | .gaussian _ _ meanX meanY variance => [meanX, meanY, variance]
  | .activated bias terms => bias :: terms.map Prod.fst

theorem finds_expression (e : Expression) : Finds e.text (e.weights.map weightText) := by
  have comma : Finds ", " [] := finds_nothing (by decide)
  have close : Finds ")" [] := finds_nothing (by decide)
  cases e with
  | gaussian x y meanX meanY variance =>
    have call : Finds "rbf(vec2(" [] := finds_nothing (by decide)
    have between : Finds "), vec2(" [] := finds_nothing (by decide)
    have after : Finds "), " [] := finds_nothing (by decide)
    have point := ((call.append (finds_variable x)).append comma).append (finds_variable y)
    have mean := ((point.append between).append (finds_weight meanX)).append comma
    exact (((mean.append (finds_weight meanY)).append after).append (finds_weight variance)).append close
  | activated bias terms =>
    have call : Finds "activate(" [] := finds_nothing (by decide)
    have front := (call.append (finds_weight bias)).append (finds_terms terms)
    have numbers : [] ++ [weightText bias] ++ terms.map (fun term => weightText term.1) ++ [] =
        (Expression.activated bias terms).weights.map weightText := by
      simp [Expression.weights]
    rw [← numbers]
    exact front.append close

theorem finds_statement (s : Statement) : Finds s.text (s.value.weights.map weightText) := by
  have float : Finds "  float " [] := finds_nothing (by decide)
  have equals : Finds " = " [] := finds_nothing (by decide)
  have ends : Finds ";\n" [] := finds_nothing (by decide)
  have front := (float.append (finds_variable s.target)).append equals
  have whole := (front.append (finds_expression s.value)).append ends
  simpa [Statement.text] using whole

theorem finds_lines (es : List Equation) :
    Finds (String.join (lines es)) ((es.flatMap (·.statement.value.weights)).map weightText) := by
  induction es with
  | nil => exact fun _ => rfl
  | cons e es ih =>
    have whole := (finds_statement e.statement).append ih
    rw [← List.map_append] at whole
    rw [lines, List.map_cons, String.join_cons]
    exact whole

theorem weightsIn_lines (es : List Equation) :
    weightsIn (String.join (lines es)) = (es.flatMap (·.statement.value.weights)).map weightText := by
  have whole := finds_lines es []
  rw [List.append_nil] at whole
  rw [weightsIn, whole, show ([] : List Char).tails.filterMap weightAt? = [] from rfl, List.append_nil]

end Scanning

section Numbers

variable (t : Topology)

theorem weights_unitEquation (layer unit next : Nat) : (unitEquation t layer unit next).statement.value.weights =
    List.range' next (unitEquation t layer unit next).reads.length := by
  rw [unitEquation]
  split
  · rfl
  · simp only [sumEquation, terms_eq, Expression.weights, List.map_map, List.length_cons, List.length_map,
      List.length_range, List.range'_succ, List.range'_eq_map_range, Function.comp_def]

theorem weights_equationsFrom (next : Nat) (us : List (Nat × Nat)) :
    (equationsFrom t next us).flatMap (·.statement.value.weights) =
      List.range' next (weightOrder (equationsFrom t next us)).length := by
  induction us generalizing next with
  | nil => rfl
  | cons u us ih =>
    have first := weights_unitEquation t u.1 u.2 next
    have later := ih (next + (unitEquation t u.1 u.2 next).reads.length)
    rw [weightOrder] at later ⊢
    rw [equationsFrom, List.flatMap_cons, List.flatMap_cons, first, later, List.length_append, List.range'_append_1]

theorem weights_equations : (equations t).flatMap (·.statement.value.weights) = List.range (t.weightsBelow t.depth) := by
  rw [equations, weights_equationsFrom, ← equations, weightOrder_equations, Topology.length_connections,
    List.range_eq_range']

end Numbers

section Names

def Term.names : Term → List String
  | .name w => [w]
  | .entry _ _ => []
  | .sum left right => left.names ++ right.names
  | .product left right => left.names ++ right.names
  | .listed front last => front.names ++ last.names
  | .call _ arguments => arguments.names

def Expression.variables : Expression → List Variable
  | .gaussian x y _ _ _ => [x, y]
  | .activated _ terms => terms.map Prod.snd

theorem names_addTerm (total : Term) (terms : List (Nat × Variable)) :
    (terms.foldl addTerm total).names = total.names ++ terms.map fun term => term.2.text := by
  induction terms generalizing total with
  | nil => exact (List.append_nil _).symm
  | cons term rest ih =>
    rw [List.foldl_cons, ih, List.map_cons]
    exact List.append_assoc total.names [term.2.text] _

theorem names_term (e : Expression) : e.term.names = e.variables.map Variable.text := by
  cases e with
  | gaussian x y meanX meanY variance => rfl
  | activated bias terms =>
    rw [Expression.variables, List.map_map]
    exact names_addTerm _ terms

theorem exists_unit_of_reads (t : Topology) (layer unit next : Nat) {v : Variable}
    (member : v ∈ (unitEquation t layer unit next).statement.value.variables) : ∃ below source, v = .unit below source := by
  rw [unitEquation] at member
  split at member
  · have point : v ∈ [Variable.unit 0 0, .unit 0 1] := member
    rcases List.mem_pair.mp point with rfl | rfl
    · exact ⟨0, 0, rfl⟩
    · exact ⟨0, 1, rfl⟩
  · simp only [sumEquation, terms_eq, Expression.variables, List.map_map, List.mem_map, Function.comp_apply] at member
    obtain ⟨source, -, rfl⟩ := member
    exact ⟨layer - 1, 0 + source, rfl⟩

theorem outputName_not_mem_names (t : Topology) (u : Nat × Nat) :
    outputName ∉ (equationOf t u).statement.declaration.value.names := by
  intro member
  rw [Statement.declaration, names_term, List.mem_map] at member
  obtain ⟨v, reads, same⟩ := member
  obtain ⟨below, source, rfl⟩ := exists_unit_of_reads t u.1 u.2 _ reads
  exact unitName_ne_outputName below source same

end Names

structure ReadsEachWeightOnce (text : String) (count : Nat) : Prop where
  inOrder : weightsIn text = (List.range count).map fun i => "weights[" ++ toString i ++ "]"
  once : ∀ i < count, occurrences ("weights[" ++ toString i ++ "]") text = 1
  never : ∀ i, count ≤ i → occurrences ("weights[" ++ toString i ++ "]") text = 0

structure DeclaresEachUnitOnce (t : Topology) (lines : List String) : Prop where
  length : lines.length = (t.unitLayers.map t.width).sum
  names : lines.map declaredName = (units t).map fun u =>
    some (if u.1 = t.outputLayer then "val" else unitName u.1 u.2)
  output : ∃ front last, lines = front ++ [last] ∧ declaredName last = some "val" ∧
    ∀ line ∈ front, declaredName line ≠ some "val"
  unread : ∀ line ∈ lines, ∃ d, Declaration.ofLine? line = some d ∧ "val" ∉ d.value.names

theorem readsEachWeightOnce_equations (t : Topology) :
    ReadsEachWeightOnce (String.join (lines (equations t))) (t.weightsBelow t.depth) := by
  have found := weightsIn_lines (equations t)
  rw [weights_equations] at found
  have each (i : Nat) : occurrences (weightText i) (String.join (lines (equations t))) =
      (List.range (t.weightsBelow t.depth)).count i := by
    rw [occurrences_weightText, found]
    exact List.count_map_of_injective _ _ (fun _ _ => weightText_injective) i
  refine ⟨found, ?_, ?_⟩
  · intro i below
    exact (each i).trans (List.count_eq_one_of_mem List.nodup_range (List.mem_range.mpr below))
  · intro i above
    exact (each i).trans (List.count_eq_zero.mpr fun member => Nat.not_lt.mpr above (List.mem_range.mp member))

theorem declaresEachUnitOnce_lines {t : Topology} (accepted : t.Accepted) :
    DeclaresEachUnitOnce t (lines (equations t)) := by
  rw [lines_eq_map]
  refine ⟨?_, ?_, ?_, ?_⟩
  · rw [List.length_map, length_units accepted]
  · rw [List.map_map]
    refine List.map_congr_left fun u _ => ?_
    rw [Function.comp_apply, declaredName_lineOf, variableOf]
    split <;> rfl
  · refine ⟨_, _, by rw [units_eq_concat accepted, List.map_append, List.map_singleton], ?_, ?_⟩
    · rw [declaredName_lineOf, variableOf, if_pos rfl]
      rfl
    · intro line member
      obtain ⟨u, before, rfl⟩ := List.mem_map.mp member
      rw [declaredName_lineOf, variableOf_of_lt (lt_of_mem_unitsBefore before)]
      exact fun same => unitName_ne_outputName u.1 u.2 (Option.some.inj same)
  · intro line member
    obtain ⟨u, -, rfl⟩ := List.mem_map.mp member
    exact ⟨_, ofLine?_text _, outputName_not_mem_names t u⟩

theorem text_reads_each_weight_once {sizes : List Nat} {rbf : Bool} {t : Topology}
    (accepted : Topology.ofSizes sizes rbf = .ok t) (fits : t.Fits) :
    ∃ l, Layout.ofTopology t = .ok l ∧
      ReadsEachWeightOnce (String.join (lines (equations t))) l.extent.weights ∧
      DeclaresEachUnitOnce t (lines (equations t)) := by
  obtain ⟨-, accepted⟩ := (Topology.ofSizes_eq_ok_iff sizes rbf t).mp accepted
  exact ⟨t.layout, Layout.ofTopology_of_fits accepted fits, readsEachWeightOnce_equations t,
    declaresEachUnitOnce_lines accepted⟩

theorem text_reads_each_weight_once_of_gaussian_net :
    Topology.ofSizes [2, 3, 2, 1] true = .ok ⟨[2, 3, 2, 1], true⟩ ∧
      (⟨[2, 3, 2, 1], true⟩ : Topology).Fits ∧
      ∃ l, Layout.ofTopology ⟨[2, 3, 2, 1], true⟩ = .ok l ∧ l.extent.weights = 20 ∧
        ReadsEachWeightOnce (String.join (lines (equations ⟨[2, 3, 2, 1], true⟩))) l.extent.weights ∧
        DeclaresEachUnitOnce ⟨[2, 3, 2, 1], true⟩ (lines (equations ⟨[2, 3, 2, 1], true⟩)) := by
  have accepted : Topology.ofSizes [2, 3, 2, 1] true = .ok ⟨[2, 3, 2, 1], true⟩ := rfl
  have fits : (⟨[2, 3, 2, 1], true⟩ : Topology).Fits := by decide
  obtain ⟨l, placed, reads, declares⟩ := text_reads_each_weight_once accepted fits
  obtain ⟨-, -, rfl⟩ := (Layout.ofTopology_eq_ok_iff _ l).mp placed
  exact ⟨accepted, fits, _, placed, rfl, reads, declares⟩

end PlaneNet.Fragment
