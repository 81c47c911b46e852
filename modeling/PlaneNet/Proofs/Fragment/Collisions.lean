import Mathlib.Tactic.Ring
import PlaneNet.Proofs.Fragment.Names

/-!
When two units share a name. A name is two hexadecimal numbers back to back, each of four digits at least, and nothing
between them tells where the first one ends: digits that lead the number of a unit may as well end the number of a
layer.
-/

set_option autoImplicit false

namespace PlaneNet.Fragment

def hexWidth (n : Nat) : Nat := max 4 (Nat.toDigits 16 n).length

/-- The digits of `d` lead the number of the one unit and end the number of the other layer. -/
def Shifted (layer unit layer' unit' : Nat) : Prop :=
  ∃ d > 0, 0x1000 ≤ layer ∧ layer' = layer * 16 ^ (Nat.toDigits 16 d).length + d ∧
    unit = d * 16 ^ hexWidth unit' + unit'

section Numerals

theorem length_hexName (n : Nat) : (hexName n).toList.length = hexWidth n := by
  rw [toList_hexName, List.length_append, List.length_replicate, hexWidth]
  omega

theorem hexWidth_le_iff {n k : Nat} (four : 4 ≤ k) : hexWidth n ≤ k ↔ n < 16 ^ k := by
  rw [← Nat.length_toDigits_le_iff (by decide) (by omega), hexWidth]
  omega

theorem four_le_hexWidth (n : Nat) : 4 ≤ hexWidth n := Nat.le_max_left ..

theorem lt_pow_hexWidth (n : Nat) : n < 16 ^ hexWidth n := (hexWidth_le_iff (four_le_hexWidth n)).mp (Nat.le_refl _)

theorem foldl_hexValue (n : Nat) (cs : List Char) :
    cs.foldl (fun n c => 16 * n + hexDigitValue c) n = n * 16 ^ cs.length + hexValue cs := by
  induction cs generalizing n with
  | nil => simp [hexValue]
  | cons c cs ih =>
    have alone := ih (16 * 0 + hexDigitValue c)
    rw [hexValue, List.foldl_cons, List.foldl_cons, ih, alone, List.length_cons]
    ring

theorem hexValue_cons (c : Char) (cs : List Char) :
    hexValue (c :: cs) = hexDigitValue c * 16 ^ cs.length + hexValue cs := by
  rw [hexValue, List.foldl_cons, foldl_hexValue, Nat.mul_zero, Nat.zero_add]

variable {cs ds : List Char}

theorem hexValue_lt (digits : ∀ c ∈ cs, ∃ d < 16, c = d.digitChar) : hexValue cs < 16 ^ cs.length := by
  induction cs with
  | nil => decide
  | cons c cs ih =>
    obtain ⟨⟨d, small, rfl⟩, others⟩ := List.forall_mem_cons.mp digits
    have below := ih others
    have room : d * 16 ^ cs.length ≤ 15 * 16 ^ cs.length := Nat.mul_le_mul_right _ (by omega)
    rw [hexValue_cons, hexDigitValue_digitChar small, List.length_cons, Nat.pow_succ]
    omega

theorem eq_of_add_eq {base high low high' low' : Nat} (below : low < base) (below' : low' < base)
    (same : high * base + low = high' * base + low') : high = high' ∧ low = low' := by
  have quotient := congrArg (· / base) same
  have remainder := congrArg (· % base) same
  simp only [Nat.mul_comm _ base, Nat.mul_add_div (Nat.zero_lt_of_lt below), Nat.div_eq_of_lt below,
    Nat.div_eq_of_lt below', Nat.mul_add_mod, Nat.mod_eq_of_lt below, Nat.mod_eq_of_lt below'] at quotient remainder
  exact ⟨quotient, remainder⟩

theorem eq_of_hexValue_eq (digits : ∀ c ∈ cs, ∃ d < 16, c = d.digitChar)
    (digits' : ∀ c ∈ ds, ∃ d < 16, c = d.digitChar) (length : cs.length = ds.length)
    (value : hexValue cs = hexValue ds) : cs = ds := by
  induction cs generalizing ds with
  | nil => exact (List.eq_nil_of_length_eq_zero length.symm).symm
  | cons c cs ih =>
    cases ds with
    | nil => cases length
    | cons c' ds =>
      have shorter : cs.length = ds.length := Nat.succ.inj length
      obtain ⟨⟨d, small, rfl⟩, others⟩ := List.forall_mem_cons.mp digits
      obtain ⟨⟨d', small', rfl⟩, others'⟩ := List.forall_mem_cons.mp digits'
      rw [hexValue_cons, hexValue_cons, shorter, hexDigitValue_digitChar small, hexDigitValue_digitChar small'] at value
      obtain ⟨rfl, rest⟩ := eq_of_add_eq (shorter ▸ hexValue_lt others) (hexValue_lt others') value
      rw [ih others others' shorter rest]

theorem unitName_eq_iff_value {layer unit layer' unit' : Nat} : unitName layer unit = unitName layer' unit' ↔
    hexWidth layer + hexWidth unit = hexWidth layer' + hexWidth unit' ∧
      layer * 16 ^ hexWidth unit + unit = layer' * 16 ^ hexWidth unit' + unit' := by
  have digits (layer unit : Nat) : ∀ c ∈ (hexName layer).toList ++ (hexName unit).toList, ∃ d < 16, c = d.digitChar := by
    intro c member
    rcases List.mem_append.mp member with front | back
    · exact exists_digit_of_mem_hexName layer front
    · exact exists_digit_of_mem_hexName unit back
  have value (layer unit : Nat) : hexValue ((hexName layer).toList ++ (hexName unit).toList) =
      layer * 16 ^ hexWidth unit + unit := by
    rw [hexValue_append, foldl_hexValue, hexValue_hexName, hexValue_hexName, length_hexName]
  have length (layer unit : Nat) : ((hexName layer).toList ++ (hexName unit).toList).length =
      hexWidth layer + hexWidth unit := by
    rw [List.length_append, length_hexName, length_hexName]
  rw [← String.toList_inj, toList_unitName, toList_unitName, List.cons.injEq, ← value, ← value, ← length, ← length]
  constructor
  · rintro ⟨-, same⟩
    rw [same]
    exact ⟨rfl, rfl⟩
  · rintro ⟨long, same⟩
    exact ⟨rfl, eq_of_hexValue_eq (digits _ _) (digits _ _) long same⟩

end Numerals

section Shifting

variable {layer unit layer' unit' : Nat}

theorem mul_add_lt {a b d base : Nat} (below : a < b) (small : d < base) : a * base + d < b * base :=
  calc a * base + d < a * base + base := Nat.add_lt_add_left small _
    _ = (a + 1) * base := (Nat.succ_mul a base).symm
    _ ≤ b * base := Nat.mul_le_mul_right base below

theorem length_toDigits_eq_iff {n j : Nat} (positive : 0 < n) :
    (Nat.toDigits 16 n).length = j + 1 ↔ 16 ^ j ≤ n ∧ n < 16 ^ (j + 1) := by
  have filled : 0 < (Nat.toDigits 16 n).length := Nat.length_toDigits_pos
  have most : (Nat.toDigits 16 n).length ≤ j + 1 ↔ n < 16 ^ (j + 1) :=
    Nat.length_toDigits_le_iff (by decide) (Nat.succ_pos j)
  have least : (Nat.toDigits 16 n).length ≤ j ↔ n < 16 ^ j := by
    cases j with
    | zero =>
      rw [Nat.pow_zero]
      omega
    | succ j => exact Nat.length_toDigits_le_iff (by decide) (Nat.succ_pos j)
  omega

theorem lt_pow_length_toDigits (n : Nat) : n < 16 ^ (Nat.toDigits 16 n).length :=
  (Nat.length_toDigits_le_iff (by decide) Nat.length_toDigits_pos).mp (Nat.le_refl _)

theorem length_toDigits_mul_add {n d k : Nat} (positive : 0 < n) (small : d < 16 ^ k) :
    (Nat.toDigits 16 (n * 16 ^ k + d)).length = (Nat.toDigits 16 n).length + k := by
  obtain ⟨j, length⟩ : ∃ j, (Nat.toDigits 16 n).length = j + 1 := Nat.exists_eq_succ_of_ne_zero Nat.length_toDigits_pos.ne'
  obtain ⟨least, most⟩ := (length_toDigits_eq_iff positive).mp length
  have room : 0 < 16 ^ k := Nat.zero_lt_of_lt small
  have total : 0 < n * 16 ^ k + d := Nat.add_pos_left (Nat.mul_pos positive room) d
  rw [length, Nat.add_right_comm, length_toDigits_eq_iff total, Nat.add_right_comm j k 1, Nat.pow_add, Nat.pow_add]
  exact ⟨(Nat.mul_le_mul_right _ least).trans (Nat.le_add_right _ d), mul_add_lt most small⟩

theorem hexWidth_mul_add {d n r : Nat} (positive : 0 < d) (small : r < 16 ^ hexWidth n) :
    hexWidth (d * 16 ^ hexWidth n + r) = (Nat.toDigits 16 d).length + hexWidth n := by
  have four := four_le_hexWidth n
  rw [hexWidth, length_toDigits_mul_add positive small]
  omega

theorem shifted_of_value (wider : hexWidth unit' < hexWidth unit)
    (width : hexWidth layer + hexWidth unit = hexWidth layer' + hexWidth unit')
    (value : layer * 16 ^ hexWidth unit + unit = layer' * 16 ^ hexWidth unit' + unit') :
    Shifted layer unit layer' unit' := by
  have four := four_le_hexWidth unit'
  obtain ⟨d, r, small, rfl⟩ : ∃ d r, r < 16 ^ hexWidth unit' ∧ unit = d * 16 ^ hexWidth unit' + r :=
    ⟨_, _, Nat.mod_lt _ (Nat.pow_pos (by decide)), (Nat.div_add_mod' unit (16 ^ hexWidth unit')).symm⟩
  have positive : 0 < d := by
    by_contra zero
    rw [Nat.eq_zero_of_not_pos zero, Nat.zero_mul, Nat.zero_add] at wider
    exact absurd ((hexWidth_le_iff four).mpr small) (Nat.not_le.mpr wider)
  have moved := hexWidth_mul_add positive small
  rw [moved, Nat.pow_add, ← Nat.mul_assoc, ← Nat.add_assoc, ← Nat.add_mul] at value
  obtain ⟨rfl, rfl⟩ := eq_of_add_eq small (lt_pow_hexWidth unit') value
  refine ⟨d, positive, ?_, rfl, rfl⟩
  -- A shorter number would be padded, and then the longer name would not start with it.
  by_contra short
  have bound := mul_add_lt (Nat.not_le.mp short) (lt_pow_length_toDigits d)
  rw [show 0x1000 = 16 ^ 3 from rfl, ← Nat.pow_add, ← hexWidth_le_iff] at bound
  · have padded := four_le_hexWidth layer
    omega
  · have filled : 0 < (Nat.toDigits 16 d).length := Nat.length_toDigits_pos
    omega

theorem Shifted.value (shifted : Shifted layer unit layer' unit') :
    hexWidth layer + hexWidth unit = hexWidth layer' + hexWidth unit' ∧
      layer * 16 ^ hexWidth unit + unit = layer' * 16 ^ hexWidth unit' + unit' := by
  obtain ⟨d, positive, large, rfl, rfl⟩ := shifted
  have long : ¬ (Nat.toDigits 16 layer).length ≤ 3 := by
    rw [Nat.length_toDigits_le_iff (by decide) (by decide)]
    exact Nat.not_lt.mpr large
  have whole : hexWidth (layer * 16 ^ (Nat.toDigits 16 d).length + d) = hexWidth layer + (Nat.toDigits 16 d).length := by
    rw [hexWidth, hexWidth, length_toDigits_mul_add (by omega) (lt_pow_length_toDigits d)]
    omega
  rw [whole, hexWidth_mul_add positive (lt_pow_hexWidth unit'), Nat.pow_add]
  exact ⟨(Nat.add_assoc ..).symm, by ring⟩

theorem unitName_eq_iff : unitName layer unit = unitName layer' unit' ↔
    layer = layer' ∧ unit = unit' ∨ Shifted layer unit layer' unit' ∨ Shifted layer' unit' layer unit := by
  rw [unitName_eq_iff_value]
  constructor
  · rintro ⟨width, value⟩
    rcases Nat.lt_trichotomy (hexWidth unit') (hexWidth unit) with wider | same | narrower
    · exact .inr (.inl (shifted_of_value wider width value))
    · rw [same] at value
      exact .inl (eq_of_add_eq (lt_pow_hexWidth unit) (same ▸ lt_pow_hexWidth unit') value)
    · exact .inr (.inr (shifted_of_value narrower width.symm value.symm))
  · rintro (⟨rfl, rfl⟩ | shifted | shifted)
    · exact ⟨rfl, rfl⟩
    · exact shifted.value
    · exact ⟨shifted.value.1.symm, shifted.value.2.symm⟩

theorem Shifted.lt (shifted : Shifted layer unit layer' unit') : 0xffff < layer' ∧ 0xffff < unit ∧ layer < layer' := by
  obtain ⟨d, positive, large, rfl, rfl⟩ := shifted
  have four : 16 ^ 4 ≤ 16 ^ hexWidth unit' := Nat.pow_le_pow_right (by decide) (four_le_hexWidth unit')
  have one : 16 ^ 1 ≤ 16 ^ (Nat.toDigits 16 d).length := Nat.pow_le_pow_right (by decide) Nat.length_toDigits_pos
  have upper := Nat.mul_le_mul positive four
  have lower := Nat.mul_le_mul_left layer one
  omega

end Shifting

end PlaneNet.Fragment
