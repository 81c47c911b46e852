import PlaneNet.Proofs.Digits
import PlaneNet.Proofs.Fragment.Source

set_option autoImplicit false

namespace PlaneNet.Fragment

def hexDigitValue (c : Char) : Nat := if Decimal.isDigit c then c.toNat - 48 else c.toNat - 87

def hexValue (cs : List Char) : Nat := cs.foldl (fun n c => 16 * n + hexDigitValue c) 0

theorem hexDigitValue_digitChar {d : Nat} (small : d < 16) : hexDigitValue d.digitChar = d := by
  interval_cases d <;> rfl

theorem isWordChar_digitChar {d : Nat} (small : d < 16) : isWordChar d.digitChar = true := by
  interval_cases d <;> rfl

theorem toList_hexName (n : Nat) :
    (hexName n).toList =
      List.replicate (4 - (Nat.toDigits 16 n).length) '0' ++ Nat.toDigits 16 n := by
  rw [hexName, Decimal.padded, String.toList_append, String.toList_ofList, String.toList_ofList,
    String.length_ofList]

theorem hexValue_append (front last : List Char) :
    hexValue (front ++ last) = last.foldl (fun n c => 16 * n + hexDigitValue c) (hexValue front) :=
  List.foldl_append

theorem hexValue_hexName (n : Nat) : hexValue (hexName n).toList = n := by
  have zeros (count : Nat) : hexValue (List.replicate count '0') = 0 := by
    induction count with
    | zero => rfl
    | succ count ih => rw [List.replicate_succ', hexValue_append, ih]; rfl
  rw [toList_hexName, hexValue_append, zeros]
  exact foldl_toDigits (by decide) (fun _ small => hexDigitValue_digitChar small) n

theorem hexName_injective {m n : Nat} (same : hexName m = hexName n) : m = n := by
  rw [← hexValue_hexName m, same, hexValue_hexName]

theorem four_le_length_hexName (n : Nat) : 4 ≤ (hexName n).toList.length := by
  rw [toList_hexName, List.length_append, List.length_replicate]
  omega

theorem exists_digit_of_mem_hexName (n : Nat) {c : Char} (member : c ∈ (hexName n).toList) :
    ∃ d < 16, c = d.digitChar := by
  rw [toList_hexName, List.mem_append] at member
  rcases member with zero | digit
  · exact ⟨0, by decide, List.eq_of_mem_replicate zero⟩
  · exact exists_digit_of_mem_toDigits (by decide) n digit

theorem all_isWordChar_hexName (n : Nat) : (hexName n).toList.all isWordChar = true := by
  rw [List.all_eq_true]
  intro c member
  obtain ⟨d, small, rfl⟩ := exists_digit_of_mem_hexName n member
  exact isWordChar_digitChar small

theorem toList_unitName (layer unit : Nat) :
    (unitName layer unit).toList = 'v' :: ((hexName layer).toList ++ (hexName unit).toList) := by
  rw [unitName, String.toList_append, String.toList_append]
  rfl

theorem unitName_ne_outputName (layer unit : Nat) : unitName layer unit ≠ outputName := by
  intro same
  have long := four_le_length_hexName layer
  have length := congrArg (List.length ∘ String.toList) same
  simp only [Function.comp_apply, toList_unitName, List.length_cons, List.length_append] at length
  rw [show outputName.toList.length = 3 from rfl] at length
  omega

theorem unitName_injective {layer unit unit' : Nat} (same : unitName layer unit = unitName layer unit') :
    unit = unit' := by
  have chars := congrArg String.toList same
  rw [toList_unitName, toList_unitName, List.cons.injEq] at chars
  exact hexName_injective (String.toList_inj.mp (List.append_cancel_left chars.2))

-- Each digit behind a number multiplies it by sixteen at least.
theorem hexValue_le_foldl (n : Nat) (last : List Char) (nonempty : last ≠ []) :
    16 * n ≤ last.foldl (fun n c => 16 * n + hexDigitValue c) n := by
  induction last generalizing n with
  | nil => exact absurd rfl nonempty
  | cons c cs ih =>
    rw [List.foldl_cons]
    cases cs with
    | nil => exact Nat.le_add_right _ _
    | cons c' cs =>
      have next := ih (16 * n + hexDigitValue c) (List.cons_ne_nil _ _)
      omega

theorem prefix_of_hexName {m n : Nat} {rest : List Char}
    (split : (hexName n).toList = (hexName m).toList ++ rest) : m = n ∨ 16 * m ≤ n := by
  cases rest with
  | nil => exact .inl (hexName_injective (String.toList_inj.mp (by rw [split, List.append_nil]))).symm
  | cons c cs =>
    have grown := hexValue_le_foldl (hexValue (hexName m).toList) (c :: cs) (List.cons_ne_nil _ _)
    rw [← hexValue_append, ← split, hexValue_hexName, hexValue_hexName] at grown
    exact .inr grown

-- One of the two layer numbers would have to start with the digits of the other.
theorem unitName_ne_of_succ (layer unit unit' : Nat) : unitName layer unit ≠ unitName (layer + 1) unit' := by
  intro same
  have chars := congrArg String.toList same
  rw [toList_unitName, toList_unitName, List.cons.injEq, List.append_eq_append_iff] at chars
  rcases chars.2 with ⟨rest, split, -⟩ | ⟨rest, split, -⟩
  · rcases prefix_of_hexName split with equal | grown
    · omega
    · have zero : layer = 0 := by omega
      subst zero
      have length := congrArg List.length split
      rw [List.length_append, show (hexName 0).toList.length = 4 from rfl,
        show (hexName 1).toList.length = 4 from rfl] at length
      have empty : rest = [] := List.eq_nil_of_length_eq_zero (by omega)
      rw [empty, List.append_nil] at split
      exact absurd (hexName_injective (String.toList_inj.mp split)) (by decide)
  · rcases prefix_of_hexName split with equal | grown <;> omega

end PlaneNet.Fragment
