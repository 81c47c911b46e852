import Mathlib.Tactic.IntervalCases
import PlaneNet.Decimal.Literal

set_option autoImplicit false

namespace PlaneNet

section Base

variable {base : Nat} (large : 1 < base)

include large

theorem foldl_toDigits {digit : Char → Nat} (reads : ∀ d < base, digit d.digitChar = d) (n : Nat) :
    (Nat.toDigits base n).foldl (fun m c => base * m + digit c) 0 = n := by
  induction n using Nat.strong_induction_on with
  | h n ih =>
    rw [Nat.toDigits_eq_if large]
    split
    next small => simp [reads n small]
    next big =>
      have smaller : n / base < n := Nat.div_lt_self (by omega) large
      have last : n % base < base := Nat.mod_lt _ (by omega)
      rw [List.foldl_append, ih _ smaller, List.foldl_cons, List.foldl_nil, reads _ last, Nat.div_add_mod]

theorem exists_digit_of_mem_toDigits (n : Nat) {c : Char} (member : c ∈ Nat.toDigits base n) :
    ∃ d < base, c = d.digitChar := by
  induction n using Nat.strong_induction_on with
  | h n ih =>
    rw [Nat.toDigits_eq_if large] at member
    split at member
    next small => exact ⟨n, small, List.mem_singleton.mp member⟩
    next big =>
      rcases List.mem_append.mp member with front | last
      · exact ih _ (Nat.div_lt_self (by omega) large) front
      · exact ⟨n % base, Nat.mod_lt _ (by omega), List.mem_singleton.mp last⟩

end Base

namespace Decimal

theorem value_toDigits (n : Nat) : value (Nat.toDigits 10 n) = n :=
  foldl_toDigits (by decide) (fun _ small => Nat.toNat_digitChar_sub_48_of_lt_ten small) n

theorem isDigit_digitChar {d : Nat} (small : d < 10) : isDigit d.digitChar = true := by
  interval_cases d <;> rfl

theorem all_isDigit_toDigits (n : Nat) : (Nat.toDigits 10 n).all isDigit = true := by
  rw [List.all_eq_true]
  intro c member
  obtain ⟨d, small, rfl⟩ := exists_digit_of_mem_toDigits (by decide) n member
  exact isDigit_digitChar small

end Decimal

end PlaneNet
