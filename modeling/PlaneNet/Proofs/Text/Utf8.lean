import Mathlib.Data.Char
import Mathlib.Data.List.Basic
import PlaneNet.Text.Utf8

set_option autoImplicit false

namespace PlaneNet.Text

section Encoding

variable {c : Char} {a b d e : UInt8} {least n : Nat}

theorem toNat_ofNat (valid : n.isValidChar) : (Char.ofNat n).toNat = n := by
  rw [Char.ofNat, dif_pos valid]
  rfl

theorem scalar?_eq_some_iff : scalar? least n = some c ↔ least ≤ n ∧ c.toNat = n := by
  rw [scalar?]
  split
  next holds =>
    simp only [Bool.and_eq_true, decide_eq_true_eq] at holds
    constructor
    · rintro ⟨⟩
      exact ⟨holds.1, toNat_ofNat holds.2⟩
    · rintro ⟨-, rfl⟩
      rw [Char.ofNat_toNat]
  next fails =>
    simp only [reduceCtorEq, false_iff]
    rintro ⟨enough, rfl⟩
    have valid : c.toNat.isValidChar := c.valid
    simp [enough, valid] at fails

theorem isContinuation_iff : isContinuation b = true ↔ 0x80 ≤ b.toNat ∧ b.toNat < 0xc0 := by
  simp [isContinuation, UInt8.le_iff_toNat_le, UInt8.lt_iff_toNat_lt]

theorem ofNat_eq_iff (n : Nat) : UInt8.ofNat n = a ↔ n % 256 = a.toNat := by
  rw [← UInt8.toNat_inj, UInt8.toNat_ofNat']

theorem encode_eq_one_iff : String.utf8EncodeChar c = [a] ↔ a.toNat < 0x80 ∧ c.toNat = a.toNat := by
  have valid := c.valid
  have value : c.val.toNat = c.toNat := rfl
  have byte := a.toNat_lt
  simp only [String.utf8EncodeChar, value]
  split_ifs <;>
    simp only [List.cons.injEq, ofNat_eq_iff, reduceCtorEq, and_true, and_false, false_iff] <;>
    omega

theorem encode_eq_two_iff : String.utf8EncodeChar c = [a, b] ↔
    0xc0 ≤ a.toNat ∧ a.toNat < 0xe0 ∧ isContinuation b = true ∧
      scalar? 0x80 (a.toNat % 0x20 * 0x40 + payload b) = some c := by
  have valid := c.valid
  have value : c.val.toNat = c.toNat := rfl
  simp only [String.utf8EncodeChar, value, scalar?_eq_some_iff, isContinuation_iff, payload]
  split_ifs <;>
    simp only [List.cons.injEq, ofNat_eq_iff, reduceCtorEq, and_true, and_false, false_iff] <;>
    omega

theorem encode_eq_three_iff : String.utf8EncodeChar c = [a, b, d] ↔
    0xe0 ≤ a.toNat ∧ a.toNat < 0xf0 ∧ isContinuation b = true ∧ isContinuation d = true ∧
      scalar? 0x800 ((a.toNat % 0x10 * 0x40 + payload b) * 0x40 + payload d) = some c := by
  have valid := c.valid
  have value : c.val.toNat = c.toNat := rfl
  simp only [String.utf8EncodeChar, value, scalar?_eq_some_iff, isContinuation_iff, payload]
  split_ifs <;>
    simp only [List.cons.injEq, ofNat_eq_iff, reduceCtorEq, and_true, and_false, false_iff] <;>
    omega

theorem encode_eq_four_iff : String.utf8EncodeChar c = [a, b, d, e] ↔
    0xf0 ≤ a.toNat ∧ a.toNat < 0xf8 ∧ isContinuation b = true ∧ isContinuation d = true ∧
      isContinuation e = true ∧
      scalar? 0x10000 (((a.toNat % 0x08 * 0x40 + payload b) * 0x40 + payload d) * 0x40 + payload e) = some c := by
  have valid := c.valid
  have value : c.val.toNat = c.toNat := rfl
  simp only [String.utf8EncodeChar, value, scalar?_eq_some_iff, isContinuation_iff, payload]
  split_ifs <;>
    simp only [List.cons.injEq, ofNat_eq_iff, reduceCtorEq, and_true, and_false, false_iff] <;>
    omega

theorem encode_cases (c : Char) :
    (∃ a, String.utf8EncodeChar c = [a]) ∨ (∃ a b, String.utf8EncodeChar c = [a, b]) ∨
      (∃ a b d, String.utf8EncodeChar c = [a, b, d]) ∨ ∃ a b d e, String.utf8EncodeChar c = [a, b, d, e] := by
  simp only [String.utf8EncodeChar]
  split_ifs <;> simp

theorem encode_of_getLast? (last : (String.utf8EncodeChar c).getLast? = some b) (low : b.toNat < 0x80) :
    String.utf8EncodeChar c = [b] := by
  have plain : ¬ isContinuation b = true := fun continued => by
    have high := (isContinuation_iff.mp continued).1
    omega
  obtain ⟨a, shape⟩ | ⟨a, e, shape⟩ | ⟨a, d, e, shape⟩ | ⟨a, d, e, f, shape⟩ := encode_cases c
  · rw [shape] at last ⊢
    cases last
    rfl
  · have continued := (encode_eq_two_iff.mp shape).2.2.1
    rw [shape] at last
    cases last
    exact absurd continued plain
  · have continued := (encode_eq_three_iff.mp shape).2.2.2.1
    rw [shape] at last
    cases last
    exact absurd continued plain
  · have continued := (encode_eq_four_iff.mp shape).2.2.2.2.1
    rw [shape] at last
    cases last
    exact absurd continued plain

end Encoding

section Decoding

variable {a b d e : UInt8} {rest : List UInt8}

theorem decodeUtf8_one (low : a.toNat < 0x80) :
    decodeUtf8 (a :: rest) = (decodeUtf8 rest).map (Char.ofNat a.toNat :: ·) := by
  have first : a < 0x80 := UInt8.lt_iff_toNat_lt.mpr low
  rw [decodeUtf8.eq_def]
  simp only [first, if_true]
  cases decodeUtf8 rest <;> rfl

theorem decodeUtf8_two (low : 0xc0 ≤ a.toNat) (high : a.toNat < 0xe0) (second : isContinuation b = true) :
    decodeUtf8 (a :: b :: rest) =
      (scalar? 0x80 (a.toNat % 0x20 * 0x40 + payload b)).bind fun c => (decodeUtf8 rest).map (c :: ·) := by
  rw [decodeUtf8.eq_def]
  simp only [UInt8.lt_iff_toNat_lt, UInt8.reduceToNat, show ¬ a.toNat < 0x80 by omega,
    show ¬ a.toNat < 0xc0 by omega, high, second, Bool.not_true, Bool.false_eq_true, if_true, if_false]
  cases scalar? 0x80 (a.toNat % 0x20 * 0x40 + payload b) <;> cases decodeUtf8 rest <;> rfl

theorem decodeUtf8_three (low : 0xe0 ≤ a.toNat) (high : a.toNat < 0xf0) (second : isContinuation b = true)
    (third : isContinuation d = true) :
    decodeUtf8 (a :: b :: d :: rest) =
      (scalar? 0x800 ((a.toNat % 0x10 * 0x40 + payload b) * 0x40 + payload d)).bind fun c =>
        (decodeUtf8 rest).map (c :: ·) := by
  rw [decodeUtf8.eq_def]
  simp only [UInt8.lt_iff_toNat_lt, UInt8.reduceToNat, show ¬ a.toNat < 0x80 by omega,
    show ¬ a.toNat < 0xc0 by omega, show ¬ a.toNat < 0xe0 by omega, high, second, third, Bool.not_true,
    Bool.false_eq_true, if_true, if_false]
  cases scalar? 0x800 ((a.toNat % 0x10 * 0x40 + payload b) * 0x40 + payload d) <;> cases decodeUtf8 rest <;> rfl

theorem decodeUtf8_four (low : 0xf0 ≤ a.toNat) (high : a.toNat < 0xf8) (second : isContinuation b = true)
    (third : isContinuation d = true) (fourth : isContinuation e = true) :
    decodeUtf8 (a :: b :: d :: e :: rest) =
      (scalar? 0x10000 (((a.toNat % 0x08 * 0x40 + payload b) * 0x40 + payload d) * 0x40 + payload e)).bind fun c =>
        (decodeUtf8 rest).map (c :: ·) := by
  rw [decodeUtf8.eq_def]
  simp only [UInt8.lt_iff_toNat_lt, UInt8.le_iff_toNat_le, UInt8.reduceToNat, show ¬ a.toNat < 0x80 by omega,
    show ¬ a.toNat < 0xc0 by omega, show ¬ a.toNat < 0xe0 by omega, show ¬ a.toNat < 0xf0 by omega,
    show ¬ 0xf8 ≤ a.toNat by omega, second, third, fourth, Bool.not_true, Bool.false_eq_true, decide_false,
    Bool.or_false, if_false]
  cases scalar? 0x10000 (((a.toNat % 0x08 * 0x40 + payload b) * 0x40 + payload d) * 0x40 + payload e) <;>
    cases decodeUtf8 rest <;> rfl

theorem decodeUtf8_append (c : Char) (rest : List UInt8) :
    decodeUtf8 (String.utf8EncodeChar c ++ rest) = (decodeUtf8 rest).map (c :: ·) := by
  obtain ⟨a, shape⟩ | ⟨a, b, shape⟩ | ⟨a, b, d, shape⟩ | ⟨a, b, d, e, shape⟩ := encode_cases c
  · obtain ⟨low, value⟩ := encode_eq_one_iff.mp shape
    rw [shape, List.singleton_append, decodeUtf8_one low, ← value, Char.ofNat_toNat]
  · obtain ⟨low, high, second, value⟩ := encode_eq_two_iff.mp shape
    rw [shape]
    exact (decodeUtf8_two low high second).trans (congrArg (Option.bind · _) value)
  · obtain ⟨low, high, second, third, value⟩ := encode_eq_three_iff.mp shape
    rw [shape]
    exact (decodeUtf8_three low high second third).trans (congrArg (Option.bind · _) value)
  · obtain ⟨low, high, second, third, fourth, value⟩ := encode_eq_four_iff.mp shape
    rw [shape]
    exact (decodeUtf8_four low high second third fourth).trans (congrArg (Option.bind · _) value)

theorem eq_flatMap_of_bind {lead : List UInt8} {value : Option Char} {cs : List Char}
    (shape : ∀ c, value = some c → String.utf8EncodeChar c = lead)
    (ih : ∀ later, decodeUtf8 rest = some later → rest = later.flatMap String.utf8EncodeChar)
    (decoded : (value.bind fun c => (decodeUtf8 rest).map (c :: ·)) = some cs) :
    lead ++ rest = cs.flatMap String.utf8EncodeChar := by
  obtain ⟨c, first, decoded⟩ := Option.bind_eq_some_iff.mp decoded
  obtain ⟨later, after, rfl⟩ := Option.map_eq_some_iff.mp decoded
  rw [List.flatMap_cons, shape c first, ← ih later after]

theorem decodeUtf8_eq_some_iff (bytes : List UInt8) (cs : List Char) :
    decodeUtf8 bytes = some cs ↔ bytes = cs.flatMap String.utf8EncodeChar := by
  constructor
  · intro decoded
    -- In the cases without a name the bytes cannot be decoded.
    induction bytes using decodeUtf8.induct generalizing cs with
    | case1 =>
      cases decoded
      rfl
    | case2 a rest low ih =>
      have low : a.toNat < 0x80 := UInt8.lt_iff_toNat_lt.mp low
      rw [decodeUtf8_one low] at decoded
      obtain ⟨later, after, rfl⟩ := Option.map_eq_some_iff.mp decoded
      have valid : a.toNat.isValidChar := by left; omega
      rw [List.flatMap_cons, encode_eq_one_iff.mpr ⟨low, toNat_ofNat valid⟩, ← ih later after,
        List.singleton_append]
    | case6 a _ low b rest second high ih =>
      simp only [UInt8.lt_iff_toNat_lt, UInt8.reduceToNat, Nat.not_lt, Bool.not_eq_true, Bool.not_eq_false']
        at low high second
      rw [decodeUtf8_two low high second] at decoded
      exact eq_flatMap_of_bind (fun c value => encode_eq_two_iff.mpr ⟨low, high, second, value⟩) ih decoded
    | case9 a _ _ b second low d rest third high ih =>
      simp only [UInt8.lt_iff_toNat_lt, UInt8.reduceToNat, Nat.not_lt, Bool.not_eq_true, Bool.not_eq_false']
        at low high second third
      rw [decodeUtf8_three low high second third] at decoded
      exact eq_flatMap_of_bind (fun c value => encode_eq_three_iff.mpr ⟨low, high, second, third, value⟩) ih decoded
    | case12 a _ _ b second _ d third low e rest fourth ih =>
      simp only [UInt8.lt_iff_toNat_lt, UInt8.le_iff_toNat_le, UInt8.reduceToNat, Nat.not_lt, Nat.not_le,
        Bool.not_eq_true, Bool.not_eq_false', Bool.or_eq_false_iff, decide_eq_false_iff_not]
        at low second third fourth
      obtain ⟨fourth, high⟩ := fourth
      rw [decodeUtf8_four low high second third fourth] at decoded
      exact eq_flatMap_of_bind (fun c value => encode_eq_four_iff.mpr ⟨low, high, second, third, fourth, value⟩) ih
        decoded
    | _ =>
      rw [decodeUtf8.eq_def] at decoded
      simp only [*, if_true, if_false, reduceCtorEq] at decoded
  · rintro rfl
    induction cs with
    | nil => rfl
    | cons c cs ih => rw [List.flatMap_cons, decodeUtf8_append, ih, Option.map_some]

theorem decodeUtf8_concat (low : b.toNat < 0x80) (bytes : List UInt8) :
    decodeUtf8 (bytes ++ [b]) = (decodeUtf8 bytes).map (· ++ [Char.ofNat b.toNat]) := by
  have valid : b.toNat.isValidChar := by left; omega
  have alone : String.utf8EncodeChar (Char.ofNat b.toNat) = [b] := encode_eq_one_iff.mpr ⟨low, toNat_ofNat valid⟩
  ext cs
  rw [decodeUtf8_eq_some_iff, Option.map_eq_some_iff]
  simp only [decodeUtf8_eq_some_iff]
  constructor
  · intro same
    rcases List.eq_nil_or_concat cs with rfl | ⟨front, c, rfl⟩
    · exact absurd same (List.append_ne_nil_of_right_ne_nil bytes (List.cons_ne_nil b []))
    · rw [List.concat_eq_append, List.flatMap_append, List.flatMap_singleton] at same
      have last := congrArg List.getLast? same
      rw [List.getLast?_concat, List.getLast?_append_of_ne_nil _ String.utf8EncodeChar_ne_nil] at last
      have single := encode_of_getLast? last.symm low
      have value := (encode_eq_one_iff.mp single).2
      rw [single] at same
      refine ⟨front, List.append_cancel_right same, ?_⟩
      rw [← value, Char.ofNat_toNat, List.concat_eq_append]
  · rintro ⟨front, rfl, rfl⟩
    rw [List.flatMap_append, List.flatMap_singleton, alone]

end Decoding

end PlaneNet.Text
