import Mathlib.Data.List.TakeWhile
import PlaneNet.Text.Blank

set_option autoImplicit false

namespace PlaneNet.Text

structure IsWord (word : List Char) : Prop where
  nonempty : word ≠ []
  solid : ∀ c ∈ word, isBlank c = false

inductive Separated : List Char → List (List Char) → Prop where
  | blank {gap : List Char} (blank : ∀ c ∈ gap, isBlank c = true) : Separated gap []
  | word {gap word rest : List Char} {words : List (List Char)} (blank : ∀ c ∈ gap, isBlank c = true)
      (isWord : IsWord word) (ends : ∀ c ∈ rest.head?, isBlank c = true) (others : Separated rest words) :
      Separated (gap ++ (word ++ rest)) (word :: words)

variable {gap word rest cs : List Char} {words : List (List Char)}

theorem fields_gap (blank : ∀ c ∈ gap, isBlank c = true) (cs : List Char) : fields (gap ++ cs) = fields cs := by
  induction gap with
  | nil => rfl
  | cons c gap ih =>
    obtain ⟨here, later⟩ := List.forall_mem_cons.mp blank
    rw [List.cons_append, fields, fieldsAfter, if_pos here]
    exact ih later

theorem fieldsAfter_solid (solid : ∀ c ∈ word, isBlank c = false) (begun rest : List Char) :
    fieldsAfter begun (word ++ rest) = fieldsAfter (word.reverse ++ begun) rest := by
  induction word generalizing begun with
  | nil => rfl
  | cons c word ih =>
    obtain ⟨here, later⟩ := List.forall_mem_cons.mp solid
    rw [List.cons_append, fieldsAfter, here, if_neg Bool.false_ne_true, ih later, List.reverse_cons, List.append_assoc,
      List.singleton_append]

theorem fieldsAfter_end {begun : List Char} (nonempty : begun ≠ []) (ends : ∀ c ∈ rest.head?, isBlank c = true) :
    fieldsAfter begun rest = begun.reverse :: fields rest := by
  have filled : ¬ begun.isEmpty = true := by rwa [List.isEmpty_iff]
  cases rest with
  | nil =>
    rw [fieldsAfter, if_neg filled]
    rfl
  | cons c rest =>
    have blank : isBlank c = true := ends c rfl
    rw [fieldsAfter, if_pos blank, if_neg filled, fields, fieldsAfter, if_pos blank]
    rfl

theorem fields_word (isWord : IsWord word) (ends : ∀ c ∈ rest.head?, isBlank c = true) :
    fields (word ++ rest) = word :: fields rest := by
  have nonempty : word.reverse ++ [] ≠ [] := by simpa using isWord.nonempty
  rw [fields, fieldsAfter_solid isWord.solid, fieldsAfter_end nonempty ends, List.append_nil, List.reverse_reverse]

theorem fields_concat_blank {c : Char} (blank : isBlank c = true) (cs : List Char) :
    fields (cs ++ [c]) = fields cs := by
  have after (word : List Char) : fieldsAfter word (cs ++ [c]) = fieldsAfter word cs := by
    induction cs generalizing word with
    | nil => simp [fieldsAfter, blank]
    | cons first cs ih => simp only [List.cons_append, fieldsAfter, ih]
  exact after []

theorem Separated.fields_eq (separated : Separated cs words) : fields cs = words := by
  induction separated with
  | @blank gap blank =>
    have none := fields_gap blank []
    rwa [List.append_nil] at none
  | word blank isWord ends _ ih => rw [fields_gap blank, fields_word isWord ends, ih]

theorem Separated.cons_blank {c : Char} (here : isBlank c = true) (separated : Separated cs words) :
    Separated (c :: cs) words := by
  cases separated with
  | blank blank => exact .blank (List.forall_mem_cons.mpr ⟨here, blank⟩)
  | word blank isWord ends others => exact .word (List.forall_mem_cons.mpr ⟨here, blank⟩) isWord ends others

theorem isWord_cons {c : Char} (here : isBlank c = false) (solid : ∀ c ∈ word, isBlank c = false) :
    IsWord (c :: word) :=
  ⟨List.cons_ne_nil c word, List.forall_mem_cons.mpr ⟨here, solid⟩⟩

theorem Separated.cons_solid {c : Char} (here : isBlank c = false) (separated : Separated cs words) :
    ∃ words, Separated (c :: cs) words := by
  have alone := isWord_cons here (List.forall_mem_nil _)
  cases separated with
  | blank blank =>
    have ends : ∀ c ∈ cs.head?, isBlank c = true := fun c first => blank c (List.mem_of_head? first)
    exact ⟨_, .word (List.forall_mem_nil _) alone ends (.blank blank)⟩
  | @word gap word rest words blank isWord ends others =>
    cases gap with
    | nil => exact ⟨_, .word (List.forall_mem_nil _) (isWord_cons here isWord.solid) ends others⟩
    | cons first gap =>
      have next : ∀ c ∈ (first :: gap ++ (word ++ rest)).head?, isBlank c = true := by
        rintro _ ⟨⟩
        exact blank first (.head gap)
      exact ⟨_, .word (List.forall_mem_nil _) alone next (.word blank isWord ends others)⟩

theorem exists_separated (cs : List Char) : ∃ words, Separated cs words := by
  induction cs with
  | nil => exact ⟨[], .blank (List.forall_mem_nil _)⟩
  | cons c cs ih =>
    obtain ⟨words, separated⟩ := ih
    cases here : isBlank c with
    | true => exact ⟨words, separated.cons_blank here⟩
    | false => exact separated.cons_solid here

theorem fields_eq_iff : fields cs = words ↔ Separated cs words := by
  refine ⟨?_, Separated.fields_eq⟩
  rintro rfl
  obtain ⟨words, separated⟩ := exists_separated cs
  rwa [separated.fields_eq]

end PlaneNet.Text
