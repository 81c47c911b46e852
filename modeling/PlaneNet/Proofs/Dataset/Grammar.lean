import PlaneNet.Dataset.Reading
import PlaneNet.Proofs.Checked
import PlaneNet.Proofs.Text.Fields
import PlaneNet.Proofs.Text.Utf8

set_option autoImplicit false

namespace PlaneNet

open Decimal (Literal)

theorem Label.ofClass?_eq_ok_iff {n : Nat} {label : Label} : Label.ofClass? n = .ok label ↔ n = label.toClass := by
  match n, label with
  | 0, .negative | 0, .positive | 1, .negative | 1, .positive | n + 2, .negative | n + 2, .positive =>
    simp [Label.ofClass?, Label.toClass]

namespace Dataset

/-- The pieces between newlines; an empty one at the end is no line. -/
def linesOf (bytes : List UInt8) : List (List UInt8) :=
  let pieces := bytes.splitOn 10
  if pieces.getLast? = some [] then pieces.dropLast else pieces

def BlankLine (bytes : List UInt8) : Prop :=
  ∃ cs : List Char, bytes = cs.flatMap String.utf8EncodeChar ∧ ∀ c ∈ cs, Text.isBlank c = true

inductive GoodLine : List UInt8 → Sample Float32 → Prop where
  | intro {cs x y digits : List Char} {first second : Literal} {label : Label}
      (fields : Text.Separated cs [x, y, digits]) (horizontal : Literal.ofText? x = some first)
      (vertical : Literal.ofText? y = some second) (value : Text.count 255 digits = .ok label.toClass) :
      GoodLine (cs.flatMap String.utf8EncodeChar)
        ⟨Binary.toSingle (first.encode Binary.single), Binary.toSingle (second.encode Binary.single), label⟩

def BadLine (bytes : List UInt8) : Prop := ¬ BlankLine bytes ∧ ∀ s, ¬ GoodLine bytes s

inductive Denotes : List (List UInt8) → List (Sample Float32) → Prop where
  | nil : Denotes [] []
  | blank {line : List UInt8} {lines : List (List UInt8)} {samples : List (Sample Float32)} (blank : BlankLine line)
      (rest : Denotes lines samples) : Denotes (line :: lines) samples
  | good {line : List UInt8} {s : Sample Float32} {lines : List (List UInt8)} {samples : List (Sample Float32)}
      (good : GoodLine line s) (rest : Denotes lines samples) : Denotes (line :: lines) (s :: samples)

section Lines

theorem splitLines_cons (b : UInt8) (bytes : List UInt8) : splitLines (b :: bytes) = consByte b (splitLines bytes) := rfl

theorem splitLines_eq (bytes : List UInt8) :
    (splitLines bytes).1 ++ [(splitLines bytes).2] = bytes.splitOn 10 := by
  induction bytes with
  | nil => rfl
  | cons b bytes ih =>
    rw [splitLines_cons, List.splitOn, List.splitOnP_cons_eq_if_modifyHead, ← List.splitOn, ← ih]
    obtain ⟨lines, rest⟩ := splitLines bytes
    by_cases newline : b = 10
    · simp only [consByte, if_pos newline, if_pos (beq_iff_eq.mpr newline), List.cons_append]
    · simp only [consByte, if_neg newline, if_neg (mt beq_iff_eq.mp newline)]
      cases lines <;> rfl

theorem read_eq (bytes : List UInt8) : read ⟨bytes, none⟩ = (readLines 1 (linesOf bytes)).result := by
  simp only [read, linesOf, ← splitLines_eq, List.getLast?_concat, List.dropLast_concat, Option.some_inj,
    List.isEmpty_iff]

end Lines

section OneLine

variable {bytes : List UInt8} {s : Sample Float32}

theorem coordinate?_eq_ok_iff {axis : Axis} {field : List Char} {x : Float32} :
    Sample.coordinate? axis field = .ok x ↔
      ∃ literal, Literal.ofText? field = some literal ∧ x = Binary.toSingle (literal.encode Binary.single) := by
  rw [Sample.coordinate?]
  cases Literal.ofText? field with
  | none => simp
  | some literal => simp [eq_comm]

theorem label?_eq_ok_iff {field : List Char} {label : Label} :
    Sample.label? field = .ok label ↔ Text.count 255 field = .ok label.toClass := by
  rw [Sample.label?]
  cases Text.count 255 field with
  | error cause => simp
  | ok n => simp [Label.ofClass?_eq_ok_iff]

theorem goodLine_iff : GoodLine bytes s ↔
    ∃ cs, bytes = cs.flatMap String.utf8EncodeChar ∧ Sample.ofLine? cs = .ok s := by
  constructor
  · rintro ⟨fields, horizontal, vertical, value⟩
    refine ⟨_, rfl, ?_⟩
    rw [Sample.ofLine?, Text.fields_eq_iff.mpr fields]
    simp only [coordinate?_eq_ok_iff.mpr ⟨_, horizontal, rfl⟩, coordinate?_eq_ok_iff.mpr ⟨_, vertical, rfl⟩,
      label?_eq_ok_iff.mpr value, ok_bind, pure_eq_ok]
  · rintro ⟨cs, rfl, read⟩
    rw [Sample.ofLine?] at read
    split at read
    next x y digits fields =>
      obtain ⟨_, horizontal, read⟩ := (bind_eq_ok_iff _ _ _).mp read
      obtain ⟨_, vertical, read⟩ := (bind_eq_ok_iff _ _ _).mp read
      obtain ⟨label, value, read⟩ := (bind_eq_ok_iff _ _ _).mp read
      cases read
      obtain ⟨_, first, rfl⟩ := coordinate?_eq_ok_iff.mp horizontal
      obtain ⟨_, second, rfl⟩ := coordinate?_eq_ok_iff.mp vertical
      exact .intro (Text.fields_eq_iff.mp fields) first second (label?_eq_ok_iff.mp value)
    next => cases read

theorem ofBytes_eq_blank_iff : Line.ofBytes bytes = .blank ↔ BlankLine bytes := by
  rw [Line.ofBytes, BlankLine]
  simp only [← Text.decodeUtf8_eq_some_iff]
  cases Text.decodeUtf8 bytes with
  | none => simp
  | some cs =>
    by_cases blank : ∀ c ∈ cs, Text.isBlank c = true
    · simp only [if_pos (List.all_eq_true.mpr blank), Option.some_inj, exists_eq_left', true_iff]
      exact blank
    · simp only [if_neg (mt List.all_eq_true.mp blank), Option.some_inj, exists_eq_left', iff_false_right blank]
      cases Sample.ofLine? cs <;> simp

theorem ofLine?_ne_ok_of_blank {cs : List Char} (blank : ∀ c ∈ cs, Text.isBlank c = true) :
    Sample.ofLine? cs ≠ .ok s := by
  rw [Sample.ofLine?, Text.fields_eq_iff.mpr (.blank blank)]
  exact nofun

theorem ofBytes_eq_sample_iff : Line.ofBytes bytes = .sample s ↔ GoodLine bytes s := by
  rw [Line.ofBytes, goodLine_iff]
  simp only [← Text.decodeUtf8_eq_some_iff]
  cases Text.decodeUtf8 bytes with
  | none => simp
  | some cs =>
    by_cases blank : ∀ c ∈ cs, Text.isBlank c = true
    · simp only [if_pos (List.all_eq_true.mpr blank), Option.some_inj, exists_eq_left', reduceCtorEq,
        ofLine?_ne_ok_of_blank blank]
    · simp only [if_neg (mt List.all_eq_true.mp blank), Option.some_inj, exists_eq_left']
      cases Sample.ofLine? cs <;> simp

theorem exists_bad_iff : (∃ cause, Line.ofBytes bytes = .bad cause) ↔ BadLine bytes := by
  rw [BadLine, ← ofBytes_eq_blank_iff]
  simp only [← ofBytes_eq_sample_iff]
  cases Line.ofBytes bytes <;> simp

end OneLine

section AllLines

variable {lines kept ending : List (List UInt8)} {samples others : List (Sample Float32)}

theorem Denotes.unique (first : Denotes lines samples) (second : Denotes lines others) : others = samples := by
  induction first generalizing others with
  | nil =>
    cases second
    rfl
  | blank blank _ ih =>
    have blank := ofBytes_eq_blank_iff.mpr blank
    cases second with
    | blank _ rest => exact ih rest
    | good good _ => cases blank.symm.trans (ofBytes_eq_sample_iff.mpr good)
  | good good _ ih =>
    have good := ofBytes_eq_sample_iff.mpr good
    cases second with
    | blank blank _ => cases good.symm.trans (ofBytes_eq_blank_iff.mpr blank)
    | good again rest =>
      cases good.symm.trans (ofBytes_eq_sample_iff.mpr again)
      rw [ih rest]

theorem exists_denotes (clean : ∀ line ∈ kept, ¬ BadLine line) : ∃ samples, Denotes kept samples := by
  induction kept with
  | nil => exact ⟨[], .nil⟩
  | cons line kept ih =>
    obtain ⟨here, later⟩ := List.forall_mem_cons.mp clean
    obtain ⟨samples, denotes⟩ := ih later
    cases kind : Line.ofBytes line with
    | blank => exact ⟨samples, .blank (ofBytes_eq_blank_iff.mp kind) denotes⟩
    | sample s => exact ⟨s :: samples, .good (ofBytes_eq_sample_iff.mp kind) denotes⟩
    | bad cause => exact absurd (exists_bad_iff.mp ⟨cause, kind⟩) here

theorem Denotes.readLines_append (denotes : Denotes kept samples) (number : Nat) (ending : List (List UInt8)) :
    readLines number (kept ++ ending) =
      { readLines (number + kept.length) ending with
        samples := samples ++ (readLines (number + kept.length) ending).samples } := by
  induction denotes generalizing number with
  | nil => rfl
  | blank blank _ ih =>
    rw [List.cons_append, readLines, ofBytes_eq_blank_iff.mpr blank, List.length_cons, ← Nat.add_assoc,
      Nat.add_right_comm]
    exact ih (number + 1)
  | good good _ ih =>
    rw [List.cons_append, readLines, ofBytes_eq_sample_iff.mpr good, List.length_cons, ← Nat.add_assoc,
      Nat.add_right_comm]
    simp only [ih (number + 1), List.cons_append]

theorem denotes_iff (number : Nat) : Denotes lines samples ↔ readLines number lines = ⟨samples, none⟩ := by
  constructor
  · intro denotes
    have reads := denotes.readLines_append number []
    rwa [List.append_nil, readLines, List.append_nil] at reads
  · intro reads
    induction lines generalizing number samples with
    | nil =>
      cases reads
      exact .nil
    | cons line lines ih =>
      rw [readLines] at reads
      cases kind : Line.ofBytes line with
      | blank =>
        rw [kind] at reads
        exact .blank (ofBytes_eq_blank_iff.mp kind) (ih (number + 1) reads)
      | bad cause =>
        rw [kind] at reads
        cases reads
      | sample s =>
        rw [kind] at reads
        obtain ⟨rfl, whole⟩ := Reading.mk.inj reads
        exact .good (ofBytes_eq_sample_iff.mp kind) (ih (number + 1) (congrArg (Reading.mk _) whole))

theorem Denotes.read_whole {bytes : List UInt8} (denotes : Denotes (linesOf bytes) samples) :
    read ⟨bytes, none⟩ = (Reading.mk samples none).result := by
  rw [read_eq, (denotes_iff 1).mp denotes]

theorem Denotes.readLines_partly {bad : List UInt8} {rest : List (List UInt8)} {cause : StopCause}
    (denotes : Denotes kept samples) (stops : Line.ofBytes bad = .bad cause) :
    readLines 1 (kept ++ bad :: rest) = ⟨samples, some (kept.length + 1, cause)⟩ := by
  have final (number : Nat) : readLines number (bad :: rest) = ⟨[], some (number, cause)⟩ := by
    rw [readLines, stops]
  rw [denotes.readLines_append, final, List.append_nil, Nat.add_comm]

theorem Denotes.read_partly {bytes bad : List UInt8} {rest : List (List UInt8)} {cause : StopCause}
    (denotes : Denotes kept samples) (stops : Line.ofBytes bad = .bad cause)
    (lines : linesOf bytes = kept ++ bad :: rest) :
    read ⟨bytes, none⟩ = (Reading.mk samples (some (kept.length + 1, cause))).result := by
  rw [read_eq, lines, denotes.readLines_partly stops]

theorem exists_first_bad (lines : List (List UInt8)) :
    ∃ kept ending, lines = kept ++ ending ∧ (∀ line ∈ kept, ¬ BadLine line) ∧
      ∀ line ∈ ending.head?, BadLine line := by
  induction lines with
  | nil => exact ⟨[], [], rfl, by simp, by simp⟩
  | cons line lines ih =>
    by_cases bad : BadLine line
    · exact ⟨[], line :: lines, rfl, by simp, by simpa using bad⟩
    · obtain ⟨kept, ending, rfl, clean, first⟩ := ih
      exact ⟨line :: kept, ending, rfl, List.forall_mem_cons.mpr ⟨bad, clean⟩, first⟩

end AllLines

theorem reading_accepts_exactly_its_grammar (bytes : List UInt8) :
    ∃ kept ending samples, linesOf bytes = kept ++ ending ∧ (∀ line ∈ kept, ¬ BadLine line) ∧
      (∀ line ∈ ending.head?, BadLine line) ∧ (∀ denoted, Denotes kept denoted ↔ denoted = samples) ∧
      (read ⟨bytes, none⟩).value = .ok ⟨samples.toArray, Array.range samples.length⟩ ∧
      ((read ⟨bytes, none⟩).events = [] ↔ ∀ line ∈ linesOf bytes, ¬ BadLine line) ∧
      ∀ bad rest, ending = bad :: rest →
        (∃ cause, Line.ofBytes bad = .bad cause ∧
          (read ⟨bytes, none⟩).events = [.stoppedReading (kept.length + 1) cause]) ∧
        ∀ other later, linesOf other = kept ++ bad :: later → read ⟨other, none⟩ = read ⟨bytes, none⟩ := by
  obtain ⟨kept, ending, lines, clean, first⟩ := exists_first_bad (linesOf bytes)
  obtain ⟨samples, denotes⟩ := exists_denotes clean
  have exact (denoted : List (Sample Float32)) : Denotes kept denoted ↔ denoted = samples :=
    ⟨denotes.unique, fun same => same ▸ denotes⟩
  refine ⟨kept, ending, samples, lines, clean, first, exact, ?_⟩
  cases ending with
  | nil =>
    rw [List.append_nil] at lines
    have whole : Denotes (linesOf bytes) samples := lines ▸ denotes
    rw [whole.read_whole]
    exact ⟨rfl, iff_of_true rfl (lines ▸ clean), fun _ _ => nofun⟩
  | cons bad rest =>
    have wrong := first bad rfl
    obtain ⟨cause, stops⟩ := exists_bad_iff.mpr wrong
    have among : bad ∈ linesOf bytes := lines ▸ List.mem_append_right kept (.head rest)
    rw [denotes.read_partly stops lines]
    refine ⟨rfl, iff_of_false nofun fun none => none bad among wrong, ?_⟩
    rintro _ _ ⟨⟩
    exact ⟨⟨cause, stops, rfl⟩, fun other later same => denotes.read_partly stops same⟩

example : (read ⟨[48, 32, 49, 32, 49, 10, 32, 10, 120, 10, 50], none⟩).events =
    [.stoppedReading 3 (.malformed (.fieldCount "x"))] := by
  decide

end Dataset

end PlaneNet
