import PlaneNet.Proofs.Dataset.Grammar

set_option autoImplicit false

namespace PlaneNet.Dataset

def withReturns (bytes : List UInt8) : List UInt8 := bytes.flatMap fun b => if b = 10 then [13, 10] else [b]

def Reading.followedBy (first later : Reading) : Reading :=
  if first.stop.isSome then first else { later with samples := first.samples ++ later.samples }

section Parts

variable {first later : Reading}

theorem Reading.followedBy_of_whole (whole : first.stop = none) :
    first.followedBy later = { later with samples := first.samples ++ later.samples } := by
  rw [followedBy, whole]
  rfl

theorem Reading.followedBy_of_stopped (stopped : first.stop ≠ none) : first.followedBy later = first :=
  if_pos (Option.isSome_iff_ne_none.mpr stopped)

theorem Reading.followedBy_nil (first : Reading) : first.followedBy ⟨[], none⟩ = first := by
  by_cases whole : first.stop = none
  · rw [followedBy_of_whole whole, List.append_nil, ← whole]
  · exact followedBy_of_stopped whole

theorem Reading.cons_followedBy (s : Sample Float32) (first later : Reading) :
    Reading.followedBy { first with samples := s :: first.samples } later =
      { first.followedBy later with samples := s :: (first.followedBy later).samples } := by
  simp only [followedBy]
  split <;> rfl

theorem readLines_append (number : Nat) (front back : List (List UInt8)) :
    readLines number (front ++ back) =
      (readLines number front).followedBy (readLines (number + front.length) back) := by
  induction front generalizing number with
  | nil => rfl
  | cons line front ih =>
    have next := ih (number + 1)
    rw [Nat.add_right_comm, Nat.add_assoc, ← List.length_cons (a := line)] at next
    rw [List.cons_append, readLines, readLines]
    cases Line.ofBytes line with
    | blank => exact next
    | bad cause => rfl
    | sample s =>
      simp only [next]
      exact (Reading.cons_followedBy s _ _).symm

theorem samples_readLines (number other : Nat) (lines : List (List UInt8)) :
    (readLines number lines).samples = (readLines other lines).samples := by
  induction lines generalizing number other with
  | nil => rfl
  | cons line lines ih =>
    have next := ih (number + 1) (other + 1)
    rw [readLines, readLines]
    cases Line.ofBytes line with
    | blank => exact next
    | bad cause => rfl
    | sample s => exact congrArg (s :: ·) next

-- What stands after the last newline may be empty: then it is a blank line, which yields nothing.
theorem readLines_linesOf (number : Nat) (bytes : List UInt8) :
    readLines number (linesOf bytes) = readLines number (bytes.splitOn 10) := by
  have pieces := splitLines_eq bytes
  rw [linesOf]
  split
  next ends =>
    rw [← pieces, List.getLast?_concat] at ends
    rw [← pieces, List.dropLast_concat, readLines_append, Option.some_inj.mp ends]
    exact (Reading.followedBy_nil _).symm
  next => rfl

theorem readLines_linesOf_join (number : Nat) (a b : List UInt8) :
    readLines number (linesOf (a ++ 10 :: b)) =
      (readLines number (linesOf a)).followedBy (readLines (number + (a.splitOn 10).length) (linesOf b)) := by
  simp only [readLines_linesOf, List.splitOn_append_cons_self, readLines_append]

theorem Reading.events_result_eq_nil_iff (r : Reading) : r.result.events = [] ↔ r.stop = none := by
  rw [result]
  cases r.stop <;> simp

end Parts

section Alike

/-- Both lines are blank, or hold the same sample, or end the data. -/
inductive Line.Alike : Line → Line → Prop where
  | blank : Alike .blank .blank
  | sample (s : Sample Float32) : Alike (.sample s) (.sample s)
  | bad (cause other : StopCause) : Alike (.bad cause) (.bad other)

theorem toOption_ofLine?_concat {c : Char} (blank : Text.isBlank c = true) (cs : List Char) :
    (Sample.ofLine? (cs ++ [c])).toOption = (Sample.ofLine? cs).toOption := by
  rw [Sample.ofLine?, Sample.ofLine?, Text.fields_concat_blank blank]
  split <;> rfl

theorem alike_concat_return (line : List UInt8) :
    Line.Alike (Line.ofBytes (line ++ [13])) (Line.ofBytes line) := by
  have decoded : Text.decodeUtf8 (line ++ [13]) = (Text.decodeUtf8 line).map (· ++ ['\r']) :=
    Text.decodeUtf8_concat (by decide) line
  rw [Line.ofBytes, Line.ofBytes, decoded]
  cases Text.decodeUtf8 line with
  | none => exact .bad .notUtf8 .notUtf8
  | some cs =>
    have blank : (cs ++ ['\r']).all Text.isBlank = cs.all Text.isBlank := by
      rw [List.all_append]
      exact Bool.and_true _
    have same := toOption_ofLine?_concat (c := '\r') rfl cs
    simp only [Option.map_some, blank]
    generalize Sample.ofLine? (cs ++ ['\r']) = returned, Sample.ofLine? cs = plain at same
    cases cs.all Text.isBlank with
    | true => exact .blank
    | false =>
      cases returned with
      | error cause =>
        cases plain with
        | error other => exact .bad _ _
        | ok s => cases same
      | ok s =>
        cases plain with
        | error other => cases same
        | ok s' =>
          cases same
          exact .sample s

structure Reading.Alike (first second : Reading) : Prop where
  samples : first.samples = second.samples
  line : first.stop.map Prod.fst = second.stop.map Prod.fst

theorem readLines_returns (number : Nat) (lines rest : List (List UInt8)) :
    (readLines number (lines.map (· ++ [13]) ++ rest)).Alike (readLines number (lines ++ rest)) := by
  induction lines generalizing number with
  | nil => exact ⟨rfl, rfl⟩
  | cons line lines ih =>
    have next := ih (number + 1)
    have here := alike_concat_return line
    rw [List.map_cons, List.cons_append, List.cons_append, readLines, readLines]
    generalize Line.ofBytes (line ++ [13]) = returned, Line.ofBytes line = plain at here
    cases here with
    | blank => exact next
    | sample s => exact ⟨congrArg (s :: ·) next.samples, next.line⟩
    | bad cause other => exact ⟨rfl, rfl⟩

theorem splitLines_withReturns (bytes : List UInt8) :
    splitLines (withReturns bytes) = ((splitLines bytes).1.map (· ++ [13]), (splitLines bytes).2) := by
  induction bytes with
  | nil => rfl
  | cons b bytes ih =>
    by_cases newline : b = 10
    · subst newline
      have step : withReturns (10 :: bytes) = 13 :: 10 :: withReturns bytes := rfl
      rw [step, splitLines_cons, splitLines_cons, ih]
      rfl
    · have step : withReturns (b :: bytes) = b :: withReturns bytes := by
        rw [withReturns, List.flatMap_cons, if_neg newline]
        rfl
      rw [step, splitLines_cons, ih, splitLines_cons]
      simp only [consByte, if_neg newline]
      cases (splitLines bytes).1 <;> rfl

theorem readLines_withReturns (number : Nat) (bytes : List UInt8) :
    (readLines number (linesOf (withReturns bytes))).Alike (readLines number (linesOf bytes)) := by
  rw [readLines_linesOf, readLines_linesOf, ← splitLines_eq, ← splitLines_eq, splitLines_withReturns]
  exact readLines_returns number (splitLines bytes).1 [(splitLines bytes).2]

end Alike

theorem reading_is_compositional (a b : List UInt8) :
    ∃ first second : List (Sample Float32),
      (read ⟨a, none⟩).value = .ok (ofSamples first) ∧ (read ⟨b, none⟩).value = .ok (ofSamples second) ∧
      ((read ⟨a, none⟩).events = [] ↔ Denotes (linesOf a) first) ∧
      ((read ⟨a, none⟩).events = [] → (read ⟨a ++ 10 :: b, none⟩).value = .ok (ofSamples (first ++ second))) ∧
      ((read ⟨a, none⟩).events ≠ [] → read ⟨a ++ 10 :: b, none⟩ = read ⟨a, none⟩) ∧
      (read ⟨withReturns a, none⟩).value = .ok (ofSamples first) ∧
      ((read ⟨withReturns a, none⟩).events = [] ↔ (read ⟨a, none⟩).events = []) := by
  have denoted : Denotes (linesOf a) (readLines 1 (linesOf a)).samples ↔ (readLines 1 (linesOf a)).stop = none := by
    rw [denotes_iff 1]
    exact ⟨congrArg Reading.stop, congrArg (Reading.mk _)⟩
  have later := samples_readLines (1 + (a.splitOn 10).length) 1 (linesOf b)
  have returned := readLines_withReturns 1 a
  simp only [read_eq, readLines_linesOf_join, Reading.events_result_eq_nil_iff, ne_eq]
  refine ⟨(readLines 1 (linesOf a)).samples, (readLines 1 (linesOf b)).samples, rfl, rfl, denoted.symm, ?_, ?_, ?_, ?_⟩
  · intro whole
    rw [Reading.followedBy_of_whole whole, ← later]
    rfl
  · intro stopped
    rw [Reading.followedBy_of_stopped stopped]
  · rw [← returned.samples]
    rfl
  · rw [← Option.map_eq_none_iff, returned.line, Option.map_eq_none_iff]

theorem reading_is_compositional_of_sample_line :
    (read ⟨[48, 32, 49, 32, 49], none⟩).events = [] ∧ (read ⟨[120], none⟩).events ≠ [] ∧
      (∃ first second : List (Sample Float32),
        (read ⟨[48, 32, 49, 32, 49], none⟩).value = .ok (ofSamples first) ∧
        (read ⟨[120], none⟩).value = .ok (ofSamples second) ∧
        (read ⟨[48, 32, 49, 32, 49, 10, 120], none⟩).value = .ok (ofSamples (first ++ second))) ∧
      read ⟨[120, 10, 48, 32, 49, 32, 49], none⟩ = read ⟨[120], none⟩ := by
  have whole : (read ⟨[48, 32, 49, 32, 49], none⟩).events = [] := by decide
  have stopped : (read ⟨[120], none⟩).events ≠ [] := by decide
  obtain ⟨first, second, before, after, -, joined, -⟩ := reading_is_compositional [48, 32, 49, 32, 49] [120]
  obtain ⟨-, -, -, -, -, -, hidden, -⟩ := reading_is_compositional [120] [48, 32, 49, 32, 49]
  exact ⟨whole, stopped, ⟨first, second, before, after, joined whole⟩, hidden stopped⟩

example : (read ⟨[0xc3] ++ 10 :: [0xa9], none⟩).events = [.stoppedReading 1 .notUtf8] := by decide

end PlaneNet.Dataset
