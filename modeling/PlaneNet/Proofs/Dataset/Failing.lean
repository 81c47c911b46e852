import PlaneNet.Proofs.Dataset.Grammar

set_option autoImplicit false

namespace PlaneNet.Dataset

def finishedLines (bytes : List UInt8) : List (List UInt8) := (bytes.splitOn 10).dropLast

theorem finishedLines_eq (bytes : List UInt8) : finishedLines bytes = (splitLines bytes).1 := by
  rw [finishedLines, ← splitLines_eq, List.dropLast_concat]

theorem length_finishedLines (bytes : List UInt8) : (finishedLines bytes).length = bytes.count 10 := by
  rw [finishedLines_eq]
  induction bytes with
  | nil => rfl
  | cons b bytes ih =>
    rw [splitLines_cons, List.count_cons, ← ih]
    by_cases newline : b = 10
    · simp [consByte, newline]
    · simp only [consByte, if_neg newline, beq_iff_eq]
      cases (splitLines bytes).1 <;> rfl

section Failure

variable (bytes : List UInt8) (reason : String)

theorem read_failing : read ⟨bytes, some reason⟩ =
    if (readLines 1 (finishedLines bytes)).stop.isSome then (readLines 1 (finishedLines bytes)).result
    else ⟨[], .error (.invalidData (.unread ((finishedLines bytes).length + 1) reason))⟩ := by
  rw [finishedLines_eq]
  rfl

variable {bytes} {kept rest : List (List UInt8)} {bad : List UInt8} {samples : List (Sample Float32)}
  {cause : StopCause}

theorem Denotes.read_failing (denotes : Denotes (finishedLines bytes) samples) :
    read ⟨bytes, some reason⟩ =
      ⟨[], .error (.invalidData (.unread ((finishedLines bytes).length + 1) reason))⟩ := by
  rw [Dataset.read_failing, (denotes_iff 1).mp denotes]
  rfl

theorem Denotes.read_failing_partly (denotes : Denotes kept samples) (stops : Line.ofBytes bad = .bad cause)
    (lines : finishedLines bytes = kept ++ bad :: rest) :
    read ⟨bytes, some reason⟩ = ⟨[.stoppedReading (kept.length + 1) cause], .ok (ofSamples samples)⟩ := by
  rw [Dataset.read_failing, lines, denotes.readLines_partly stops]
  rfl

end Failure

theorem failing_source_is_reported (bytes : List UInt8) (n : Nat) (reason : String) :
    ((∃ line ∈ finishedLines (bytes.take n), BadLine line) →
      ∃ kept bad later samples cause, finishedLines (bytes.take n) = kept ++ bad :: later ∧
        (∀ line ∈ kept, ¬ BadLine line) ∧ BadLine bad ∧ (∀ denoted, Denotes kept denoted ↔ denoted = samples) ∧
        Line.ofBytes bad = .bad cause ∧ read ⟨bytes.take n, some reason⟩ =
          ⟨[.stoppedReading (kept.length + 1) cause], .ok (ofSamples samples)⟩) ∧
    ((∀ line ∈ finishedLines (bytes.take n), ¬ BadLine line) →
      ∃ e, read ⟨bytes.take n, some reason⟩ = ⟨[], .error e⟩ ∧
        e = .invalidData (.unread (1 + (bytes.take n).count 10) reason) ∧
        e.message = "invalid data: failed to read line " ++ toString (1 + (bytes.take n).count 10) ++ ": " ++ reason) ∧
    ∀ other, finishedLines other = finishedLines (bytes.take n) →
      read ⟨other, some reason⟩ = read ⟨bytes.take n, some reason⟩ := by
  refine ⟨?_, ?_, ?_⟩
  · rintro ⟨line, member, wrong⟩
    obtain ⟨kept, ending, lines, clean, first⟩ := exists_first_bad (finishedLines (bytes.take n))
    obtain ⟨samples, denotes⟩ := exists_denotes clean
    cases ending with
    | nil =>
      rw [lines, List.append_nil] at member
      exact absurd wrong (clean line member)
    | cons bad later =>
      obtain ⟨cause, stops⟩ := exists_bad_iff.mpr (first bad rfl)
      exact ⟨kept, bad, later, samples, cause, lines, clean, first bad rfl,
        fun denoted => ⟨denotes.unique, fun same => same ▸ denotes⟩, stops,
        denotes.read_failing_partly reason stops lines⟩
  · intro clean
    obtain ⟨samples, denotes⟩ := exists_denotes clean
    refine ⟨_, ?_, rfl, rfl⟩
    rw [denotes.read_failing, length_finishedLines, Nat.add_comm]
  · intro other same
    rw [read_failing, read_failing, same]

theorem failing_source_is_reported_of_two_cuts :
    (∀ line ∈ finishedLines ([32, 10, 120, 10, 50].take 3), ¬ BadLine line) ∧
      (∃ line ∈ finishedLines ([32, 10, 120, 10, 50].take 5), BadLine line) ∧
      (∃ e, read ⟨[32, 10, 120, 10, 50].take 3, some "boom"⟩ = ⟨[], .error e⟩ ∧
        e = .invalidData (.unread 2 "boom") ∧ e.message = "invalid data: failed to read line 2: boom") ∧
      ∃ kept bad later samples cause, [[32], [120]] = kept ++ bad :: later ∧ Denotes kept samples ∧
        read ⟨[32, 10, 120, 10, 50].take 5, some "boom"⟩ =
          ⟨[.stoppedReading (kept.length + 1) cause], .ok (ofSamples samples)⟩ := by
  have clean : ∀ line ∈ finishedLines ([32, 10, 120, 10, 50].take 3), ¬ BadLine line := by
    intro line member bad
    have blank : line = [32] := List.mem_singleton.mp member
    obtain ⟨cause, stops⟩ := exists_bad_iff.mpr bad
    subst blank
    cases stops
  have wrong : ∃ line ∈ finishedLines ([32, 10, 120, 10, 50].take 5), BadLine line :=
    ⟨[120], .tail _ (.head _), exists_bad_iff.mp ⟨_, rfl⟩⟩
  obtain ⟨-, reported, -⟩ := failing_source_is_reported [32, 10, 120, 10, 50] 3 "boom"
  obtain ⟨stopped, -, -⟩ := failing_source_is_reported [32, 10, 120, 10, 50] 5 "boom"
  obtain ⟨kept, bad, later, samples, cause, lines, -, -, denoted, -, result⟩ := stopped wrong
  exact ⟨clean, wrong, reported clean, kept, bad, later, samples, cause, lines, (denoted samples).mpr rfl, result⟩

end PlaneNet.Dataset
