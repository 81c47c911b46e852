import PlaneNet.Command.Run
import PlaneNet.Files
import PlaneNet.Proofs.Digits
import PlaneNet.Proofs.Fragment.Order
import PlaneNet.Proofs.Trainer.Building
import PlaneNet.Proofs.Trainer.Continuous

set_option autoImplicit false

namespace PlaneNet

theorem Dataset.load_reachable {F : Type} [FileSystem F] {files : F} {path : String} {data : Dataset Float32}
    (loaded : (Dataset.load files path).value = .ok data) : data.Reachable := by
  have reading (r : Reading) (same : r.result.value = .ok data) : data.Reachable := by
    cases same
    exact .ofSamples r.samples
  rw [Dataset.load] at loaded
  split at loaded
  next => cases loaded
  next source _ =>
    rw [Dataset.read] at loaded
    cases failed : source.failure with
    | none =>
      simp only [failed] at loaded
      exact reading _ loaded
    | some reason =>
      simp only [failed] at loaded
      split at loaded
      next => exact reading _ loaded
      next => cases loaded

namespace Command

section Lines

def OneLine (text : String) : Prop := '\n' ∉ text.toList

instance (text : String) : Decidable (OneLine text) := inferInstanceAs (Decidable ('\n' ∉ text.toList))

theorem OneLine.append {front back : String} (first : OneLine front) (second : OneLine back) :
    OneLine (front ++ back) := by
  simp only [OneLine, String.toList_append, List.mem_append, not_or]
  exact ⟨first, second⟩

theorem oneLine_toString (n : Nat) : OneLine (toString n) := by
  have digits := Decimal.all_isDigit_toDigits n
  rw [List.all_eq_true] at digits
  intro member
  have digit := digits '\n' (by simpa using member)
  cases digit

theorem oneLine_signed (negative : Bool) {digits : String} (short : OneLine digits) :
    OneLine (Decimal.signed negative digits) := by
  cases negative with
  | false => exact short
  | true => exact OneLine.append (by decide) short

theorem oneLine_fixed (places : Nat) (x : Float) : OneLine (Decimal.fixed places x) := by
  rw [Decimal.fixed]
  split
  next => decide
  next => exact oneLine_signed _ (by decide)
  next =>
    apply oneLine_signed
    rw [Decimal.fixedMagnitude, Decimal.padded]
    refine ((oneLine_toString _).append (by decide)).append (OneLine.append ?_ (oneLine_toString _))
    intro member
    rw [String.toList_ofList] at member
    cases List.eq_of_mem_replicate member

end Lines

section Training

open PlaneNet.Continuous (reportsFrom reportsFrom_append)

theorem getElem?_reportsFrom {R : Type} (epoch : Nat) {means : List R} {i : Nat} {mean : R}
    (called : means[i]? = some mean) : (reportsFrom epoch means)[i]? = some (epoch + 1 + i, mean) := by
  have within : i < means.length := (List.getElem?_eq_some_iff.mp called).1
  rw [reportsFrom, List.getElem?_zip_eq_some]
  exact ⟨by simp [within], called⟩

theorem epochLimit_eq {o : Options} (limited : 1 ≤ o.epochs) : epochLimit o = o.epochs.toNat := by
  refine if_neg fun none => ?_
  rw [none] at limited
  cases limited

variable {F G : Type} [FileSystem F] [Random.Source G] {seeded : UInt64 → G} {o : Options} {files : F}
  {t after : MachineTrainer G} {means : List Float}

theorem epochLines_eq {calls : Nat} (trained : t.learnMany calls = .ok (means, after)) :
    epochLines calls t = ((reportsFrom t.epoch means).map epochLine, none) := by
  induction calls generalizing t means with
  | zero =>
    cases trained
    rfl
  | succ calls ih =>
    obtain ⟨⟨mean, next⟩, learned, trained⟩ := (bind_eq_ok_iff _ _ _).mp trained
    obtain ⟨⟨others, last⟩, rest, done⟩ := (bind_eq_ok_iff _ _ _).mp trained
    cases done
    have counted : next.epoch = t.epoch + 1 := Trainer.learn_epoch learned
    have reports := reportsFrom_append t.epoch [mean] others
    simp only [List.singleton_append, List.length_singleton] at reports
    rw [epochLines, learned, reports]
    simp only [ih rest, counted]
    rfl

-- A trainer that runs by itself reports what the calls return one after the other.
theorem train_eq (sound : t.Sound) (fresh : t.epoch = 0) (limited : 1 ≤ o.epochs)
    (trained : t.learnMany o.epochs.toNat = .ok (means, after)) :
    train o t = ((reportsFrom 0 means).map epochLine, none) := by
  have limit := epochLimit_eq limited
  have whole : t.learnMany (o.epochs.toNat - t.epoch) = .ok (means, after) := by rw [fresh, Nat.sub_zero, trained]
  cases threaded : o.threaded with
  | true =>
    have quiet (e : Nat) (fails : none = some e) : e ≤ t.epoch ∨ o.epochs.toNat < e := by cases fails
    have complete := Continuous.train_complete sound quiet whole
    simp only [train, threaded, if_true, continuousLines, limit, complete, fresh]
  | false =>
    simp only [train, threaded, Bool.false_eq_true, if_false, limit]
    rw [epochLines_eq whole, fresh]

theorem trainerFor_starts (built : trainerFor seeded o files = .ok t) : t.Sound ∧ t.epoch = 0 := by
  obtain ⟨data, loaded, prepared⟩ := (bind_eq_ok_iff _ _ _).mp built
  obtain ⟨b, -, built⟩ := (bind_eq_ok_iff _ _ _).mp prepared
  exact ⟨Builder.build_sound (Dataset.load_reachable loaded).permuted built, Builder.build_epoch built⟩

-- No limit is beyond the word.
theorem trainerFor_learns (built : trainerFor seeded o files = .ok t) :
    ∃ means after, t.learnMany o.epochs.toNat = .ok (means, after) := by
  obtain ⟨sound, fresh⟩ := trainerFor_starts built
  have word : o.epochs.toNat < Word.limit := o.epochs.toNat_lt
  exact Trainer.learnMany_eq_ok sound (by omega)

end Training

section Run

@[simp] theorem exitCode_ne_zero (e : Error) : exitCode e ≠ some 0 := by
  cases e <;> nofun

variable {F G : Type} [FileSystem F] {o : Options} {files : F}

theorem emit_eq_ok {t : MachineTrainer G} {printed : String} {after : F}
    (emitted : emit o files t = .ok (printed, after)) :
    ∃ program, fragmentOf t = .ok program ∧ printed = if o.shader.isNone then program else "" := by
  obtain ⟨program, made, put⟩ := (bind_eq_ok_iff _ _ _).mp emitted
  refine ⟨program, made, ?_⟩
  cases shader : o.shader with
  | none =>
    simp only [shader] at put
    cases put
    rfl
  | some path =>
    simp only [shader] at put
    split at put
    next =>
      cases put
      rfl
    next => cases put

variable [Random.Source G] {seeded : UInt64 → G}

theorem run_threaded (limited : 1 ≤ o.epochs) (threaded : Bool) :
    run seeded { o with threaded } files = run seeded o files := by
  have same : trainerFor seeded { o with threaded } files = trainerFor seeded o files := rfl
  rw [run, run, same]
  cases built : trainerFor seeded o files with
  | error e => rfl
  | ok t =>
    obtain ⟨sound, fresh⟩ := trainerFor_starts built
    obtain ⟨means, after, trained⟩ := trainerFor_learns built
    have other := train_eq (o := { o with threaded }) sound fresh limited trained
    rw [← train_eq sound fresh limited trained] at other
    simp only [other]
    rfl

theorem run_of_code_eq_zero (limited : 1 ≤ o.epochs) (succeeds : (run seeded o files).code = some 0) :
    ∃ t program means last, trainerFor seeded o files = .ok t ∧ fragmentOf t = .ok program ∧
      t.learnMany o.epochs.toNat = .ok (means, last) ∧ means.length = o.epochs.toNat ∧
      (run seeded o files).stdout = (if o.shader.isNone then program else "") ++
        String.join ((Continuous.reportsFrom 0 means).map epochLine) := by
  rw [run] at succeeds ⊢
  cases built : trainerFor seeded o files with
  | error e => simp [built, Outcome.failed] at succeeds
  | ok t =>
    cases emitted : emit o files t with
    | error e => simp [built, emitted, Outcome.failed] at succeeds
    | ok result =>
      obtain ⟨printed, written⟩ := result
      obtain ⟨sound, fresh⟩ := trainerFor_starts built
      obtain ⟨means, last, trained⟩ := trainerFor_learns built
      obtain ⟨-, count, -⟩ := Trainer.learnMany_follows sound trained
      obtain ⟨program, made, rfl⟩ := emit_eq_ok emitted
      refine ⟨t, program, means, last, rfl, made, trained, count, ?_⟩
      simp only [emitted, train_eq sound fresh limited trained]

end Run

theorem threaded_run_is_plain_run {F G : Type} [FileSystem F] [Random.Source G] (seeded : UInt64 → G) :
    ∀ o : Options, 1 ≤ o.epochs → ∀ files : F,
      run seeded { o with threaded := true } files = run seeded { o with threaded := false } files ∧
      ((run seeded o files).code = some 0 → ∃ t program means last lines,
        trainerFor seeded o files = .ok t ∧ fragmentOf t = .ok program ∧
        t.learnMany o.epochs.toNat = .ok (means, last) ∧
        (run seeded o files).stdout = (if o.shader.isNone then program else "") ++ String.join lines ∧
        lines.length = o.epochs.toNat ∧
        ∀ i < o.epochs.toNat, ∃ mean text,
          means[i]? = some mean ∧ lines[i]? = some (text ++ "\n") ∧ OneLine text ∧
          text = toString (i + 1) ++ "\t" ++ Decimal.fixed 6 mean) := by
  intro o limited files
  refine ⟨(run_threaded limited true).trans (run_threaded limited false).symm, fun succeeds => ?_⟩
  obtain ⟨t, program, means, last, built, made, trained, count, stdout⟩ := run_of_code_eq_zero limited succeeds
  refine ⟨t, program, means, last, _, built, made, trained, stdout, ?_, fun i within => ?_⟩
  · simp [Continuous.reportsFrom, count]
  · obtain ⟨mean, called⟩ := exists_getElem? count within
    have report := getElem?_reportsFrom 0 called
    refine ⟨mean, _, called, ?_, ?_, rfl⟩
    · rw [List.getElem?_map, report, Nat.zero_add, Nat.add_comm]
      rfl
    · exact ((oneLine_toString _).append (by decide)).append (oneLine_fixed 6 mean)

theorem threaded_run_is_plain_run_of_two_samples :
    ∃ (o : Options) (files : Files), o = { defaults with file := "d", hidden := [1], rbf := true, epochs := 2 } ∧
      files = ⟨[("d", "1 1 1\n-1 -1 0\n".toUTF8.toList)]⟩ ∧ 1 ≤ o.epochs ∧
      (run Random.Stream.ofSeed o files).code = some 0 ∧
      run Random.Stream.ofSeed { o with threaded := true } files =
        run Random.Stream.ofSeed { o with threaded := false } files ∧
      ∃ t program means last lines,
        trainerFor Random.Stream.ofSeed o files = .ok t ∧ fragmentOf t = .ok program ∧
        t.learnMany 2 = .ok (means, last) ∧
        (run Random.Stream.ofSeed o files).stdout = program ++ String.join lines ∧ lines.length = 2 ∧
        ∀ i < 2, ∃ mean text, means[i]? = some mean ∧ lines[i]? = some (text ++ "\n") ∧ OneLine text ∧
          text = toString (i + 1) ++ "\t" ++ Decimal.fixed 6 mean := by
  let o : Options := { defaults with file := "d", hidden := [1], rbf := true, epochs := 2 }
  let files : Files := ⟨[("d", "1 1 1\n-1 -1 0\n".toUTF8.toList)]⟩
  have more : 1 ≤ o.epochs := by decide
  have succeeds : (run Random.Stream.ofSeed o files).code = some 0 := by decide +kernel
  obtain ⟨same, prints⟩ := threaded_run_is_plain_run Random.Stream.ofSeed o more files
  exact ⟨o, files, rfl, rfl, more, succeeds, same, prints succeeds⟩

end Command

end PlaneNet
