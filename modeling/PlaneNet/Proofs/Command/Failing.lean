import PlaneNet.Command.Effects
import PlaneNet.Files
import PlaneNet.Proofs.Command.Running

set_option autoImplicit false

namespace PlaneNet

theorem Dataset.load_error {F : Type} [FileSystem F] {files : F} {path : String} {e : Error}
    (failed : (Dataset.load files path).value = .error e) : ∃ cause, e = .invalidData cause := by
  rw [Dataset.load] at failed
  split at failed
  next =>
    cases failed
    exact ⟨_, rfl⟩
  next source _ =>
    rw [Dataset.read] at failed
    cases failing : source.failure with
    | none =>
      simp only [failing] at failed
      cases failed
    | some reason =>
      simp only [failing] at failed
      split at failed
      next => cases failed
      next =>
        cases failed
        exact ⟨_, rfl⟩

theorem Topology.ofSizes_error {sizes : List Nat} {rbf : Bool} {e : Error} (refused : ofSizes sizes rbf = .error e) :
    ∃ cause, e = .invalidConfig cause := by
  rw [ofSizes] at refused
  split at refused
  next cause _ =>
    cases refused
    exact ⟨cause, rfl⟩
  next => cases refused

theorem TrainConfig.validate_error {R : Type} [Scalar R] {c : TrainConfig R} {e : Error}
    (refused : c.validate = .error e) : ∃ cause, e = .invalidConfig cause := by
  rw [validate] at refused
  split at refused
  · cases refused
    exact ⟨_, rfl⟩
  · split at refused
    · cases refused
      exact ⟨_, rfl⟩
    · cases refused

namespace Command

theorem exitCode_of_unclustered {e : Error} (unclustered : KMeans.Unclustered e) (ends : e ≠ .endless) :
    exitCode e = some 1 := by
  cases unclustered with
  | emptied => rfl
  | capped => rfl
  | endless => exact absurd rfl ends

theorem fragmentOf_of_sound {G : Type} {t : MachineTrainer G} (sound : t.Sound) :
    ∃ text, fragmentOf t = .ok text := by
  have whole := sound.network.weights
  rw [fragmentOf, Fragment.program_eq sound.network.accepted sound.network.fits, if_pos whole]
  exact ⟨_, rfl⟩

section Stages

variable {F G : Type} [FileSystem F] [Random.Source G]

-- The stages of a run in their order, each with the error that the run then returns.
inductive Fails (seeded : UInt64 → G) (o : Options) (files : F) : Error → Prop where
  | data {e : Error} (unread : (Dataset.load files o.file).value = .error e) : Fails seeded o files e
  | hidden {data : Dataset Float32} (loaded : (Dataset.load files o.file).value = .ok data)
      (empty : 0 ∈ o.hidden) : Fails seeded o files (.invalidConfig .emptyHidden)
  | topology {data : Dataset Float32} {e : Error} (loaded : (Dataset.load files o.file).value = .ok data)
      (positive : 0 ∉ o.hidden) (refused : Topology.ofHidden o.hidden o.rbf = .error e) : Fails seeded o files e
  | build {data : Dataset Float32} {b : Builder Float} {e : Error}
      (loaded : (Dataset.load files o.file).value = .ok data) (made : builderFor o = .ok b)
      (refuses : b.Refuses data (seeded o.seed) e) (ends : e ≠ .endless) : Fails seeded o files e
  | writing {t : MachineTrainer G} {text path reason : String} (built : trainerFor seeded o files = .ok t)
      (made : fragmentOf t = .ok text) (shader : o.shader = some path)
      (refused : FileSystem.write files path text.toUTF8.toList = .error reason) :
      Fails seeded o files (.invalidData (.unwritten path reason))

variable {seeded : UInt64 → G} {o : Options} {files : F} {data : Dataset Float32} {e : Error}

theorem builderFor_empty (empty : 0 ∈ o.hidden) : builderFor o = .error (.invalidConfig .emptyHidden) := by
  have found : o.hidden.any (· == 0) = true := List.any_eq_true.mpr ⟨0, empty, rfl⟩
  rw [builderFor, Builder.ofHidden, if_pos found, error_bind]

theorem builderFor_positive (positive : 0 ∉ o.hidden) :
    builderFor o = (Topology.ofHidden o.hidden o.rbf >>= fun t => .ok
      ⟨o.hidden, o.rbf, o.activation, some (configFor o t), o.maxUpdates⟩ : Except Error (Builder Float)) := by
  have none : ¬ o.hidden.any (· == 0) = true := by
    rw [List.any_eq_true]
    rintro ⟨width, member, zero⟩
    exact positive (eq_of_beq zero ▸ member)
  rw [builderFor, Builder.ofHidden, if_neg none]
  rfl

theorem trainerFor_of_loaded (loaded : (Dataset.load files o.file).value = .ok data) :
    trainerFor seeded o files = (builderFor o >>= fun b => (b.build data (seeded o.seed)).value) := by
  rw [trainerFor, loaded, ok_bind, prepare]

-- What is left is a panic over the size of the network, and clustering that never ends.
theorem trainerFor_cases (seeded : UInt64 → G) (o : Options) (files : F) :
    (∃ e, Fails seeded o files e) ∨ (∃ e, exitCode e ≠ some 1 ∧ trainerFor seeded o files = .error e) ∨
      ∃ t, trainerFor seeded o files = .ok t := by
  cases loaded : (Dataset.load files o.file).value with
  | error e => exact .inl ⟨e, .data loaded⟩
  | ok data =>
    by_cases empty : 0 ∈ o.hidden
    · exact .inl ⟨_, .hidden loaded empty⟩
    · cases shape : Topology.ofHidden o.hidden o.rbf with
      | error e => exact .inl ⟨e, .topology loaded empty shape⟩
      | ok t =>
        have made := builderFor_positive empty
        rw [shape, ok_bind] at made
        rw [trainerFor_of_loaded loaded, made, ok_bind]
        rcases Builder.build_cases _ data (seeded o.seed) with
          ⟨e, refuses⟩ | ⟨t, admitted, large⟩ | ⟨t, drawn, trainer, built, -⟩
        · by_cases ends : e = .endless
          · subst ends
            exact .inr (.inl ⟨_, by decide, refuses.build_eq⟩)
          · exact .inl ⟨e, .build loaded made refuses ends⟩
        · exact .inr (.inl ⟨_, by decide, admitted.build_overflow _ large⟩)
        · exact .inr (.inr ⟨trainer, built⟩)

theorem Fails.exitCode_eq (fails : Fails seeded o files e) : exitCode e = some 1 := by
  cases fails with
  | data unread =>
    obtain ⟨cause, rfl⟩ := Dataset.load_error unread
    rfl
  | hidden => rfl
  | topology _ _ refused =>
    obtain ⟨cause, rfl⟩ := Topology.ofSizes_error refused
    rfl
  | build loaded _ refuses ends =>
    cases refuses with
    | topology refused =>
      obtain ⟨cause, rfl⟩ := Topology.ofSizes_error refused
      rfl
    | config _ refused =>
      obtain ⟨cause, rfl⟩ := TrainConfig.validate_error refused
      rfl
    | noSamples => rfl
    | fewSamples => rfl
    | clustering reached enough failed =>
      have permuted := (Dataset.load_reachable loaded).permuted
      have unclustered := KMeans.fitInOrder_unclustered reached.positive (permuted.shuffle _) enough failed
      exact exitCode_of_unclustered unclustered ends
    | variance => rfl
  | writing => rfl

end Stages

theorem emit_error {F G : Type} [FileSystem F] {o : Options} {files : F} {t : MachineTrainer G} {text : String}
    {e : Error} (made : fragmentOf t = .ok text) (refused : Command.emit o files t = .error e) :
    ∃ path reason, o.shader = some path ∧ FileSystem.write files path text.toUTF8.toList = .error reason ∧
      e = .invalidData (.unwritten path reason) := by
  rw [Command.emit, made, ok_bind] at refused
  cases shader : o.shader with
  | none =>
    simp only [shader] at refused
    cases refused
  | some path =>
    simp only [shader] at refused
    cases written : FileSystem.write files path text.toUTF8.toList with
    | ok after =>
      rw [written] at refused
      cases refused
    | error reason =>
      rw [written] at refused
      cases refused
      exact ⟨path, reason, rfl, written, rfl⟩

namespace Shell

variable {F G α : Type} {o : Options} {t : MachineTrainer G} {w : World F} {e : Error}

theorem attempt_ok (a : α) (w : World F) : attempt (.ok a) w = .ok a w := rfl

theorem attempt_error (e : Error) (w : World F) : attempt (.error e : Except Error α) w = .error e w := rfl

theorem print_ok (text : String) (w : World F) : print text w = .ok () { w with stdout := w.stdout ++ text } := rfl

theorem forM_print (lines : List String) (w : World F) :
    lines.forM print w = .ok () { w with stdout := w.stdout ++ String.join lines } := by
  induction lines generalizing w with
  | nil => simp [pure, EStateM.pure]
  | cons line lines ih =>
    show (print line >>= fun _ => lines.forM print) w = _
    rw [bind_of_ok (print_ok line w), ih, String.join_cons, String.append_assoc]

section Saving

variable [FileSystem F]

theorem save_ok {path text : String} {after : F}
    (written : FileSystem.write w.files path text.toUTF8.toList = .ok after) :
    save path text w = .ok () { w with files := after } := by
  have read : (get : Shell F (World F)) w = .ok w w := rfl
  rw [save, bind_of_ok read, written]
  rfl

theorem save_error {path text reason : String}
    (refused : FileSystem.write w.files path text.toUTF8.toList = .error reason) :
    save path text w = .error (.invalidData (.unwritten path reason)) w := by
  have read : (get : Shell F (World F)) w = .ok w w := rfl
  rw [save, bind_of_ok read, refused]
  rfl

theorem emit_error {text path reason : String} (made : fragmentOf t = .ok text) (shader : o.shader = some path)
    (refused : FileSystem.write w.files path text.toUTF8.toList = .error reason) :
    emit o t w = .error (.invalidData (.unwritten path reason)) w := by
  rw [emit, made, bind_of_ok (attempt_ok text w), shader]
  exact save_error refused

theorem emit_ok {printed : String} {after : F} (emitted : Command.emit o w.files t = .ok (printed, after)) :
    emit o t w = .ok () ⟨w.stdout ++ printed, after⟩ := by
  obtain ⟨text, made, put⟩ := (bind_eq_ok_iff _ _ _).mp emitted
  rw [emit, made, bind_of_ok (attempt_ok text w)]
  cases shader : o.shader with
  | none =>
    simp only [shader] at put
    cases put
    rfl
  | some path =>
    simp only [shader] at put
    cases written : FileSystem.write w.files path text.toUTF8.toList with
    | error reason =>
      rw [written] at put
      cases put
    | ok files =>
      rw [written] at put
      cases put
      rw [String.append_empty]
      exact save_ok written

end Saving

variable [Random.Source G]

theorem printEpochs_ok {n : Nat} {lines : List String} (quiet : epochLines n t = (lines, none)) (w : World F) :
    printEpochs n t w = .ok () { w with stdout := w.stdout ++ String.join lines } := by
  induction n generalizing t lines w with
  | zero =>
    cases quiet
    simp [printEpochs, pure, EStateM.pure]
  | succ n ih =>
    rw [epochLines] at quiet
    cases learned : t.learn with
    | error e =>
      rw [learned] at quiet
      cases quiet
    | ok result =>
      obtain ⟨loss, next⟩ := result
      cases rest : epochLines n next with
      | mk later fault =>
        simp only [learned, rest] at quiet
        cases quiet
        let line := epochLine (next.epoch, loss)
        have run : printEpochs (n + 1) t w = (print line >>= fun _ => printEpochs n next) w := by
          rw [printEpochs, learned]
          rfl
        rw [run, bind_of_ok (print_ok line w), ih rest, String.join_cons, String.append_assoc]

theorem train_ok {lines : List String} (quiet : Command.train o t = (lines, none)) (w : World F) :
    train o t w = .ok () { w with stdout := w.stdout ++ String.join lines } := by
  rw [Command.train] at quiet
  rw [train]
  cases threaded : o.threaded with
  | true =>
    rw [threaded, if_pos rfl] at quiet
    cases quiet
    exact forM_print _ w
  | false =>
    rw [threaded, if_neg Bool.false_ne_true] at quiet
    exact printEpochs_ok quiet w

variable [FileSystem F] {seeded : UInt64 → G}

theorem build_ok (built : trainerFor seeded o w.files = .ok t) : build seeded o w = .ok t w := by
  obtain ⟨data, loaded, prepared⟩ := (bind_eq_ok_iff _ _ _).mp built
  show (attempt (Dataset.load w.files o.file).value >>= fun data => attempt (prepare seeded o data)) w = _
  rw [loaded, bind_of_ok (attempt_ok data w), prepared]
  rfl

theorem build_error (failed : trainerFor seeded o w.files = .error e) : build seeded o w = .error e w := by
  show (attempt (Dataset.load w.files o.file).value >>= fun data => attempt (prepare seeded o data)) w = _
  rw [trainerFor] at failed
  cases loaded : (Dataset.load w.files o.file).value with
  | error e' =>
    rw [loaded, error_bind] at failed
    cases failed
    exact bind_of_error (attempt_error _ w)
  | ok data =>
    rw [loaded, ok_bind] at failed
    rw [bind_of_ok (attempt_ok data w), failed]
    rfl

end Shell

section Whole

variable {F G : Type} [FileSystem F] [Random.Source G] {seeded : UInt64 → G} {o : Options} {w : World F} {e : Error}

theorem Fails.perform_eq (fails : Fails seeded o w.files e) : Shell.perform seeded o w = .error e w := by
  have unbuilt (failed : trainerFor seeded o w.files = .error e) : Shell.perform seeded o w = .error e w :=
    bind_of_error (Shell.build_error failed)
  cases fails with
  | data unread => exact unbuilt (by rw [trainerFor, unread, error_bind])
  | hidden loaded empty =>
    exact unbuilt (by rw [trainerFor_of_loaded loaded, builderFor_empty empty, error_bind])
  | topology loaded positive refused =>
    exact unbuilt (by rw [trainerFor_of_loaded loaded, builderFor_positive positive, refused]; rfl)
  | build loaded made refuses =>
    exact unbuilt (by rw [trainerFor_of_loaded loaded, made, ok_bind, refuses.build_eq])
  | writing built made shader refused =>
    rw [Shell.perform, bind_of_ok (Shell.build_ok built), bind_of_error (Shell.emit_error made shader refused)]

theorem train_quiet {t : MachineTrainer G} {files : F} (limited : 1 ≤ o.epochs)
    (built : trainerFor seeded o files = .ok t) : ∃ lines, train o t = (lines, none) := by
  obtain ⟨sound, fresh⟩ := trainerFor_starts built
  obtain ⟨means, after, trained⟩ := trainerFor_learns built
  exact ⟨_, train_eq sound fresh limited trained⟩

theorem perform_cases (seeded : UInt64 → G) (limited : 1 ≤ o.epochs) (w : World F) :
    (∃ e, Fails seeded o w.files e) ∨
      (∃ e, exitCode e ≠ some 1 ∧ Shell.perform seeded o w = .error e w) ∨
      ∃ t printed after lines, trainerFor seeded o w.files = .ok t ∧ emit o w.files t = .ok (printed, after) ∧
        train o t = (lines, none) ∧
        Shell.perform seeded o w = .ok () ⟨w.stdout ++ printed ++ String.join lines, after⟩ := by
  rcases trainerFor_cases seeded o w.files with fails | ⟨e, other, failed⟩ | ⟨t, built⟩
  · exact .inl fails
  · exact .inr (.inl ⟨e, other, bind_of_error (Shell.build_error failed)⟩)
  · obtain ⟨text, made⟩ := fragmentOf_of_sound (trainerFor_starts built).1
    cases emitted : emit o w.files t with
    | error e =>
      obtain ⟨path, reason, shader, refused, rfl⟩ := emit_error made emitted
      exact .inl ⟨_, .writing built made shader refused⟩
    | ok result =>
      obtain ⟨lines, quiet⟩ := train_quiet limited built
      refine .inr (.inr ⟨t, result.1, result.2, lines, built, emitted, quiet, ?_⟩)
      rw [Shell.perform, bind_of_ok (Shell.build_ok built), bind_of_ok (Shell.emit_ok emitted), Shell.train_ok quiet]

theorem run_eq_perform (seeded : UInt64 → G) (limited : 1 ≤ o.epochs) (files : F) :
    run seeded o files = .ofResult (Shell.perform seeded o ⟨"", files⟩) := by
  let w : World F := ⟨"", files⟩
  rw [run]
  cases built : trainerFor seeded o files with
  | error e =>
    rw [Shell.perform, bind_of_error (Shell.build_error (w := w) built)]
    rfl
  | ok t =>
    rw [Shell.perform, bind_of_ok (Shell.build_ok (w := w) built)]
    cases emitted : emit o files t with
    | error e =>
      obtain ⟨text, made⟩ := fragmentOf_of_sound (trainerFor_starts built).1
      obtain ⟨path, reason, shader, refused, rfl⟩ := emit_error made emitted
      rw [bind_of_error (Shell.emit_error (w := w) made shader refused)]
      simp only [emitted]
      rfl
    | ok result =>
      obtain ⟨lines, quiet⟩ := train_quiet limited built
      rw [bind_of_ok (Shell.emit_ok (w := w) emitted), Shell.train_ok quiet]
      simp only [emitted, quiet, w, String.empty_append]
      rfl

end Whole

theorem failed_run_leaves_no_trace {F G : Type} [FileSystem F] [Random.Source G] (seeded : UInt64 → G) :
    ∀ o : Options, 1 ≤ o.epochs → ∀ files : F,
      run seeded o files = .ofResult (Shell.perform seeded o ⟨"", files⟩) ∧
      ((run seeded o files).code = some 1 ↔ ∃! e, Fails seeded o files e) ∧
      (∀ e, Fails seeded o files e →
        Shell.perform seeded o ⟨"", files⟩ = .error e ⟨"", files⟩ ∧
          run seeded o files = ⟨some 1, "", "error: " ++ e.message ++ "\n", files⟩) ∧
      (∀ (w : World F) e after, Shell.perform seeded o w = .error e after → after = w) ∧
      ∀ t, trainerFor seeded o files = .ok t → (∃ text, fragmentOf t = .ok text) ∧
        ∀ w : World F, ∃ lines, Shell.train o t w = .ok () { w with stdout := w.stdout ++ String.join lines } := by
  intro o limited files
  have ended (e : Error) (fails : Fails seeded o files e) :
      Shell.perform seeded o ⟨"", files⟩ = .error e ⟨"", files⟩ ∧
        run seeded o files = ⟨some 1, "", "error: " ++ e.message ++ "\n", files⟩ := by
    have failed := Fails.perform_eq (w := ⟨"", files⟩) fails
    refine ⟨failed, ?_⟩
    have code := fails.exitCode_eq
    rw [run_eq_perform seeded limited, failed, Outcome.ofResult, Outcome.failed, code, if_pos rfl, errorText]
  refine ⟨run_eq_perform seeded limited files, ⟨?_, ?_⟩, ended, ?_, fun t built => ⟨?_, fun w => ?_⟩⟩
  · intro one
    rw [run_eq_perform seeded limited] at one
    rcases perform_cases seeded limited ⟨"", files⟩ with
      ⟨e, fails⟩ | ⟨e, other, failed⟩ | ⟨t, printed, after, lines, -, -, -, done⟩
    · refine ⟨e, fails, fun e' fails' => ?_⟩
      cases (ended e' fails').1.symm.trans (ended e fails).1
      rfl
    · rw [failed] at one
      exact absurd one other
    · rw [done] at one
      cases one
  · rintro ⟨e, fails, -⟩
    rw [(ended e fails).2]
  · intro w e after failed
    rcases perform_cases seeded limited w with
      ⟨e', fails⟩ | ⟨e', -, failed'⟩ | ⟨t, printed, after', lines, -, -, -, done⟩
    · cases fails.perform_eq.symm.trans failed
      rfl
    · cases failed'.symm.trans failed
      rfl
    · cases done.symm.trans failed
  · exact fragmentOf_of_sound (trainerFor_starts built).1
  · obtain ⟨lines, quiet⟩ := train_quiet limited built
    exact ⟨lines, Shell.train_ok quiet w⟩

theorem failed_run_leaves_no_trace_of_unwritten_shader :
    ∃ (o : Options) (files : Files), o = { defaults with file := "d", shader := some "out/" } ∧
      files = ⟨[("d", "1 1 1\n-1 -1 0\n".toUTF8.toList)]⟩ ∧ 1 ≤ o.epochs ∧
      Fails Random.Stream.ofSeed o files (.invalidData (.unwritten "out/" "Is a directory (os error 21)")) ∧
      (run Random.Stream.ofSeed o files).code = some 1 ∧
      run Random.Stream.ofSeed o files =
        ⟨some 1, "", "error: invalid data: failed to write out/: Is a directory (os error 21)\n", files⟩ := by
  let o : Options := { defaults with file := "d", shader := some "out/" }
  let files : Files := ⟨[("d", "1 1 1\n-1 -1 0\n".toUTF8.toList)]⟩
  have limited : 1 ≤ o.epochs := by decide
  obtain ⟨-, -, ended, -, built⟩ := failed_run_leaves_no_trace Random.Stream.ofSeed o limited files
  have succeeds : (trainerFor Random.Stream.ofSeed o files).isOk = true := by decide +kernel
  obtain ⟨t, ready⟩ := exists_of_isOk succeeds
  obtain ⟨text, made⟩ := (built t ready).1
  have refused :
      FileSystem.write files "out/" text.toUTF8.toList = .error "Is a directory (os error 21)" := rfl
  have fails := Fails.writing ready made rfl refused
  have shown := (ended _ fails).2
  exact ⟨o, files, rfl, rfl, limited, fails, congrArg Outcome.code shown, shown⟩

end Command

end PlaneNet
