import PlaneNet.Proofs.Trainer.Cycles

set_option autoImplicit false

namespace PlaneNet.Trainer

inductive Action where
  | shuffle
  | train (index : Nat)
  deriving DecidableEq

variable {W R G : Type} [Scalar R] [Exponential R] [Storage W R] [Random.Source G] {t next after : Trainer W R G}

inductive Performs : Trainer W R G → List Action → List R → Trainer W R G → Prop where
  | done (t : Trainer W R G) : Performs t [] [] t
  | shuffle {t after : Trainer W R G} {actions : List Action} {losses : List R}
      (rest : Performs { t with data := (t.data.shuffle t.words).1, words := (t.data.shuffle t.words).2 }
        actions losses after) :
      Performs t (.shuffle :: actions) losses after
  | train {t after : Trainer W R G} {i : Nat} {s : Sample W} {e : R} {network : Network W R}
      {actions : List Action} {losses : List R} (sample : t.data.samples[i]? = some s)
      (trained : t.network.train s.x s.y s.target t.config.learnRate t.config.momentum = .ok (e, network))
      (rest : Performs { t with network } actions losses after) :
      Performs t (.train i :: actions) (loss e :: losses) after

theorem Performs.append {actions actions' : List Action} {losses losses' : List R}
    (first : t.Performs actions losses next) (second : next.Performs actions' losses' after) :
    t.Performs (actions ++ actions') (losses ++ losses') after := by
  induction first with
  | done => exact second
  | shuffle _ ih => exact .shuffle (ih second)
  | train sample trained _ ih => exact .train sample trained (ih second)

theorem step_first {l : R} (stepped : t.step 0 = .ok (l, after)) :
    ∃ i, after.data.order.toList[0]? = some i ∧ t.Performs [.shuffle, .train i] [l] after := by
  obtain ⟨s, e, network, visited, trained, rfl, rfl⟩ := (step_eq_ok_iff _ _ _ _).mp stepped
  obtain ⟨i, place, sample⟩ := (Dataset.visited_eq_ok_iff _ _ _).mp visited
  exact ⟨i, place, .shuffle (.train sample trained (.done _))⟩

theorem step_later {position : Nat} {l : R} (later : position ≠ 0)
    (stepped : t.step position = .ok (l, after)) :
    ∃ i, t.data.order.toList[position]? = some i ∧ after.data = t.data ∧ t.Performs [.train i] [l] after := by
  obtain ⟨s, e, network, visited, trained, rfl, rfl⟩ := (step_eq_ok_iff _ _ _ _).mp stepped
  have drawn : t.drawn position = (t.data, t.words) := if_neg later
  rw [drawn] at visited ⊢
  obtain ⟨i, place, sample⟩ := (Dataset.visited_eq_ok_iff _ _ _).mp visited
  exact ⟨i, place, rfl, .train sample trained (.done _)⟩

theorem steps_later {position count : Nat} {losses : List R} (later : position ≠ 0)
    (run : t.steps position count = .ok (losses, after)) :
    after.data = t.data ∧
      t.Performs (((t.data.order.toList.drop position).take count).map .train) losses after := by
  induction count generalizing t position losses with
  | zero =>
    cases run
    exact ⟨rfl, .done _⟩
  | succ count ih =>
    obtain ⟨⟨l, next⟩, stepped, run⟩ := (bind_eq_ok_iff _ _ _).mp run
    obtain ⟨⟨others, last⟩, rest, done⟩ := (bind_eq_ok_iff _ _ _).mp run
    cases done
    obtain ⟨i, place, same, performed⟩ := step_later later stepped
    obtain ⟨data, performedRest⟩ := ih (Nat.succ_ne_zero position) rest
    obtain ⟨within, rfl⟩ := List.getElem?_eq_some_iff.mp place
    rw [same] at data performedRest
    refine ⟨data, ?_⟩
    rw [List.drop_eq_getElem_cons within, List.take_succ_cons, List.map_cons]
    exact performed.append performedRest

theorem steps_pass (sound : t.Sound) {losses : List R} (run : t.steps 0 t.data.size = .ok (losses, after)) :
    t.Performs (.shuffle :: after.data.order.toList.map .train) losses after := by
  obtain ⟨count, size⟩ : ∃ count, t.data.size = count + 1 :=
    ⟨t.data.size - 1, by have := sound.positive; omega⟩
  rw [size] at run
  obtain ⟨⟨l, next⟩, stepped, run⟩ := (bind_eq_ok_iff _ _ _).mp run
  obtain ⟨⟨others, last⟩, rest, done⟩ := (bind_eq_ok_iff _ _ _).mp run
  cases done
  obtain ⟨_, _, again, kept⟩ := step_eq_ok sound sound.positive
  cases again.symm.trans stepped
  obtain ⟨i, place, performed⟩ := step_first stepped
  obtain ⟨data, performedRest⟩ := steps_later Nat.one_ne_zero rest
  have length := kept.sound.permuted.length_order
  rw [step_size stepped, size] at length
  obtain ⟨within, rfl⟩ := List.getElem?_eq_some_iff.mp place
  have whole : next.data.order.toList =
      next.data.order.toList[0] :: (next.data.order.toList.drop 1).take count := by
    rw [List.take_of_length_le (by rw [List.length_drop]; omega), ← List.drop_eq_getElem_cons within]
    rfl
  rw [data, whole]
  exact performed.append performedRest

end PlaneNet.Trainer
