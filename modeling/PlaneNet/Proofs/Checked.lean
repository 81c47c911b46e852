import PlaneNet.Word

set_option autoImplicit false

namespace PlaneNet

section Sequence

variable {ε α β : Type}

@[simp] theorem pure_eq_ok (a : α) : (pure a : Except ε α) = .ok a := rfl

@[simp] theorem ok_bind (a : α) (f : α → Except ε β) : (Except.ok a >>= f) = f a := rfl

@[simp] theorem error_bind (e : ε) (f : α → Except ε β) : (Except.error e >>= f) = .error e := rfl

theorem bind_eq_ok_iff (x : Except ε α) (f : α → Except ε β) (b : β) :
    (x >>= f) = .ok b ↔ ∃ a, x = .ok a ∧ f a = .ok b := by
  cases x with
  | error e => simp
  | ok a => simp

theorem map_eq_map {f : α → β} {r r' : Except ε α} (same : r.map f = r'.map f) :
    (∃ e, r = .error e ∧ r' = .error e) ∨ ∃ a a', r = .ok a ∧ r' = .ok a' ∧ f a = f a' := by
  cases r with
  | error e =>
    cases r' with
    | error e' =>
      cases same
      exact .inl ⟨e, rfl, rfl⟩
    | ok a' => cases same
  | ok a =>
    cases r' with
    | error e' => cases same
    | ok a' => exact .inr ⟨a, a', rfl, rfl, Except.ok.inj same⟩

theorem exists_of_isOk {x : Except ε α} (succeeds : x.isOk = true) : ∃ a, x = .ok a := by
  cases x with
  | error e => cases succeeds
  | ok a => exact ⟨a, rfl⟩

-- A loop over consecutive numbers whose steps all succeed, with what holds before each step.
theorem foldlM_range' {f : β → Nat → Except ε β} {P : Nat → β → Prop} (start n : Nat)
    (step : ∀ i b, start ≤ i → i < start + n → P i b → ∃ next, f b i = .ok next ∧ P (i + 1) next)
    (b : β) (first : P start b) :
    ∃ last, (List.range' start n).foldlM f b = .ok last ∧ P (start + n) last := by
  induction n generalizing start b with
  | zero => exact ⟨b, rfl, first⟩
  | succ n ih =>
    obtain ⟨next, stepped, holds⟩ := step start b (by omega) (by omega) first
    obtain ⟨last, run, final⟩ := ih (start + 1)
      (fun i b low high => step i b (by omega) (by omega)) next holds
    refine ⟨last, ?_, by rwa [Nat.add_right_comm, Nat.add_assoc] at final⟩
    rw [List.range'_succ, List.foldlM_cons, stepped]
    exact run

-- The same downwards: what holds after a step is said of the number itself.
theorem foldlM_reverse_range' {f : β → Nat → Except ε β} {P : Nat → β → Prop} (start n : Nat)
    (step : ∀ i b, start ≤ i → i < start + n → P (i + 1) b → ∃ next, f b i = .ok next ∧ P i next)
    (b : β) (first : P (start + n) b) :
    ∃ last, (List.range' start n).reverse.foldlM f b = .ok last ∧ P start last := by
  induction n generalizing b with
  | zero => exact ⟨b, rfl, first⟩
  | succ n ih =>
    obtain ⟨next, stepped, holds⟩ := step (start + n) b (by omega) (by omega) first
    obtain ⟨last, run, final⟩ := ih (fun i b low high => step i b low (by omega)) next holds
    refine ⟨last, ?_, final⟩
    rw [List.range'_1_concat, List.reverse_concat, List.foldlM_cons, stepped]
    exact run

theorem foldlM_invariant {f : β → α → Except ε β} {P : β → Prop} (xs : List α)
    (step : ∀ b, P b → ∀ a ∈ xs, ∃ next, f b a = .ok next ∧ P next) (b : β) (first : P b) :
    ∃ last, xs.foldlM f b = .ok last ∧ P last := by
  induction xs generalizing b with
  | nil => exact ⟨b, rfl, first⟩
  | cons a rest ih =>
    obtain ⟨next, stepped, holds⟩ := step b first a (by simp)
    obtain ⟨last, run, final⟩ := ih (fun b kept x member => step b kept x (by simp [member])) next holds
    refine ⟨last, ?_, final⟩
    rw [List.foldlM_cons, stepped]
    exact run

theorem mapM_eq_ok {f : α → Except ε β} {g : α → β} (xs : List α) (each : ∀ x ∈ xs, f x = .ok (g x)) :
    xs.mapM f = .ok (xs.map g) := by
  induction xs with
  | nil => rfl
  | cons x rest ih =>
    rw [List.mapM_cons, each x (by simp), ih fun x member => each x (by simp [member])]
    rfl

end Sequence

section State

variable {ε σ α β : Type} {x : EStateM ε σ α} {f : α → EStateM ε σ β} {s s' : σ}

theorem bind_of_ok {a : α} (ran : x s = .ok a s') : (x >>= f) s = f a s' := by
  simp only [bind, EStateM.bind, ran]

theorem bind_of_error {e : ε} (failed : x s = .error e s') : (x >>= f) s = .error e s' := by
  simp only [bind, EStateM.bind, failed]

end State

namespace Word

variable {β : Type}

def overflow : Error := .fault .overflow

theorem fit_bind (n : Nat) (f : Nat → Except Error β) :
    (fit n >>= f) = if n < limit then f n else .error overflow := by
  rw [fit]
  split <;> rfl

end Word

end PlaneNet
