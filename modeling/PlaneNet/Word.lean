import PlaneNet.Error

set_option autoImplicit false

namespace PlaneNet.Word

def limit : Nat := Nat.pow 2 64

def fit (n : Nat) : Except Error Nat :=
  if n < limit then .ok n else .error (.fault .overflow)

def add (a b : Nat) : Except Error Nat := fit (a + b)

theorem eq_of_add {a b sum : Nat} (added : add a b = .ok sum) : sum = a + b := by
  rw [add, fit] at added
  split at added
  next =>
    cases added
    rfl
  next => cases added

def mul (a b : Nat) : Except Error Nat := fit (a * b)

end PlaneNet.Word
