import PlaneNet.Error

set_option autoImplicit false

namespace PlaneNet

structure Span where
  offset : Nat
  length : Nat
  deriving Repr, DecidableEq

def Span.stop (s : Span) : Nat := s.offset + s.length

def Span.tail (s : Span) : Span := ⟨s.offset + 1, s.length - 1⟩

namespace Buffer

variable {α : Type}

def outside : Error := .fault .outOfBounds

def cell (i : Nat) (xs : List α) : Except Error α :=
  match xs[i]? with
  | some x => .ok x
  | none => .error outside

def read (s : Span) (xs : List α) : Except Error (List α) :=
  if s.stop ≤ xs.length then .ok ((xs.drop s.offset).take s.length) else .error outside

def write (s : Span) (new xs : List α) : Except Error (List α) :=
  if s.stop ≤ xs.length ∧ new.length = s.length then
    .ok (xs.take s.offset ++ new ++ xs.drop s.stop)
  else .error outside

def cut (i : Nat) (xs : List α) : Except Error (List α × List α) :=
  if i ≤ xs.length then .ok (xs.take i, xs.drop i) else .error outside

def chunks (width : Nat) : Nat → List α → List (List α)
  | 0, _ => []
  | n + 1, xs => xs.take width :: chunks width n (xs.drop width)

def rows (width : Nat) (xs : List α) : Except Error (List (List α)) :=
  if width = 0 ∨ xs.length % width ≠ 0 then .error outside
  else .ok (chunks width (xs.length / width) xs)

end Buffer

end PlaneNet
