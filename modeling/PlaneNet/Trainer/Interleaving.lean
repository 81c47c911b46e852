import PlaneNet.Trainer.Continuous

set_option autoImplicit false

namespace PlaneNet

namespace SharedWeights

variable {W : Type}

def store (s : SharedWeights W) (cell : Nat) (weight : W) : SharedWeights W := ⟨s.cells.set cell weight⟩

def load? (s : SharedWeights W) (cell : Nat) : Option W := s.cells[cell]?

end SharedWeights

namespace Interleaving

variable {W R G : Type}

/-- An access with what it saw; `learn` works on what nobody else holds. Readers are told apart by number. -/
inductive Access (W : Type) where
  | learn
  | store (cell : Nat)
  | count
  | load (reader cell : Nat) (weight : W)
  | look (reader epoch : Nat)

def Access.isTrainers : Access W → Bool
  | .learn | .store _ | .count => true
  | .load _ _ _ | .look _ _ => false

structure Machine (W R G : Type) where
  trainer : Trainer W R G
  /-- How many cells are stored already, from the end of `learn` until the counter follows. -/
  stored : Option Nat
  shared : SharedWeights W
  counter : Nat
  /-- The cell that a reader loads next; after the last one it takes another snapshot. -/
  next : Nat → Nat

namespace Machine

def ofContinuous (c : Continuous W R G) (next : Nat → Nat) : Machine W R G :=
  ⟨c.trainer, none, c.shared, c.counter, next⟩

def advance (m : Machine W R G) (reader : Nat) : Machine W R G :=
  { m with next := fun other =>
      if other = reader then (m.next reader + 1) % m.shared.size else m.next other }

variable [Scalar R] [Exponential R] [Storage W R] [Random.Source G]

def ofTrainer (t : Trainer W R G) : Machine W R G := ofContinuous (.ofTrainer t) fun _ => 0

end Machine

variable [Scalar R] [Exponential R] [Storage W R] [Random.Source G]

inductive Step (limit : Option Nat) : Machine W R G → Access W → Machine W R G → Prop where
  | learn {m : Machine W R G} {loss : R} {trainer : Trainer W R G} (rested : m.stored = none)
      (unfinished : ∀ last ∈ limit, m.trainer.epoch < last) (learned : m.trainer.learn = .ok (loss, trainer)) :
      Step limit m .learn { m with trainer, stored := some 0 }
  | store {m : Machine W R G} {cell : Nat} {weight : W} (due : m.stored = some cell) (room : cell < m.shared.size)
      (found : m.trainer.network.weights[cell]? = some weight) :
      Step limit m (.store cell) { m with shared := m.shared.store cell weight, stored := some (cell + 1) }
  | count {m : Machine W R G} (full : m.stored = some m.shared.size) :
      Step limit m .count { m with counter := m.trainer.epoch, stored := none }
  | load {m : Machine W R G} (reader : Nat) {weight : W} (found : m.shared.load? (m.next reader) = some weight) :
      Step limit m (.load reader (m.next reader) weight) (m.advance reader)
  | look {m : Machine W R G} (reader : Nat) : Step limit m (.look reader m.counter) m

inductive Run (limit : Option Nat) (start : Machine W R G) : List (Access W) → Machine W R G → Prop where
  | start : Run limit start [] start
  | step {past : List (Access W)} {m next : Machine W R G} {a : Access W} (before : Run limit start past m)
      (stepped : Step limit m a next) : Run limit start (a :: past) next

end Interleaving

end PlaneNet
