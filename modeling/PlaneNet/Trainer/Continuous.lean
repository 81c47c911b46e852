import PlaneNet.Event
import PlaneNet.Trainer

set_option autoImplicit false

namespace PlaneNet

structure SharedWeights (W : Type) where
  cells : List W
  deriving Repr

namespace SharedWeights

variable {W : Type}

def ofWeights (weights : List W) : SharedWeights W := ⟨weights⟩

def size (s : SharedWeights W) : Nat := s.cells.length

def publish (s : SharedWeights W) (weights : List W) : Except Error (SharedWeights W) :=
  if weights.length = s.size then .ok ⟨weights⟩ else .error (.fault .lengthMismatch)

def copyOut (s : SharedWeights W) (room : Nat) : Except Error (List W) :=
  if room = s.size then .ok s.cells else .error (.fault .lengthMismatch)

end SharedWeights

structure Continuous (W R G : Type) where
  trainer : Trainer W R G
  shared : SharedWeights W
  counter : Nat
  reports : List (Nat × R)

namespace Continuous

variable {W R G : Type} [Scalar R] [Exponential R] [Storage W R] [Random.Source G]

def ofTrainer (t : Trainer W R G) : Continuous W R G :=
  ⟨t, .ofWeights t.network.weights, t.epoch, []⟩

def step (c : Continuous W R G) : Except Error (Continuous W R G) := do
  let (loss, trainer) ← c.trainer.learn
  let shared ← c.shared.publish trainer.network.weights
  return ⟨trainer, shared, trainer.epoch, c.reports ++ [(trainer.epoch, loss)]⟩

theorem step_epoch {c next : Continuous W R G} (stepped : c.step = .ok next) :
    next.trainer.epoch = c.trainer.epoch + 1 := by
  simp only [step, bind, Except.bind] at stepped
  split at stepped
  next => cases stepped
  next learned =>
    split at stepped
    next => cases stepped
    next =>
      cases stepped
      exact Trainer.learn_epoch learned

/--
Steps until `limit` epochs are complete in total, and whether it came that far: a fault ends the run, and so does
the receiver of the reports if it fails, which it does at epoch `failAt`.
-/
def run (limit : Nat) (failAt : Option Nat) (c : Continuous W R G) : Continuous W R G × Bool :=
  if c.trainer.epoch < limit then
    match _ : c.step with
    | .error _ => (c, false)
    | .ok next => if failAt = some next.counter then (next, false) else run limit failAt next
  else (c, true)
termination_by limit - c.trainer.epoch
decreasing_by
  have := step_epoch ‹_›
  omega

structure Outcome (W R G : Type) where
  shared : SharedWeights W
  counter : Nat
  reports : List (Nat × R)
  trainer : Option (Trainer W R G)

def train (t : Trainer W R G) (limit : Nat) (failAt : Option Nat) : Reported (Outcome W R G) :=
  let (c, complete) := run limit failAt (ofTrainer t)
  { events := .trainingStarted t.epoch
      :: if complete then [.trainingStopped c.trainer.epoch] else []
    value :=
      { shared := c.shared, counter := c.counter, reports := c.reports
        trainer := if complete then some c.trainer else none } }

end Continuous

end PlaneNet
