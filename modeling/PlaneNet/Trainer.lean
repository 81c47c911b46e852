import PlaneNet.Dataset
import PlaneNet.Network.Pass
import PlaneNet.TrainConfig
import PlaneNet.Word

set_option autoImplicit false

namespace PlaneNet

structure Trainer (W R G : Type) where
  network : Network W R
  data : Dataset W
  config : TrainConfig R
  words : G
  -- Completed calls of `learn`, in a machine word.
  epoch : Nat
  deriving Repr

namespace Trainer

variable {W R G : Type} [Scalar R] [Exponential R] [Storage W R] [Random.Source G]

open Scalar (zero half lt le)

def ofParts (network : Network W R) (data : Dataset W) (config : TrainConfig R)
    (words : G) : Except Error (Trainer W R G) := do
  if data.isEmpty then .error (.invalidData .noSamples) else
  config.validate
  return ⟨network, data, config, words, 0⟩

def loss (e : R) : R := half * e * e

-- Trains on the sample at a position of the order, which is drawn anew at position 0.
def step (t : Trainer W R G) (position : Nat) : Except Error (R × Trainer W R G) := do
  let (data, words) := if position = 0 then t.data.shuffle t.words else (t.data, t.words)
  let s ← data.visited position
  let (e, network) ← t.network.train s.x s.y s.target t.config.learnRate t.config.momentum
  return (loss e, { t with network, data, words })

def addStep (state : R × Trainer W R G) (position : Nat) : Except Error (R × Trainer W R G) := do
  let (loss, t) ← state.2.step position
  return (state.1 + loss, t)

-- What one call trains. The call is counted afterwards.
def round (t : Trainer W R G) : Except Error (R × Trainer W R G) := do
  if t.data.isEmpty then .error (.fault .outOfBounds) else
  match t.config.mode with
  | .fullPass => do
    let (total, after) ← (List.range t.data.size).foldlM addStep (zero, t)
    return (total / nat t.data.size, after)
  | .singleSample => t.step (t.epoch % t.data.size)

def learn (t : Trainer W R G) : Except Error (R × Trainer W R G) := do
  let (mean, after) ← t.round
  return (mean, { after with epoch := ← Word.add t.epoch 1 })

theorem learn_epoch {t after : Trainer W R G} {mean : R} (learned : t.learn = .ok (mean, after)) :
    after.epoch = t.epoch + 1 := by
  simp only [learn, bind, Except.bind] at learned
  split at learned
  next => cases learned
  next =>
    split at learned
    next => cases learned
    next counted =>
      cases learned
      exact Word.eq_of_add counted

def learnMany : Nat → Trainer W R G → Except Error (List R × Trainer W R G)
  | 0, t => .ok ([], t)
  | n + 1, t => do
    let (mean, t) ← t.learn
    let (means, t) ← learnMany n t
    return (mean :: means, t)

-- The outputs for all samples, computed one after the other in a network that nobody else uses.
def outputs : Network W R → List (Sample W) → Except Error (List R)
  | _, [] => .ok []
  | scratch, s :: rest => do
    let (out, scratch) ← scratch.forward s.x s.y
    return out :: (← outputs scratch rest)

def meanLoss (t : Trainer W R G) : Except Error R := do
  let samples := t.data.samples.toList
  let outs ← outputs t.network samples
  let losses := List.zipWith (fun (s : Sample W) out => loss (s.target - out)) samples outs
  return Scalar.sum losses / nat t.data.size

def agrees (s : Sample W) (out : R) : Bool := le zero out == lt zero (s.target : R)

def accuracy (t : Trainer W R G) : Except Error R := do
  let samples := t.data.samples.toList
  let outs ← outputs t.network samples
  let hits := (samples.zip outs).countP fun (s, out) => agrees s out
  return nat hits / nat t.data.size

end Trainer

end PlaneNet
