import PlaneNet.Command.Run

set_option autoImplicit false

namespace PlaneNet.Command

structure World (F : Type) where
  stdout : String
  files : F

abbrev Shell (F : Type) := EStateM Error (World F)

namespace Shell

variable {α F G : Type} [FileSystem F] [Random.Source G]

def attempt : Except Error α → Shell F α
  | .ok a => pure a
  | .error e => throw e

def print (text : String) : Shell F Unit :=
  modify fun w => { w with stdout := w.stdout ++ text }

def save (path text : String) : Shell F Unit := do
  match FileSystem.write (← get).files path text.toUTF8.toList with
  | .ok files => modify fun w => { w with files }
  | .error reason => throw (.invalidData (.unwritten path reason))

def build (seeded : UInt64 → G) (o : Options) : Shell F (MachineTrainer G) := do
  let data ← attempt (Dataset.load (← get).files o.file).value
  attempt (prepare seeded o data)

def emit (o : Options) (t : MachineTrainer G) : Shell F Unit := do
  let text ← attempt (fragmentOf t)
  match o.shader with
  | none => print text
  | some path => save path text

def printEpochs : Nat → MachineTrainer G → Shell F Unit
  | 0, _ => pure ()
  | n + 1, t => do
    let (loss, t) ← attempt t.learn
    print (epochLine (t.epoch, loss))
    printEpochs n t

-- A thread prints its lines, and the run only waits for it.
def train (o : Options) (t : MachineTrainer G) : Shell F Unit :=
  if o.threaded then (continuousLines (epochLimit o) t).forM print else printEpochs (epochLimit o - t.epoch) t

def perform (seeded : UInt64 → G) (o : Options) : Shell F Unit := do
  let t ← build seeded o
  emit o t
  train o t

end Shell

def Outcome.ofResult {F : Type} : EStateM.Result Error (World F) Unit → Outcome F
  | .ok _ w => ⟨some 0, w.stdout, "", w.files⟩
  | .error e w => .failed w.stdout w.files e

end PlaneNet.Command
