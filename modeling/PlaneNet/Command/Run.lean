import PlaneNet.Command.Options
import PlaneNet.FileSystem
import PlaneNet.Fragment.Program
import PlaneNet.Trainer.Builder
import PlaneNet.Trainer.Continuous
import PlaneNet.Decimal.Fixed

set_option autoImplicit false

namespace PlaneNet.Command

abbrev MachineTrainer (G : Type) := Trainer Float32 Float G

def configFor (o : Options) (t : Topology) : TrainConfig Float :=
  let preset : TrainConfig Float := .ofTopology t
  { learnRate := o.learnRate.getD preset.learnRate
    momentum := o.momentum.getD preset.momentum
    mode := if o.singleSample then .singleSample else preset.mode }

def builderFor (o : Options) : Except Error (Builder Float) := do
  let b : Builder Float := { (← Builder.ofHidden o.hidden) with rbf := o.rbf }
  let topology ← b.topology
  return { b with config := some (configFor o topology), activation := o.activation,
                  maxUpdates := o.maxUpdates }

def epochLine (report : Nat × Float) : String :=
  toString report.1 ++ "\t" ++ Decimal.fixed 6 report.2 ++ "\n"

-- Without a limit only the counter of the epochs ends a run.
def epochLimit (o : Options) : Nat := if o.epochs = 0 then Word.limit else o.epochs.toNat

section Training

variable {G : Type} [Random.Source G]

def prepare (seeded : UInt64 → G) (o : Options) (data : Dataset Float32) : Except Error (MachineTrainer G) := do
  ((← builderFor o).build data (seeded o.seed)).value

def fragmentOf (t : MachineTrainer G) : Except Error String :=
  Fragment.program t.network.topology t.network.activation t.network.weights.length

def epochLines : Nat → MachineTrainer G → List String × Option Error
  | 0, _ => ([], none)
  | n + 1, t =>
    match t.learn with
    | .error e => ([], some e)
    | .ok (loss, t) =>
      let (lines, fault) := epochLines n t
      (epochLine (t.epoch, loss) :: lines, fault)

-- The lines of a trainer that runs by itself up to `limit` epochs. Nobody hears of a fault there.
def continuousLines (limit : Nat) (t : MachineTrainer G) : List String :=
  (Continuous.train t limit none).value.reports.map epochLine

def train (o : Options) (t : MachineTrainer G) : List String × Option Error :=
  if o.threaded then (continuousLines (epochLimit o) t, none) else epochLines (epochLimit o - t.epoch) t

end Training

-- Log records are left out: at the default level there are none, unless a thread panics.
structure Outcome (F : Type) where
  -- None if the process never ends.
  code : Option Nat
  stdout : String
  stderr : String
  files : F

def errorText (e : Error) : String := "error: " ++ e.message ++ "\n"

-- A fault is a panic, with a text of its own, and clustering without an end goes on for ever. All else is returned.
def exitCode : Error → Option Nat
  | .fault _ => some 101
  | .endless => none
  | _ => some 1

section Run

variable {F G : Type} [FileSystem F] [Random.Source G]

def Outcome.failed (stdout : String) (files : F) (e : Error) : Outcome F :=
  ⟨exitCode e, stdout, if exitCode e = some 1 then errorText e else "", files⟩

def trainerFor (seeded : UInt64 → G) (o : Options) (files : F) : Except Error (MachineTrainer G) := do
  prepare seeded o (← (Dataset.load files o.file).value)

def emit (o : Options) (files : F) (t : MachineTrainer G) : Except Error (String × F) := do
  let text ← fragmentOf t
  match o.shader with
  | none => return (text, files)
  | some path =>
    match FileSystem.write files path text.toUTF8.toList with
    | .ok files => return ("", files)
    | .error reason => .error (.invalidData (.unwritten path reason))

def run (seeded : UInt64 → G) (o : Options) (files : F) : Outcome F :=
  match trainerFor seeded o files with
  | .error e => .failed "" files e
  | .ok t =>
    match emit o files t with
    | .error e => .failed "" files e
    | .ok (printed, files) =>
      let (lines, fault) := train o t
      let stdout := printed ++ String.join lines
      match fault with
      | some e => .failed stdout files e
      | none => ⟨some 0, stdout, "", files⟩

def versionText : String := "nn-shader 0.1.0\n"

def usageText : String :=
  "Usage: nn-shader [-f FILE] [--rbf] [--activation NAME] [--learn-rate X] [--momentum X]\n"
    ++ "  [--single-sample] [--threaded] [--epochs N] [--seed N] [--shader FILE]\n"
    ++ "  [--kmeans-max-iterations N] [HIDDEN]...\n"

def execute (seeded : UInt64 → G) (args : List String) (files : F) : Outcome F :=
  match parse args with
  | .run o => run seeded o files
  | .version => ⟨some 0, versionText, "", files⟩
  | .help => ⟨some 0, usageText, "", files⟩
  | .refused => ⟨some 2, "", usageText, files⟩

end Run

end PlaneNet.Command
