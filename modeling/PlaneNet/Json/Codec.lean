import PlaneNet.Activation
import PlaneNet.Binary.Machine
import PlaneNet.Json.Reader
import PlaneNet.Sample
import PlaneNet.TrainConfig
import PlaneNet.Word

set_option autoImplicit false

namespace PlaneNet

open Json (named? member?)

def choiceOf? {α : Type} (name : α → String) (choices : List α) (j : Json) : Option α := do
  let given ← j.choice?
  choices.find? fun c => name c = given

def quote (s : String) : String := "\"" ++ s ++ "\""

def Activation.ofJson? : Json → Option Activation :=
  choiceOf? Activation.name [.tanh, .logistic, .step, .linear]

def Activation.toJson (a : Activation) : String := quote a.name

def Mode.ofJson? : Json → Option Mode := choiceOf? Mode.name [.fullPass, .singleSample]

def Mode.toJson (m : Mode) : String := quote m.name

def Label.ofJson? : Json → Option Label := choiceOf? Label.name [.negative, .positive]

def Label.toJson (l : Label) : String := quote l.name

namespace Topology

def ofFields? (sizes rbf : Json) : Option Topology := do
  let sizes ← (← sizes.array?).mapM (Json.natBelow? Word.limit)
  return ⟨sizes, ← rbf.bool?⟩

def ofJson? : Json → Option Topology
  | .array [sizes, rbf] => ofFields? sizes rbf
  | .object members => do
      let members ← named? members
      let sizes ← member? "sizes" members
      let rbf ← member? "rbf" members
      ofFields? (← sizes) (← rbf)
  | _ => none

def toJson (t : Topology) : String :=
  let sizes := ",".intercalate (t.sizes.map toString)
  "\x7b\"sizes\":[" ++ sizes ++ "],\"rbf\":" ++ (if t.rbf then "true" else "false") ++ "\x7d"

end Topology

namespace TrainConfig

def ofFields? (learnRate momentum : Json) (mode : Option Json) : Option (TrainConfig Float) := do
  let learnRate ← learnRate.float?
  let momentum ← momentum.float?
  let mode ← match mode with
    | none => some Mode.fullPass
    | some mode => Mode.ofJson? mode
  return ⟨learnRate, momentum, mode⟩

def ofJson? : Json → Option (TrainConfig Float)
  | .array [learnRate, momentum] => ofFields? learnRate momentum none
  | .array [learnRate, momentum, mode] => ofFields? learnRate momentum (some mode)
  | .object members => do
      let members ← named? members
      let learnRate ← member? "learn_rate" members
      let momentum ← member? "momentum" members
      let mode ← member? "mode" members
      ofFields? (← learnRate) (← momentum) mode
  | _ => none

def ofText (text : String) : Except Error (TrainConfig Float) :=
  match (Json.ofText? text).bind ofJson? with
  | none => .error (.invalidConfig .json)
  | some c => do
    c.validate
    return c

end TrainConfig

end PlaneNet
