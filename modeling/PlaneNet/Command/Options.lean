import PlaneNet.Activation
import PlaneNet.Binary.Encoding
import PlaneNet.Decimal.Literal
import PlaneNet.Text.Count
import PlaneNet.Word

set_option autoImplicit false

namespace PlaneNet.Command

structure Options where
  file : String
  hidden : List Nat
  rbf : Bool
  activation : Option Activation
  learnRate : Option Float
  momentum : Option Float
  singleSample : Bool
  threaded : Bool
  epochs : UInt64
  seed : UInt64
  shader : Option String
  maxUpdates : Option Nat

def defaults : Options :=
  { file := "spiral.dat", hidden := [], rbf := false, activation := none, learnRate := none
    momentum := none, singleSample := false, threaded := false, epochs := 1000, seed := 0
    shader := none, maxUpdates := none }

inductive Key where
  | file
  | activation
  | learnRate
  | momentum
  | epochs
  | seed
  | shader
  | maxUpdates
  deriving Repr, DecidableEq

inductive Flag where
  | rbf
  | singleSample
  | threaded
  deriving Repr, DecidableEq

inductive Switch where
  | key (k : Key)
  | flag (f : Flag)
  | help
  | version
  deriving Repr, DecidableEq

def long? : String → Option Switch
  | "file" => some (.key .file)
  | "activation" => some (.key .activation)
  | "learn-rate" => some (.key .learnRate)
  | "momentum" => some (.key .momentum)
  | "epochs" => some (.key .epochs)
  | "seed" => some (.key .seed)
  | "shader" => some (.key .shader)
  | "kmeans-max-iterations" => some (.key .maxUpdates)
  | "rbf" => some (.flag .rbf)
  | "single-sample" => some (.flag .singleSample)
  | "threaded" => some (.flag .threaded)
  | "help" => some .help
  | "version" => some .version
  | _ => none

inductive Parsed where
  | run (o : Options)
  | help
  | version
  | refused

def count? (value : String) : Option Nat := (Text.count (Word.limit - 1) value.toList).toOption

def float? (value : String) : Option Float := do
  let literal ← Decimal.Literal.ofText? value.toList
  return Binary.toDouble (literal.encode Binary.double)

def path? (value : String) : Option String := if value.isEmpty then none else some value

structure State where
  options : Options
  keys : List Key
  flags : List Flag

def start : State := ⟨defaults, [], []⟩

def setValue (o : Options) (value : String) : Key → Option Options
  | .file => do return { o with file := ← path? value }
  | .activation => do return { o with activation := some (← (Activation.ofName? value).toOption) }
  | .learnRate => do return { o with learnRate := some (← float? value) }
  | .momentum => do return { o with momentum := some (← float? value) }
  | .epochs => do return { o with epochs := UInt64.ofNat (← count? value) }
  | .seed => do return { o with seed := UInt64.ofNat (← count? value) }
  | .shader => do return { o with shader := some (← path? value) }
  | .maxUpdates => do return { o with maxUpdates := some (← count? value) }

def setFlag (o : Options) : Flag → Options
  | .rbf => { o with rbf := true }
  | .singleSample => { o with singleSample := true }
  | .threaded => { o with threaded := true }

def State.give (s : State) (k : Key) (value : String) : Option State := do
  if k ∈ s.keys then none else
  return { s with options := ← setValue s.options value k, keys := k :: s.keys }

def State.raise (s : State) (f : Flag) : Option State :=
  if f ∈ s.flags then none
  else some { s with options := setFlag s.options f, flags := f :: s.flags }

def State.addHidden (s : State) (value : String) : Option State := do
  let width ← count? value
  return { s with options := { s.options with hidden := s.options.hidden ++ [width] } }

def splitValue (cs : List Char) : String × Option String :=
  let name := cs.takeWhile (· ≠ '=')
  match cs.dropWhile (· ≠ '=') with
  | [] => (String.ofList name, none)
  | _ :: value => (String.ofList name, some (String.ofList value))

inductive Argument where
  | separator
  | long (name : String) (value : Option String)
  | short (letter : Char) (rest : List Char)
  | plain (text : String)

def Argument.ofText (s : String) : Argument :=
  match s.toList with
  | ['-', '-'] => .separator
  | '-' :: '-' :: cs =>
      let (name, value) := splitValue cs
      .long name value
  | '-' :: c :: cs => .short c cs
  | _ => .plain s

-- The value attached to a letter; an equals sign in front does not belong to it.
def attached : List Char → Option String
  | [] => none
  | '=' :: cs => some (String.ofList cs)
  | cs => some (String.ofList cs)

inductive Next where
  | goOn (s : State)
  | expect (s : State) (k : Key)
  | stop (p : Parsed)

def Next.ofOption : Option State → Next
  | some s => .goOn s
  | none => .stop .refused

def onKey (s : State) (k : Key) : Option String → Next
  | some value => .ofOption (s.give k value)
  | none => .expect s k

def onLong (s : State) (name : String) (value : Option String) : Next :=
  match long? name, value with
  | some (.key k), _ => onKey s k value
  | some (.flag f), none => .ofOption (s.raise f)
  | some .help, none => .stop .help
  | some .version, none => .stop .version
  | _, _ => .stop .refused

def onShort (s : State) (letter : Char) (rest : List Char) : Next :=
  if letter = 'f' then onKey s .file (attached rest)
  else if letter = 'h' then .stop .help
  else if letter = 'V' then .stop .version
  else .stop .refused

def readWidths (s : State) : List String → Parsed
  | [] => .run s.options
  | a :: rest =>
    match s.addHidden a with
    | some s => readWidths s rest
    | none => .refused

-- Reads from left to right; the first fault or question decides. A value never starts with a dash.
def readFrom (pending : Option Key) (s : State) : List String → Parsed
  | [] => if pending.isSome then .refused else .run s.options
  | a :: rest =>
    match pending, Argument.ofText a with
    | some k, .plain value =>
      match s.give k value with
      | some s => readFrom none s rest
      | none => .refused
    | some _, _ => .refused
    | none, .separator => readWidths s rest
    | none, .plain value =>
      match s.addHidden value with
      | some s => readFrom none s rest
      | none => .refused
    | none, .long name value =>
      match onLong s name value with
      | .goOn s => readFrom none s rest
      | .expect s k => readFrom (some k) s rest
      | .stop p => p
    | none, .short letter attached =>
      match onShort s letter attached with
      | .goOn s => readFrom none s rest
      | .expect s k => readFrom (some k) s rest
      | .stop p => p

def parse (args : List String) : Parsed := readFrom none start args

end PlaneNet.Command
