import PlaneNet.Command.Run

set_option autoImplicit false

namespace PlaneNet.Command

def systemReason (code : UInt32) (details : String) : String := s!"{details} (os error {code})"

def reason : IO.Error → String
  | .noFileOrDirectory _ code details => systemReason code details
  | .permissionDenied _ code details => systemReason code details
  | .inappropriateType _ code details => systemReason code details
  | .invalidArgument _ code details => systemReason code details
  | .resourceExhausted _ code details => systemReason code details
  | e => toString e

def readData (path : String) : IO (Reported (Except Error (Dataset Float32))) := do
  match ← (IO.FS.Handle.mk path .read).toBaseIO with
  | .error e => return ⟨[], .error (.invalidData (.unopened path (reason e)))⟩
  | .ok handle =>
    match ← handle.readBinToEnd.toBaseIO with
    | .error e => return Dataset.read ⟨[], some (reason e)⟩
    | .ok bytes => return Dataset.read ⟨bytes.toList, none⟩

partial def printEpochs (limit : Option Nat) (t : MachineTrainer Random.Stream) : IO (Except Error Unit) := do
  if limit.any (· ≤ t.epoch) then return .ok ()
  match t.learn with
  | .error e => return .error e
  | .ok (loss, t) =>
    IO.print (epochLine (t.epoch, loss))
    printEpochs limit t

def writeFragment (o : Options) (text : String) : IO (Except Error Unit) := do
  match o.shader with
  | none =>
    IO.print text
    return .ok ()
  | some path =>
    try
      IO.FS.writeFile path text
      return .ok ()
    catch e => return .error (.invalidData (.unwritten path (reason e)))

def work (o : Options) : IO (Except Error Unit) := do
  let data ← readData o.file
  match data.value.bind (prepare Random.Stream.ofSeed o) with
  | .error e => return .error e
  | .ok t =>
    match fragmentOf t with
    | .error e => return .error e
    | .ok text =>
      match ← writeFragment o text with
      | .error e => return .error e
      | .ok () =>
        let limit := if o.epochs = 0 then none else some o.epochs.toNat
        if o.threaded then
          IO.ofExcept (← IO.wait (← IO.asTask (printEpochs limit t)))
        else printEpochs limit t

partial def idle : IO Unit := do
  IO.sleep 1000
  idle

end PlaneNet.Command

open PlaneNet.Command in
def main (args : List String) : IO UInt32 := do
  match parse args with
  | .refused =>
    IO.eprint usageText
    return 2
  | .help =>
    IO.print usageText
    return 0
  | .version =>
    IO.print versionText
    return 0
  | .run o =>
    match ← work o with
    | .ok () => return 0
    | .error e =>
      match exitCode e with
      | some code =>
        if code = 1 then IO.eprint (errorText e)
        return code.toUInt32
      | none =>
        idle
        return 0
