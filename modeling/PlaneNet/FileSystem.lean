import PlaneNet.Dataset.Reading
import PlaneNet.Json.Codec

set_option autoImplicit false

namespace PlaneNet

-- A write that fails leaves the files as they are.
class FileSystem (F : Type) where
  open? : F → String → Except String ByteSource
  write : F → String → List UInt8 → Except String F

variable {F : Type} [FileSystem F]

def Dataset.load (fs : F) (path : String) : Reported (Except Error (Dataset Float32)) :=
  match FileSystem.open? fs path with
  | .error reason => ⟨[], .error (.invalidData (.unopened path reason))⟩
  | .ok source => Dataset.read source

def TrainConfig.load (fs : F) (path : String) : Except Error (TrainConfig Float) :=
  let unread (reason : String) : Error := .invalidConfig (.unread path reason)
  match FileSystem.open? fs path with
  | .error reason => .error (unread reason)
  | .ok ⟨_, some reason⟩ => .error (unread reason)
  | .ok ⟨bytes, none⟩ =>
    match Text.decodeUtf8 bytes with
    | none => .error (unread "stream did not contain valid UTF-8")
    | some cs => TrainConfig.ofText (String.ofList cs)

end PlaneNet
