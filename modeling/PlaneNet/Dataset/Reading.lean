import PlaneNet.Dataset
import PlaneNet.Event
import PlaneNet.Text.Utf8

set_option autoImplicit false

namespace PlaneNet

structure ByteSource where
  bytes : List UInt8
  failure : Option String

namespace Dataset

inductive Line where
  | blank
  | sample (s : Sample Float32)
  | bad (cause : StopCause)

def Line.ofBytes (bytes : List UInt8) : Line :=
  match Text.decodeUtf8 bytes with
  | none => .bad .notUtf8
  | some cs =>
    if cs.all Text.isBlank then .blank
    else match Sample.ofLine? cs with
      | .ok s => .sample s
      | .error cause => .bad (.malformed cause)

def consByte (b : UInt8) : List (List UInt8) × List UInt8 → List (List UInt8) × List UInt8
  | (lines, rest) =>
    if b = 10 then ([] :: lines, rest)
    else match lines with
      | [] => ([], b :: rest)
      | line :: lines => ((b :: line) :: lines, rest)

def splitLines (bytes : List UInt8) : List (List UInt8) × List UInt8 :=
  bytes.foldr consByte ([], [])

structure Reading where
  samples : List (Sample Float32)
  stop : Option (Nat × StopCause)

def readLines : Nat → List (List UInt8) → Reading
  | _, [] => ⟨[], none⟩
  | number, bytes :: rest =>
    match Line.ofBytes bytes with
    | .blank => readLines (number + 1) rest
    | .bad cause => ⟨[], some (number, cause)⟩
    | .sample s =>
      let later := readLines (number + 1) rest
      { later with samples := s :: later.samples }

def Reading.result (r : Reading) : Reported (Except Error (Dataset Float32)) :=
  { events := match r.stop with
      | none => []
      | some (line, cause) => [.stoppedReading line cause]
    value := .ok (ofSamples r.samples) }

-- A source that fails leaves its last line unfinished; it is reported unless a bad line came first.
def read (source : ByteSource) : Reported (Except Error (Dataset Float32)) :=
  let (lines, rest) := splitLines source.bytes
  match source.failure with
  | none => (readLines 1 (if rest.isEmpty then lines else lines ++ [rest])).result
  | some reason =>
    let reading := readLines 1 lines
    if reading.stop.isSome then reading.result
    else ⟨[], .error (.invalidData (.unread (lines.length + 1) reason))⟩

end Dataset

end PlaneNet
