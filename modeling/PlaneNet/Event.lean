import PlaneNet.Error

set_option autoImplicit false

namespace PlaneNet

inductive StopCause where
  | notUtf8
  | malformed (cause : LineFault)
  deriving Repr, DecidableEq

inductive Event where
  | stoppedReading (line : Nat) (cause : StopCause)
  | pass (updates reassigned : Nat)
  | converged (updates centers : Nat)
  | network (sizes : List Nat) (rbf : Bool) (weights : Nat) (activation : String)
  | trainingStarted (epoch : Nat)
  | trainingStopped (epoch : Nat)
  deriving Repr, DecidableEq

inductive Level where
  | debug
  | info
  | warn
  deriving Repr, DecidableEq

def Level.name : Level → String
  | .debug => "DEBUG"
  | .info => "INFO"
  | .warn => "WARN"

def StopCause.message : StopCause → String
  | .notUtf8 => "not valid UTF-8"
  | .malformed cause => cause.error.message

namespace Event

def level : Event → Level
  | pass _ _ => .debug
  | stoppedReading _ _ => .warn
  | _ => .info

def message : Event → String
  | stoppedReading line cause => s!"stopped reading samples at line {line}: {cause.message}"
  | pass updates reassigned => s!"k-means pass {updates}: {reassigned} reassigned"
  | converged updates centers => s!"k-means converged after {updates} updates, k={centers}"
  | network sizes rbf weights activation =>
      let family := if rbf then " (rbf)" else ""
      s!"network {sizes}{family}: {weights} weights, activation {activation}"
  | trainingStarted epoch => s!"continuous training started at epoch {epoch}"
  | trainingStopped epoch => s!"continuous training stopped at epoch {epoch}"

end Event

structure Reported (α : Type) where
  events : List Event
  value : α

end PlaneNet
