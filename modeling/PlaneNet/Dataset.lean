import PlaneNet.Random.Source
import PlaneNet.Sample

set_option autoImplicit false

namespace PlaneNet

structure Dataset (W : Type) where
  samples : Array (Sample W)
  order : Array Nat
  deriving Repr

namespace Dataset

variable {W : Type}

def ofSamples (samples : List (Sample W)) : Dataset W :=
  ⟨samples.toArray, Array.range samples.length⟩

def size (d : Dataset W) : Nat := d.samples.size

def isEmpty (d : Dataset W) : Bool := d.size == 0

def visited (d : Dataset W) (position : Nat) : Except Error (Sample W) :=
  match d.order[position]? with
  | none => .error (.fault .outOfBounds)
  | some i =>
    match d.samples[i]? with
    | none => .error (.fault .outOfBounds)
    | some s => .ok s

def shuffle {G : Type} [Random.Source G] (d : Dataset W) (words : G) : Dataset W × G :=
  let (order, words) := Random.Source.shuffle d.order words
  ({ d with order }, words)

end Dataset

end PlaneNet
