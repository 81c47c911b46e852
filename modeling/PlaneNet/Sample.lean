import PlaneNet.Binary.Encoding
import PlaneNet.Decimal.Literal
import PlaneNet.Error
import PlaneNet.Scalar
import PlaneNet.Text.Blank

set_option autoImplicit false

namespace PlaneNet

inductive Label where
  | negative
  | positive
  deriving Repr, DecidableEq

namespace Label

def name : Label → String
  | negative => "Negative"
  | positive => "Positive"

def ofClass? : Nat → Except LineFault Label
  | 0 => .ok negative
  | 1 => .ok positive
  | n => .error (.classRange n)

def toClass : Label → Nat
  | negative => 0
  | positive => 1

def target {R : Type} [Scalar R] : Label → R
  | negative => -Scalar.one
  | positive => Scalar.one

end Label

structure Sample (W : Type) where
  x : W
  y : W
  label : Label
  deriving Repr

namespace Sample

def target {W R : Type} [Scalar R] (s : Sample W) : R := s.label.target

def coordinate? (axis : Axis) (field : List Char) : Except LineFault Float32 :=
  match Decimal.Literal.ofText? field with
  | some literal => .ok (Binary.toSingle (literal.encode Binary.single))
  | none => .error (.coordinate axis (String.ofList field))

def label? (field : List Char) : Except LineFault Label :=
  match Text.count 255 field with
  | .error cause => .error (.classText (String.ofList field) cause)
  | .ok n => Label.ofClass? n

def ofLine? (line : List Char) : Except LineFault (Sample Float32) :=
  match Text.fields line with
  | [x, y, label] => do
      let x ← coordinate? .x x
      let y ← coordinate? .y y
      let label ← label? label
      return ⟨x, y, label⟩
  | _ => .error (.fieldCount (String.ofList line))

end Sample

end PlaneNet
