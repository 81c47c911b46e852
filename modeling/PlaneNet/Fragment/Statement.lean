import PlaneNet.Decimal.Fixed

set_option autoImplicit false

namespace PlaneNet.Fragment

inductive Variable where
  | unit (layer unit : Nat)
  | output
  deriving Repr, DecidableEq

inductive Expression where
  /-- The Gaussian of a point; the other numbers are indices into the weights. -/
  | gaussian (x y : Variable) (meanX meanY variance : Nat)
  | activated (bias : Nat) (terms : List (Nat × Variable))
  deriving Repr, DecidableEq

structure Statement where
  target : Variable
  value : Expression
  deriving Repr, DecidableEq

def outputName : String := "val"

def weightsName : String := "weights"

def hexName (n : Nat) : String := Decimal.padded 4 (String.ofList (Nat.toDigits 16 n))

def unitName (layer unit : Nat) : String := "v" ++ hexName layer ++ hexName unit

def Variable.text : Variable → String
  | .unit layer index => unitName layer index
  | .output => outputName

def weightText (i : Nat) : String := weightsName ++ "[" ++ toString i ++ "]"

def termText : Nat × Variable → String
  | (weight, source) => " + " ++ weightText weight ++ " * " ++ source.text

def Expression.text : Expression → String
  | .gaussian x y meanX meanY variance =>
      "rbf(vec2(" ++ x.text ++ ", " ++ y.text ++ "), vec2(" ++ weightText meanX ++ ", "
        ++ weightText meanY ++ "), " ++ weightText variance ++ ")"
  | .activated bias terms =>
      "activate(" ++ weightText bias ++ String.join (terms.map termText) ++ ")"

def Statement.text (s : Statement) : String :=
  "  float " ++ s.target.text ++ " = " ++ s.value.text ++ ";\n"

end PlaneNet.Fragment
