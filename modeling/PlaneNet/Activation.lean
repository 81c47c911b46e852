import PlaneNet.Scalar
import PlaneNet.Text.Case
import PlaneNet.Topology

set_option autoImplicit false

namespace PlaneNet

inductive Activation where
  | tanh
  /-- The logistic function, stretched to `(-1, 1)`. -/
  | logistic
  | step
  | linear
  deriving Repr, DecidableEq

namespace Activation

-- A network with a single trainable layer is a perceptron.
def ofTopology (t : Topology) : Activation :=
  if t.trainedLayers.length = 1 then step else tanh

def name : Activation → String
  | tanh => "tanh"
  | logistic => "logistic"
  | step => "step"
  | linear => "linear"

def ofName? (given : String) : Except Error Activation :=
  match String.ofList (Text.lowerCase given.toList) with
  | "tanh" => .ok tanh
  | "logistic" | "sigmoid" => .ok logistic
  | "step" => .ok step
  | "linear" | "identity" => .ok linear
  | other => .error (.invalidConfig (.activation other))

section Function

variable {R : Type} [Scalar R] [Exponential R]

open Scalar (lt within one)
open Exponential (exp)

def tanhClamp : R := nat 42

-- Beyond this magnitude the logistic function is taken to be a sign and both derivatives zero.
def logisticClamp : R := nat 84

def apply (a : Activation) (x : R) : R :=
  match a with
  | tanh =>
    if lt tanhClamp x then one
    else if lt x (-tanhClamp) then -one
    else
      let power := exp (nat 2 * x)
      (power - one) / (power + one)
  | logistic =>
    if lt logisticClamp x then one
    else if lt x (-logisticClamp) then -one
    else nat 2 / (one + exp (-x)) - one
  | step => if lt x Scalar.zero then -one else one
  | linear => x

def derive (a : Activation) (x : R) : R :=
  match a with
  | tanh =>
    if !within (-logisticClamp) logisticClamp x then Scalar.zero
    else
      -- The squared hyperbolic secant.
      let s := exp x + exp (-x)
      nat 4 * (one / (s * s))
  | logistic =>
    if !within (-logisticClamp) logisticClamp x then Scalar.zero
    else nat 2 / ((one + exp (-x)) * (one + exp x))
  | step => one
  | linear => one

end Function

def glsl : Activation → String
  | tanh => "float activate(float x) \x7b
  x = clamp(x, -42.0, 42.0);
  float powe = exp(2.0 * x);
  return (powe - 1.0) / (powe + 1.0);
\x7d"
  | logistic => "float activate(float x) \x7b
  x = clamp(x, -84.0, 84.0);
  return 2.0 / (1.0 + exp(-x)) - 1.0;
\x7d"
  | step => "float activate(float x) \x7b
  return step(0.0, x) * 2.0 - 1.0;
\x7d"
  | linear => "float activate(float x) \x7b
  return x;
\x7d"

end Activation

end PlaneNet
