import PlaneNet.Activation
import PlaneNet.Fragment.Equations

set_option autoImplicit false

namespace PlaneNet.Fragment

-- Outputs at least this far from zero are painted as sure.
def classThreshold : Float32 := 0.8

def thresholdText : String := "0.8"

-- Squares through `dot`, since `pow` is undefined for a negative base.
def rbfGlsl : String := "float rbf(vec2 x, vec2 mean, float var) \x7b
  vec2 d = x - mean;
  return exp(-dot(d, d) / (2.0 * var));
\x7d"

def stepName : String := "pixelStep"

def halfStepName : String := "halfPixelStep"

def header (weights : Nat) : String :=
  "#version 120\n#extension GL_EXT_bindable_uniform : require\nuniform vec2 " ++ stepName
    ++ ";\nuniform vec2 " ++ halfStepName ++ ";\nbindable uniform float " ++ weightText weights
    ++ ";\nvarying vec2 ftexcoord;\n"

def classify (equations : String) : String :=
  "vec4 classify(vec2 pos) \x7b\n  float " ++ unitName 0 0 ++ " = pos.x;\n  float " ++ unitName 0 1
    ++ " = pos.y;\n" ++ equations
    ++ "  float class1 = step(" ++ outputName ++ ", -" ++ thresholdText
    ++ ");\n  float class2 = step(" ++ thresholdText ++ ", " ++ outputName
    ++ ");\n  float unclass = 1.0 - class1 - class2;
  return class1 * vec4(0.25, 0.25, 0.25, 1.0) + class2 * vec4(0.0, 0.0, 0.75, 1.0) + unclass * vec4(0.75, 0.0, 0.0, 1.0);
\x7d\n"

def mainFunction : String :=
  "void main(void) \x7b\n  vec2 corner = ftexcoord - " ++ halfStepName
    ++ ";\n  gl_FragColor = (classify(corner)\n    + classify(vec2(corner.x + " ++ stepName
    ++ ".x, corner.y))\n    + classify(vec2(corner.x, corner.y + " ++ stepName
    ++ ".y))\n    + classify(corner + " ++ stepName ++ ")) / 4.0;\n\x7d\n"

def assemble (t : Topology) (activation : Activation) (held : Nat) (es : List Equation) : String :=
  header held ++ "\n" ++ activation.glsl ++ "\n\n" ++ (if t.rbf then rbfGlsl else "") ++ "\n\n"
    ++ classify (String.join (lines es)) ++ "\n" ++ mainFunction

def program (t : Topology) (activation : Activation) (held : Nat) : Except Error String :=
  let es := equations t
  let read := (weightOrder es).length
  if read ≠ held then .error (.invalidConfig (.weightBuffer read held))
  else do
    let stored ← (← Layout.ofTopology t).connections t
    if weightOrder es ≠ stored then .error (.fault .weightOrder)
    else return assemble t activation held es

end PlaneNet.Fragment
