import PlaneNet.Fragment.Statement
import PlaneNet.Layout.Connection

set_option autoImplicit false

namespace PlaneNet.Fragment

structure Equation where
  statement : Statement
  reads : List Connection
  deriving Repr

def variableOf (t : Topology) (layer unit : Nat) : Variable :=
  if layer = t.outputLayer then .output else .unit layer unit

def gaussianEquation (t : Topology) (layer unit next : Nat) : Equation :=
  { statement := ⟨variableOf t layer unit,
      .gaussian (.unit 0 0) (.unit 0 1) next (next + 1) (next + 2)⟩
    reads := [.meanX unit, .meanY unit, .variance unit] }

def terms (layer unit : Nat) : Nat → Nat → Nat → List (Nat × Variable) × List Connection
  | _, _, 0 => ([], [])
  | source, next, count + 1 =>
      let (ts, reads) := terms layer unit (source + 1) (next + 1) count
      ((next, .unit (layer - 1) source) :: ts, .edge layer unit source :: reads)

def sumEquation (t : Topology) (layer unit next : Nat) : Equation :=
  let (ts, reads) := terms layer unit 0 (next + 1) (t.width (layer - 1))
  { statement := ⟨variableOf t layer unit, .activated next ts⟩
    reads := .bias layer unit :: reads }

def unitEquation (t : Topology) (layer unit next : Nat) : Equation :=
  if t.isGaussianLayer layer then gaussianEquation t layer unit next else sumEquation t layer unit next

def equationsFrom (t : Topology) : Nat → List (Nat × Nat) → List Equation
  | _, [] => []
  | next, (layer, unit) :: rest =>
      let e := unitEquation t layer unit next
      e :: equationsFrom t (next + e.reads.length) rest

def units (t : Topology) : List (Nat × Nat) :=
  t.unitLayers.flatMap fun layer => (List.range (t.width layer)).map fun unit => (layer, unit)

def equations (t : Topology) : List Equation := equationsFrom t 0 (units t)

def lines (es : List Equation) : List String := es.map (·.statement.text)

def weightOrder (es : List Equation) : List Connection := es.flatMap (·.reads)

end PlaneNet.Fragment
