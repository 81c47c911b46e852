import PlaneNet.Binary.Encoding
import PlaneNet.Decimal.Literal

set_option autoImplicit false

namespace PlaneNet

inductive Json where
  | null
  | bool (b : Bool)
  /-- `whole` says that the number is written without a point and without an exponent. -/
  | number (whole : Bool) (literal : Decimal.Literal)
  /-- Holds nothing when an escape names half of a surrogate pair, which stands for no character. -/
  | string (text : Option String)
  | array (items : List Json)
  | object (members : List (Option String × Json))

namespace Json

def named? (members : List (Option String × Json)) : Option (List (String × Json)) :=
  members.mapM fun (name, value) => name.map (·, value)

def member? (name : String) (members : List (String × Json)) : Option (Option Json) :=
  match members.filter (·.1 = name) with
  | [] => some none
  | [(_, value)] => some (some value)
  | _ => none

/-- A choice without content: its name, or an object that gives `null` to its name. -/
def choice? : Json → Option String
  | .string text => text
  | .object [(name, .null)] => name
  | _ => none

def float? : Json → Option Float
  | .number _ literal =>
      let x := Binary.toDouble (literal.encode Binary.double)
      if x.isFinite then some x else none
  | _ => none

def natBelow? (limit : Nat) : Json → Option Nat
  | .number true (.finite false n 0) => if n < limit then some n else none
  | _ => none

def bool? : Json → Option Bool
  | .bool b => some b
  | _ => none

def array? : Json → Option (List Json)
  | .array items => some items
  | _ => none

end Json

end PlaneNet
