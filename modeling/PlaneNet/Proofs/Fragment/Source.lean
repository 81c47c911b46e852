import PlaneNet.Activation
import PlaneNet.Cluster
import PlaneNet.Decimal.Literal
import PlaneNet.Fragment.Statement

set_option autoImplicit false

namespace PlaneNet.Fragment

inductive Token where
  | word (w : String)
  | number (n : Nat)
  | sign (c : Char)
  deriving Repr, DecidableEq

def isWordChar (c : Char) : Bool := c.isAlphanum || c = '_'

def Token.ofRun? (run : List Char) : Option Token :=
  if run.all Decimal.isDigit then some (.number (Decimal.value run))
  else if run.head?.any Decimal.isDigit then none
  else some (.word (String.ofList run))

def closeRun (run : List Char) (rest : Option (List Token)) : Option (List Token) :=
  match run with
  | [] => rest
  | c :: cs =>
    match Token.ofRun? (c :: cs) with
    | some token => rest.map (token :: ·)
    | none => none

def scan (run : List Char) : List Char → Option (List Token)
  | [] => closeRun run (some [])
  | c :: cs =>
    if isWordChar c then scan (run ++ [c]) cs
    else closeRun run (if c.isWhitespace then scan [] cs else (scan [] cs).map (.sign c :: ·))

inductive Term where
  | name (w : String)
  | entry (array : String) (i : Nat)
  | sum (left right : Term)
  | product (left right : Term)
  | listed (front last : Term)
  | call (function : String) (arguments : Term)
  deriving Repr, DecidableEq

inductive Operand where
  | missing
  | word (w : String)
  | array (w : String)
  | indexed (array : String) (i : Nat)
  | closed (t : Term)
  deriving Repr, DecidableEq

/-- What stands before an operand: finished arguments, finished products and finished factors. -/
structure Pending where
  arguments : Option Term
  sum : Option Term
  product : Option Term
  deriving Repr, DecidableEq

def Pending.none : Pending := ⟨.none, .none, .none⟩

structure Reader where
  calls : List (String × Pending)
  pending : Pending
  operand : Operand
  deriving Repr, DecidableEq

def joined (join : Term → Term → Term) : Option Term → Term → Term
  | none, t => t
  | some front, t => join front t

def Operand.term? : Operand → Option Term
  | .word w => some (.name w)
  | .closed t => some t
  | _ => none

namespace Reader

def start : Reader := ⟨[], .none, .missing⟩

def product? (r : Reader) : Option Term := r.operand.term?.map (joined .product r.pending.product)

def sum? (r : Reader) : Option Term := r.product?.map (joined .sum r.pending.sum)

def arguments? (r : Reader) : Option Term := r.sum?.map (joined .listed r.pending.arguments)

def step (r : Reader) : Token → Option Reader
  | .word w =>
    match r.operand with
    | .missing => some { r with operand := .word w }
    | _ => none
  | .number i =>
    match r.operand with
    | .array w => some { r with operand := .indexed w i }
    | _ => none
  | .sign '[' =>
    match r.operand with
    | .word w => some { r with operand := .array w }
    | _ => none
  | .sign ']' =>
    match r.operand with
    | .indexed w i => some { r with operand := .closed (.entry w i) }
    | _ => none
  | .sign '(' =>
    match r.operand with
    | .word f => some ⟨(f, r.pending) :: r.calls, .none, .missing⟩
    | _ => none
  | .sign ')' =>
    match r.calls, r.arguments? with
    | (f, outer) :: calls, some arguments => some ⟨calls, outer, .closed (.call f arguments)⟩
    | _, _ => none
  | .sign ',' =>
    match r.calls, r.arguments? with
    | _ :: _, some arguments => some ⟨r.calls, ⟨some arguments, none, none⟩, .missing⟩
    | _, _ => none
  | .sign '+' => r.sum?.map fun sum => ⟨r.calls, ⟨r.pending.arguments, some sum, none⟩, .missing⟩
  | .sign '*' =>
    r.product?.map fun product =>
      ⟨r.calls, ⟨r.pending.arguments, r.pending.sum, some product⟩, .missing⟩
  | .sign _ => none

def whole? (r : Reader) : Option Term := if r.calls = [] then r.sum? else none

end Reader

structure Declaration where
  name : String
  value : Term
  deriving Repr, DecidableEq

namespace Declaration

def ofTokens? : List Token → Option Declaration
  | .word "float" :: .word name :: .sign '=' :: rest =>
    if rest.getLast? = some (.sign ';') then do
      let r ← rest.dropLast.foldlM Reader.step Reader.start
      return ⟨name, ← r.whole?⟩
    else none
  | _ => none

def ofLine? (line : String) : Option Declaration := do ofTokens? (← scan [] line.toList)

end Declaration

section Evaluation

variable {W R : Type} [Scalar R] [Exponential R] [Storage W R]

inductive Value (R : Type) where
  | number (v : R)
  | point (x y : R)
  deriving Repr

def number? : List (Value R) → Option R
  | [.number v] => some v
  | _ => none

def applied? (a : Activation) : String → List (Value R) → Option (Value R)
  | "vec2", [.number x, .number y] => some (.point x y)
  | "rbf", [.point x y, .point meanX meanY, .number variance] =>
    some (.number (gaussian x y meanX meanY variance))
  | "activate", [.number x] => some (.number (a.apply x))
  | _, _ => none

/-- The values of the arguments that a term lists; a term without commas has one. Unknown names have none. -/
def Term.values? (a : Activation) (weights : List W) (known : List (String × R)) :
    Term → Option (List (Value R))
  | .name w => (known.lookup w).map fun v => [.number v]
  | .entry array i => if array = weightsName then (weights[i]?).map fun w => [.number (widen w)] else none
  | .sum left right => do
    return [.number ((← number? (← left.values? a weights known)) + (← number? (← right.values? a weights known)))]
  | .product left right => do
    return [.number ((← number? (← left.values? a weights known)) * (← number? (← right.values? a weights known)))]
  | .listed front last => do return (← front.values? a weights known) ++ (← last.values? a weights known)
  | .call f arguments => do return [← applied? a f (← arguments.values? a weights known)]

/-- The variables after a line. A later declaration of a name hides an earlier one. -/
def declare (a : Activation) (weights : List W) (known : List (String × R)) (line : String) :
    Option (List (String × R)) := do
  let d ← Declaration.ofLine? line
  return (d.name, ← number? (← d.value.values? a weights known)) :: known

def run (a : Activation) (weights : List W) (known : List (String × R)) (lines : List String) :
    Option (List (String × R)) :=
  lines.foldlM (declare a weights) known

def inputs (x y : W) : List (String × R) := [("v00000001", widen y), ("v00000000", widen x)]

end Evaluation

end PlaneNet.Fragment
