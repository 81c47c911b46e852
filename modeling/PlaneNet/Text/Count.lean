import PlaneNet.Decimal.Literal

set_option autoImplicit false

namespace PlaneNet.Text

inductive CountFault where
  | empty
  | badDigit
  | tooLarge
  deriving Repr, DecidableEq

def CountFault.message : CountFault → String
  | .empty => "cannot parse integer from empty string"
  | .badDigit => "invalid digit found in string"
  | .tooLarge => "number too large to fit in target type"

def countFrom (limit n : Nat) : List Char → Except CountFault Nat
  | [] => .ok n
  | c :: cs =>
    if !Decimal.isDigit c then .error .badDigit
    else
      let n := 10 * n + Decimal.digitValue c
      if limit < n then .error .tooLarge else countFrom limit n cs

def count (limit : Nat) : List Char → Except CountFault Nat
  | [] => .error .empty
  | ['+'] => .error .badDigit
  | '+' :: digits => countFrom limit 0 digits
  | digits => countFrom limit 0 digits

end PlaneNet.Text
