import PlaneNet.Json.Value

set_option autoImplicit false

namespace PlaneNet.Json

abbrev Reader (α : Type) := List Char → Option (α × List Char)

def isSpace (c : Char) : Bool := c = ' ' || c = '\t' || c = '\n' || c = '\r'

def skipSpace (cs : List Char) : List Char := cs.dropWhile isSpace

def hexValue? (c : Char) : Option Nat :=
  if '0' ≤ c && c ≤ '9' then some (c.toNat - '0'.toNat)
  else if 'a' ≤ c && c ≤ 'f' then some (c.toNat - 'a'.toNat + 10)
  else if 'A' ≤ c && c ≤ 'F' then some (c.toNat - 'A'.toNat + 10)
  else none

def unit? : Reader Nat
  | a :: b :: c :: d :: rest => do
      let high := 16 * (← hexValue? a) + (← hexValue? b)
      let low := 16 * (← hexValue? c) + (← hexValue? d)
      return (256 * high + low, rest)
  | _ => none

def isHighSurrogate (n : Nat) : Bool := 0xd800 ≤ n && n < 0xdc00

def isLowSurrogate (n : Nat) : Bool := 0xdc00 ≤ n && n < 0xe000

inductive Piece where
  | char (c : Char)
  | unit (n : Nat)

def escape? : Reader Piece
  | '"' :: rest => some (.char '"', rest)
  | '\\' :: rest => some (.char '\\', rest)
  | '/' :: rest => some (.char '/', rest)
  | 'b' :: rest => some (.char (Char.ofNat 8), rest)
  | 'f' :: rest => some (.char (Char.ofNat 12), rest)
  | 'n' :: rest => some (.char '\n', rest)
  | 'r' :: rest => some (.char '\r', rest)
  | 't' :: rest => some (.char '\t', rest)
  | 'u' :: rest => (unit? rest).map fun (n, rest) => (.unit n, rest)
  | _ => none

def pieces : Nat → Reader (List Piece)
  | 0, _ => none
  | fuel + 1, cs =>
    match cs with
    | [] => none
    | '"' :: rest => some ([], rest)
    | '\\' :: rest => do
        let (p, rest) ← escape? rest
        let (ps, rest) ← pieces fuel rest
        return (p :: ps, rest)
    | c :: rest => do
        if c.toNat < 0x20 then none else
        let (ps, rest) ← pieces fuel rest
        return (.char c :: ps, rest)

-- Joins surrogate pairs; a half without its partner is no text.
def joinPieces : List Piece → Option (List Char)
  | [] => some []
  | .char c :: rest => (joinPieces rest).map (c :: ·)
  | .unit high :: .unit low :: rest =>
      if isHighSurrogate high then
        if isLowSurrogate low then
          (joinPieces rest).map
            (Char.ofNat (0x10000 + (high - 0xd800) * 0x400 + (low - 0xdc00)) :: ·)
        else none
      else if isLowSurrogate high then none
      else (joinPieces (.unit low :: rest)).map (Char.ofNat high :: ·)
  | .unit n :: rest =>
      if isHighSurrogate n || isLowSurrogate n then none
      else (joinPieces rest).map (Char.ofNat n :: ·)

def text? : Reader (Option String) := fun cs => do
  let (ps, rest) ← pieces (cs.length + 1) cs
  return ((joinPieces ps).map String.ofList, rest)

def digits : List Char → List Char × List Char
  | cs => (cs.takeWhile Decimal.isDigit, cs.dropWhile Decimal.isDigit)

def fraction? : Reader (List Char)
  | '.' :: rest =>
      let (ds, rest) := digits rest
      if ds.isEmpty then none else some (ds, rest)
  | cs => some ([], cs)

def isExponentMark (c : Char) : Bool := c = 'e' || c = 'E'

def exponent? : Reader (Option Int)
  | [] => some (none, [])
  | c :: rest =>
      if isExponentMark c then
        let (negative, rest) := Decimal.splitSign rest
        let (ds, rest) := digits rest
        if ds.isEmpty then none
        else
          let n : Int := Decimal.value ds
          some (some (if negative then -n else n), rest)
      else some (none, c :: rest)

-- A zero stands alone in front of the point.
def unsigned? (negative : Bool) : Reader Json := fun cs => do
  let (ds, rest) := digits cs
  if ds.isEmpty || (ds.head? = some '0' && 1 < ds.length) then none else
  let (fraction, rest) ← fraction? rest
  let (exponent, rest) ← exponent? rest
  let literal := Decimal.Literal.finite negative (Decimal.value (ds ++ fraction))
    (exponent.getD 0 - fraction.length)
  return (.number (fraction.isEmpty && exponent.isNone) literal, rest)

mutual

def value? : Nat → Reader Json
  | 0, _ => none
  | fuel + 1, cs =>
    match skipSpace cs with
    | 'n' :: 'u' :: 'l' :: 'l' :: rest => some (.null, rest)
    | 't' :: 'r' :: 'u' :: 'e' :: rest => some (.bool true, rest)
    | 'f' :: 'a' :: 'l' :: 's' :: 'e' :: rest => some (.bool false, rest)
    | '"' :: rest => (text? rest).map fun (t, rest) => (.string t, rest)
    | '[' :: rest =>
        match skipSpace rest with
        | ']' :: rest => some (.array [], rest)
        | rest => (items? fuel rest).map fun (items, rest) => (.array items, rest)
    | '\x7b' :: rest =>
        match skipSpace rest with
        | '\x7d' :: rest => some (.object [], rest)
        | rest => (members? fuel rest).map fun (members, rest) => (.object members, rest)
    | '-' :: rest => unsigned? true rest
    | rest => unsigned? false rest

def items? : Nat → Reader (List Json)
  | 0, _ => none
  | fuel + 1, cs => do
    let (item, rest) ← value? fuel cs
    match skipSpace rest with
    | ']' :: rest => return ([item], rest)
    | ',' :: rest => do
      let (items, rest) ← items? fuel rest
      return (item :: items, rest)
    | _ => none

def members? : Nat → Reader (List (Option String × Json))
  | 0, _ => none
  | fuel + 1, cs =>
    match skipSpace cs with
    | '"' :: rest => do
      let (name, rest) ← text? rest
      match skipSpace rest with
      | ':' :: rest => do
        let (value, rest) ← value? fuel rest
        match skipSpace rest with
        | '\x7d' :: rest => return ([(name, value)], rest)
        | ',' :: rest => do
          let (members, rest) ← members? fuel rest
          return ((name, value) :: members, rest)
        | _ => none
      | _ => none
    | _ => none

end

def ofText? (s : String) : Option Json := do
  let cs := s.toList
  let (value, rest) ← value? (cs.length + 1) cs
  if (skipSpace rest).isEmpty then return value else none

end PlaneNet.Json
