/-!
Binary floating-point formats. A finite magnitude is counted in the least positive number of its
format, so that it is a natural number and rounding is a question about quotients of naturals.
-/

set_option autoImplicit false

namespace PlaneNet.Binary

structure Format where
  precision : Nat
  /-- The least positive number is two to the power of minus this. -/
  scale : Nat
  /-- Distance between the encodings of a magnitude and of its double. -/
  binade : Nat
  /-- The encoding of infinity, which lies right above those of the finite magnitudes. -/
  infinity : Nat
  deriving Repr

def Format.ofWidths (precision exponentBits : Nat) : Format :=
  { precision
    scale := Nat.pow 2 (exponentBits - 1) + precision - 3
    binade := Nat.pow 2 (precision - 1)
    infinity := (Nat.pow 2 exponentBits - 1) * Nat.pow 2 (precision - 1) }

def single : Format := .ofWidths 24 8

def double : Format := .ofWidths 53 11

structure Encoded where
  negative : Bool
  magnitude : Nat
  deriving Repr, DecidableEq

namespace Format

def nan (f : Format) : Encoded := ⟨false, f.infinity + f.binade / 2⟩

def infinite (f : Format) (negative : Bool) : Encoded := ⟨negative, f.infinity⟩

end Format

def roundHalfEven (num den : Nat) : Nat :=
  let below := num / den
  let twice := 2 * (num % den)
  if twice < den || (twice == den && below % 2 == 0) then below else below + 1

/--
Encoding of `significand * 2 ^ shift` least positive numbers. A significand that was rounded up to the next
power of two carries into the exponent field, up to infinity.
-/
def Format.pack (f : Format) (shift significand : Nat) : Nat :=
  min (shift * f.binade + significand) f.infinity

def Format.nearest (f : Format) (num den : Nat) : Nat :=
  let num := num <<< f.scale
  -- The logarithms leave open which of two shifts brings the quotient down to a significand.
  let least := num.log2 - den.log2 - f.precision
  let shift := if num / (den <<< least) < 2 * f.binade then least else least + 1
  f.pack shift (roundHalfEven num (den <<< shift))

def Format.nearestDyadic (f : Format) (n up down : Nat) : Nat :=
  if n = 0 then 0 else
  let shift := n.log2 + 1 + up - (down + f.precision)
  f.pack shift (roundHalfEven (n <<< (up - (down + shift))) (1 <<< (down + shift - up)))

/-- What an encoding stands for: `significand * 2 ^ shift` least positive numbers when finite. -/
inductive Datum where
  | nan
  | infinite (negative : Bool)
  | finite (negative : Bool) (significand shift : Nat)
  deriving Repr, DecidableEq

def Format.decode (f : Format) (x : Encoded) : Datum :=
  let field := x.magnitude / f.binade
  let fraction := x.magnitude % f.binade
  if f.infinity < x.magnitude then .nan
  else if x.magnitude = f.infinity then .infinite x.negative
  else if field = 0 then .finite x.negative fraction 0
  else .finite x.negative (f.binade + fraction) (field - 1)

def Format.convert (f g : Format) (x : Encoded) : Encoded :=
  match f.decode x with
  | .nan => g.nan
  | .infinite negative => g.infinite negative
  | .finite negative significand shift =>
      ⟨negative, g.nearestDyadic significand (shift + g.scale) f.scale⟩

end PlaneNet.Binary
