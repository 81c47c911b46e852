import PlaneNet.Decimal.Shortest

set_option autoImplicit false

namespace PlaneNet.Decimal

def padded (width : Nat) (digits : String) : String :=
  String.ofList (List.replicate (width - digits.length) '0') ++ digits

def fixedMagnitude (places significand shift : Nat) : String :=
  let scaled := Binary.roundHalfEven (significand * Nat.pow 2 shift * Nat.pow 10 places)
    (Nat.pow 2 Binary.double.scale)
  toString (scaled / Nat.pow 10 places) ++ "." ++ padded places (toString (scaled % Nat.pow 10 places))

def fixed (places : Nat) (x : Float) : String :=
  match Binary.double.decode (Binary.ofDouble x) with
  | .nan => "NaN"
  | .infinite negative => signed negative "inf"
  | .finite negative significand shift => signed negative (fixedMagnitude places significand shift)

end PlaneNet.Decimal
