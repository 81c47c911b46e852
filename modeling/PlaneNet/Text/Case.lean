
set_option autoImplicit false

namespace PlaneNet.Text

def lower (c : Char) : Char :=
  if 'A' ≤ c && c ≤ 'Z' then Char.ofNat (c.toNat + 32) else c

def lowerCase (cs : List Char) : List Char := cs.map lower

end PlaneNet.Text
