
set_option autoImplicit false

namespace PlaneNet.Text

def isBlank (c : Char) : Bool :=
  let n := c.toNat
  (0x9 ≤ n && n ≤ 0xd) || n = 0x20 || n = 0x85 || n = 0xa0 || n = 0x1680
    || (0x2000 ≤ n && n ≤ 0x200a) || n = 0x2028 || n = 0x2029 || n = 0x202f || n = 0x205f || n = 0x3000

def fieldsAfter (word : List Char) : List Char → List (List Char)
  | [] => if word.isEmpty then [] else [word.reverse]
  | c :: cs =>
      if isBlank c then
        if word.isEmpty then fieldsAfter [] cs else word.reverse :: fieldsAfter [] cs
      else fieldsAfter (c :: word) cs

def fields (cs : List Char) : List (List Char) := fieldsAfter [] cs

end PlaneNet.Text
