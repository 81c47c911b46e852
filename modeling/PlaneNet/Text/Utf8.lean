
set_option autoImplicit false

namespace PlaneNet.Text

def isContinuation (b : UInt8) : Bool := 0x80 ≤ b && b < 0xc0

def payload (b : UInt8) : Nat := b.toNat % 0x40

def scalar? (least n : Nat) : Option Char :=
  if least ≤ n && n.isValidChar then some (Char.ofNat n) else none

def decodeUtf8 : List UInt8 → Option (List Char)
  | [] => some []
  | a :: rest =>
    if a < 0x80 then do
      let cs ← decodeUtf8 rest
      return Char.ofNat a.toNat :: cs
    else if a < 0xc0 then none
    else match rest with
      | [] => none
      | b :: rest =>
        if !isContinuation b then none
        else if a < 0xe0 then do
          let c ← scalar? 0x80 (a.toNat % 0x20 * 0x40 + payload b)
          let cs ← decodeUtf8 rest
          return c :: cs
        else match rest with
          | [] => none
          | d :: rest =>
            if !isContinuation d then none
            else if a < 0xf0 then do
              let c ← scalar? 0x800 ((a.toNat % 0x10 * 0x40 + payload b) * 0x40 + payload d)
              let cs ← decodeUtf8 rest
              return c :: cs
            else match rest with
              | [] => none
              | e :: rest =>
                if !isContinuation e || 0xf8 ≤ a then none
                else do
                  let c ← scalar? 0x10000
                    (((a.toNat % 0x08 * 0x40 + payload b) * 0x40 + payload d) * 0x40 + payload e)
                  let cs ← decodeUtf8 rest
                  return c :: cs

end PlaneNet.Text
