
set_option autoImplicit false

namespace PlaneNet.Random

/-- Sixteen words; missing ones read as zero. -/
abbrev Block := Array UInt32

def rotateLeft (x : UInt32) (n : UInt32) : UInt32 := (x <<< n) ||| (x >>> (32 - n))

def rotateRight (x : UInt32) (n : UInt32) : UInt32 :=
  if n = 0 then x else (x >>> n) ||| (x <<< (32 - n))

def word (b : Block) (i : Nat) : UInt32 := b.getD i 0

def quarterRound (b : Block) (i j k l : Nat) : Block :=
  let p := word b i + word b j
  let s := rotateLeft (word b l ^^^ p) 16
  let r := word b k + s
  let q := rotateLeft (word b j ^^^ r) 12
  let p := p + q
  let s := rotateLeft (s ^^^ p) 8
  let r := r + s
  let q := rotateLeft (q ^^^ r) 7
  (((b.setIfInBounds i p).setIfInBounds j q).setIfInBounds k r).setIfInBounds l s

def doubleRound (b : Block) : Block :=
  [(0, 4, 8, 12), (1, 5, 9, 13), (2, 6, 10, 14), (3, 7, 11, 15),
   (0, 5, 10, 15), (1, 6, 11, 12), (2, 7, 8, 13), (3, 4, 9, 14)].foldl
    (fun b (i, j, k, l) => quarterRound b i j k l) b

def doubleRounds : Nat := 6

def constants : List UInt32 := [0x61707865, 0x3320646e, 0x79622d32, 0x6b206574]

def initialBlock (key : List UInt32) (counter : UInt64) : Block :=
  (constants ++ key
    ++ [counter.toUInt32, (counter >>> 32).toUInt32, 0, 0]).toArray

def blockWords (key : List UInt32) (counter : UInt64) : List UInt32 :=
  let start := initialBlock key counter
  let mixed := (List.range doubleRounds).foldl (fun b _ => doubleRound b) start
  (List.range 16).map fun i => word mixed i + word start i

structure Stream where
  key : List UInt32
  counter : UInt64
  pending : List UInt32
  deriving Repr, DecidableEq

def spread (state : UInt64) : UInt64 × UInt32 :=
  let state := state * 6364136223846793005 + 11634580027462260723
  let mixed := (((state >>> 18) ^^^ state) >>> 27).toUInt32
  (state, rotateRight mixed (state >>> 59).toUInt32)

def keyWords : Nat → UInt64 → List UInt32
  | 0, _ => []
  | n + 1, state =>
      let (state, k) := spread state
      k :: keyWords n state

namespace Stream

def ofSeed (seed : UInt64) : Stream := ⟨keyWords 8 seed, 0, []⟩

def next (s : Stream) : UInt32 × Stream :=
  match s.pending with
  | w :: rest => (w, { s with pending := rest })
  | [] =>
    match blockWords s.key s.counter with
    | w :: rest => (w, { s with counter := s.counter + 1, pending := rest })
    | [] => (0, s)

end Stream

end PlaneNet.Random
