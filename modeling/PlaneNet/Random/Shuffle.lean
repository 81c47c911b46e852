import PlaneNet.Random.Stream

set_option autoImplicit false

namespace PlaneNet.Random

/-- The highest remainder that is accepted when a word is scaled to `[0, n)`. -/
def zone (n : UInt32) : UInt32 := (n <<< UInt32.ofNat (31 - n.toNat.log2)) - 1

-- So many words are tried for one index, then it is 0; each is rejected with odds below one half.
def attempts : Nat := 128

/-- The upper half of the product of a random word and `n`, once the lower half is in the zone. -/
def indexBelow (n : UInt32) : Nat → Stream → Nat × Stream
  | 0, s => (0, s)
  | fuel + 1, s =>
      let (w, s) := s.next
      let product := w.toUInt64 * n.toUInt64
      if product.toUInt32 ≤ zone n then ((product >>> 32).toNat, s) else indexBelow n fuel s

-- Swaps places `i`, `i - 1`, …, `1` each with a random one of those up to itself. From `2 ^ 32` places on a single
-- word would not do.
def shuffleDown {α : Type} : Nat → Array α → Stream → Array α × Stream
  | 0, xs, s => (xs, s)
  | i + 1, xs, s =>
      let (j, s) := indexBelow (UInt32.ofNat (i + 2)) attempts s
      shuffleDown i (xs.swapIfInBounds (i + 1) j) s

def shuffle {α : Type} (xs : Array α) (s : Stream) : Array α × Stream :=
  shuffleDown (xs.size - 1) xs s

section Permutation

variable {α : Type}

theorem swapIfInBounds_perm (xs : Array α) (i j : Nat) : (xs.swapIfInBounds i j).Perm xs := by
  rw [Array.swapIfInBounds]
  split
  · split
    · exact Array.swap_perm _ _
    · exact Array.Perm.refl _
  · exact Array.Perm.refl _

theorem shuffleDown_perm (i : Nat) (xs : Array α) (words : Stream) : (shuffleDown i xs words).1.Perm xs := by
  induction i generalizing xs words with
  | zero => exact Array.Perm.refl _
  | succ i ih => exact (ih _ _).trans (swapIfInBounds_perm xs _ _)

theorem shuffle_perm (xs : Array α) (words : Stream) : (shuffle xs words).1.Perm xs :=
  shuffleDown_perm _ xs words

end Permutation

end PlaneNet.Random
