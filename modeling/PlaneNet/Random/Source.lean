import PlaneNet.Random.Shuffle

set_option autoImplicit false

namespace PlaneNet.Random

-- All that is asked of a shuffle is that it swaps elements.
class Source (G : Type) where
  next : G → UInt32 × G
  shuffle : Array Nat → G → Array Nat × G
  perm : ∀ order words, (shuffle order words).1.Perm order

instance : Source Stream := ⟨Stream.next, shuffle, shuffle_perm⟩

namespace Source

variable {G : Type} [Source G]

def take : Nat → G → List UInt32 × G
  | 0, s => ([], s)
  | n + 1, s =>
      let (w, s) := next s
      let (ws, s) := take n s
      (w :: ws, s)

theorem length_take (count : Nat) (words : G) : (take count words).1.length = count := by
  induction count generalizing words with
  | zero => rfl
  | succ count ih => simp [take, ih]

end Source

end PlaneNet.Random
