import Mathlib.Data.List.Range
import PlaneNet.Dataset

set_option autoImplicit false

namespace PlaneNet

namespace Dataset

variable {W G : Type} [Random.Source G] {d : Dataset W}

inductive Reachable : Dataset W → Prop where
  | ofSamples (samples : List (Sample W)) : Reachable (ofSamples samples)
  | shuffle {G : Type} [Random.Source G] {d : Dataset W} (before : Reachable d) (words : G) :
      Reachable (d.shuffle words).1

def Permuted (d : Dataset W) : Prop := d.order.toList.Perm (List.range d.size)

theorem Permuted.shuffle (permuted : d.Permuted) (words : G) : (d.shuffle words).1.Permuted :=
  (Random.Source.perm d.order words).toList.trans permuted

theorem Reachable.permuted (reachable : d.Reachable) : d.Permuted := by
  induction reachable with
  | ofSamples samples => simp [Permuted, Dataset.ofSamples, size]
  | shuffle _ words ih => exact ih.shuffle words

theorem Permuted.length_order (permuted : d.Permuted) : d.order.toList.length = d.size := by
  rw [permuted.length_eq, List.length_range]

theorem visited_eq_ok_iff (d : Dataset W) (position : Nat) (s : Sample W) :
    d.visited position = .ok s ↔ ∃ i, d.order.toList[position]? = some i ∧ d.samples[i]? = some s := by
  rw [visited, Array.getElem?_toList]
  cases d.order[position]? with
  | none => simp
  | some i => cases found : d.samples[i]? <;> simp [found]

theorem visited_eq_ok (permuted : d.Permuted) {position : Nat} (within : position < d.size) :
    ∃ s, d.visited position = .ok s := by
  have length : d.order.size = d.size := by
    have same := permuted.length_eq
    rwa [List.length_range, Array.length_toList] at same
  have inOrder : position < d.order.size := length ▸ within
  have inSamples : d.order[position] < d.samples.size := by
    have member := permuted.mem_iff.mp (Array.getElem_mem_toList inOrder)
    exact List.mem_range.mp member
  refine ⟨d.samples[d.order[position]], ?_⟩
  simp only [visited, Array.getElem?_eq_getElem inOrder, Array.getElem?_eq_getElem inSamples]

end Dataset

end PlaneNet
