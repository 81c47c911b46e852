import Mathlib.Algebra.BigOperators.Group.Finset.Basic
import Mathlib.Tactic.Ring
import PlaneNet.Buffer

set_option autoImplicit false

namespace PlaneNet

variable {α β : Type}

def Span.slice (s : Span) (xs : List α) : List α := (xs.drop s.offset).take s.length

def Span.splice (s : Span) (new xs : List α) : List α := xs.take s.offset ++ new ++ xs.drop s.stop

theorem exists_getElem? {xs : List α} {n i : Nat} (length : xs.length = n) (inside : i < n) :
    ∃ x, xs[i]? = some x :=
  ⟨_, List.getElem?_eq_getElem (length ▸ inside)⟩

namespace Span

theorem length_slice (s : Span) (xs : List α) (inside : s.stop ≤ xs.length) :
    (s.slice xs).length = s.length := by
  simp only [stop] at inside
  simp only [slice, List.length_take, List.length_drop]
  omega

theorem length_splice (s : Span) (new xs : List α) (inside : s.stop ≤ xs.length)
    (same : new.length = s.length) : (s.splice new xs).length = xs.length := by
  simp only [stop] at inside
  simp only [splice, stop, List.length_append, List.length_take, List.length_drop]
  omega

theorem getElem?_slice (s : Span) (xs : List α) (i : Nat) (within : i < s.length) :
    (s.slice xs)[i]? = xs[s.offset + i]? := by
  simp [slice, within]

theorem slice_slice (offset length : Nat) (s : Span) (xs : List α) (inside : offset + length ≤ s.length) :
    (Span.mk offset length).slice (s.slice xs) = (Span.mk (s.offset + offset) length).slice xs := by
  simp only [slice, List.drop_take, List.drop_drop, List.take_take]
  rw [Nat.min_eq_left (by omega)]

theorem slice_replicate (s : Span) (x : α) {count : Nat} (inside : s.stop ≤ count) :
    s.slice (List.replicate count x) = List.replicate s.length x := by
  simp only [stop] at inside
  rw [slice, List.drop_replicate, List.take_replicate, Nat.min_eq_left (by omega)]

theorem slice_take (s : Span) (i : Nat) (xs : List α) (below : s.stop ≤ i) :
    s.slice (xs.take i) = s.slice xs := by
  simp only [stop] at below
  simp only [slice, List.drop_take, List.take_take]
  rw [Nat.min_eq_left (by omega)]

theorem slice_drop (s : Span) (i : Nat) (xs : List α) :
    s.slice (xs.drop i) = (Span.mk (i + s.offset) s.length).slice xs := by
  simp [slice, List.drop_drop]

theorem getElem?_splice_below (s : Span) (new xs : List α) {i : Nat} (below : i < s.offset)
    (inside : s.stop ≤ xs.length) : (s.splice new xs)[i]? = xs[i]? := by
  simp only [stop] at inside
  have first : i < (xs.take s.offset).length := by rw [List.length_take]; omega
  rw [splice, List.append_assoc, List.getElem?_append_left first, List.getElem?_take_of_lt below]

theorem getElem?_splice_above (s : Span) (new xs : List α) {i : Nat} (above : s.stop ≤ i)
    (inside : s.stop ≤ xs.length) (same : new.length = s.length) : (s.splice new xs)[i]? = xs[i]? := by
  have start : (xs.take s.offset ++ new).length = s.stop := by
    simp only [stop] at inside ⊢
    simp only [List.length_append, List.length_take]
    omega
  rw [splice, List.getElem?_append_right (start ▸ above), start, List.getElem?_drop, Nat.add_sub_cancel' above]

theorem slice_splice (s : Span) (new xs : List α) (inside : s.stop ≤ xs.length)
    (same : new.length = s.length) : s.slice (s.splice new xs) = new := by
  simp only [stop] at inside
  have start : (xs.take s.offset).length = s.offset := List.length_take_of_le (by omega)
  rw [slice, splice, List.append_assoc, List.drop_left' start, ← same, List.take_left]

theorem slice_splice_of_apart (s other : Span) (new xs : List α) (inside : s.stop ≤ xs.length)
    (same : new.length = s.length) (apart : other.stop ≤ s.offset ∨ s.stop ≤ other.offset) :
    other.slice (s.splice new xs) = other.slice xs := by
  apply List.ext_getElem?
  intro i
  by_cases within : i < other.length
  · rw [getElem?_slice _ _ _ within, getElem?_slice _ _ _ within]
    rcases apart with below | above
    · simp only [stop] at below
      exact getElem?_splice_below _ _ _ (by omega) inside
    · exact getElem?_splice_above _ _ _ (by omega) inside same
  · simp [slice, List.getElem?_take_eq_none (Nat.le_of_not_lt within)]

theorem splice_append (s : Span) (new xs ys : List α) (inside : s.stop ≤ xs.length) :
    s.splice new (xs ++ ys) = s.splice new xs ++ ys := by
  have start : s.offset ≤ xs.length := Nat.le_trans (Nat.le_add_right _ _) inside
  simp only [splice, List.take_append_of_le_length start, List.drop_append_of_le_length inside,
    List.append_assoc]

theorem splice_take_append_drop (s : Span) (i : Nat) (new xs : List α) (below : s.stop ≤ i)
    (inside : i ≤ xs.length) : s.splice new (xs.take i) ++ xs.drop i = s.splice new xs := by
  simp only [stop] at below
  have rest : (xs.take i).drop (s.offset + s.length) ++ xs.drop i = xs.drop (s.offset + s.length) := by
    conv_rhs => rw [← List.take_append_drop i xs]
    rw [List.drop_append_of_le_length (by rw [List.length_take]; omega)]
  simp only [splice, stop, List.take_take, List.append_assoc, rest]
  rw [Nat.min_eq_left (by omega)]

theorem splice_splice (s : Span) (length : Nat) (new next xs : List α) (same : new.length = s.length)
    (inside : s.offset ≤ xs.length) :
    (Span.mk s.stop length).splice next (s.splice new xs) =
      (Span.mk s.offset (s.length + length)).splice (new ++ next) xs := by
  have start : (xs.take s.offset ++ new).length = s.stop := by
    rw [List.length_append, List.length_take_of_le inside, same, stop]
  simp only [splice, stop] at start ⊢
  rw [List.take_left' start, ← List.drop_drop, List.drop_left' start, List.drop_drop, Nat.add_assoc]
  simp only [List.append_assoc]

end Span

namespace Buffer

theorem read_eq_ok (s : Span) (xs : List α) (inside : s.stop ≤ xs.length) :
    read s xs = .ok (s.slice xs) := by
  simp only [read, inside, if_true, Span.slice]

theorem read_take_eq_ok {s : Span} {i : Nat} {xs : List α} (below : s.stop ≤ i) (inside : i ≤ xs.length) :
    read s (xs.take i) = .ok (s.slice xs) := by
  rw [read_eq_ok _ _ (by rw [List.length_take]; omega), Span.slice_take _ _ _ below]

theorem read_drop_eq_ok {i count : Nat} {xs : List α} (inside : (Span.mk i count).stop ≤ xs.length) :
    read ⟨0, count⟩ (xs.drop i) = .ok ((Span.mk i count).slice xs) := by
  simp only [Span.stop] at inside
  rw [read_eq_ok _ _ (by simp only [Span.stop, List.length_drop]; omega), Span.slice_drop]
  rfl

theorem write_eq_ok (s : Span) (new xs : List α) (inside : s.stop ≤ xs.length)
    (same : new.length = s.length) : write s new xs = .ok (s.splice new xs) := by
  simp only [write, inside, same, and_self, if_true, Span.splice]

theorem cut_eq_ok (i : Nat) (xs : List α) (inside : i ≤ xs.length) :
    cut i xs = .ok (xs.take i, xs.drop i) := by
  simp only [cut, inside, if_true]

theorem cut_append (xs ys : List α) : cut xs.length (xs ++ ys) = .ok (xs, ys) := by
  rw [cut_eq_ok _ _ (by simp), List.take_left, List.drop_left]

theorem read_replicate (done : List α) (x : α) {count rest : Nat} (enough : count ≤ rest) :
    read ⟨done.length, count⟩ (done ++ List.replicate rest x) = .ok (List.replicate count x) := by
  rw [read_eq_ok]
  · simp only [Span.slice, List.drop_left, List.take_replicate, Nat.min_eq_left enough]
  · simp only [Span.stop, List.length_append, List.length_replicate]
    omega

theorem write_replicate (done new : List α) (x : α) {rest : Nat} (enough : new.length ≤ rest) :
    write ⟨done.length, new.length⟩ new (done ++ List.replicate rest x) =
      .ok (done ++ new ++ List.replicate (rest - new.length) x) := by
  rw [write_eq_ok _ _ _ _ rfl]
  · simp only [Span.splice, Span.stop, List.take_left, ← List.drop_drop, List.drop_left, List.drop_replicate]
  · simp only [Span.stop, List.length_append, List.length_replicate]
    omega

theorem cell_eq_ok_iff {i : Nat} {xs : List α} {x : α} : cell i xs = .ok x ↔ xs[i]? = some x := by
  cases found : xs[i]? with
  | none => simp [cell, found]
  | some y => simp [cell, found]

theorem write_cell_eq_ok {i : Nat} (x : α) {xs : List α} (inside : i < xs.length) :
    write ⟨i, 1⟩ [x] xs = .ok (xs.set i x) := by
  have stop : (Span.mk i 1).stop ≤ xs.length := inside
  rw [write_eq_ok _ _ _ stop rfl, List.set_eq_take_append_cons_drop, if_pos inside]
  simp [Span.splice, Span.stop]

theorem chunks_eq (width n : Nat) (xs : List α) :
    chunks width n xs = (List.range n).map fun row => (Span.mk (row * width) width).slice xs := by
  induction n generalizing xs with
  | zero => rfl
  | succ n ih =>
    rw [chunks, ih, List.range_succ_eq_map]
    simp only [List.map_cons, List.map_map, Span.slice, Nat.zero_mul, List.drop_zero]
    congr 2
    funext row
    simp only [Function.comp_apply, List.drop_drop, Nat.succ_mul, Nat.add_comm]

theorem chunks_flatMap {f : β → List α} {width : Nat} (even : ∀ b, (f b).length = width) (bs : List β) :
    chunks width bs.length (bs.flatMap f) = bs.map f := by
  induction bs with
  | nil => rfl
  | cons b rest ih =>
    rw [List.length_cons, chunks, List.flatMap_cons, List.take_left' (even b), List.drop_left' (even b), ih]
    rfl

theorem slice_flatMap {f : β → List α} {width : Nat} (even : ∀ b, (f b).length = width) {bs : List β} {i : Nat} {b : β}
    (found : bs[i]? = some b) :
    (Span.mk (i * width) width).slice (bs.flatMap f) = f b := by
  have rows := congrArg (·[i]?) ((chunks_eq width bs.length _).symm.trans (chunks_flatMap even bs))
  obtain ⟨within, rfl⟩ := List.getElem?_eq_some_iff.mp found
  simpa [within] using rows

theorem rows_eq_ok (width n : Nat) (xs : List α) (positive : 0 < width) (full : xs.length = n * width) :
    rows width xs = .ok ((List.range n).map fun row => (Span.mk (row * width) width).slice xs) := by
  have exact : ¬ (width = 0 ∨ xs.length % width ≠ 0) := by
    simp only [full, Nat.mul_mod_left]
    omega
  rw [rows, if_neg exact, full, Nat.mul_div_cancel n positive, chunks_eq]

end Buffer

def blocks (block : Nat → List α) (n : Nat) : List α := (List.range n).flatMap block

section Blocks

variable (block : Nat → List α)

@[simp] theorem blocks_zero : blocks block 0 = [] := rfl

theorem blocks_succ (n : Nat) : blocks block (n + 1) = blocks block n ++ block n := by
  simp [blocks, List.range_succ, List.flatMap_append]

theorem length_blocks (n : Nat) :
    (blocks block n).length = ∑ i ∈ Finset.range n, (block i).length := by
  induction n with
  | zero => rfl
  | succ n ih => rw [blocks_succ, List.length_append, ih, Finset.sum_range_succ]

theorem blocks_eq_append {i n : Nat} (within : i < n) :
    ∃ rest, blocks block n = blocks block i ++ block i ++ rest := by
  induction n with
  | zero => omega
  | succ n ih =>
    rw [blocks_succ]
    rcases Nat.lt_or_ge i n with before | last
    · obtain ⟨rest, split⟩ := ih before
      exact ⟨rest ++ block n, by rw [split, List.append_assoc]⟩
    · have same : i = n := by omega
      exact ⟨[], by rw [same, List.append_nil]⟩

theorem getElem?_blocks {i n k : Nat} (within : i < n) (inside : k < (block i).length) :
    (blocks block n)[(blocks block i).length + k]? = (block i)[k]? := by
  obtain ⟨rest, split⟩ := blocks_eq_append block within
  rw [split, List.append_assoc, List.getElem?_append_right (by omega),
    List.getElem?_append_left (by omega), Nat.add_sub_cancel_left]

theorem slice_blocks {i n : Nat} (rest : List α) (within : i < n) :
    (Span.mk (blocks block i).length (block i).length).slice (blocks block n ++ rest) = block i := by
  obtain ⟨above, split⟩ := blocks_eq_append block within
  simp only [Span.slice, split, List.append_assoc, List.drop_left, List.take_left]

theorem blocks_congr {block other : Nat → List α} {n : Nat} (same : ∀ i < n, block i = other i) :
    blocks block n = blocks other n :=
  List.flatMap_congr fun i member => same i (List.mem_range.mp member)

theorem blocks_slices (count : Nat → Nat) (xs : List α) (n : Nat) :
    blocks (fun i => (Span.mk (∑ j ∈ Finset.range i, count j) (count i)).slice xs) n =
      xs.take (∑ j ∈ Finset.range n, count j) := by
  induction n with
  | zero => rfl
  | succ n ih => rw [blocks_succ, ih, Finset.sum_range_succ, List.take_add]; rfl

theorem splice_blocks {i n : Nat} (new : List α) (within : i < n) :
    (Span.mk (blocks block i).length (block i).length).splice new (blocks block n) =
      blocks (Function.update block i new) n := by
  induction n with
  | zero => omega
  | succ n ih =>
    rw [blocks_succ, blocks_succ]
    rcases Nat.lt_or_ge i n with before | last
    · have inside : (Span.mk (blocks block i).length (block i).length).stop ≤ (blocks block n).length := by
        obtain ⟨rest, split⟩ := blocks_eq_append block before
        simp [split, Span.stop]
      rw [Span.splice_append _ _ _ _ inside, ih before, Function.update_of_ne (Nat.ne_of_gt before)]
    · obtain rfl : i = n := by omega
      have below : blocks (Function.update block i new) i = blocks block i :=
        blocks_congr fun j before => Function.update_of_ne (Nat.ne_of_lt before) _ _
      simp [below, Span.splice, Span.stop]

theorem Buffer.read_blocks {i n : Nat} (within : i < n) :
    Buffer.read ⟨(blocks block i).length, (block i).length⟩ (blocks block n) = .ok (block i) := by
  obtain ⟨rest, split⟩ := blocks_eq_append block within
  have inside : (Span.mk (blocks block i).length (block i).length).stop ≤ (blocks block n).length := by
    simp [split, Span.stop]
  have slice := slice_blocks block [] within
  rw [List.append_nil] at slice
  rw [Buffer.read_eq_ok _ _ inside, slice]

end Blocks

section Counted

variable {block : Nat → List α} {count : Nat → Nat} {n : Nat}
  (counted : ∀ i < n, (block i).length = count i)

include counted

theorem length_counted {i : Nat} (within : i ≤ n) :
    (blocks block i).length = ∑ j ∈ Finset.range i, count j := by
  rw [length_blocks]
  exact Finset.sum_congr rfl fun j member => counted j ((Finset.mem_range.mp member).trans_le within)

theorem slice_counted {i : Nat} (within : i < n) :
    (Span.mk (∑ j ∈ Finset.range i, count j) (count i)).slice (blocks block n) = block i := by
  have slice := slice_blocks block [] within
  rwa [List.append_nil, length_counted counted within.le, counted i within] at slice

theorem splice_counted {i : Nat} (new : List α) (within : i < n) :
    (Span.mk (∑ j ∈ Finset.range i, count j) (count i)).splice new (blocks block n) =
      blocks (Function.update block i new) n := by
  have splice := splice_blocks block new within
  rwa [length_counted counted within.le, counted i within] at splice

theorem getElem?_counted {i k : Nat} (within : i < n) (inside : k < count i) :
    (blocks block n)[∑ j ∈ Finset.range i, count j + k]? = (block i)[k]? := by
  have cell := getElem?_blocks block within (counted i within ▸ inside)
  rwa [length_counted counted within.le] at cell

end Counted

end PlaneNet
