import Mathlib.Tactic.Lemma
import Mathlib.Data.List.Basic

/-!
# Cutting a list into blocks

`blocks n l` are the consecutive blocks of `n` elements of `l`, and `rest n l` is what is left after
the last of them. A stream that arrives in pieces is cut by carrying the rest of each piece over to
the next one: `blocks_append` and `rest_append` say that this gives the blocks of the whole stream.
-/

namespace Core

variable {α : Type*} {n : ℕ} {l m : List α}

/-- The consecutive blocks of `n` elements. -/
def blocks (n : ℕ) (l : List α) : List (List α) :=
  (List.range (l.length / n)).map fun i => (l.drop (i * n)).take n

/-- The elements after the last block. -/
def rest (n : ℕ) (l : List α) : List α := l.drop (l.length / n * n)

@[simp] lemma length_blocks (n : ℕ) (l : List α) : (blocks n l).length = l.length / n := by
  simp [blocks]

lemma length_rest (n : ℕ) (l : List α) : (rest n l).length = l.length % n := by
  simp only [rest, List.length_drop]
  have := Nat.div_add_mod l.length n
  rw [Nat.mul_comm] at this
  omega

lemma length_rest_lt (hn : 0 < n) (l : List α) : (rest n l).length < n := by
  rw [length_rest]
  exact Nat.mod_lt _ hn

/-- Every block is whole. -/
lemma length_of_mem_blocks {b : List α} (hb : b ∈ blocks n l) : b.length = n := by
  obtain ⟨i, hi, rfl⟩ := List.mem_map.mp hb
  have hlast : (i + 1) * n ≤ l.length / n * n :=
    Nat.mul_le_mul_right n (List.mem_range.mp hi)
  have hle := Nat.div_mul_le_self l.length n
  rw [Nat.succ_mul] at hlast
  rw [List.length_take, List.length_drop]
  omega

lemma blocks_of_lt (h : l.length < n) : blocks n l = [] := by
  simp [blocks, Nat.div_eq_of_lt h]

lemma rest_of_lt (h : l.length < n) : rest n l = l := by
  simp [rest, Nat.div_eq_of_lt h]

lemma length_div_of_le (hn : 0 < n) (h : n ≤ l.length) :
    l.length / n = (l.drop n).length / n + 1 := by
  rw [List.length_drop, ← Nat.add_div_right _ hn, Nat.sub_add_cancel h]

/-- The first block. -/
lemma blocks_of_le (hn : 0 < n) (h : n ≤ l.length) :
    blocks n l = l.take n :: blocks n (l.drop n) := by
  simp only [blocks, length_div_of_le hn h, List.range_succ_eq_map, List.map_cons, List.map_map]
  congr 1
  · simp
  · refine List.map_congr_left fun i _ => ?_
    simp only [Function.comp_apply, List.drop_drop]
    congr 2
    rw [Nat.succ_mul, Nat.add_comm]

lemma rest_of_le (hn : 0 < n) (h : n ≤ l.length) : rest n l = rest n (l.drop n) := by
  simp only [rest, length_div_of_le hn h, List.drop_drop]
  congr 1
  rw [Nat.succ_mul, Nat.add_comm]

/-- Induction on a list that loses its first block. -/
lemma block_induction {P : List α → Prop} (hn : 0 < n) (short : ∀ l, l.length < n → P l)
    (block : ∀ l, n ≤ l.length → P (l.drop n) → P l) (l : List α) : P l := by
  by_cases h : l.length < n
  · exact short l h
  · have hle : n ≤ l.length := Nat.le_of_not_lt h
    exact block l hle (block_induction hn short block (l.drop n))
termination_by l.length
decreasing_by
  rw [List.length_drop]
  omega

/-- The blocks of two lists one after the other: the rest of the first goes before the second. -/
lemma blocks_append (hn : 0 < n) (l m : List α) :
    blocks n (l ++ m) = blocks n l ++ blocks n (rest n l ++ m) := by
  induction l using block_induction hn with
  | short l h => rw [blocks_of_lt h, rest_of_lt h, List.nil_append]
  | block l h ih =>
    have h' : n ≤ (l ++ m).length := by
      rw [List.length_append]
      omega
    rw [blocks_of_le hn h', blocks_of_le hn h, rest_of_le hn h, List.take_append_of_le_length h,
      List.drop_append_of_le_length h, ih]
    rfl

lemma rest_append (hn : 0 < n) (l m : List α) : rest n (l ++ m) = rest n (rest n l ++ m) := by
  induction l using block_induction hn with
  | short l h => rw [rest_of_lt h]
  | block l h ih =>
    have h' : n ≤ (l ++ m).length := by
      rw [List.length_append]
      omega
    rw [rest_of_le hn h', rest_of_le hn h, List.drop_append_of_le_length h, ih]

end Core
