import Mathlib.Algebra.BigOperators.Group.Finset.Basic
import Mathlib.Algebra.Order.BigOperators.Group.Finset
import Mathlib.Data.Int.Order.Basic
import Mathlib.Tactic.Ring

/-!
# Water filling

Units are placed one after the other, each on a least loaded member of a set `S`. The loads that
result are level from above: no member that received a unit ends more than one above any member
of `S`. From this it follows that no other way of placing as many units on `S` has a smaller
largest load.
-/

namespace Core

variable {ι : Type*} [DecidableEq ι] {S : ι → Prop} {c c' : ι → ℤ} {is : List ι}

/-- `Fill S c is c'`: the units go to `is`, in this order, each time to a least loaded member of
`S`, and turn the loads `c` into `c'`. -/
inductive Fill (S : ι → Prop) : (ι → ℤ) → List ι → (ι → ℤ) → Prop where
  | nil (c : ι → ℤ) : Fill S c [] c
  | cons {c c' : ι → ℤ} {i : ι} {is : List ι} (hi : S i) (hmin : ∀ j, S j → c i ≤ c j)
      (h : Fill S (Function.update c i (c i + 1)) is c') : Fill S c (i :: is) c'

namespace Fill

lemma load (h : Fill S c is c') (j : ι) : c' j = c j + is.count j := by
  induction h with
  | nil c => simp
  | cons hi _ _ ih =>
    rename_i c₀ c₁ i is₀ _ _
    rw [ih, List.count_cons]
    by_cases hij : i = j
    · subst hij
      simp
      ring
    · simp [hij, Function.update_of_ne (Ne.symm hij)]

/-- If the members of `R` are at most one above every member of `S` before, then so are, after,
the members of `R` and those that received a unit. -/
lemma level_of {R : ι → Prop} (h : Fill S c is c')
    (hR : ∀ i, R i → ∀ j, S j → c i ≤ c j + 1) :
    ∀ i, R i ∨ i ∈ is → ∀ j, S j → c' i ≤ c' j + 1 := by
  induction h generalizing R with
  | nil c => simpa using hR
  | cons hi hmin _ ih =>
    rename_i c₀ c₁ m is₀ _
    intro i hmem
    refine ih (R := fun k => R k ∨ k = m) ?_ i ?_
    · intro k hk j hj
      have hup : c₀ j ≤ Function.update c₀ m (c₀ m + 1) j := by
        by_cases hjm : j = m
        · subst hjm
          simp
        · rw [Function.update_of_ne hjm]
      by_cases hkm : k = m
      · -- the unit was placed on `k`, which was a least loaded member
        subst hkm
        have := hmin j hj
        rw [Function.update_self]
        omega
      · have := hR k (hk.resolve_right hkm) j hj
        rw [Function.update_of_ne hkm]
        omega
    · rcases hmem with hmem | hmem
      · exact Or.inl (Or.inl hmem)
      · rcases List.mem_cons.mp hmem with hmem | hmem
        · exact Or.inl (Or.inr hmem)
        · exact Or.inr hmem

/-- A member that received a unit ends at most one above every member of `S`. -/
lemma level (h : Fill S c is c') {i j : ι} (hi : i ∈ is) (hj : S j) : c' i ≤ c' j + 1 :=
  h.level_of (R := fun _ => False) (fun _ => False.elim) i (Or.inr hi) j hj

lemma sum_count_eq_length {U : Finset ι} (hU : is.toFinset ⊆ U) :
    ∑ i ∈ U, is.count i = is.length := by
  rw [← List.sum_toFinset_count_eq_length]
  refine (Finset.sum_subset hU fun i _ hi => ?_).symm
  exact List.count_eq_zero_of_not_mem fun h => hi (List.mem_toFinset.mpr h)

/-- Water filling minimises the largest load: however as many units are placed on members of
`S`, some member that gets one ends at least as high as any that water filling gave one. -/
lemma optimal (h : Fill S c is c') {f : ι → ℕ} {T : Finset ι} (hT : ∀ i ∈ T, S i)
    (hf : ∀ i, 0 < f i → i ∈ T) (hsum : ∑ i ∈ T, f i = is.length) {i : ι} (hi : i ∈ is) :
    ∃ m, 0 < f m ∧ c' i ≤ c m + f m := by
  by_contra hcon
  push Not at hcon
  -- a member below the level of `i` received at least as many units by water filling
  have hle : ∀ m, f m ≤ is.count m := by
    intro m
    rcases Nat.eq_zero_or_pos (f m) with hm | hm
    · omega
    · have h₁ := hcon m hm
      have h₂ := h.level hi (hT m (hf m hm))
      have h₃ := h.load m
      omega
  have hlt : f i < is.count i := by
    rcases Nat.eq_zero_or_pos (f i) with hm | hm
    · have := List.count_pos_iff.mpr hi
      omega
    · have h₁ := hcon i hm
      have h₃ := h.load i
      omega
  have hTU : ∑ m ∈ T, f m = ∑ m ∈ T ∪ is.toFinset, f m := by
    refine Finset.sum_subset Finset.subset_union_left fun m _ hm => ?_
    by_contra h0
    exact hm (hf m (Nat.pos_of_ne_zero h0))
  have hsumlt : ∑ m ∈ T ∪ is.toFinset, f m < ∑ m ∈ T ∪ is.toFinset, is.count m :=
    Finset.sum_lt_sum (fun m _ => hle m)
      ⟨i, Finset.mem_union_right _ (List.mem_toFinset.mpr hi), hlt⟩
  rw [sum_count_eq_length Finset.subset_union_right, ← hTU, hsum] at hsumlt
  exact lt_irrefl _ hsumlt

end Fill

end Core
