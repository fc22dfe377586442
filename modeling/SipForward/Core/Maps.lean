import Mathlib.Data.List.AList
import Mathlib.Algebra.BigOperators.Group.List.Basic
import Mathlib.Algebra.Order.BigOperators.Group.List
import Mathlib.Algebra.Ring.Int.Defs
import Mathlib.Data.Int.Order.Basic

/-!
# Maps with one type of values

Lookups after one update, and totals over the values: `AList.total f m` sums `f` over the values
of `m`. A counter that is kept in step with a map is accounted for by the change that one insertion
or removal makes to such a total.
-/

namespace AList

variable {α β : Type*} {m : AList fun _ : α => β} {f g : β → ℤ} {a : α} {b b₀ : β}

/-! ### Lookups -/

lemma lookup_insert_ite [DecidableEq α] (m : AList fun _ : α => β) (a x : α) (b : β) :
    (m.insert a b).lookup x = if x = a then some b else m.lookup x := by
  split_ifs with h
  · rw [h, lookup_insert]
  · rw [lookup_insert_ne h]

lemma lookup_erase_ite [DecidableEq α] (m : AList fun _ : α => β) (a x : α) :
    (m.erase a).lookup x = if x = a then none else m.lookup x := by
  split_ifs with h
  · rw [h, lookup_erase]
  · rw [lookup_erase_ne h]

lemma mem_of_lookup_eq_some [DecidableEq α] (h : m.lookup a = some b) : a ∈ m :=
  lookup_isSome.mp (by rw [h]; rfl)

/-! ### Totals -/

/-- The sum of `f` over the values of a map. -/
def total (f : β → ℤ) (m : AList fun _ : α => β) : ℤ :=
  (m.entries.map fun e => f e.2).sum

/-- The total of an indicator counts the values it holds of. -/
lemma total_indicator (p : β → Bool) (m : AList fun _ : α => β) :
    total (fun b => if p b then 1 else 0) m = (m.entries.countP fun e => p e.2) := by
  rw [total]
  induction m.entries with
  | nil => rfl
  | cons e l ih =>
    rw [List.map_cons, List.sum_cons, List.countP_cons, ih]
    split_ifs <;> omega

variable [DecidableEq α]

lemma lookup_of_mem_entries {e : Sigma fun _ : α => β} (h : e ∈ m.entries) :
    m.lookup e.1 = some e.2 :=
  mem_lookup_iff.mpr h

lemma total_congr (h : ∀ a b, m.lookup a = some b → f b = g b) : total f m = total g m := by
  simp only [total]
  congr 1
  exact List.map_congr_left fun e he => h e.1 e.2 (lookup_of_mem_entries he)

lemma total_insert_of_notMem (h : a ∉ m) : total f (m.insert a b) = f b + total f m := by
  have hins : (m.insert a b).entries = ⟨a, b⟩ :: m.entries := entries_insert_of_notMem h
  simp only [total, hins, List.map_cons, List.sum_cons]

lemma total_erase_of_lookup (h : m.lookup a = some b) :
    total f (m.erase a) = total f m - f b := by
  have hmem : ⟨a, b⟩ ∈ m.entries := mem_lookup_iff.mp h
  obtain ⟨b', l₁, l₂, hl₁, heq, hker⟩ := List.exists_of_kerase (List.mem_keys_of_mem hmem)
  have hb : b' = b := by
    have hmem' : ⟨a, b'⟩ ∈ m.entries := by simp [heq]
    have := lookup_of_mem_entries hmem'
    simpa [h, eq_comm] using this
  subst hb
  have herase : (m.erase a).entries = l₁ ++ l₂ := hker
  simp only [total, herase, heq, List.map_append, List.map_cons, List.sum_append, List.sum_cons]
  omega

/-- Overwriting a value changes a total by the difference between the new and the old value. -/
lemma total_insert_of_lookup (h : m.lookup a = some b₀) :
    total f (m.insert a b) = total f m - f b₀ + f b := by
  have hins : (m.insert a b).entries = ⟨a, b⟩ :: (m.erase a).entries := entries_insert
  rw [← total_erase_of_lookup h]
  simp only [total, hins, List.map_cons, List.sum_cons]
  omega

end AList
