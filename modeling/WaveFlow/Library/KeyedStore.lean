import Mathlib.Data.Finmap
import Mathlib.Algebra.BigOperators.Group.Finset.Basic
import Mathlib.Algebra.Order.BigOperators.Group.Finset
import Mathlib.Tactic.Abel

/-!
# Keyed stores

A store is a finite map whose value type may depend on the key (`Finmap`).

* Totals: every entry has a weight in a commutative group; `total` adds the weights of all stored
  entries. Writing one key moves the total by the difference of the new and the old weight at that
  key, whatever the rest of the store holds (`total_insert`).
* Batches of writes: `insertAll` writes a list of entries, later ones over earlier ones. Batches that
  share no key commute (`insertAll_comm`), and the order within one does not matter when no key is
  written twice (`insertAll_perm`).
-/

namespace KeyedStore

/-! ### Totals -/

section Totals

variable {κ : Type*} [DecidableEq κ] {β : κ → Type*} {M : Type*} [AddCommGroup M]

theorem keys_insert (s : Finmap β) (k : κ) (v : β k) : (s.insert k v).keys = insert k s.keys := by
  ext k'
  simp [Finmap.mem_keys, Finmap.mem_insert]

/-- The weight of the entry stored under `k`; nothing when there is none. -/
def weight (w : ∀ k, β k → M) (s : Finmap β) (k : κ) : M := (s.lookup k).elim 0 (w k)

/-- The weight of all stored entries. -/
def total (w : ∀ k, β k → M) (s : Finmap β) : M := ∑ k ∈ s.keys, weight w s k

variable (w : ∀ k, β k → M) (s : Finmap β)

@[simp] theorem total_empty : total w (∅ : Finmap β) = 0 := by simp [total]

theorem weight_of_not_mem {k : κ} (hk : k ∉ s.keys) : weight w s k = 0 := by
  rw [Finmap.mem_keys, ← Finmap.lookup_eq_none] at hk
  simp [weight, hk]

@[simp] theorem weight_insert_self (k : κ) (v : β k) : weight w (s.insert k v) k = w k v := by
  simp [weight]

theorem weight_insert_of_ne {k k' : κ} (v : β k) (hk : k' ≠ k) :
    weight w (s.insert k v) k' = weight w s k' := by
  simp [weight, Finmap.lookup_insert_of_ne _ hk]

/-- Writing `k` replaces the old weight at `k` by the new one. -/
theorem total_insert (k : κ) (v : β k) :
    total w (s.insert k v) = total w s - weight w s k + w k v := by
  have hold : total w s = ∑ k' ∈ insert k s.keys, weight w s k' := by
    by_cases hk : k ∈ s.keys
    · rw [Finset.insert_eq_of_mem hk]; rfl
    · rw [Finset.sum_insert hk, weight_of_not_mem w s hk, zero_add]; rfl
  have hrest : ∑ k' ∈ (insert k s.keys).erase k, weight w (s.insert k v) k' =
      ∑ k' ∈ (insert k s.keys).erase k, weight w s k' :=
    Finset.sum_congr rfl fun k' hk' => weight_insert_of_ne w s v (Finset.ne_of_mem_erase hk')
  have hk : k ∈ insert k s.keys := Finset.mem_insert_self _ _
  rw [total, keys_insert, ← Finset.add_sum_erase _ _ hk, hrest, hold,
    ← Finset.add_sum_erase _ _ hk, weight_insert_self]
  abel

/-- A key with weightless old and new entries does not move the total. -/
theorem total_insert_of_zero (k : κ) (v : β k) (hold : weight w s k = 0) (hnew : w k v = 0) :
    total w (s.insert k v) = total w s := by
  rw [total_insert, hold, hnew, sub_zero, add_zero]

/-- A store whose entries are all weightless weighs nothing. -/
theorem total_eq_zero (h : ∀ k v, s.lookup k = some v → w k v = 0) : total w s = 0 := by
  apply Finset.sum_eq_zero
  intro k _
  rw [weight]
  cases hk : s.lookup k with
  | none => rfl
  | some v => exact h k v hk

/-- Where no entry weighs less than nothing, none weighs more than all together. -/
theorem weight_le_total [PartialOrder M] [IsOrderedAddMonoid M] (h : ∀ k, 0 ≤ weight w s k)
    (k : κ) : weight w s k ≤ total w s := by
  by_cases hk : k ∈ s.keys
  · exact Finset.single_le_sum (fun k' _ => h k') hk
  · rw [weight_of_not_mem w s hk]
    exact Finset.sum_nonneg fun k' _ => h k'

end Totals

/-! ### Batches of writes -/

section Batches

variable {κ : Type*} [DecidableEq κ] {β : κ → Type*}

/-- Write the entries of a list, one after the other. -/
def insertAll (s : Finmap β) (ws : List (Sigma β)) : Finmap β :=
  ws.foldl (fun s w => s.insert w.1 w.2) s

variable {s t : Finmap β} {ws vs : List (Sigma β)} {k : κ}

/-- A key that the batch does not write keeps its entry. -/
theorem lookup_insertAll_of_not_mem (hk : ∀ w ∈ ws, w.1 ≠ k) :
    (insertAll s ws).lookup k = s.lookup k := by
  induction ws generalizing s with
  | nil => rfl
  | cons w ws ih =>
    have hrest := ih (s := s.insert w.1 w.2) fun v hv => hk v (List.mem_cons_of_mem w hv)
    have hw : k ≠ w.1 := (hk w List.mem_cons_self).symm
    exact hrest.trans (Finmap.lookup_insert_of_ne s hw)

/-- What a batch leaves under a key depends only on what was stored under it. -/
theorem lookup_insertAll_congr (hst : s.lookup k = t.lookup k) :
    (insertAll s ws).lookup k = (insertAll t ws).lookup k := by
  induction ws generalizing s t with
  | nil => exact hst
  | cons w ws ih =>
    refine ih (s := s.insert w.1 w.2) (t := t.insert w.1 w.2) ?_
    by_cases hw : k = w.1
    · subst hw
      rw [Finmap.lookup_insert, Finmap.lookup_insert]
    · rw [Finmap.lookup_insert_of_ne s hw, Finmap.lookup_insert_of_ne t hw, hst]

/-- Batches without a common key commute. -/
theorem insertAll_comm (h : ∀ w ∈ ws, ∀ v ∈ vs, w.1 ≠ v.1) :
    insertAll (insertAll s ws) vs = insertAll (insertAll s vs) ws := by
  apply Finmap.ext_lookup
  intro k
  by_cases hk : ∃ w ∈ ws, w.1 = k
  · obtain ⟨w, hw, rfl⟩ := hk
    have hvs : ∀ v ∈ vs, v.1 ≠ w.1 := fun v hv => (h w hw v hv).symm
    rw [lookup_insertAll_of_not_mem hvs]
    exact lookup_insertAll_congr (lookup_insertAll_of_not_mem hvs).symm
  · have hws : ∀ w ∈ ws, w.1 ≠ k := fun w hw heq => hk ⟨w, hw, heq⟩
    rw [lookup_insertAll_of_not_mem hws]
    exact lookup_insertAll_congr (lookup_insertAll_of_not_mem hws)

/-- A batch that writes no key twice with different values can be written in any order. -/
theorem insertAll_perm (h : ∀ w ∈ ws, ∀ v ∈ ws, w.1 = v.1 → w = v) (hperm : ws.Perm vs) :
    insertAll s ws = insertAll s vs := by
  refine hperm.foldl_eq' (fun w hw v hv t => ?_) s
  by_cases hkey : w.1 = v.1
  · rw [h w hw v hv hkey]
  · exact Finmap.insert_insert_of_ne t hkey

end Batches

end KeyedStore
