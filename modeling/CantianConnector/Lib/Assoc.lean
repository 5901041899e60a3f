import Mathlib.Algebra.GroupWithZero.Nat
import Mathlib.Data.List.AList

/-!
# Weights in a map

The total of a weight over the entries of a finite map (`AList`), and what a change of the map
makes of it.
-/

namespace Assoc

variable {κ α : Type} [DecidableEq κ]

/-! ## Totals -/

/-- The sum of a weight over the entries. -/
def total (weight : α → Nat) (map : AList fun _ : κ => α) : Nat :=
  (map.entries.map fun entry => weight entry.2).sum

theorem total_insert (weight : α → Nat) (key : κ) (a : α) (map : AList fun _ : κ => α) :
    total weight (map.insert key a) = weight a + total weight (map.erase key) := rfl

/-- The total is the weight of an entry and the total of the others. -/
theorem total_eq_of_lookup (weight : α → Nat) {key : κ} {a : α} {map : AList fun _ : κ => α}
    (h : map.lookup key = some a) :
    total weight map = weight a + total weight (map.erase key) := by
  have hkey : key ∈ map.entries.keys :=
    AList.mem_keys.mp (AList.lookup_isSome.mp (by rw [h]; rfl))
  obtain ⟨b, l₁, l₂, hfresh, hsplit, herase⟩ := List.exists_of_kerase hkey
  have hb : b = a := by
    have hlookup := List.dlookup_append l₁ (⟨key, b⟩ :: l₂) key
    rw [List.dlookup_eq_none.mpr hfresh, Option.none_or, List.dlookup_cons_eq, ← hsplit] at hlookup
    exact Option.some.inj (hlookup.symm.trans h)
  have hrest : (map.erase key).entries = l₁ ++ l₂ := herase
  subst hb
  rw [total, total, hsplit, hrest]
  simp only [List.map_append, List.map_cons, List.sum_append, List.sum_cons]
  omega

theorem total_erase_of_lookup_none (weight : α → Nat) {key : κ} {map : AList fun _ : κ => α}
    (h : map.lookup key = none) : total weight (map.erase key) = total weight map := by
  have hkey : key ∉ map.entries.keys := fun hmem =>
    AList.lookup_eq_none.mp h (AList.mem_keys.mpr hmem)
  rw [total, total]
  exact congrArg (fun entries => (entries.map fun entry => weight entry.2).sum)
    (List.kerase_of_notMem_keys hkey)

theorem weight_le_total (weight : α → Nat) {key : κ} {a : α} {map : AList fun _ : κ => α}
    (h : map.lookup key = some a) : weight a ≤ total weight map := by
  rw [total_eq_of_lookup weight h]
  exact Nat.le_add_right _ _

/-- A total that is not zero has an entry with a weight. -/
theorem exists_of_total_pos {weight : α → Nat} {map : AList fun _ : κ => α}
    (h : 0 < total weight map) : ∃ key a, map.lookup key = some a ∧ 0 < weight a := by
  obtain ⟨n, hn, hpos⟩ := List.sum_pos_iff_exists_pos_nat.mp h
  obtain ⟨entry, hentry, rfl⟩ := List.mem_map.mp hn
  exact ⟨entry.1, entry.2, AList.mem_lookup_iff.mpr hentry, hpos⟩

/-! ## Entries behind a change -/

variable {map : AList fun _ : κ => α}

theorem lookup_of_lookup_erase {key key' : κ} {a : α}
    (h : (map.erase key).lookup key' = some a) : key' ≠ key ∧ map.lookup key' = some a := by
  have hne : key' ≠ key := by
    rintro rfl
    rw [AList.lookup_erase] at h
    cases h
  rw [AList.lookup_erase_ne hne] at h
  exact ⟨hne, h⟩

/-- What an insertion leaves at a key. -/
theorem lookup_insert_cases {key key' : κ} {a b : α}
    (h : (map.insert key a).lookup key' = some b) :
    (key' = key ∧ b = a) ∨ (key' ≠ key ∧ map.lookup key' = some b) := by
  by_cases hkey : key' = key
  · subst hkey
    rw [AList.lookup_insert] at h
    exact Or.inl ⟨rfl, (Option.some.inj h).symm⟩
  · rw [AList.lookup_insert_ne hkey] at h
    exact Or.inr ⟨hkey, h⟩

end Assoc
