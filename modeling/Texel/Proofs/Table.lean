import Texel.Table
import Mathlib.Data.List.Nodup

namespace Texel

namespace Table

variable {κ α β : Type} [DecidableEq κ]

/-- Everything found in the values of a table. -/
def gather (table : Table κ α) (found : α → List β) : List β :=
  table.values.flatMap found

variable {table : Table κ α}

/-- Erasing leaves every other key there once. -/
theorem nodup_keys_erase (h : table.keys.Nodup) (key : κ) : (table.erase key).keys.Nodup :=
  h.sublist (List.filter_sublist.map Prod.fst)

/-- A key that is put in is there once. -/
theorem nodup_keys_insert (h : table.keys.Nodup) (key : κ) (value : α) :
    (table.insert key value).keys.Nodup := by
  have hkeys : (table.insert key value).keys = (table.erase key).keys ++ [key] := by
    simp [insert, keys]
  rw [hkeys]
  refine List.nodup_append.mpr ⟨nodup_keys_erase h key, List.nodup_singleton key, ?_⟩
  rintro other hother _ hkey rfl
  obtain ⟨entry, hentry, rfl⟩ := List.mem_map.mp hother
  have hne := (List.mem_filter.mp hentry).2
  rw [List.mem_singleton.mp hkey] at hne
  simp at hne

/-- A table in which nothing is found is empty. -/
theorem eq_empty_of_get?_eq_none (h : ∀ key, table.get? key = none) : table = {} := by
  obtain ⟨entries⟩ := table
  cases entries with
  | nil => rfl
  | cons entry rest =>
    have hfirst := h entry.1
    simp [get?] at hfirst

/-- Each entry of a table is found at its key. -/
theorem get?_of_mem (h : table.keys.Nodup) {entry : κ × α} (hentry : entry ∈ table.entries) :
    table.get? entry.1 = some entry.2 := by
  obtain ⟨entries⟩ := table
  simp only [keys, get?] at h hentry ⊢
  induction entries with
  | nil => simp at hentry
  | cons first rest ih =>
    obtain ⟨hnotin, hrest⟩ := List.nodup_cons.mp h
    rcases List.mem_cons.mp hentry with rfl | hlater
    · exact List.lookup_cons_self
    · have hne : entry.1 ≠ first.1 := fun heq => hnotin (heq ▸ List.mem_map_of_mem hlater)
      rw [List.lookup_cons, beq_eq_false_iff_ne.mpr hne]
      exact ih hrest hlater

/-- Taking out a key that is not there changes nothing. -/
theorem filter_eq_of_notin {entries : List (κ × α)} {key : κ} (h : key ∉ entries.map Prod.fst) :
    (entries.filter fun entry => entry.1 ≠ key) = entries := by
  refine List.filter_eq_self.mpr fun entry hentry => decide_eq_true ?_
  rintro rfl
  exact h (List.mem_map_of_mem hentry)

/-- A key that was not there leaves nothing behind when it is taken out again. -/
theorem erase_insert {key : κ} (h : table.get? key = none) (value : α) :
    (table.insert key value).erase key = table := by
  have hnotin : key ∉ table.entries.map Prod.fst := by
    rintro hmem
    obtain ⟨⟨found, other⟩, hentry, rfl⟩ := List.mem_map.mp hmem
    have hne := List.lookup_eq_none_iff.mp h (found, other) hentry
    simp at hne
  have hfilter := filter_eq_of_notin hnotin
  simp only [insert, erase, List.filter_append, hfilter]
  simp

/-- What is found at one key and in the rest of the table is all there is. -/
theorem gather_split (h : table.keys.Nodup) (key : κ) (found : α → List β) :
    (table.gather found).Perm
      ((table.get? key).toList.flatMap found ++ (table.erase key).gather found) := by
  obtain ⟨entries⟩ := table
  simp only [gather, values, erase, get?, keys] at h ⊢
  induction entries with
  | nil => exact .refl _
  | cons entry rest ih =>
    obtain ⟨hnotin, hrest⟩ := List.nodup_cons.mp h
    by_cases hkey : entry.1 = key
    · subst hkey
      rw [List.filter_cons_of_neg (by simp), filter_eq_of_notin hnotin, List.lookup_cons_self]
      simp
    · rw [List.filter_cons_of_pos (by simpa using hkey), List.lookup_cons,
        beq_eq_false_iff_ne.mpr (Ne.symm hkey)]
      simp only [List.map_cons, List.flatMap_cons, ← List.append_assoc]
      apply (List.Perm.append_left _ (ih hrest)).trans
      rw [← List.append_assoc]
      exact List.perm_append_comm.append_right _

/-- What is found at a key is found in the table. -/
theorem mem_gather (h : table.keys.Nodup) {key : κ} {value : α} {found : α → List β} {item : β}
    (hvalue : table.get? key = some value) (hitem : item ∈ found value) :
    item ∈ table.gather found := by
  rw [(gather_split h key found).mem_iff, hvalue]
  simpa using .inl hitem

/-- Nothing is found in a table if nothing is found at any key. -/
theorem gather_eq_nil (h : table.keys.Nodup) {found : α → List β}
    (hfound : ∀ key value, table.get? key = some value → found value = []) :
    table.gather found = [] := by
  apply List.flatMap_eq_nil_iff.mpr
  intro value hvalue
  obtain ⟨entry, hentry, rfl⟩ := List.mem_map.mp hvalue
  exact hfound entry.1 entry.2 (get?_of_mem h hentry)

/-- What is put in is found behind all else. -/
theorem gather_insert (table : Table κ α) (key : κ) (value : α) (found : α → List β) :
    (table.insert key value).gather found = (table.erase key).gather found ++ found value := by
  simp [gather, values, insert]

end Table

end Texel
