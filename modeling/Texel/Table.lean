namespace Texel

/-- Entries in the order they were put in. A key put in again moves to the end. -/
structure Table (κ α : Type) where
  entries : List (κ × α) := []
  deriving Repr, DecidableEq

namespace Table

variable {κ α : Type} [DecidableEq κ]

def get? (table : Table κ α) (key : κ) : Option α :=
  table.entries.lookup key

def contains (table : Table κ α) (key : κ) : Bool :=
  (table.get? key).isSome

def size (table : Table κ α) : Nat :=
  table.entries.length

def keys (table : Table κ α) : List κ :=
  table.entries.map Prod.fst

def values (table : Table κ α) : List α :=
  table.entries.map Prod.snd

def erase (table : Table κ α) (key : κ) : Table κ α :=
  ⟨table.entries.filter fun entry => entry.1 ≠ key⟩

def insert (table : Table κ α) (key : κ) (value : α) : Table κ α :=
  ⟨(table.erase key).entries ++ [(key, value)]⟩

/-- Look-up looks at the first entry first. -/
private theorem lookup_cons_ite (entry : κ × α) (rest : List (κ × α)) (key : κ) :
    (entry :: rest).lookup key = if key = entry.1 then some entry.2 else rest.lookup key := by
  obtain ⟨found, value⟩ := entry
  rw [List.lookup_cons]
  by_cases h : key = found
  · simp [h]
  · simp [h, beq_eq_false_iff_ne.mpr h]

/-- Entries without those of one key. -/
private theorem lookup_filter_ne (entries : List (κ × α)) (key other : κ) :
    (entries.filter fun entry => entry.1 ≠ key).lookup other =
      if other = key then none else entries.lookup other := by
  induction entries with
  | nil => simp
  | cons entry rest ih =>
    by_cases hk : entry.1 = key
    · rw [List.filter_cons_of_neg (by simp [hk]), ih, lookup_cons_ite, hk]
      by_cases ho : other = key <;> simp [ho]
    · rw [List.filter_cons_of_pos (by simp [hk]), lookup_cons_ite, ih, lookup_cons_ite]
      by_cases ho : other = key
      · simp [ho, Ne.symm hk]
      · simp [ho]

/-- An entry at the end is found if there is none of its key before it. -/
private theorem lookup_append_entry (entries : List (κ × α)) (key other : κ) (value : α) :
    (entries ++ [(key, value)]).lookup other =
      (entries.lookup other).or (if other = key then some value else none) := by
  induction entries with
  | nil => simp [lookup_cons_ite]
  | cons entry rest ih =>
    by_cases ho : other = entry.1 <;> simp_all [lookup_cons_ite]

@[simp] theorem get?_empty (key : κ) : ({} : Table κ α).get? key = none :=
  rfl

/-- Only the key that is erased is lost. -/
theorem get?_erase (table : Table κ α) (key other : κ) :
    (table.erase key).get? other = if other = key then none else table.get? other :=
  lookup_filter_ne table.entries key other

/-- A key that is put in has the new value, and no other key is touched. -/
theorem get?_insert (table : Table κ α) (key other : κ) (value : α) :
    (table.insert key value).get? other = if other = key then some value else table.get? other := by
  rw [get?, insert, lookup_append_entry, ← get?, get?_erase]
  by_cases h : other = key <;> simp [h]

end Table

end Texel
