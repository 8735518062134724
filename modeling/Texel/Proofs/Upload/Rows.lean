import Texel.Upload.Rows
import Mathlib.Data.List.Nodup

namespace Texel

/-- The bytes of a row lie within the block of all rows exactly if it is one of them. -/
theorem row_add_lt_iff {row rows pitch column : Nat} (hcolumn : column < pitch) :
    row * pitch + column < rows * pitch ↔ row < rows := by
  constructor
  · intro h
    by_contra hge
    have := Nat.mul_le_mul_right pitch (Nat.le_of_not_lt hge)
    omega
  · intro h
    have := Nat.mul_le_mul_right pitch (Nat.succ_le_of_lt h)
    rw [Nat.succ_mul] at this
    omega

/-- A row past the last one that holds source bytes has none. -/
theorem le_mul_of_rowCount_le {size pitch row : Nat} (hpitch : 0 < pitch)
    (h : rowCount size pitch ≤ row) : size ≤ row * pitch := by
  unfold rowCount at h
  have hmul := Nat.mul_le_mul_right pitch h
  have hdiv := Nat.div_add_mod (size + pitch - 1) pitch
  have hmod := Nat.mod_lt (size + pitch - 1) hpitch
  rw [Nat.mul_comm] at hdiv
  omega

namespace Memory

/-- A row that is copied changes its own bytes only. -/
theorem byteAt_copyRow (memory : Memory) (start : Nat) (source : ByteArray)
    {pitch sourcePitch : Nat} (copied : Nat) {row column : Nat} (hcolumn : column < pitch)
    (hroom : start + row * pitch + column < memory.size) :
    (memory.copyRow start pitch source sourcePitch copied).byteAt (start + row * pitch + column) =
      if row = copied ∧ column < sourcePitch ∧ row * sourcePitch + column < source.size then
        byteOf source (row * sourcePitch + column)
      else memory.byteAt (start + row * pitch + column) := by
  unfold copyRow
  rw [byteAt_write]
  by_cases hrow : row = copied
  · subst hrow
    have hroom' : start + row * pitch ≤ start + row * pitch + column ∧
        start + row * pitch + column <
          start + row * pitch + memory.room (start + row * pitch) source (row * sourcePitch)
            (min sourcePitch pitch) ↔
        column < sourcePitch ∧ row * sourcePitch + column < source.size := by
      unfold room
      omega
    simp only [hroom', true_and]
    rw [show start + row * pitch + column - (start + row * pitch) = column by omega]
  · rw [if_neg (fun h : row = copied ∧ _ => hrow h.1)]
    refine if_neg fun hinside => hrow ?_
    have hlength : memory.room (start + copied * pitch) source (copied * sourcePitch)
        (min sourcePitch pitch) ≤ pitch := by
      unfold room
      omega
    have hbelow : row < copied + 1 := by
      rw [← row_add_lt_iff hcolumn, Nat.succ_mul]
      omega
    by_contra hne
    have hle := Nat.mul_le_mul_right pitch (show row + 1 ≤ copied by omega)
    rw [Nat.succ_mul] at hle
    omega

/-- Copying rows in any order keeps the size of memory. -/
theorem size_copyRow_foldl (memory : Memory) (start pitch : Nat) (source : ByteArray)
    (sourcePitch : Nat) (order : List Nat) :
    (order.foldl (fun memory row => memory.copyRow start pitch source sourcePitch row)
      memory).size = memory.size := by
  induction order generalizing memory with
  | nil => rfl
  | cons row rest ih => rw [List.foldl_cons, ih, size_copyRow]

/-- The rows up to the number copied hold source bytes; the others are untouched. -/
theorem byteAt_copyRow_range (memory : Memory) (start : Nat) (source : ByteArray)
    {pitch sourcePitch : Nat} (rows : Nat) {row column : Nat} (hcolumn : column < pitch)
    (hroom : start + row * pitch + column < memory.size) :
    ((List.range rows).foldl (fun memory row => memory.copyRow start pitch source sourcePitch row)
        memory).byteAt (start + row * pitch + column) =
      if row < rows ∧ column < sourcePitch ∧ row * sourcePitch + column < source.size then
        byteOf source (row * sourcePitch + column)
      else memory.byteAt (start + row * pitch + column) := by
  induction rows with
  | zero => simp
  | succ rows ih =>
    rw [List.range_succ, List.foldl_append]
    simp only [List.foldl_cons, List.foldl_nil]
    rw [byteAt_copyRow _ _ _ _ hcolumn (by rwa [size_copyRow_foldl]), ih]
    by_cases hrow : row = rows
    · subst hrow
      simp
    · have hlt : row < rows + 1 ↔ row < rows := by omega
      simp [hrow, hlt]

/-- Copying rows gives the same bytes on both its paths: each byte of a row that both sides hold
comes from the source row, and every other byte within the memory is what it was. -/
theorem byteAt_copyRows (memory : Memory) (start : Nat) (source : ByteArray)
    {pitch sourcePitch : Nat} (rows : Nat) {row column : Nat} (hcolumn : column < pitch)
    (hroom : start + row * pitch + column < memory.size) :
    (memory.copyRows start pitch source sourcePitch rows).byteAt (start + row * pitch + column) =
      if row < rows ∧ column < sourcePitch ∧ row * sourcePitch + column < source.size then
        byteOf source (row * sourcePitch + column)
      else memory.byteAt (start + row * pitch + column) := by
  unfold copyRows
  split
  · next hempty =>
    refine (if_neg fun hinside => ?_).symm
    omega
  · next hnonempty =>
    split
    · next hpitch =>
      subst hpitch
      rw [byteAt_write]
      have hrow : row * sourcePitch + column < rows * sourcePitch ↔ row < rows :=
        row_add_lt_iff hcolumn
      have hinside : start ≤ start + row * sourcePitch + column ∧
          start + row * sourcePitch + column <
            start + memory.room start source 0 (sourcePitch * rows) ↔
          row < rows ∧ column < sourcePitch ∧ row * sourcePitch + column < source.size := by
        unfold room
        rw [Nat.mul_comm sourcePitch rows]
        omega
      simp only [hinside]
      rw [show 0 + (start + row * sourcePitch + column - start) =
        row * sourcePitch + column by omega]
    · rw [byteAt_copyRow_range _ _ _ _ hcolumn hroom]
      have hrows : row < min rows (rowCount source.size sourcePitch) ∧ column < sourcePitch ∧
          row * sourcePitch + column < source.size ↔
          row < rows ∧ column < sourcePitch ∧ row * sourcePitch + column < source.size := by
        refine ⟨fun ⟨hrow, hrest⟩ => ⟨by omega, hrest⟩, fun ⟨hrow, hcolumn, hsource⟩ => ?_⟩
        refine ⟨Nat.lt_min.mpr ⟨hrow, ?_⟩, hcolumn, hsource⟩
        by_contra hlast
        have := le_mul_of_rowCount_le (by omega) (Nat.le_of_not_lt hlast)
        omega
      simp only [hrows]

/-- Bytes before the first row are untouched. -/
theorem byteAt_copyRows_of_lt (memory : Memory) (source : ByteArray) (pitch sourcePitch rows : Nat)
    {start index : Nat} (h : index < start) :
    (memory.copyRows start pitch source sourcePitch rows).byteAt index = memory.byteAt index := by
  unfold copyRows
  split
  · rfl
  · split
    · rw [byteAt_write, if_neg (by omega)]
    · generalize List.range _ = order
      induction order generalizing memory with
      | nil => rfl
      | cons row rest ih =>
        rw [List.foldl_cons, ih, copyRow, byteAt_write, if_neg]
        have := Nat.zero_le (row * pitch)
        omega

/-- A copy of rows stays within the block of its rows. -/
theorem byteAt_copyRows_outside (memory : Memory) (source : ByteArray)
    {start pitch sourcePitch rows index : Nat} (hindex : index < memory.size)
    (h : index < start ∨ start + pitch * rows ≤ index) :
    (memory.copyRows start pitch source sourcePitch rows).byteAt index = memory.byteAt index := by
  rcases h with hbefore | hafter
  · exact byteAt_copyRows_of_lt memory source pitch sourcePitch rows hbefore
  · rcases Nat.eq_zero_or_pos pitch with rfl | hpitch
    · simp [copyRows]
    · have hdiv := Nat.div_add_mod' (index - start) pitch
      have hmod := Nat.mod_lt (index - start) hpitch
      generalize (index - start) / pitch = row at hdiv
      generalize (index - start) % pitch = column at hdiv hmod
      obtain rfl : index = start + row * pitch + column := by
        have := Nat.zero_le (pitch * rows)
        omega
      rw [byteAt_copyRows memory start source rows hmod hindex, if_neg]
      rintro ⟨hrow, -⟩
      have hlast : row * pitch + column < rows * pitch := (row_add_lt_iff hmod).mpr hrow
      rw [Nat.mul_comm pitch rows] at hafter
      omega

end Memory

end Texel
