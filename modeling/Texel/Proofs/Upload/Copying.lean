import Texel.Proofs.Upload.Rows

namespace Texel

/-- The rows that hold bytes are those that start within them. -/
theorem lt_rowCount_iff {size pitch row : Nat} (hpitch : 0 < pitch) :
    row < rowCount size pitch ↔ row * pitch < size := by
  rw [rowCount, Nat.lt_iff_add_one_le, Nat.le_div_iff_mul_le hpitch, Nat.succ_mul]
  omega

namespace Memory

/-- Copies `count` bytes of `source` from `first` on to `start`, if both sides have that many. -/
def transfer? (memory : Memory) (start : Nat) (source : ByteArray) (first count : Nat) :
    Option Memory :=
  if first + count ≤ source.size ∧ start + count ≤ memory.size then
    some (memory.write start source first count)
  else none

/-- Copies one row: what the shorter pitch holds, as far as both the source row and the destination
row go. Only the last row of a side may be short. -/
def transferRow? (memory : Memory) (start pitch : Nat) (source : ByteArray)
    (sourcePitch row : Nat) : Option Memory :=
  let sourceRow := min sourcePitch (source.size - row * sourcePitch)
  let destinationRow := min pitch (memory.size - (start + row * pitch))
  memory.transfer? (start + row * pitch) source (row * sourcePitch)
    (min (min (min sourcePitch pitch) sourceRow) destinationRow)

/-- Copies row by row while both sides have rows. -/
def copyEachRow? (memory : Memory) (start pitch : Nat) (source : ByteArray)
    (sourcePitch rows : Nat) : Option Memory :=
  (List.range (min rows (min (rowCount (memory.size - start) pitch)
      (rowCount source.size sourcePitch)))).foldlM
    (fun memory row => memory.transferRow? start pitch source sourcePitch row) memory

/-- `copyRows` with every access checked: one block if the pitches are equal, else row by row. -/
def copyRows? (memory : Memory) (start pitch : Nat) (source : ByteArray)
    (sourcePitch rows : Nat) : Option Memory :=
  if rows = 0 ∨ pitch = 0 ∨ sourcePitch = 0 then some memory
  else if sourcePitch = pitch then
    memory.transfer? start source 0
      (min (min (sourcePitch * rows) source.size) (memory.size - start))
  else memory.copyEachRow? start pitch source sourcePitch rows

/-- Where no byte moves, memory stays as it is. -/
theorem write_of_room_eq_zero {memory : Memory} {start first count : Nat} {source : ByteArray}
    (h : memory.room start source first count = 0) :
    memory.write start source first count = memory :=
  if_pos h

/-- Two writes of adjacent bytes are one write of all of them. -/
theorem write_write (memory : Memory) (start : Nat) (source : ByteArray)
    (first count more : Nat) :
    (memory.write start source first count).write (start + count) source (first + count) more =
      memory.write start source first (count + more) := by
  have hroom : (memory.write start source first count).room (start + count) source (first + count)
      more = memory.room start source first (count + more) -
        memory.room start source first count := by
    have hrest : min (source.size - (first + count)) (memory.size - (start + count)) =
        min (source.size - first) (memory.size - start) - count := by
      rw [← Nat.sub_sub, ← Nat.sub_sub, Nat.sub_min_sub_right]
    simp only [room, size_write, hrest]
    generalize min (source.size - first) (memory.size - start) = left
    omega
  have hmono : memory.room start source first count ≤
      memory.room start source first (count + more) := by
    simp only [room]
    omega
  have hfull : memory.room start source first (count + more) ≠
      memory.room start source first count → memory.room start source first count = count := by
    simp only [room]
    omega
  by_cases hmore : memory.room start source first (count + more) =
      memory.room start source first count
  · rw [write_of_room_eq_zero (by rw [hroom, hmore, Nat.sub_self]), write_congr hmore]
  by_cases hnone : memory.room start source first count = 0
  · obtain rfl : count = 0 := by rw [← hfull hmore, hnone]
    rw [write_of_room_eq_zero hnone]
    simp only [Nat.add_zero, Nat.zero_add]
  · have hcount := hfull hmore
    refine eq_of_byteAt (by simp only [size_write]) ?_ fun index => ?_
    · rw [size_kept_write (by omega), size_kept_write hnone, size_kept_write (by omega), hroom]
      omega
    · rw [byteAt_write, byteAt_write, byteAt_write, hroom]
      by_cases hlater : start + count ≤ index ∧ index < start + count +
          (memory.room start source first (count + more) - memory.room start source first count)
      · rw [if_pos hlater, if_pos (by omega)]
        congr 1
        omega
      · rw [if_neg hlater]
        exact if_congr (by omega) rfl rfl

/-- A transfer within the bytes of both sides passes its checks. -/
theorem transfer?_eq_some {memory : Memory} {start first count : Nat} {source : ByteArray}
    (hsource : first + count ≤ source.size) (hmemory : start + count ≤ memory.size) :
    memory.transfer? start source first count = some (memory.write start source first count) :=
  if_pos ⟨hsource, hmemory⟩

/-- A row that both sides have is copied within their bounds. -/
theorem transferRow?_eq_some {memory : Memory} {start pitch sourcePitch row : Nat}
    {source : ByteArray} (hsource : row * sourcePitch ≤ source.size)
    (hmemory : start + row * pitch ≤ memory.size) :
    memory.transferRow? start pitch source sourcePitch row =
      some (memory.copyRow start pitch source sourcePitch row) := by
  unfold transferRow? copyRow
  rw [transfer?_eq_some (by omega) (by omega)]
  refine congrArg some (write_congr ?_)
  simp only [room]
  omega

/-- A row that one side does not have leaves the memory as it was. -/
theorem copyRow_eq_self {memory : Memory} {start pitch sourcePitch row : Nat} {source : ByteArray}
    (h : source.size ≤ row * sourcePitch ∨ memory.size ≤ start + row * pitch) :
    memory.copyRow start pitch source sourcePitch row = memory := by
  refine write_of_room_eq_zero ?_
  simp only [room]
  omega

/-- Rows that begin within both sides pass their checks one after the other. -/
theorem foldlM_transferRow? {memory : Memory} {start pitch sourcePitch : Nat} {source : ByteArray}
    {order : List Nat} (hsource : ∀ row ∈ order, row * sourcePitch ≤ source.size)
    (hmemory : ∀ row ∈ order, start + row * pitch ≤ memory.size) :
    order.foldlM (fun memory row => memory.transferRow? start pitch source sourcePitch row)
        memory =
      some (order.foldl (fun memory row => memory.copyRow start pitch source sourcePitch row)
        memory) := by
  induction order generalizing memory with
  | nil => rfl
  | cons row rest ih =>
    rw [List.foldlM_cons, List.foldl_cons,
      transferRow?_eq_some (hsource row List.mem_cons_self) (hmemory row List.mem_cons_self)]
    refine ih (fun other hother => hsource other (List.mem_cons_of_mem _ hother))
      fun other hother => ?_
    rw [size_copyRow]
    exact hmemory other (List.mem_cons_of_mem _ hother)

/-- Rows past the end of one side add nothing to a copy. -/
theorem foldl_copyRow_range {memory : Memory} {start pitch sourcePitch count rows : Nat}
    {source : ByteArray} (hle : count ≤ rows)
    (hpast : ∀ row, count ≤ row → row < rows →
      source.size ≤ row * sourcePitch ∨ memory.size ≤ start + row * pitch) :
    (List.range rows).foldl (fun memory row => memory.copyRow start pitch source sourcePitch row)
        memory =
      (List.range count).foldl (fun memory row => memory.copyRow start pitch source sourcePitch row)
        memory := by
  obtain ⟨extra, rfl⟩ := Nat.exists_eq_add_of_le hle
  induction extra with
  | zero => rfl
  | succ extra ih =>
    rw [← Nat.add_assoc, List.range_succ, List.foldl_append,
      ih (by omega) fun row hcount hrow => hpast row hcount (by omega)]
    refine copyRow_eq_self ?_
    rw [size_copyRow_foldl]
    exact hpast (count + extra) (by omega) (by omega)

/-- Rows of equal pitch, copied one after the other, are one block. -/
theorem foldl_copyRow_block (memory : Memory) (start pitch : Nat) (source : ByteArray)
    (rows : Nat) :
    (List.range rows).foldl (fun memory row => memory.copyRow start pitch source pitch row)
        memory = memory.write start source 0 (rows * pitch) := by
  induction rows with
  | zero =>
    rw [Nat.zero_mul, write_of_room_eq_zero (by simp only [room]; omega)]
    rfl
  | succ rows ih =>
    rw [List.range_succ, List.foldl_append, ih, Nat.succ_mul, ← write_write, Nat.zero_add]
    simp only [List.foldl_cons, List.foldl_nil, copyRow, Nat.min_self]

/-- Row by row, no access leaves the bytes of either side, and the outcome is that of `copyRows`
whatever the pitches. -/
theorem copyEachRow?_eq_some {memory : Memory} {start pitch sourcePitch : Nat}
    {source : ByteArray} (rows : Nat) (hstart : start ≤ memory.size) (hpitch : 0 < pitch)
    (hsourcePitch : 0 < sourcePitch) :
    memory.copyEachRow? start pitch source sourcePitch rows =
      some (memory.copyRows start pitch source sourcePitch rows) := by
  unfold copyEachRow?
  have hdestination (row : Nat) : row < rowCount (memory.size - start) pitch ↔
      row * pitch < memory.size - start := lt_rowCount_iff hpitch
  have hsource (row : Nat) : row < rowCount source.size sourcePitch ↔
      row * sourcePitch < source.size := lt_rowCount_iff hsourcePitch
  rw [foldlM_transferRow? (fun row hrow => ?_) fun row hrow => ?_]
  · refine congrArg some ?_
    unfold copyRows
    split
    · next hempty =>
      obtain rfl : rows = 0 := by omega
      rw [Nat.zero_min]
      rfl
    · split
      · next hequal =>
        subst hequal
        rw [Nat.mul_comm sourcePitch rows, ← foldl_copyRow_block]
        refine (foldl_copyRow_range (Nat.min_le_left ..) fun row hcount hrow => ?_).symm
        have := hsource row
        have := hdestination row
        omega
      · refine (foldl_copyRow_range (by omega) fun row hcount hrow => ?_).symm
        have := hsource row
        have := hdestination row
        omega
  · have := hsource row
    have := List.mem_range.mp hrow
    omega
  · have := hdestination row
    have := List.mem_range.mp hrow
    omega

/-- With every access checked, `copyRows` gives what it gives without. -/
theorem copyRows?_eq_some {memory : Memory} {start : Nat} (pitch : Nat) (source : ByteArray)
    (sourcePitch rows : Nat) (hstart : start ≤ memory.size) :
    memory.copyRows? start pitch source sourcePitch rows =
      some (memory.copyRows start pitch source sourcePitch rows) := by
  unfold copyRows?
  split
  · next hempty => rw [copyRows, if_pos hempty]
  · next hnonempty =>
    split
    · next hequal =>
      rw [copyRows, if_neg hnonempty, if_pos hequal, transfer?_eq_some (by omega) (by omega)]
      refine congrArg some (write_congr ?_)
      simp only [room]
      omega
    · exact copyEachRow?_eq_some rows hstart (by omega) (by omega)

/-- Copying rows to the bytes of `memory` from `start` on: no access leaves the bytes of either
side. The memory keeps its size, and the byte in `row` and `column` of the destination is that of
the source if the row is one of those copied, the column lies within both pitches and the source
has such a byte; otherwise it is what it was. Without rows, or with a pitch of zero, nothing
changes. For all other pitches, equal ones too, copying row by row comes to the same. -/
theorem copyRows_places_each_byte (memory : Memory) (start pitch : Nat) (source : ByteArray)
    (sourcePitch rows : Nat) (hstart : start ≤ memory.size) :
    memory.copyRows? start pitch source sourcePitch rows =
      some (memory.copyRows start pitch source sourcePitch rows) ∧
    (memory.copyRows start pitch source sourcePitch rows).size = memory.size ∧
    (∀ row column, column < pitch → start + row * pitch + column < memory.size →
      (memory.copyRows start pitch source sourcePitch rows).byteAt
          (start + row * pitch + column) =
        if row < rows ∧ column < min sourcePitch pitch ∧
            row * sourcePitch + column < source.size then
          byteOf source (row * sourcePitch + column)
        else memory.byteAt (start + row * pitch + column)) ∧
    (∀ index < start,
      (memory.copyRows start pitch source sourcePitch rows).byteAt index =
        memory.byteAt index) ∧
    (rows = 0 ∨ pitch = 0 ∨ sourcePitch = 0 →
      memory.copyRows start pitch source sourcePitch rows = memory) ∧
    (0 < pitch → 0 < sourcePitch →
      memory.copyEachRow? start pitch source sourcePitch rows =
        some (memory.copyRows start pitch source sourcePitch rows)) := by
  refine ⟨copyRows?_eq_some pitch source sourcePitch rows hstart, size_copyRows ..,
    fun row column hcolumn hroom => ?_, fun index hindex => ?_, fun hempty => if_pos hempty,
    copyEachRow?_eq_some rows hstart⟩
  · rw [byteAt_copyRows memory start source rows hcolumn hroom]
    exact if_congr (by omega) rfl rfl
  · exact byteAt_copyRows_of_lt memory source pitch sourcePitch rows hindex

/-- Seven bytes in rows of three, copied to rows of four that start one byte in. -/
theorem copyRows_places_each_byte_padded :
    1 ≤ (zeroed 10).size ∧
    (zeroed 10).copyRows? 1 4 ⟨#[1, 2, 3, 4, 5, 6, 7]⟩ 3 3 =
      some ⟨10, ⟨#[0, 1, 2, 3, 0, 4, 5, 6, 0, 7]⟩⟩ := by
  have hstart : 1 ≤ (zeroed 10).size := by decide
  obtain ⟨hcopied, -⟩ :=
    copyRows_places_each_byte (zeroed 10) 1 4 ⟨#[1, 2, 3, 4, 5, 6, 7]⟩ 3 3 hstart
  refine ⟨hstart, hcopied.trans ?_⟩
  decide +kernel

end Memory

end Texel
