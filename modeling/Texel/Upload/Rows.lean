import Texel.Memory

namespace Texel

/-- How many rows of `pitch` bytes hold `size` bytes; the last may be shorter. -/
def rowCount (size pitch : Nat) : Nat := (size + pitch - 1) / pitch

namespace Memory

/-- Copies one row, or as much of it as the source holds. Where the destination rows are wider,
their tails keep what they held. -/
def copyRow (memory : Memory) (start pitch : Nat) (source : ByteArray) (sourcePitch row : Nat) :
    Memory :=
  memory.write (start + row * pitch) source (row * sourcePitch) (min sourcePitch pitch)

/-- Copies `rows` rows of `source` to the memory from `start` on. Rows of equal pitch are one block
of bytes. -/
def copyRows (memory : Memory) (start pitch : Nat) (source : ByteArray) (sourcePitch rows : Nat) :
    Memory :=
  if rows = 0 ∨ pitch = 0 ∨ sourcePitch = 0 then memory
  else if sourcePitch = pitch then memory.write start source 0 (sourcePitch * rows)
  else
    (List.range (min rows (rowCount source.size sourcePitch))).foldl
      (fun memory row => memory.copyRow start pitch source sourcePitch row) memory

/-- Copying rows keeps the size of memory. -/
@[simp] theorem size_copyRow (memory : Memory) (start pitch : Nat) (source : ByteArray)
    (sourcePitch row : Nat) :
    (memory.copyRow start pitch source sourcePitch row).size = memory.size :=
  size_write ..

@[simp] theorem size_copyRows (memory : Memory) (start pitch : Nat) (source : ByteArray)
    (sourcePitch rows : Nat) :
    (memory.copyRows start pitch source sourcePitch rows).size = memory.size := by
  unfold copyRows
  split
  · rfl
  · split
    · exact size_write ..
    · generalize List.range _ = order
      induction order generalizing memory with
      | nil => rfl
      | cons row rest ih => rw [List.foldl_cons, ih, size_copyRow]

end Memory

end Texel
