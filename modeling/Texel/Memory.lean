namespace Texel

/-- The byte at an index, zero past the end. -/
def byteOf (bytes : ByteArray) (index : Nat) : UInt8 :=
  if h : index < bytes.size then bytes[index] else 0

/-- Bytes as entries of the array behind them. -/
theorem byteOf_eq_data (bytes : ByteArray) (index : Nat) :
    byteOf bytes index = (bytes.data[index]?).getD 0 := by
  unfold byteOf
  split
  · next h => rw [Array.getElem?_eq_getElem (by simpa using h)]; rfl
  · next h => rw [Array.getElem?_eq_none (by simpa using h)]; rfl

/-- Bytes of a fixed number. Only those up to the last one written are kept; the rest are zero. -/
structure Memory where
  size : Nat
  kept : ByteArray := .empty

namespace Memory

instance : DecidableEq Memory := fun first second =>
  decidable_of_iff (first.size = second.size ∧ first.kept.data = second.kept.data) (by
    cases first
    cases second
    simp only [mk.injEq, ByteArray.ext_iff])

/-- Memory that was never written. -/
def zeroed (size : Nat) : Memory := ⟨size, .empty⟩

def ofBytes (bytes : ByteArray) : Memory := ⟨bytes.size, bytes⟩

def isEmpty (memory : Memory) : Bool := memory.size == 0

/-- The byte at an index, zero past the last one written. -/
def byteAt (memory : Memory) (index : Nat) : UInt8 := byteOf memory.kept index

private def pushZeros : Nat → ByteArray → ByteArray
  | 0, bytes => bytes
  | count + 1, bytes => pushZeros count (bytes.push 0)

/-- The bytes from `start` on, `count` of them or as many as there are. -/
def read (memory : Memory) (start count : Nat) : ByteArray :=
  let kept := memory.kept.extract start (start + count)
  pushZeros (min count (memory.size - start) - kept.size) kept

/-- How many bytes a write of `count` moves: no more than the source holds after `first` and the
memory has room for. -/
def room (memory : Memory) (start : Nat) (source : ByteArray) (first count : Nat) : Nat :=
  min count (min (source.size - first) (memory.size - start))

/-- Copies `count` bytes of `source` from `first` on to `start`, or as many as there is room for. -/
def write (memory : Memory) (start : Nat) (source : ByteArray) (first count : Nat) : Memory :=
  if memory.room start source first count = 0 then memory
  else
    { memory with
      kept := source.copySlice first (pushZeros (start - memory.kept.size) memory.kept) start
        (memory.room start source first count) false }

def describe (memory : Memory) : String :=
  s!"Owned({memory.size})"

/-- Padding adds as many bytes as it is asked for. -/
private theorem size_pushZeros (count : Nat) (bytes : ByteArray) :
    (pushZeros count bytes).size = bytes.size + count := by
  induction count generalizing bytes with
  | zero => rfl
  | succ count ih => rw [pushZeros, ih, ByteArray.size_push]; omega

/-- Padding with zeros is not seen in single bytes, which are zero past the end. -/
private theorem byteOf_pushZeros (count : Nat) (bytes : ByteArray) (index : Nat) :
    byteOf (pushZeros count bytes) index = byteOf bytes index := by
  induction count generalizing bytes with
  | zero => rfl
  | succ count ih =>
    rw [pushZeros, ih, byteOf_eq_data, byteOf_eq_data, ByteArray.data_push, Array.getElem?_push]
    split
    · next h => rw [h, Array.getElem?_eq_none (Nat.le_refl _)]; rfl
    · rfl

/-- Memory keeps its size. -/
@[simp] theorem size_write (memory : Memory) (start : Nat) (source : ByteArray)
    (first count : Nat) : (memory.write start source first count).size = memory.size := by
  unfold write
  split <;> rfl

/-- Memory that was never written is zero. -/
@[simp] theorem byteAt_zeroed (size index : Nat) : (zeroed size).byteAt index = 0 := by
  simp [zeroed, byteAt, byteOf]

/-- Bytes of two arrays, one after the other. -/
private theorem byteOf_append (first second : ByteArray) (index : Nat) :
    byteOf (first ++ second) index =
      if index < first.size then byteOf first index else byteOf second (index - first.size) := by
  simp only [byteOf_eq_data, ByteArray.data_append, Array.getElem?_append, ByteArray.size_data]
  split <;> rfl

/-- Bytes of a part of an array. -/
theorem byteOf_extract (bytes : ByteArray) (start stop index : Nat) :
    byteOf (bytes.extract start stop) index =
      if start + index < stop then byteOf bytes (start + index) else 0 := by
  simp only [byteOf_eq_data, ByteArray.data_extract, Array.getElem?_extract, ByteArray.size_data]
  by_cases h : start + index < stop
  · by_cases hb : start + index < bytes.size
    · rw [if_pos (by omega), if_pos h]
    · rw [if_neg (by omega), if_pos h, Array.getElem?_eq_none (by simpa using hb)]
  · rw [if_neg (by omega), if_neg h]; rfl

/-- The bytes written are those of the source; every other byte is what it was. -/
theorem byteAt_write (memory : Memory) (start : Nat) (source : ByteArray) (first count : Nat)
    (index : Nat) :
    (memory.write start source first count).byteAt index =
      if start ≤ index ∧ index < start + memory.room start source first count then
        byteOf source (first + (index - start))
      else memory.byteAt index := by
  unfold write
  split
  · next h => rw [h, if_neg (by omega)]
  · next h =>
    have hroom : memory.room start source first count ≤ source.size - first := by
      simp only [room]; omega
    generalize memory.room start source first count = length at h hroom
    have hsize := size_pushZeros (start - memory.kept.size) memory.kept
    have hpad := byteOf_pushZeros (start - memory.kept.size) memory.kept
    generalize pushZeros (start - memory.kept.size) memory.kept = padded at hsize hpad
    have hstart : min start padded.size = start := by omega
    have hlength : min (first + length) source.size - first = length := by omega
    simp only [byteAt, ByteArray.copySlice_eq_append, byteOf_append, byteOf_extract,
      ByteArray.size_append, ByteArray.size_extract, ByteArray.size_data, hpad, Nat.zero_add,
      Nat.sub_zero, hstart, hlength]
    rw [Nat.min_eq_left (show length ≤ source.size - first by omega)]
    by_cases hlow : index < start
    · rw [if_pos (by omega), if_pos hlow, if_pos hlow, if_neg (by omega)]
    · by_cases hhigh : index < start + length
      · rw [if_pos (by omega), if_neg hlow, if_pos (by omega), if_pos (by omega)]
      · rw [if_neg hhigh, if_neg (show ¬ (start ≤ index ∧ index < start + length) by omega),
          show start + length + (index - (start + length)) = index by omega]
        split
        · rfl
        · next hend => rw [← hpad, byteOf, dif_neg hend]

/-- A write is determined by how many bytes it moves. -/
theorem write_congr {memory : Memory} {start first count other : Nat} {source : ByteArray}
    (h : memory.room start source first count = memory.room start source first other) :
    memory.write start source first count = memory.write start source first other := by
  unfold write
  rw [h]

/-- A write keeps the bytes up to the last one it moved. -/
theorem size_kept_write {memory : Memory} {start first count : Nat} {source : ByteArray}
    (h : memory.room start source first count ≠ 0) :
    (memory.write start source first count).kept.size =
      max memory.kept.size (start + memory.room start source first count) := by
  have hroom : memory.room start source first count ≤ source.size - first := by
    simp only [room]
    omega
  unfold write
  rw [if_neg h]
  simp only [ByteArray.copySlice_eq_append, ByteArray.size_append, ByteArray.size_extract,
    ByteArray.size_data, size_pushZeros]
  omega

/-- Memories of one size that keep as many bytes are equal if their bytes are. -/
theorem eq_of_byteAt {first second : Memory} (hsize : first.size = second.size)
    (hkept : first.kept.size = second.kept.size)
    (hbytes : ∀ index, first.byteAt index = second.byteAt index) : first = second := by
  obtain ⟨size, kept⟩ := first
  obtain ⟨otherSize, otherKept⟩ := second
  obtain rfl : size = otherSize := hsize
  congr 1
  refine ByteArray.ext (Array.ext hkept fun index hfirst hsecond => ?_)
  have hbyte : byteOf kept index = byteOf otherKept index := hbytes index
  rw [byteOf_eq_data, byteOf_eq_data, Array.getElem?_eq_getElem hfirst,
    Array.getElem?_eq_getElem hsecond] at hbyte
  exact hbyte

end Memory

end Texel
