import Texel.Proofs.Upload.Layout
import Texel.Staging

namespace Texel

/-- The pixel lies in the rectangle. -/
def Region.contains (region : Region) (x y : Nat) : Bool :=
  (region.x ≤ x && x < region.x + region.width) && (region.y ≤ y && y < region.y + region.height)

/-- A pixel is in a rectangle if its column and its row are. -/
theorem Region.contains_iff {region : Region} {x y : Nat} :
    region.contains x y ↔ (region.x ≤ x ∧ x < region.x + region.width) ∧
      (region.y ≤ y ∧ y < region.y + region.height) := by
  simp [contains]

/-- A write of a rectangle of pixels, from rows `stride` bytes apart. -/
structure PixelWrite where
  region : Region
  data : ByteArray
  stride : Nat

namespace PixelWrite

/-- The rectangle has pixels. -/
def NonEmpty (write : PixelWrite) : Prop :=
  0 < write.region.width ∧ 0 < write.region.height

/-- The rectangle lies within `width` x `height` pixels, and the source has every byte of every
row; its last row may end with the pixels. -/
def Fits (write : PixelWrite) (width height bytesPerPixel : Nat) : Prop :=
  write.region.fitsWithin width height = true ∧
    write.region.width * bytesPerPixel ≤ write.stride ∧
    (write.region.height - 1) * write.stride + write.region.width * bytesPerPixel ≤
      write.data.size

instance (write : PixelWrite) (width height bytesPerPixel : Nat) :
    Decidable (write.Fits width height bytesPerPixel) :=
  inferInstanceAs (Decidable (_ ∧ _))

/-- The rectangle lies within `width` x `height` pixels, and a row of it leaves 32 bits no room for
one more byte. -/
def Overflows (write : PixelWrite) (width height bytesPerPixel : Nat) : Prop :=
  write.region.fitsWithin width height = true ∧ maxWord ≤ write.region.width * bytesPerPixel

instance (write : PixelWrite) (width height bytesPerPixel : Nat) :
    Decidable (write.Overflows width height bytesPerPixel) :=
  inferInstanceAs (Decidable (_ ∧ _))

/-- What the write says about one byte of a pixel. -/
def byte (write : PixelWrite) (bytesPerPixel x y index : Nat) : UInt8 :=
  byteOf write.data
    ((y - write.region.y) * write.stride + (x - write.region.x) * bytesPerPixel + index)

/-- One byte of a pixel after writes to a zeroed array: the last of those that fit and cover the
pixel decides. -/
def painted (width height bytesPerPixel : Nat) (writes : List PixelWrite) (x y index : Nat) :
    UInt8 :=
  match (writes.filter fun write =>
      write.Fits width height bytesPerPixel ∧ write.region.contains x y).getLast? with
  | some write => write.byte bytesPerPixel x y index
  | none => 0

section Painting

variable {width height bytesPerPixel : Nat} {writes : List PixelWrite} {write : PixelWrite}

/-- A write that does not fit paints nothing. -/
theorem painted_snoc_of_not_fits (h : ¬ write.Fits width height bytesPerPixel) (x y index : Nat) :
    painted width height bytesPerPixel (writes ++ [write]) x y index =
      painted width height bytesPerPixel writes x y index := by
  simp [painted, h]

/-- A write that fits paints the pixels it covers. -/
theorem painted_snoc (h : write.Fits width height bytesPerPixel) (x y index : Nat) :
    painted width height bytesPerPixel (writes ++ [write]) x y index =
      if write.region.contains x y then write.byte bytesPerPixel x y index
      else painted width height bytesPerPixel writes x y index := by
  unfold painted
  rw [List.filter_append]
  by_cases hcovers : write.region.contains x y
  · simp [h, hcovers]
  · simp [hcovers]

end Painting

end PixelWrite

namespace StagingTexture

variable {staging : StagingTexture} {write : PixelWrite} {memory : Memory} {x y index row : Nat}

/-- The memory of a staging texture is as large as its rows, and a row holds its pixels. -/
structure Sized (staging : StagingTexture) : Prop where
  bytes : 0 < staging.format.bytesPerPixel
  pitch : staging.width * staging.format.bytesPerPixel ≤ staging.pitch
  memory : staging.buffer.memory.size = staging.pitch * staging.height

/-- The byte of a pixel lies in the part of its row that holds pixels. -/
theorem column_lt (hx : x < staging.width) (hindex : index < staging.format.bytesPerPixel) :
    x * staging.format.bytesPerPixel + index < staging.width * staging.format.bytesPerPixel :=
  (row_add_lt_iff hindex).mpr hx

/-- The bytes of every pixel lie in memory. -/
theorem Sized.pixelOffset_lt (h : staging.Sized) (hx : x < staging.width) (hy : y < staging.height)
    (hindex : index < staging.format.bytesPerPixel) :
    staging.pixelOffset x y + index < staging.buffer.memory.size := by
  have hcolumn := column_lt hx hindex
  have hpitch := h.pitch
  have hrow : y * staging.pitch + (x * staging.format.bytesPerPixel + index) <
      staging.height * staging.pitch := (row_add_lt_iff (by omega)).mpr hy
  rw [h.memory, pixelOffset, Nat.mul_comm staging.pitch]
  omega

/-- A block within one row holds the bytes of the row from `first` on, and no byte of another. -/
theorem within_row_iff {pitch first count column target row : Nat} (hcolumn : column < pitch)
    (hblock : first + count ≤ pitch) :
    (target * pitch + first ≤ row * pitch + column ∧
        row * pitch + column < target * pitch + first + count) ↔
      row = target ∧ first ≤ column ∧ column < first + count := by
  constructor
  · rintro ⟨hlow, hhigh⟩
    have hbelow : row < target + 1 := by
      rw [← row_add_lt_iff hcolumn, Nat.succ_mul]
      omega
    have habove : ¬ row < target := by
      rw [← row_add_lt_iff hcolumn]
      omega
    obtain rfl : row = target := by omega
    omega
  · rintro ⟨rfl, hfirst, hlast⟩
    omega

/-- A source that fits has the pixels of each row of the rectangle. -/
theorem row_le_size (hfits : write.Fits staging.width staging.height staging.format.bytesPerPixel)
    (hrow : row < write.region.height) :
    row * write.stride + write.region.width * staging.format.bytesPerPixel ≤ write.data.size := by
  have hrows : row * write.stride ≤ (write.region.height - 1) * write.stride :=
    Nat.mul_le_mul_right _ (Nat.le_sub_one_of_lt hrow)
  have hsource := hfits.2.2
  omega

/-- Further rows of a column are whole pitches away. -/
theorem pixelOffset_add (staging : StagingTexture) (x y row : Nat) :
    staging.pixelOffset x y + row * staging.pitch = staging.pixelOffset x (y + row) := by
  simp only [pixelOffset, Nat.add_mul]
  omega

section Block

variable {region : Region} (hpitch : staging.width * staging.format.bytesPerPixel ≤ staging.pitch)
  (hfits : region.fitsWithin staging.width staging.height = true)
include hpitch hfits

/-- The pixels of a row of a rectangle that fits lie within its row of the memory. -/
theorem block_le_pitch :
    region.x * staging.format.bytesPerPixel + region.width * staging.format.bytesPerPixel ≤
      staging.pitch := by
  rw [← Nat.add_mul]
  exact Nat.le_trans (Nat.mul_le_mul_right _ (Region.fitsWithin_iff.mp hfits).1) hpitch

/-- A row of the rectangle ends within the rows of the memory. -/
theorem block_end_le (hrow : row < region.height) :
    staging.pixelOffset region.x (region.y + row) +
      region.width * staging.format.bytesPerPixel ≤ staging.pitch * staging.height := by
  have hblock := block_le_pitch hpitch hfits
  have hregion := (Region.fitsWithin_iff.mp hfits).2
  have hrows : (region.y + row + 1) * staging.pitch ≤ staging.height * staging.pitch :=
    Nat.mul_le_mul_right _ (by omega)
  rw [Nat.succ_mul] at hrows
  rw [pixelOffset, Nat.mul_comm staging.pitch]
  omega

end Block

/-- Every row of a write that fits ends within memory. -/
theorem Sized.row_end_le (h : staging.Sized)
    (hfits : write.Fits staging.width staging.height staging.format.bytesPerPixel)
    (hrow : row < write.region.height) :
    staging.pixelOffset write.region.x (write.region.y + row) +
      write.region.width * staging.format.bytesPerPixel ≤ staging.buffer.memory.size := by
  rw [h.memory]
  exact block_end_le h.pitch hfits.1 hrow

/-- Writing the pixels of one row of a rectangle changes those pixels and no other. -/
theorem byteAt_write_pixels (h : staging.Sized) (hsize : memory.size = staging.buffer.memory.size)
    (hfits : write.Fits staging.width staging.height staging.format.bytesPerPixel)
    (hrow : row < write.region.height) (hx : x < staging.width)
    (hindex : index < staging.format.bytesPerPixel) :
    (memory.write (staging.pixelOffset write.region.x (write.region.y + row)) write.data
        (row * write.stride) (write.region.width * staging.format.bytesPerPixel)).byteAt
        (staging.pixelOffset x y + index) =
      if y = write.region.y + row ∧ write.region.x ≤ x ∧
          x < write.region.x + write.region.width then
        write.byte staging.format.bytesPerPixel x y index
      else memory.byteAt (staging.pixelOffset x y + index) := by
  have hcolumn := column_lt hx hindex
  have hpitch := h.pitch
  have hsource := row_le_size hfits hrow
  have hroom := h.row_end_le hfits hrow
  have hwhole : memory.room (staging.pixelOffset write.region.x (write.region.y + row)) write.data
      (row * write.stride) (write.region.width * staging.format.bytesPerPixel) =
      write.region.width * staging.format.bytesPerPixel := by
    unfold Memory.room
    omega
  -- in units of pixels: the block starts at the first pixel and ends with the last
  have hfirst : write.region.x * staging.format.bytesPerPixel ≤
      x * staging.format.bytesPerPixel + index ↔ write.region.x ≤ x := by
    rw [← Nat.not_lt, row_add_lt_iff hindex, Nat.not_lt]
  have hlast : x * staging.format.bytesPerPixel + index <
      write.region.x * staging.format.bytesPerPixel +
        write.region.width * staging.format.bytesPerPixel ↔
      x < write.region.x + write.region.width := by
    rw [← Nat.add_mul, row_add_lt_iff hindex]
  have hwithin := @within_row_iff staging.pitch (write.region.x * staging.format.bytesPerPixel)
    (write.region.width * staging.format.bytesPerPixel) (x * staging.format.bytesPerPixel + index)
    (write.region.y + row) y (by omega) (block_le_pitch h.pitch hfits.1)
  rw [hfirst, hlast] at hwithin
  rw [Memory.byteAt_write, hwhole]
  simp only [pixelOffset, Nat.add_assoc] at hwithin ⊢
  rw [if_congr hwithin rfl rfl]
  split
  · next hinside =>
    obtain ⟨rfl, hx, -⟩ := hinside
    have hdistance := Nat.mul_le_mul_right staging.format.bytesPerPixel hx
    rw [PixelWrite.byte, Nat.add_sub_cancel_left, Nat.sub_mul]
    congr 1
    omega
  · rfl

/-- What the first `rows` rows of a write leave in memory: the pixels of these rows are written and
the others are what they were. -/
structure Paints (staging : StagingTexture) (write : PixelWrite) (rows : Nat) (memory : Memory) :
    Prop where
  size : memory.size = staging.buffer.memory.size
  bytes : ∀ x y index, x < staging.width → y < staging.height →
    index < staging.format.bytesPerPixel →
    memory.byteAt (staging.pixelOffset x y + index) =
      if Region.contains { write.region with height := rows } x y then
        write.byte staging.format.bytesPerPixel x y index
      else staging.buffer.memory.byteAt (staging.pixelOffset x y + index)

/-- The layout of a write in exact numbers: rows in memory are the pitch of the texture apart. -/
def writeLayout (texture : StagingTexture) (region : Region) (stride : Nat) : UploadLayout :=
  ⟨region, stride, region.width * texture.format.bytesPerPixel, texture.pitch⟩

/-- A write has its layout unless its rows overflow. -/
theorem writeLayout?_eq (hinside : write.region.fitsWithin staging.width staging.height = true) :
    staging.writeLayout? write.region write.stride =
      if write.Overflows staging.width staging.height staging.format.bytesPerPixel then none
      else some (staging.writeLayout write.region write.stride) := by
  have hone : Nat.isPowerOfTwo 1 := ⟨0, rfl⟩
  unfold writeLayout?
  rw [UploadLayout.ofRegion?_eq hone]
  by_cases hrow : write.Overflows staging.width staging.height staging.format.bytesPerPixel
  · have hfull : ¬ write.region.width * staging.format.bytesPerPixel + 1 ≤ maxWord :=
      Nat.not_lt_of_le hrow.2
    rw [if_pos hrow, if_neg hfull]
    rfl
  · have hroom : write.region.width * staging.format.bytesPerPixel + 1 ≤ maxWord :=
      Nat.lt_of_not_le fun hfull => hrow ⟨hinside, hfull⟩
    rw [if_neg hrow, if_pos hroom]
    rfl

/-- One row of a rectangle that fits is written without leaving the source or the memory. -/
theorem writeRow_eq_ok (h : staging.Sized) (hsize : memory.size = staging.buffer.memory.size)
    (hfits : write.Fits staging.width staging.height staging.format.bytesPerPixel)
    (hrow : row < write.region.height) :
    staging.writeRow (staging.writeLayout write.region write.stride)
        (staging.pixelOffset write.region.x write.region.y) write.data memory row =
      .ok (memory.write (staging.pixelOffset write.region.x (write.region.y + row)) write.data
        (row * write.stride) (write.region.width * staging.format.bytesPerPixel)) := by
  have hsource := row_le_size hfits hrow
  have hroom := h.row_end_le hfits hrow
  have hpitch := hfits.2.1
  unfold writeRow
  simp only [writeLayout, pixelOffset_add]
  rw [if_neg (by omega)]

/-- The partial path writes row after row. -/
theorem paints_rows (h : staging.Sized)
    (hfits : write.Fits staging.width staging.height staging.format.bytesPerPixel) (rows : Nat)
    (hrows : rows ≤ write.region.height) :
    ∃ memory, (List.range rows).foldlM
        (staging.writeRow (staging.writeLayout write.region write.stride)
          (staging.pixelOffset write.region.x write.region.y) write.data)
        staging.buffer.memory = .ok memory ∧ staging.Paints write rows memory := by
  induction rows with
  | zero =>
    refine ⟨staging.buffer.memory, rfl, rfl, fun x y index _ _ _ => (if_neg ?_).symm⟩
    simp only [Region.contains_iff]
    omega
  | succ rows ih =>
    obtain ⟨memory, hmemory, hpaints⟩ := ih (by omega)
    have hrow := writeRow_eq_ok h hpaints.size hfits (show rows < write.region.height by omega)
    refine ⟨memory.write (staging.pixelOffset write.region.x (write.region.y + rows)) write.data
      (rows * write.stride) (write.region.width * staging.format.bytesPerPixel), ?_, ?_⟩
    · rw [List.range_succ, List.foldlM_append, hmemory]
      exact (bind_pure _).trans hrow
    · refine ⟨(Memory.size_write ..).trans hpaints.size, fun x y index hx hy hindex => ?_⟩
      rw [byteAt_write_pixels h hpaints.size hfits (by omega) hx hindex,
        hpaints.bytes x y index hx hy hindex]
      simp only [Region.contains_iff]
      split
      · next hnew => rw [if_pos (by omega)]
      · next hnew => exact if_congr (by omega) rfl rfl

/-- The path for full rows copies them with their tails, which hold no pixels. -/
theorem paints_full (h : staging.Sized)
    (hfits : write.Fits staging.width staging.height staging.format.bytesPerPixel)
    (hx : write.region.x = 0) (hwidth : write.region.width = staging.width) :
    staging.Paints write write.region.height
      ((staging.writeLayout write.region write.stride).write staging.buffer.memory
        (staging.pixelOffset write.region.x write.region.y) write.data) := by
  refine ⟨Memory.size_copyRows .., fun x y index hinside hy hindex => ?_⟩
  have hcolumn := column_lt hinside hindex
  have hpitch := h.pitch
  have hstride := hfits.2.1
  have hoffset := h.pixelOffset_lt hinside hy hindex
  simp only [UploadLayout.write, writeLayout, Region.contains_iff]
  rw [hwidth] at hstride ⊢
  by_cases hbefore : y < write.region.y
  · rw [if_neg (by omega)]
    apply Memory.byteAt_copyRows_of_lt
    have hrows : (y + 1) * staging.pitch ≤ write.region.y * staging.pitch :=
      Nat.mul_le_mul_right _ hbefore
    rw [Nat.succ_mul] at hrows
    simp only [pixelOffset, hx]
    omega
  · obtain ⟨row, rfl⟩ := Nat.exists_eq_add_of_le (Nat.le_of_not_lt hbefore)
    have haddress : staging.pixelOffset x (write.region.y + row) + index =
        staging.pixelOffset write.region.x write.region.y + row * staging.pitch +
          (x * staging.format.bytesPerPixel + index) := by
      simp only [pixelOffset, hx, Nat.add_mul]
      omega
    rw [haddress] at hoffset ⊢
    rw [Memory.byteAt_copyRows _ _ _ _ (by omega) hoffset]
    by_cases hrow : row < write.region.height
    · have hsource := row_le_size hfits hrow
      rw [hwidth] at hsource
      rw [if_pos (by omega), if_pos (by omega), PixelWrite.byte, hx, Nat.add_sub_cancel_left,
        Nat.sub_zero, Nat.add_assoc]
    · rw [if_neg (by omega), if_neg (by omega)]

/-- What is asked of the source of a write of a rectangle that is not empty. -/
theorem validateSource_writeLayout (hpixels : write.NonEmpty) :
    (staging.writeLayout write.region write.stride).validateSource write.data.size = .ok () ↔
      write.region.width * staging.format.bytesPerPixel ≤ write.stride ∧
        (write.region.height - 1) * write.stride +
          write.region.width * staging.format.bytesPerPixel ≤ write.data.size := by
  have hrows : (staging.writeLayout write.region write.stride).region.height ≠ 0 :=
    Nat.ne_of_gt hpixels.2
  rw [UploadLayout.validateSource_eq_ok_iff, UploadLayout.requiredSource, if_neg hrows]
  rfl

/-- On either path, the rectangle of a write that fits ends up in memory. -/
theorem writeRegion_accepted (h : staging.Sized) (hpixels : write.NonEmpty)
    (hfits : write.Fits staging.width staging.height staging.format.bytesPerPixel) :
    ∃ memory, staging.writeRegion (staging.writeLayout write.region write.stride) write.data =
        .ok memory ∧
      staging.Paints write write.region.height memory := by
  have hbytes : 0 < write.region.width * staging.format.bytesPerPixel :=
    Nat.mul_pos hpixels.1 h.bytes
  have hstride : 0 < write.stride := Nat.lt_of_lt_of_le hbytes hfits.2.1
  have hstart : ¬ staging.buffer.memory.size <
      staging.pixelOffset write.region.x write.region.y := by
    have hend := h.row_end_le hfits hpixels.2
    rw [Nat.add_zero] at hend
    omega
  have hrows : min write.region.height (rowCount write.data.size write.stride) =
      write.region.height :=
    Nat.min_eq_left
      (UploadLayout.height_le_rowCount ((validateSource_writeLayout hpixels).mpr hfits.2) hbytes)
  unfold writeRegion
  by_cases hfull : write.region.x = 0 ∧ write.region.width = staging.width
  · exact ⟨_, (if_neg hstart).trans (if_pos hfull), paints_full h hfits hfull.1 hfull.2⟩
  · obtain ⟨memory, hmemory, hpaints⟩ := paints_rows h hfits write.region.height (Nat.le_refl _)
    refine ⟨memory, ((if_neg hstart).trans (if_neg hfull)).trans ?_, hpaints⟩
    rw [← hrows] at hmemory
    exact (if_neg (Nat.ne_of_gt hstride)).trans hmemory

/-- What a write with a layout comes to is what its region comes to. -/
theorem write_of_valid (hwritable : staging.writable = true)
    (hinside : write.region.fitsWithin staging.width staging.height = true)
    (hrow : ¬ write.Overflows staging.width staging.height staging.format.bytesPerPixel)
    (hvalid : (staging.writeLayout write.region write.stride).validateSource write.data.size =
      .ok ()) :
    staging.write write.region write.data write.stride =
      (staging.writeRegion (staging.writeLayout write.region write.stride) write.data).map
        fun memory => { staging with buffer := { staging.buffer with memory } } := by
  unfold StagingTexture.write
  rw [if_neg (by simp [hwritable]), if_neg (by simp [hinside]), writeLayout?_eq hinside,
    if_neg hrow]
  simp only [hvalid]
  cases staging.writeRegion (staging.writeLayout write.region write.stride) write.data <;> rfl

/-- Whether its source fits or not, a write whose rows overflow aborts. -/
theorem write_of_overflows (hwritable : staging.writable = true)
    (hrow : write.Overflows staging.width staging.height staging.format.bytesPerPixel) :
    staging.write write.region write.data write.stride = .error .abort := by
  unfold StagingTexture.write
  rw [if_neg (by simp [hwritable]), if_neg (by simp [hrow.1]), writeLayout?_eq hrow.1, if_pos hrow]

/-- A write that fits goes through on either path and paints its rectangle, unless its rows
overflow. -/
theorem write_accepted (h : staging.Sized) (hwritable : staging.writable = true)
    (hpixels : write.NonEmpty)
    (hrow : ¬ write.Overflows staging.width staging.height staging.format.bytesPerPixel)
    (hfits : write.Fits staging.width staging.height staging.format.bytesPerPixel) :
    ∃ memory, staging.write write.region write.data write.stride =
        .ok { staging with buffer := { staging.buffer with memory } } ∧
      staging.Paints write write.region.height memory := by
  obtain ⟨memory, hmemory, hpaints⟩ := writeRegion_accepted h hpixels hfits
  refine ⟨memory, ?_, hpaints⟩
  rw [write_of_valid hwritable hfits.1 hrow ((validateSource_writeLayout hpixels).mpr hfits.2),
    hmemory]
  rfl

/-- A write that does not fit is refused as a failure of staging, unless its rows overflow. -/
theorem write_refused (hpixels : write.NonEmpty)
    (hrow : ¬ write.Overflows staging.width staging.height staging.format.bytesPerPixel)
    (hfits : ¬ write.Fits staging.width staging.height staging.format.bytesPerPixel) :
    ∃ reason, staging.write write.region write.data write.stride =
      .error (.refused (.stagingFailure reason)) := by
  unfold StagingTexture.write
  split
  · exact ⟨_, rfl⟩
  · split
    · exact ⟨_, rfl⟩
    · next hinside =>
      rw [Bool.not_eq_false] at hinside
      rw [writeLayout?_eq hinside, if_neg hrow]
      dsimp only
      split
      · exact ⟨_, rfl⟩
      · next hvalid =>
        exact absurd ⟨hinside, (validateSource_writeLayout hpixels).mp hvalid⟩ hfits

/-- The pixels of a writable staging texture are those that writes have painted. -/
structure Shows (staging : StagingTexture) (writes : List PixelWrite) : Prop where
  sized : staging.Sized
  writable : staging.writable = true
  bytes : ∀ x y index, x < staging.width → y < staging.height →
    index < staging.format.bytesPerPixel →
    staging.buffer.memory.byteAt (staging.pixelOffset x y + index) =
      PixelWrite.painted staging.width staging.height staging.format.bytesPerPixel writes x y index

/-- One more write, with the memory it leaves. -/
theorem Shows.painted {writes : List PixelWrite} (h : staging.Shows writes)
    (hfits : write.Fits staging.width staging.height staging.format.bytesPerPixel)
    (hpaints : staging.Paints write write.region.height memory) :
    Shows { staging with buffer := { staging.buffer with memory } } (writes ++ [write]) := by
  refine ⟨⟨h.sized.bytes, h.sized.pitch, hpaints.size.trans h.sized.memory⟩, h.writable, ?_⟩
  intro x y index hx hy hindex
  rw [PixelWrite.painted_snoc hfits]
  exact (hpaints.bytes x y index hx hy hindex).trans
    (if_congr Iff.rfl rfl (h.bytes x y index hx hy hindex))

/-- A write that is refused adds nothing to what the pixels show. -/
theorem Shows.refused {writes : List PixelWrite} (h : staging.Shows writes)
    (hfits : ¬ write.Fits staging.width staging.height staging.format.bytesPerPixel) :
    staging.Shows (writes ++ [write]) := by
  refine ⟨h.sized, h.writable, fun x y index hx hy hindex => ?_⟩
  rw [PixelWrite.painted_snoc_of_not_fits hfits]
  exact h.bytes x y index hx hy hindex

/-- A copy of a rectangle of pixels addresses the bytes of these pixels. -/
theorem Shows.copied {writes : List PixelWrite} (h : staging.Shows writes) {source : Region}
    (hsource : source.fitsWithin staging.width staging.height = true) {column row : Nat}
    (hcolumn : column < source.width) (hrow : row < source.height)
    (hindex : index < staging.format.bytesPerPixel) :
    let address := staging.pixelOffset source.x source.y + row * staging.pitch +
      column * staging.format.bytesPerPixel + index
    address < staging.buffer.memory.size ∧ staging.buffer.memory.byteAt address =
      PixelWrite.painted staging.width staging.height staging.format.bytesPerPixel writes
        (source.x + column) (source.y + row) index := by
  intro address
  have hinside := Region.fitsWithin_iff.mp hsource
  have haddress : address = staging.pixelOffset (source.x + column) (source.y + row) + index := by
    simp only [address, pixelOffset, Nat.add_mul]
    omega
  rw [haddress]
  exact ⟨h.sized.pixelOffset_lt (by omega) (by omega) hindex,
    h.bytes _ _ _ (by omega) (by omega) hindex⟩

end StagingTexture

end Texel
