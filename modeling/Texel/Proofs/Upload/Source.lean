import Texel.Proofs.Staging
import Texel.Proofs.Upload.Copying

namespace Texel

/-- The bytes in rows of `pitch` bytes. The last row may be shorter. -/
def rowsOf (bytes : ByteArray) (pitch : Nat) : List ByteArray :=
  (List.range (rowCount bytes.size pitch)).map fun row =>
    bytes.extract (row * pitch) (row * pitch + pitch)

section Rows

variable {bytes : ByteArray} {pitch row : Nat}

/-- A source has as many rows as begin within it. -/
@[simp] theorem length_rowsOf : (rowsOf bytes pitch).length = rowCount bytes.size pitch := by
  simp [rowsOf]

/-- A row is the part of the source between two multiples of the pitch. -/
theorem getElem_rowsOf (h : row < (rowsOf bytes pitch).length) :
    (rowsOf bytes pitch)[row] = bytes.extract (row * pitch) (row * pitch + pitch) := by
  simp [rowsOf]

/-- A row has all bytes of the pitch but for the last one, which may be short. -/
theorem size_getElem_rowsOf (h : row < (rowsOf bytes pitch).length) :
    (rowsOf bytes pitch)[row].size = min pitch (bytes.size - row * pitch) := by
  rw [getElem_rowsOf, ByteArray.size_extract]
  omega

/-- A byte of a row is the byte of the source where row and column say. -/
theorem byteOf_getElem_rowsOf {column : Nat} (h : row < (rowsOf bytes pitch).length)
    (hcolumn : column < pitch) :
    byteOf (rowsOf bytes pitch)[row] column = byteOf bytes (row * pitch + column) := by
  rw [getElem_rowsOf, Memory.byteOf_extract, if_pos (by omega)]

/-- Every row but the last is full. -/
theorem size_of_mem_dropLast_rowsOf (hpitch : 0 < pitch) :
    ∀ row ∈ (rowsOf bytes pitch).dropLast, row.size = pitch := by
  intro row hmem
  rw [List.dropLast_eq_take, List.mem_take_iff_getElem] at hmem
  obtain ⟨index, hindex, rfl⟩ := hmem
  rw [length_rowsOf] at hindex
  have hnext : (index + 1) * pitch < bytes.size := (lt_rowCount_iff hpitch).mp (by omega)
  rw [Nat.succ_mul] at hnext
  rw [size_getElem_rowsOf]
  omega

/-- The first rows put together are the first bytes. -/
theorem joined_rows (bytes : ByteArray) (pitch rows : Nat) :
    ((List.range rows).map fun row =>
        bytes.extract (row * pitch) (row * pitch + pitch)).foldl (· ++ ·) .empty =
      bytes.extract 0 (rows * pitch) := by
  induction rows with
  | zero => simp
  | succ rows ih =>
    rw [List.range_succ, List.map_append, List.foldl_append, ih, Nat.succ_mul]
    simp only [List.map_cons, List.map_nil, List.foldl_cons, List.foldl_nil]
    rw [← ByteArray.extract_eq_extract_append_extract (rows * pitch) (by omega) (by omega)]

/-- All rows put together are the bytes. -/
theorem joined_rowsOf (hpitch : 0 < pitch) :
    (rowsOf bytes pitch).foldl (· ++ ·) .empty = bytes := by
  have hsize : bytes.size ≤ rowCount bytes.size pitch * pitch :=
    le_mul_of_rowCount_le hpitch (Nat.le_refl _)
  have hwhole := @ByteArray.extract_zero_max_size bytes (rowCount bytes.size pitch * pitch)
  rw [Nat.max_eq_left hsize] at hwhole
  unfold rowsOf
  rw [joined_rows, hwhole]

end Rows

/-- The memory has the first `count` bytes of every row, from `start` on and `pitch` bytes apart. -/
def Memory.HoldsRows (memory : Memory) (start pitch count : Nat) (rows : List ByteArray) : Prop :=
  ∀ row (h : row < rows.length), ∀ column < count,
    start + row * pitch + column < memory.size ∧
      memory.byteAt (start + row * pitch + column) = byteOf rows[row] column

/-- A staging texture into which a rectangle was written holds the rows of its source. -/
theorem StagingTexture.Paints.holdsRows {staging : StagingTexture} {write : PixelWrite}
    {memory : Memory} (hpaints : staging.Paints write write.region.height memory)
    (h : staging.Sized)
    (hfits : write.Fits staging.width staging.height staging.format.bytesPerPixel) :
    memory.HoldsRows (staging.pixelOffset write.region.x write.region.y) staging.pitch
      (write.region.width * staging.format.bytesPerPixel)
      ((rowsOf write.data write.stride).take write.region.height) := by
  intro row hrow column hcolumn
  obtain ⟨hcolumns, hrows⟩ := Region.fitsWithin_iff.mp hfits.1
  have hstride := hfits.2.1
  rw [List.length_take] at hrow
  rw [List.getElem_take, byteOf_getElem_rowsOf _ (by omega)]
  -- the pixel that the byte belongs to, and the byte within it
  have hsplit := Nat.div_add_mod' column staging.format.bytesPerPixel
  have hindex := Nat.mod_lt column h.bytes
  have hpixel : column / staging.format.bytesPerPixel < write.region.width :=
    Nat.div_lt_of_lt_mul (by rwa [Nat.mul_comm])
  generalize column / staging.format.bytesPerPixel = x at hsplit hpixel
  generalize column % staging.format.bytesPerPixel = index at hsplit hindex
  have haddress : staging.pixelOffset write.region.x write.region.y + row * staging.pitch + column =
      staging.pixelOffset (write.region.x + x) (write.region.y + row) + index := by
    rw [staging.pixelOffset_add, ← hsplit]
    simp only [pixelOffset, Nat.add_mul]
    omega
  have hinside : write.region.contains (write.region.x + x) (write.region.y + row) := by
    rw [Region.contains_iff]
    omega
  rw [haddress, hpaints.size]
  constructor
  · exact h.pixelOffset_lt (by omega) (by omega) hindex
  · rw [hpaints.bytes _ _ _ (by omega) (by omega) hindex, if_pos hinside, PixelWrite.byte,
      Nat.add_sub_cancel_left, Nat.add_sub_cancel_left, ← hsplit, Nat.add_assoc]

namespace UploadLayout

variable {layout : UploadLayout} {source : ByteArray}

/-- A source is accepted exactly if its rows are wide enough and every byte of a row is there. -/
theorem validateSource_eq_ok_iff_readable (hbytes : 0 < layout.rowBytes)
    (hheight : 0 < layout.region.height) :
    layout.validateSource source.size = .ok () ↔
      layout.rowBytes ≤ layout.sourcePitch ∧
        ∀ row < layout.region.height, ∀ column < layout.rowBytes,
          row * layout.sourcePitch + column < source.size := by
  constructor
  · intro hvalid
    refine ⟨(validateSource_eq_ok_iff.mp hvalid).1, ?_⟩
    intro row hrow column hcolumn
    exact (lt_size_of_validateSource hvalid hrow hcolumn).2
  · rintro ⟨hpitch, hread⟩
    -- the last byte of the last row is the last one needed
    have hlast := hread (layout.region.height - 1) (by omega) (layout.rowBytes - 1) (by omega)
    rw [validateSource_eq_ok_iff, requiredSource, if_neg (by omega)]
    omega

/-- No row of the region is too short for its pixels. -/
theorem rowBytes_le_size (hvalid : layout.validateSource source.size = .ok ())
    (hbytes : 0 < layout.rowBytes) :
    ∀ row ∈ (rowsOf source layout.sourcePitch).take layout.region.height,
      layout.rowBytes ≤ row.size := by
  intro row hmem
  rw [List.mem_take_iff_getElem] at hmem
  obtain ⟨index, hindex, rfl⟩ := hmem
  obtain ⟨hpitch, hlast⟩ := lt_size_of_validateSource hvalid
    (Nat.lt_of_lt_of_le hindex (Nat.min_le_left ..)) (Nat.sub_one_lt_of_lt hbytes)
  rw [size_getElem_rowsOf]
  omega

/-- A copy of rows takes each of them to memory. -/
theorem holdsRows_write {memory : Memory} {start : Nat}
    (hvalid : layout.validateSource source.size = .ok ())
    (hpitch : layout.rowBytes ≤ layout.uploadPitch)
    (hroom : start + layout.uploadSize ≤ memory.size) :
    (layout.write memory start source).HoldsRows start layout.uploadPitch layout.rowBytes
      ((rowsOf source layout.sourcePitch).take layout.region.height) := by
  intro row hrow column hcolumn
  rw [List.length_take] at hrow
  have hheight : row < layout.region.height := by omega
  have hinside := row_add_lt_uploadSize hpitch hheight hcolumn
  have hsource := (lt_size_of_validateSource hvalid hheight hcolumn).1
  have hsize : (layout.write memory start source).size = memory.size := Memory.size_copyRows ..
  constructor
  · omega
  · rw [List.getElem_take, byteOf_getElem_rowsOf _ hsource,
      byteAt_write_row hvalid hpitch hroom hheight hcolumn]

/-- A write to a staging texture takes each row to its memory. -/
theorem holdsRows_writeRegion {staging : StagingTexture} (h : staging.Sized)
    (hlayout : staging.writeLayout layout.region layout.sourcePitch = layout)
    (hfits : layout.region.fitsWithin staging.width staging.height = true)
    (hvalid : layout.validateSource source.size = .ok ()) (hbytes : 0 < layout.rowBytes)
    (hheight : 0 < layout.region.height) :
    ∃ memory, staging.writeRegion layout source = .ok memory ∧
      memory.HoldsRows (staging.pixelOffset layout.region.x layout.region.y) staging.pitch
        layout.rowBytes ((rowsOf source layout.sourcePitch).take layout.region.height) := by
  let write : PixelWrite := ⟨layout.region, source, layout.sourcePitch⟩
  have hrow : layout.rowBytes = write.region.width * staging.format.bytesPerPixel := by
    rw [← hlayout]
    rfl
  have hpixels : write.NonEmpty := ⟨Nat.pos_of_mul_pos_right (hrow ▸ hbytes), hheight⟩
  have hsource : (staging.writeLayout write.region write.stride).validateSource write.data.size =
      .ok () := by
    rw [hlayout]
    exact hvalid
  have hwrite : write.Fits staging.width staging.height staging.format.bytesPerPixel :=
    ⟨hfits, (StagingTexture.validateSource_writeLayout hpixels).mp hsource⟩
  obtain ⟨memory, hmemory, hpaints⟩ := StagingTexture.writeRegion_accepted h hpixels hwrite
  rw [hlayout] at hmemory
  rw [hrow]
  exact ⟨memory, hmemory, hpaints.holdsRows h hwrite⟩

/-- For an upload of rows that are not empty, validation accepts exactly the sources whose pitch
holds a row and that have every byte of every pixel. Split into rows of the pitch, an accepted
source has all rows of the region, and each of them has its pixels. Neither way of reading it leaves
its bytes or leaves out a row: a copy of rows, with every access checked, takes the pixels of each
row to where there is room for them, and so does a write of the region to a staging texture, in full
rows or in parts of rows. -/
theorem accepts_exactly_readable_sources (hbytes : 0 < layout.rowBytes)
    (hheight : 0 < layout.region.height) :
    (layout.validateSource source.size = .ok () ↔
      layout.rowBytes ≤ layout.sourcePitch ∧
        ∀ row < layout.region.height, ∀ column < layout.rowBytes,
          row * layout.sourcePitch + column < source.size) ∧
    (layout.validateSource source.size = .ok () →
      let rows := rowsOf source layout.sourcePitch
      rows.foldl (· ++ ·) .empty = source ∧
      (∀ row ∈ rows.dropLast, row.size = layout.sourcePitch) ∧
      layout.region.height ≤ rows.length ∧
      (∀ row ∈ rows.take layout.region.height, layout.rowBytes ≤ row.size) ∧
      (∀ (memory : Memory) (start : Nat), layout.rowBytes ≤ layout.uploadPitch →
        start + layout.uploadSize ≤ memory.size →
        memory.copyRows? start layout.uploadPitch source layout.sourcePitch layout.region.height =
          some (layout.write memory start source) ∧
        (layout.write memory start source).HoldsRows start layout.uploadPitch layout.rowBytes
          (rows.take layout.region.height)) ∧
      ∀ staging : StagingTexture, staging.Sized →
        staging.writeLayout layout.region layout.sourcePitch = layout →
        layout.region.fitsWithin staging.width staging.height = true →
        ∃ memory, staging.writeRegion layout source = .ok memory ∧
          memory.HoldsRows (staging.pixelOffset layout.region.x layout.region.y) staging.pitch
            layout.rowBytes (rows.take layout.region.height)) := by
  refine ⟨validateSource_eq_ok_iff_readable hbytes hheight, ?_⟩
  intro hvalid rows
  have hpitch : 0 < layout.sourcePitch :=
    Nat.lt_of_lt_of_le hbytes (validateSource_eq_ok_iff.mp hvalid).1
  refine ⟨joined_rowsOf hpitch, size_of_mem_dropLast_rowsOf hpitch, ?_,
    rowBytes_le_size hvalid hbytes, ?_, ?_⟩
  · rw [length_rowsOf]
    exact height_le_rowCount hvalid hbytes
  · intro memory start hwide hroom
    constructor
    · exact Memory.copyRows?_eq_some layout.uploadPitch source layout.sourcePitch
        layout.region.height (by omega)
    · exact holdsRows_write hvalid hwide hroom
  · intro staging hsized hlayout hfits
    exact holdsRows_writeRegion hsized hlayout hfits hvalid hbytes hheight

/-- Two rows of two pixels, three bytes apart, from a source that ends with the last pixel, are
copied to rows of four bytes and written in the middle of a staging texture. One byte less is not
enough. -/
theorem accepts_exactly_readable_sources_tight :
    let source : ByteArray := ⟨#[1, 2, 9, 3, 4]⟩
    let short : ByteArray := ⟨#[1, 2, 9, 3]⟩
    let rows : List ByteArray := [⟨#[1, 2, 9]⟩, ⟨#[3, 4]⟩]
    let staging : StagingTexture := ⟨⟨⟨2⟩, .zeroed 12⟩, 4, 3, .r8Unorm, 4, true⟩
    let layout := staging.writeLayout ⟨1, 1, 2, 2⟩ 3
    (0 < layout.rowBytes ∧ 0 < layout.region.height) ∧
      layout.validateSource source.size = .ok () ∧ layout.validateSource short.size ≠ .ok () ∧
      rowsOf source layout.sourcePitch = rows ∧
      (layout.write (.zeroed 10) 1 source).HoldsRows 1 4 2 rows ∧
      ∃ memory, staging.writeRegion layout source = .ok memory ∧ memory.HoldsRows 5 4 2 rows := by
  intro source short rows staging layout
  have hbytes : 0 < layout.rowBytes := by decide
  have hheight : 0 < layout.region.height := by decide
  obtain ⟨haccepts, hreads⟩ := @accepts_exactly_readable_sources layout source hbytes hheight
  obtain ⟨hrefuses, -⟩ := @accepts_exactly_readable_sources layout short hbytes hheight
  have hvalid : layout.validateSource source.size = .ok () := haccepts.mpr (by decide)
  have hshort : layout.validateSource short.size ≠ .ok () := by
    intro hother
    have hlast : 1 * 3 + 1 < 4 := (hrefuses.mp hother).2 1 (by decide) 1 (by decide)
    omega
  have hrows : rowsOf source layout.sourcePitch = rows := by decide
  obtain ⟨-, -, -, -, hcopies, hwrites⟩ := hreads hvalid
  obtain ⟨-, hcopied⟩ := hcopies (.zeroed 10) 1 (by decide) (by decide)
  obtain ⟨memory, hmemory, hwritten⟩ := hwrites staging ⟨by decide, by decide, rfl⟩ rfl (by decide)
  rw [hrows] at hcopied hwritten
  exact ⟨⟨hbytes, hheight⟩, hvalid, hshort, hrows, hcopied, memory, hmemory, hwritten⟩

end UploadLayout

end Texel
