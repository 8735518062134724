import Texel.Proofs.Staging

namespace Texel

/-- A write of no byte changes nothing. -/
theorem Memory.write_nothing (memory : Memory) (start : Nat) (source : ByteArray) (first : Nat) :
    memory.write start source first 0 = memory := by
  simp [write, room]

namespace PixelWrite

/-- The write passes the checks that are made before anything is written: its rectangle lies within
`width` x `height` pixels, no row of the source is longer than the stride, and the source has every
row. A rectangle without rows asks for no bytes. -/
def Passes (write : PixelWrite) (width height bytesPerPixel : Nat) : Prop :=
  write.region.fitsWithin width height = true ∧
    write.region.width * bytesPerPixel ≤ write.stride ∧
    (write.region.height ≠ 0 →
      (write.region.height - 1) * write.stride + write.region.width * bytesPerPixel ≤
        write.data.size)

instance (write : PixelWrite) (width height bytesPerPixel : Nat) :
    Decidable (write.Passes width height bytesPerPixel) :=
  inferInstanceAs (Decidable (_ ∧ _ ∧ (_ → _)))

/-- The source has no rows to step through, or the rectangle lies below the last row of `height`
rows and right of the first column. -/
def Overruns (write : PixelWrite) (height : Nat) : Prop :=
  write.stride = 0 ∨ write.region.y = height ∧ 0 < write.region.x

instance (write : PixelWrite) (height : Nat) : Decidable (write.Overruns height) :=
  inferInstanceAs (Decidable (_ ∨ _))

variable {write : PixelWrite} {width height bytesPerPixel : Nat}

/-- A write that passes the checks fits, if it has a row. -/
theorem Passes.fits (h : write.Passes width height bytesPerPixel)
    (hrows : write.region.height ≠ 0) : write.Fits width height bytesPerPixel :=
  ⟨h.1, h.2.1, h.2.2 hrows⟩

/-- Only a write without pixels overruns. -/
theorem Overruns.empty (h : write.Overruns height)
    (hpasses : write.Passes width height bytesPerPixel) (hbytes : 0 < bytesPerPixel) :
    ¬ write.NonEmpty := by
  rintro ⟨hwidth, hheight⟩
  have hrow := Nat.mul_pos hwidth hbytes
  have hstride := hpasses.2.1
  have hregion := (Region.fitsWithin_iff.mp hpasses.1).2
  rcases h with hzero | ⟨hbelow, -⟩ <;> omega

end PixelWrite

namespace StagingTexture

variable {staging : StagingTexture} {write : PixelWrite}

/-- A staging texture as it is made: with pixels, and with memory for all of them. -/
structure Formed (staging : StagingTexture) : Prop extends staging.Sized where
  width : 0 < staging.width
  height : 0 < staging.height

/-- The checks of a write are those of its region and of its source. -/
theorem passes_iff : write.Passes staging.width staging.height staging.format.bytesPerPixel ↔
    write.region.fitsWithin staging.width staging.height = true ∧
      (staging.writeLayout write.region write.stride).validateSource write.data.size = .ok () := by
  rw [UploadLayout.validateSource_eq_ok_iff, UploadLayout.requiredSource]
  by_cases hrows : write.region.height = 0
  · simp [PixelWrite.Passes, writeLayout, hrows]
  · simp [PixelWrite.Passes, writeLayout, hrows]

/-- A write that does not pass the checks is refused as a failure of staging, unless its rows
overflow. -/
theorem write_refused_of_not_passes (hrow : ¬ (staging.writable = true ∧
      write.Overflows staging.width staging.height staging.format.bytesPerPixel))
    (h : ¬ (staging.writable = true ∧
      write.Passes staging.width staging.height staging.format.bytesPerPixel)) :
    ∃ reason, staging.write write.region write.data write.stride =
      .error (.refused (.stagingFailure reason)) := by
  rw [passes_iff] at h
  unfold StagingTexture.write
  split
  · exact ⟨_, rfl⟩
  · next hwritable =>
    split
    · exact ⟨_, rfl⟩
    · next hinside =>
      rw [Bool.not_eq_false] at hwritable hinside
      rw [writeLayout?_eq hinside, if_neg fun hover => hrow ⟨hwritable, hover⟩]
      dsimp only
      split
      · exact ⟨_, rfl⟩
      · next hvalid => exact absurd ⟨hwritable, hinside, hvalid⟩ h

/-- A write that passes the checks goes on to the memory. -/
theorem write_of_passes (hwritable : staging.writable = true)
    (hrow : ¬ write.Overflows staging.width staging.height staging.format.bytesPerPixel)
    (h : write.Passes staging.width staging.height staging.format.bytesPerPixel) :
    staging.write write.region write.data write.stride =
      (staging.writeRegion (staging.writeLayout write.region write.stride) write.data).map
        fun memory => { staging with buffer := { staging.buffer with memory } } := by
  obtain ⟨hinside, hvalid⟩ := passes_iff.mp h
  exact write_of_valid hwritable hinside hrow hvalid

/-- A position up to the end of a row lies in memory or right behind it. -/
theorem Sized.pixelOffset_le (h : staging.Sized) {x y : Nat} (hx : x ≤ staging.width)
    (hy : y < staging.height) : staging.pixelOffset x y ≤ staging.buffer.memory.size := by
  have hcolumn : x * staging.format.bytesPerPixel ≤ staging.pitch :=
    Nat.le_trans (Nat.mul_le_mul_right _ hx) h.pitch
  have hrows : (y + 1) * staging.pitch ≤ staging.height * staging.pitch :=
    Nat.mul_le_mul_right _ hy
  rw [Nat.succ_mul] at hrows
  rw [h.memory, pixelOffset, Nat.mul_comm staging.pitch]
  omega

/-- Only below the last row, and there only right of the first column, does a rectangle start past
the last byte. -/
theorem Sized.starts_past_iff (h : staging.Sized)
    (hinside : write.region.fitsWithin staging.width staging.height = true) :
    staging.buffer.memory.size < staging.pixelOffset write.region.x write.region.y ↔
      write.region.y = staging.height ∧ 0 < write.region.x := by
  obtain ⟨hcolumns, hrows⟩ := Region.fitsWithin_iff.mp hinside
  rcases Nat.lt_or_ge write.region.y staging.height with habove | hbelow
  · have hstart := h.pixelOffset_le (show write.region.x ≤ staging.width by omega) habove
    omega
  · obtain hlast : write.region.y = staging.height := by omega
    have hoffset : staging.pixelOffset write.region.x write.region.y =
        staging.buffer.memory.size + write.region.x * staging.format.bytesPerPixel := by
      rw [h.memory, pixelOffset, hlast, Nat.mul_comm staging.pitch]
    rw [hoffset, Nat.lt_add_right_iff_pos, Nat.mul_pos_iff_of_pos_right h.bytes]
    exact (and_iff_right hlast).symm

/-- The rows of a rectangle without columns are written and no byte changes. -/
theorem rows_of_no_columns (h : staging.Sized)
    (hpasses : write.Passes staging.width staging.height staging.format.bytesPerPixel)
    (hwidth : write.region.width = 0) (rows : Nat) (hrows : rows ≤ write.region.height) :
    (List.range rows).foldlM
        (staging.writeRow (staging.writeLayout write.region write.stride)
          (staging.pixelOffset write.region.x write.region.y) write.data)
        staging.buffer.memory = .ok staging.buffer.memory := by
  induction rows with
  | zero => rfl
  | succ rows ih =>
    have hrow := writeRow_eq_ok h rfl (hpasses.fits (by omega)) hrows
    rw [hwidth, Nat.zero_mul, Memory.write_nothing] at hrow
    rw [List.range_succ, List.foldlM_append, ih (by omega)]
    exact (bind_pure _).trans hrow

/-- A write aborts past the end of memory, and otherwise copies full rows or parts of rows. -/
theorem writeRegion_eq (staging : StagingTexture) (write : PixelWrite) :
    staging.writeRegion (staging.writeLayout write.region write.stride) write.data =
      if staging.buffer.memory.size < staging.pixelOffset write.region.x write.region.y then
        .error .abort
      else if write.region.x = 0 ∧ write.region.width = staging.width then
        .ok ((staging.writeLayout write.region write.stride).write staging.buffer.memory
          (staging.pixelOffset write.region.x write.region.y) write.data)
      else if write.stride = 0 then .error .abort
      else
        (List.range (min write.region.height (rowCount write.data.size write.stride))).foldlM
          (staging.writeRow (staging.writeLayout write.region write.stride)
            (staging.pixelOffset write.region.x write.region.y) write.data)
          staging.buffer.memory :=
  rfl

/-- An empty write that starts within memory changes nothing. -/
theorem writeRegion_of_empty (h : staging.Formed)
    (hpasses : write.Passes staging.width staging.height staging.format.bytesPerPixel)
    (hempty : ¬ write.NonEmpty) (hwithin : ¬ write.Overruns staging.height) :
    staging.writeRegion (staging.writeLayout write.region write.stride) write.data =
      .ok staging.buffer.memory := by
  obtain ⟨hstride, hstart⟩ := not_or.mp hwithin
  rw [← h.starts_past_iff hpasses.1] at hstart
  have hnothing : write.region.width = 0 ∨ write.region.height = 0 := by
    unfold PixelWrite.NonEmpty at hempty
    omega
  rw [writeRegion_eq, if_neg hstart, if_neg hstride]
  split
  · next hfull =>
    have hrows : write.region.height = 0 := by
      have hwidth := h.width
      omega
    simp [UploadLayout.write, writeLayout, Memory.copyRows, hrows]
  · rcases hnothing with hwidth | hheight
    · exact rows_of_no_columns h.toSized hpasses hwidth _ (Nat.min_le_left ..)
    · rw [hheight, Nat.zero_min]
      rfl

/-- A write that starts past the last byte aborts. -/
theorem writeRegion_of_overruns (h : staging.Formed)
    (hpasses : write.Passes staging.width staging.height staging.format.bytesPerPixel)
    (hoverruns : write.Overruns staging.height) :
    staging.writeRegion (staging.writeLayout write.region write.stride) write.data =
      .error .abort := by
  rw [writeRegion_eq]
  by_cases hpast : write.region.y = staging.height ∧ 0 < write.region.x
  · exact if_pos ((h.starts_past_iff hpasses.1).mpr hpast)
  · have hzero : write.stride = 0 := hoverruns.resolve_right hpast
    have hpartial : ¬ (write.region.x = 0 ∧ write.region.width = staging.width) := by
      rintro ⟨-, hwidth⟩
      have hrow := Nat.mul_pos h.width h.bytes
      have hstride := hpasses.2.1
      rw [hwidth] at hstride
      omega
    rw [if_neg ((h.starts_past_iff hpasses.1).not.mpr hpast), if_neg hpartial, if_pos hzero]

/-- An empty write that passes the checks changes nothing, unless it overruns. -/
theorem write_eq_self_of_empty (h : staging.Formed) (hwritable : staging.writable = true)
    (hrow : ¬ write.Overflows staging.width staging.height staging.format.bytesPerPixel)
    (hpasses : write.Passes staging.width staging.height staging.format.bytesPerPixel)
    (hempty : ¬ write.NonEmpty) (hwithin : ¬ write.Overruns staging.height) :
    staging.write write.region write.data write.stride = .ok staging := by
  rw [write_of_passes hwritable hrow hpasses, writeRegion_of_empty h hpasses hempty hwithin]
  rfl

/-- A write that passes the checks goes through, unless its rows overflow or it overruns. -/
theorem write_accepted_of_passes (h : staging.Formed) (hwritable : staging.writable = true)
    (hrow : ¬ write.Overflows staging.width staging.height staging.format.bytesPerPixel)
    (hpasses : write.Passes staging.width staging.height staging.format.bytesPerPixel)
    (hwithin : ¬ write.Overruns staging.height) :
    ∃ written, staging.write write.region write.data write.stride = .ok written := by
  by_cases hpixels : write.NonEmpty
  · obtain ⟨memory, hwritten, -⟩ := write_accepted h.toSized hwritable hpixels hrow
      (hpasses.fits (Nat.ne_of_gt hpixels.2))
    exact ⟨_, hwritten⟩
  · exact ⟨_, write_eq_self_of_empty h hwritable hrow hpasses hpixels hwithin⟩

/-- A write aborts in two places: where its rows overflow, and where it overruns after passing every
check. -/
theorem write_aborts_iff (h : staging.Formed) :
    staging.write write.region write.data write.stride = .error .abort ↔
      staging.writable = true ∧
        (write.Overflows staging.width staging.height staging.format.bytesPerPixel ∨
          write.Passes staging.width staging.height staging.format.bytesPerPixel ∧
            write.Overruns staging.height) := by
  constructor
  · intro haborts
    by_contra hother
    have hearly : ¬ (staging.writable = true ∧
        write.Overflows staging.width staging.height staging.format.bytesPerPixel) :=
      fun ⟨hwritable, hover⟩ => hother ⟨hwritable, .inl hover⟩
    by_cases hchecked : staging.writable = true ∧
        write.Passes staging.width staging.height staging.format.bytesPerPixel
    · obtain ⟨hwritable, hpasses⟩ := hchecked
      obtain ⟨written, hwritten⟩ := write_accepted_of_passes h hwritable
        (fun hover => hearly ⟨hwritable, hover⟩) hpasses
        fun hoverruns => hother ⟨hwritable, .inr ⟨hpasses, hoverruns⟩⟩
      cases hwritten.symm.trans haborts
    · obtain ⟨reason, hrefused⟩ := write_refused_of_not_passes hearly hchecked
      cases hrefused.symm.trans haborts
  · rintro ⟨hwritable, hrow | ⟨hpasses, hoverruns⟩⟩
    · exact write_of_overflows hwritable hrow
    · by_cases hrow : write.Overflows staging.width staging.height staging.format.bytesPerPixel
      · exact write_of_overflows hwritable hrow
      · rw [write_of_passes hwritable hrow hpasses, writeRegion_of_overruns h hpasses hoverruns]
        rfl

/-- A write that goes through passed the checks, its rows fitted and it did not overrun. -/
theorem checked_of_write_eq_ok {written : StagingTexture} (h : staging.Formed)
    (hwritten : staging.write write.region write.data write.stride = .ok written) :
    (staging.writable = true ∧
      write.Passes staging.width staging.height staging.format.bytesPerPixel) ∧
      ¬ write.Overflows staging.width staging.height staging.format.bytesPerPixel ∧
      ¬ write.Overruns staging.height := by
  have haborts : ¬ staging.write write.region write.data write.stride = .error .abort := by
    rw [hwritten]
    simp
  rw [write_aborts_iff h] at haborts
  have hearly : ¬ (staging.writable = true ∧
      write.Overflows staging.width staging.height staging.format.bytesPerPixel) :=
    fun ⟨hwritable, hover⟩ => haborts ⟨hwritable, .inl hover⟩
  have hchecked : staging.writable = true ∧
      write.Passes staging.width staging.height staging.format.bytesPerPixel := by
    by_contra hother
    obtain ⟨reason, hrefused⟩ := write_refused_of_not_passes hearly hother
    cases hrefused.symm.trans hwritten
  exact ⟨hchecked, fun hover => hearly ⟨hchecked.1, hover⟩,
    fun hoverruns => haborts ⟨hchecked.1, .inr ⟨hchecked.2, hoverruns⟩⟩⟩

/-- Writing changes neither the pixels a staging texture has nor the memory for them. -/
theorem formed_write {written : StagingTexture} (h : staging.Formed)
    (hwritten : staging.write write.region write.data write.stride = .ok written) :
    written.Formed := by
  obtain ⟨⟨hwritable, hpasses⟩, hrow, hwithin⟩ := checked_of_write_eq_ok h hwritten
  by_cases hpixels : write.NonEmpty
  · obtain ⟨memory, hmemory, hpaints⟩ := write_accepted h.toSized hwritable hpixels hrow
      (hpasses.fits (Nat.ne_of_gt hpixels.2))
    cases hwritten.symm.trans hmemory
    exact ⟨⟨h.bytes, h.pitch, hpaints.size.trans h.memory⟩, h.width, h.height⟩
  · cases hwritten.symm.trans (write_eq_self_of_empty h hwritable hrow hpasses hpixels hwithin)
    exact h

end StagingTexture

end Texel
