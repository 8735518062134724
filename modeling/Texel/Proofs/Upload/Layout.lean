import Texel.Proofs.Alignment
import Texel.Proofs.Upload.Rows
import Texel.Upload.Layout

namespace Texel

namespace UploadLayout

/-- The layout of a region in exact numbers: rows are the least multiple of the alignment apart that
holds them. -/
def ofRegion (region : Region) (bytesPerPixel sourcePitch pitchAlignment : Nat) : UploadLayout :=
  let rowBytes := region.width * bytesPerPixel
  ⟨region, sourcePitch, rowBytes, alignUp rowBytes pitchAlignment⟩

/-- The layout comes out exact where a row fits 32 bits together with the alignment, and there
only. -/
theorem ofRegion?_eq {region : Region} {bytesPerPixel sourcePitch pitchAlignment : Nat}
    (hpower : pitchAlignment.isPowerOfTwo) :
    ofRegion? region bytesPerPixel sourcePitch pitchAlignment =
      if region.width * bytesPerPixel + pitchAlignment ≤ maxWord then
        some (ofRegion region bytesPerPixel sourcePitch pitchAlignment)
      else none := by
  unfold ofRegion?
  rw [alignPlain?_eq hpower]
  split
  · rfl
  · rfl

/-- There is no layout exactly if a row and one more alignment do not fit 32 bits. -/
theorem ofRegion?_eq_none_iff {region : Region} {bytesPerPixel sourcePitch pitchAlignment : Nat} :
    ofRegion? region bytesPerPixel sourcePitch pitchAlignment = none ↔
      maxWord < region.width * bytesPerPixel + pitchAlignment := by
  unfold ofRegion? alignPlain? alignWithin?
  split
  · simp only [Option.map_some, reduceCtorEq, false_iff]
    omega
  · simp only [Option.map_none, true_iff]
    omega

variable {layout : UploadLayout} {source : ByteArray} {row column : Nat}

/-- A source that can be read with a layout has every byte of every row. -/
theorem lt_size_of_validateSource (hvalid : layout.validateSource source.size = .ok ())
    (hrow : row < layout.region.height) (hcolumn : column < layout.rowBytes) :
    column < layout.sourcePitch ∧ row * layout.sourcePitch + column < source.size := by
  obtain ⟨hpitch, hrequired⟩ := validateSource_eq_ok_iff.mp hvalid
  refine ⟨Nat.lt_of_lt_of_le hcolumn hpitch, ?_⟩
  rw [requiredSource, if_neg (Nat.ne_of_gt (Nat.zero_lt_of_lt hrow))] at hrequired
  have hrows : row * layout.sourcePitch ≤ (layout.region.height - 1) * layout.sourcePitch :=
    Nat.mul_le_mul_right _ (Nat.le_sub_one_of_lt hrow)
  omega

/-- A source that can be read with a layout begins every row. -/
theorem height_le_rowCount (hvalid : layout.validateSource source.size = .ok ())
    (hbytes : 0 < layout.rowBytes) :
    layout.region.height ≤ rowCount source.size layout.sourcePitch := by
  by_contra hfew
  have hlast : layout.region.height - 1 < layout.region.height := by omega
  obtain ⟨hpitch, hinside⟩ := lt_size_of_validateSource hvalid hlast hbytes
  have hsize : source.size ≤ (layout.region.height - 1) * layout.sourcePitch :=
    le_mul_of_rowCount_le hpitch (by omega)
  omega

/-- Every byte of a row lies within the bytes of the upload. -/
theorem row_add_lt_uploadSize (hpitch : layout.rowBytes ≤ layout.uploadPitch)
    (hrow : row < layout.region.height) (hcolumn : column < layout.rowBytes) :
    row * layout.uploadPitch + column < layout.uploadSize := by
  rw [uploadSize, Nat.mul_comm layout.uploadPitch]
  exact (row_add_lt_iff (Nat.lt_of_lt_of_le hcolumn hpitch)).mpr hrow

/-- Where there is room for the upload, every byte of a row ends up where the layout puts it. -/
theorem byteAt_write_row {memory : Memory} {start : Nat}
    (hvalid : layout.validateSource source.size = .ok ())
    (hpitch : layout.rowBytes ≤ layout.uploadPitch)
    (hroom : start + layout.uploadSize ≤ memory.size) (hrow : row < layout.region.height)
    (hcolumn : column < layout.rowBytes) :
    (layout.write memory start source).byteAt (start + row * layout.uploadPitch + column) =
      byteOf source (row * layout.sourcePitch + column) := by
  have hinside := row_add_lt_uploadSize hpitch hrow hcolumn
  have hsource := lt_size_of_validateSource hvalid hrow hcolumn
  rw [write, Memory.byteAt_copyRows memory start source layout.region.height
    (Nat.lt_of_lt_of_le hcolumn hpitch) (by omega), if_pos ⟨hrow, hsource⟩]

end UploadLayout

end Texel
