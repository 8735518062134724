import Texel.Alignment
import Texel.Error
import Texel.Upload.Rows

namespace Texel

/-- How the rows of a region lie in the caller's bytes and in upload memory. -/
structure UploadLayout where
  /-- The destination in the texture. -/
  region : Region
  /-- Bytes between rows in the caller's data. -/
  sourcePitch : Nat
  /-- Bytes of pixels in one row. -/
  rowBytes : Nat
  /-- Bytes between rows in upload memory. -/
  uploadPitch : Nat
  deriving DecidableEq, Repr

namespace UploadLayout

/-- Rows in upload memory start at multiples of `pitchAlignment`, counted from the first row.
Nothing if a row does not fit 32 bits or cannot be aligned in them; the program ends there. -/
def ofRegion? (region : Region) (bytesPerPixel sourcePitch pitchAlignment : Nat) :
    Option UploadLayout :=
  -- a row that does not fit leaves no room for the alignment either
  (alignPlain? (region.width * bytesPerPixel) pitchAlignment).map fun uploadPitch =>
    ⟨region, sourcePitch, region.width * bytesPerPixel, uploadPitch⟩

/-- Bytes of upload memory. -/
def uploadSize (layout : UploadLayout) : Nat :=
  layout.uploadPitch * layout.region.height

/-- The least number of source bytes that hold every row. The last row ends with its pixels. -/
def requiredSource (layout : UploadLayout) : Nat :=
  if layout.region.height = 0 then 0
  else (layout.region.height - 1) * layout.sourcePitch + layout.rowBytes

/-- A source of `length` bytes can be read with this layout. -/
def validateSource (layout : UploadLayout) (length : Nat) : Except TextureError Unit :=
  if layout.sourcePitch < layout.rowBytes then
    .error (.invalidParameter
      s!"source pitch {layout.sourcePitch} is smaller than a row of {layout.rowBytes} bytes")
  else if length < layout.requiredSource then
    .error (.invalidParameter s!"source holds {length} bytes, {layout.requiredSource} needed")
  else .ok ()

/-- Copies the rows of the source to upload memory that begins at `start`. -/
def write (layout : UploadLayout) (memory : Memory) (start : Nat) (source : ByteArray) : Memory :=
  memory.copyRows start layout.uploadPitch source layout.sourcePitch layout.region.height

/-- The sources that are accepted have wide enough rows and every byte that is read. -/
theorem validateSource_eq_ok_iff {layout : UploadLayout} {length : Nat} :
    layout.validateSource length = .ok () ↔
      layout.rowBytes ≤ layout.sourcePitch ∧ layout.requiredSource ≤ length := by
  unfold validateSource
  by_cases hp : layout.sourcePitch < layout.rowBytes
  · simp only [if_pos hp, reduceCtorEq, false_iff]
    omega
  · by_cases hl : length < layout.requiredSource
    · simp only [if_neg hp, if_pos hl, reduceCtorEq, false_iff]
      omega
    · simp only [if_neg hp, if_neg hl, true_iff]
      omega

end UploadLayout

end Texel
