import Texel.Proofs.Alignment
import Texel.Proofs.Texture.Upload
import Texel.Proofs.Upload.Layout
import Texel.Proofs.Vulkan.Copies

namespace Texel

/-- A texel of a format that has a size is a power of two of bytes. -/
theorem NativeFormat.bytesPerPixel_isPowerOfTwo {format : NativeFormat}
    (h : format.bytesPerPixel ≠ 0) : format.bytesPerPixel.isPowerOfTwo := by
  have hsizes : format.bytesPerPixel = 0 ∨ format.bytesPerPixel = 2 ^ 0 ∨
      format.bytesPerPixel = 2 ^ 1 ∨ format.bytesPerPixel = 2 ^ 2 := by
    cases format <;> decide
  rcases hsizes with hzero | hone | htwo | hfour
  · exact absurd hzero h
  · exact ⟨0, hone⟩
  · exact ⟨1, htwo⟩
  · exact ⟨2, hfour⟩

/-- The aligned bytes of a row are a whole number of texels, whichever is larger, the alignment or
the texel. -/
theorem dvd_alignUp_mul {width bytes alignment : Nat} (hbytes : bytes.isPowerOfTwo)
    (halignment : alignment.isPowerOfTwo) : bytes ∣ alignUp (width * bytes) alignment := by
  obtain ⟨texel, rfl⟩ := hbytes
  obtain ⟨exponent, rfl⟩ := halignment
  rcases Nat.le_total texel exponent with hle | hle
  · exact Nat.dvd_trans (Nat.pow_dvd_pow 2 hle) (dvd_alignUp _ _)
  · have hrow : 2 ^ exponent ∣ width * 2 ^ texel :=
      Nat.dvd_mul_left_of_dvd (Nat.pow_dvd_pow 2 hle) width
    rw [alignUp_of_dvd (Nat.two_pow_pos exponent) hrow]
    exact Nat.dvd_mul_left ..

/-- The copy that an upload asks for, of pixels that lie in a buffer from `offset` on. -/
def Texture.uploadCopy (texture : Texture) (layout : UploadLayout)
    (source : ResourceId) (offset : Nat) (destination : ResourceId) : BufferCopy where
  source
  sourceOffset := offset
  rowPitch := layout.uploadPitch
  format := texture.nativeFormat
  destination
  region := layout.region

namespace Vulkan

/-- The byte of the source buffer at which Vulkan reads a texel of the copied rectangle. -/
def ImageCopy.address (copy : ImageCopy) (bytesPerPixel column row : Nat) : Nat :=
  copy.offset + (row * copy.rowLength + column) * bytesPerPixel

/-- The copy reads the texels of a rectangle of the size of `region`, in rows that are `pitch` bytes
apart, from the byte `start` on. Every texel that it reads lies within `size` bytes. -/
structure ImageCopy.Reads (copy : ImageCopy) (region : Region)
    (bytesPerPixel pitch start size : Nat) : Prop where
  extent : copy.width = region.width ∧ copy.height = region.height
  row : copy.rowLength * bytesPerPixel = pitch
  width : region.width ≤ copy.rowLength
  texel : ∀ column row, column < region.width → row < region.height →
    copy.address bytesPerPixel column row = start + row * pitch + column * bytesPerPixel ∧
      copy.address bytesPerPixel column row + bytesPerPixel ≤ size

variable {origin : VulkanDevice} {request : BufferCopy} {copy : ImageCopy}

/-- A copy reads what it was asked for, if the rows are those of `width` texels, aligned to any
power of two. -/
theorem VulkanDevice.Encodes.reads {width alignment size : Nat} (h : origin.Encodes request copy)
    (hbytes : request.format.bytesPerPixel ≠ 0) (halignment : alignment.isPowerOfTwo)
    (hpitch : request.rowPitch = alignUp (width * request.format.bytesPerPixel) alignment)
    (hwidth : request.region.width ≤ width)
    (hroom : ∀ column row, column < request.region.width → row < request.region.height →
      request.sourceOffset + row * request.rowPitch + column * request.format.bytesPerPixel +
        request.format.bytesPerPixel ≤ size) :
    copy.Reads request.region request.format.bytesPerPixel request.rowPitch request.sourceOffset
      size := by
  have hpositive : 0 < request.format.bytesPerPixel := Nat.pos_of_ne_zero hbytes
  have hrow : copy.rowLength * request.format.bytesPerPixel = request.rowPitch := by
    rw [h.rowLength, Nat.max_eq_left hpositive, hpitch]
    exact Nat.div_mul_cancel
      (dvd_alignUp_mul (NativeFormat.bytesPerPixel_isPowerOfTwo hbytes) halignment)
  refine ⟨⟨h.width, h.height⟩, hrow, ?_, fun column row hcolumn hheight => ?_⟩
  · have hbound : width * request.format.bytesPerPixel ≤ request.rowPitch := by
      rw [hpitch]
      exact le_alignUp (Nat.pos_of_isPowerOfTwo halignment)
    rw [← hrow] at hbound
    exact Nat.le_trans hwidth (Nat.le_of_mul_le_mul_right hbound hpositive)
  · have haddress : copy.address request.format.bytesPerPixel column row =
        request.sourceOffset + row * request.rowPitch + column * request.format.bytesPerPixel := by
      rw [ImageCopy.address, h.offset, Nat.add_mul, Nat.mul_assoc, hrow, Nat.add_assoc]
    exact ⟨haddress, haddress ▸ hroom column row hcolumn hheight⟩

variable {texture : Texture} {region : Region} {layout : UploadLayout} {data : ByteArray}
  {memory : Memory} {pitch alignment start size : Nat}

/-- The last byte of a texel lies within the upload. -/
theorem texel_le_uploadSize
    (hlayout : texture.uploadLayout region pitch alignment = .ok layout)
    (halignment : alignment.isPowerOfTwo) {column row : Nat} (hcolumn : column < region.width)
    (hrow : row < region.height) :
    row * layout.uploadPitch + column * texture.nativeFormat.bytesPerPixel +
      texture.nativeFormat.bytesPerPixel ≤ layout.uploadSize := by
  obtain ⟨-, -, -, -, hbytes, -, rfl⟩ := Texture.uploadLayout_eq_ok halignment hlayout
  have hlast : column * texture.nativeFormat.bytesPerPixel +
      (texture.nativeFormat.bytesPerPixel - 1) <
        region.width * texture.nativeFormat.bytesPerPixel :=
    (row_add_lt_iff (by omega)).mpr hcolumn
  have hinside := @UploadLayout.row_add_lt_uploadSize
    (.ofRegion region texture.nativeFormat.bytesPerPixel pitch alignment) row _
    (le_alignUp (Nat.pos_of_isPowerOfTwo halignment)) hrow hlast
  omega

/-- The copy of an upload reads the rows of its layout. -/
theorem reads_upload {source destination : ResourceId}
    (h : origin.Encodes (texture.uploadCopy layout source start destination) copy)
    (hlayout : texture.uploadLayout region pitch alignment = .ok layout)
    (halignment : alignment.isPowerOfTwo) (hroom : start + layout.uploadSize ≤ size) :
    copy.Reads region texture.nativeFormat.bytesPerPixel layout.uploadPitch start size := by
  have hinside (column row : Nat) (hcolumn : column < region.width) (hrow : row < region.height) :=
    texel_le_uploadSize hlayout halignment hcolumn hrow
  obtain ⟨-, -, -, -, hbytes, -, rfl⟩ := Texture.uploadLayout_eq_ok halignment hlayout
  refine h.reads hbytes halignment rfl (Nat.le_refl region.width) fun column row hcolumn hrow => ?_
  have htexel := hinside column row hcolumn hrow
  simp only [Texture.uploadCopy]
  omega

/-- Where an upload was written, the bytes that are read for a texel are those of its pixel. -/
theorem byteAt_upload
    (hreads : copy.Reads region texture.nativeFormat.bytesPerPixel layout.uploadPitch start
      memory.size)
    (hlayout : texture.uploadLayout region pitch alignment = .ok layout)
    (halignment : alignment.isPowerOfTwo) (hvalid : layout.validateSource data.size = .ok ())
    (hroom : start + layout.uploadSize ≤ memory.size) {column row index : Nat}
    (hcolumn : column < region.width) (hrow : row < region.height)
    (hindex : index < texture.nativeFormat.bytesPerPixel) :
    (layout.write memory start data).byteAt
        (copy.address texture.nativeFormat.bytesPerPixel column row + index) =
      byteOf data (row * pitch + column * texture.nativeFormat.bytesPerPixel + index) := by
  rw [(hreads.texel column row hcolumn hrow).1, Nat.add_assoc _ _ index, Nat.add_assoc _ _ index]
  obtain ⟨-, -, -, -, -, -, rfl⟩ := Texture.uploadLayout_eq_ok halignment hlayout
  exact UploadLayout.byteAt_write_row hvalid (le_alignUp (Nat.pos_of_isPowerOfTwo halignment)) hroom
    hrow ((row_add_lt_iff hindex).mpr hcolumn)

end Vulkan

end Texel
