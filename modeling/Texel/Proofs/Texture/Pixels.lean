import Texel.Proofs.Alignment
import Texel.Proofs.Texture.Upload
import Texel.Proofs.Upload.Layout

namespace Texel

open Simulated Context

/-- A copy that reads from `source` takes to a region of a texture the rows of `data`, which are
`pitch` bytes apart. Rows in the source are a multiple of the pitch alignment apart, all arithmetic
stays within 32 bits, and the last row ends within the source. -/
structure BufferCopy.Delivers (request : BufferCopy) (source : Memory) (texture : Texture)
    (region : Region) (data : ByteArray) (pitch pitchAlignment : Nat) : Prop where
  destination : texture.resource = some request.destination
  placed : request.region = region
  format : request.format = texture.nativeFormat
  fits : alignUp? (region.width * texture.nativeFormat.bytesPerPixel) pitchAlignment =
    some request.rowPitch
  aligned : pitchAlignment ∣ request.rowPitch
  wide : region.width * texture.nativeFormat.bytesPerPixel ≤ request.rowPitch
  inside : request.sourceOffset + request.rowPitch * region.height ≤ source.size
  pixels : ∀ row column, row < region.height →
    column < region.width * texture.nativeFormat.bytesPerPixel →
    row * pitch + column < data.size ∧
      source.byteAt (request.sourceOffset + row * request.rowPitch + column) =
        byteOf data (row * pitch + column)

namespace Texture

variable {texture : Texture} {resource : ResourceId} {origin context next : Context SimulatedDevice}
  {region : Region} {layout : UploadLayout} {data : ByteArray} {pitch : Nat}

/-- Where the copy of an upload reads, and which bytes are there when the upload comes to record it:
those of the stream buffer at an aligned offset if it has room for all rows, otherwise those of a
staging texture that was made for them and then written. -/
inductive ReadsFrom (texture : Texture) (data : ByteArray) (pitch : Nat)
    (origin next : Context SimulatedDevice) (request : BufferCopy) : Memory → Prop where
  | stream {layout : UploadLayout} {moment : Context SimulatedDevice}
    (hsize : request.rowPitch * request.region.height < origin.stream.ring.capacity)
    (hsource : request.source = origin.stream.resource)
    (haligned : origin.config.placementAlignment ∣ request.sourceOffset)
    (hcommands : moment.device.commands = origin.device.commands)
    (hnext : next = ((texture.finishStream layout).run moment).state) :
    ReadsFrom texture data pitch origin next request moment.stream.memory
  | staging {layout : UploadLayout} {staging written : StagingTexture}
    (hsize : origin.stream.ring.capacity ≤ request.rowPitch * request.region.height)
    (hmade : ((StagingTexture.create request.region.width request.region.height
      texture.nativeFormat true).run origin).value = .ok staging)
    (hwritten : staging.write
      { x := 0, y := 0, width := request.region.width, height := request.region.height } data
        pitch = .ok written)
    (hsource : request.source = written.buffer.resource)
    (hfresh : request.source = ⟨origin.device.nextId⟩)
    (hstart : request.sourceOffset = 0)
    (hnext : next = ((texture.finishStaging written layout request.destination).run
      ((StagingTexture.create request.region.width request.region.height texture.nativeFormat
        true).run origin).state).state) :
    ReadsFrom texture data pitch origin next request written.buffer.memory

/-- A copy of rows that were written as their layout says delivers the caller's pixels. -/
theorem delivers_layout {source : ResourceId} {memory : Memory} {start pitchAlignment : Nat}
    (hlayout : texture.uploadLayout region pitch pitchAlignment = .ok layout)
    (hvalid : layout.validateSource data.size = .ok ())
    (hresource : texture.resource = some resource) (hpower : pitchAlignment.isPowerOfTwo)
    (hfits : alignUp? layout.rowBytes pitchAlignment = some layout.uploadPitch)
    (hroom : start + layout.uploadSize ≤ memory.size) :
    BufferCopy.Delivers
      ⟨source, start, layout.uploadPitch, texture.nativeFormat, resource, layout.region⟩
      (layout.write memory start data) texture region data pitch pitchAlignment := by
  obtain ⟨-, -, -, -, -, -, rfl⟩ := uploadLayout_eq_ok hpower hlayout
  have hwide : region.width * texture.nativeFormat.bytesPerPixel ≤
      alignUp (region.width * texture.nativeFormat.bytesPerPixel) pitchAlignment :=
    le_alignUp (Nat.pos_of_isPowerOfTwo hpower)
  refine ⟨hresource, rfl, rfl, hfits, dvd_alignUp _ _, hwide, ?_, ?_⟩
  · rw [UploadLayout.write, Memory.size_copyRows]
    exact hroom
  · intro row column hrow hcolumn
    exact ⟨(UploadLayout.lt_size_of_validateSource hvalid hrow hcolumn).2,
      UploadLayout.byteAt_write_row hvalid hwide hroom hrow hcolumn⟩

/-- The layout of an upload rounds its rows up within 32 bits if the whole upload fits them. -/
theorem fits_uploadLayout {pitchAlignment : Nat}
    (hlayout : texture.uploadLayout region pitch pitchAlignment = .ok layout)
    (hpower : pitchAlignment.isPowerOfTwo) (hsize : layout.uploadSize ≤ maxWord) :
    alignUp? layout.rowBytes pitchAlignment = some layout.uploadPitch := by
  obtain ⟨-, hwidth, hheight, -, hbytes, -, rfl⟩ := uploadLayout_eq_ok hpower hlayout
  refine alignUp?_eq_some hpower ?_ (Nat.le_trans ?_ hsize)
  · exact Nat.mul_pos (Nat.pos_of_ne_zero hwidth) (Nat.pos_of_ne_zero hbytes)
  · exact Nat.le_mul_of_pos_right _ (Nat.pos_of_ne_zero hheight)

/-- An upload that was accepted has recorded one copy, and it delivers the caller's pixels. -/
theorem Loaded.delivers (h : origin.Streams) (hword : origin.stream.ring.capacity ≤ maxWord)
    (hresource : texture.resource = some resource)
    (hlayout : texture.uploadLayout region pitch origin.config.pitchAlignment = .ok layout)
    (hvalid : layout.validateSource data.size = .ok ())
    (hloaded : Loaded texture resource layout data origin next) :
    ∃ request source commands,
      next.device.commands = origin.device.commands ++ List.toArray commands ∧
      commands.filterMap Command.copy? = [request] ∧
      request.Delivers source texture region data pitch origin.config.pitchAlignment ∧
      ReadsFrom texture data pitch origin next request source := by
  cases hloaded with
  | @streaming base hsize hbase =>
    have hstreams := hbase.evolves.streams h
    have hend := hstreams.inside.reserved_le _ hbase.reserved
    refine ⟨texture.streamCopy resource layout (filled layout data base),
      (filled layout data base).stream.memory, _,
      congrArg (· ++ _) hbase.commands, copies_bracketed _, ?_, ?_⟩
    · exact delivers_layout hlayout hvalid hresource h.pitch
        (fits_uploadLayout hlayout h.pitch (by omega)) hend
    · have hconfig := hbase.evolves.continues.config
      have hreserved : (filled layout data base).stream.ring.reserved = some layout.uploadSize :=
        hbase.reserved
      obtain ⟨-, hfinish⟩ := run_finishStream hresource hreserved (Nat.le_refl _)
      exact .stream hsize hbase.evolves.continues.resource (hconfig ▸ hbase.aligned) hbase.commands
        hfinish.symm
  | staging hsize hstaged =>
    let staging := texture.stagingOf layout data ⟨origin.device.nextId⟩
    have hrow : layout.rowBytes = layout.region.width * texture.nativeFormat.bytesPerPixel ∧
        layout.sourcePitch = pitch := by
      obtain ⟨-, -, -, -, -, -, rfl⟩ := uploadLayout_eq_ok h.pitch hlayout
      exact ⟨rfl, rfl⟩
    obtain ⟨-, hsteady⟩ := meets_finishStaging hresource staging layout
      (StagingTexture.staged origin layout.uploadSize) rfl
    refine ⟨staging.stagingCopy resource layout.region, staging.buffer.memory, _,
      hsteady.timeline.commands, copies_bracketed _, ?_, ?_⟩
    · exact delivers_layout hlayout hvalid hresource h.pitch
        (hrow.1 ▸ StagingTexture.alignUp?_of_pitch? hstaged.pitch_eq)
        (Nat.le_of_eq (Nat.zero_add _))
    · have hwritten := hstaged.written
      rw [hrow.2] at hwritten
      have hnext := congrArg
        (fun now => ((texture.finishStaging staging layout resource).run now).state)
        hstaged.state_eq.symm
      exact .staging hsize hstaged.made hwritten rfl rfl rfl hnext

end Texture

end Texel
