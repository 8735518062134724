import Texel.Proofs.Staging.Empty
import Texel.Proofs.Vulkan.Uploads

namespace Texel

open Context

namespace Vulkan

variable {now : Context VulkanDevice} {config : Config} {resource destination : ResourceId}
  {memory : Memory} {texture : Texture} {region : Region} {layout : UploadLayout}
  {data : ByteArray} {pitch start : Nat}

/-- A context that an operation has left: the device has gone on from `origin`, and the stream
buffer is in place. -/
def Later (origin : VulkanDevice) (config : Config) (resource : ResourceId) (size : Nat)
    (context : Context VulkanDevice) : Prop :=
  ∃ memory : Memory, memory.size = size ∧ Intact origin.Follows config resource memory context

/-- An operation has recorded at most one copy, which is as in `good`. -/
structure Recorded (good : ImageCopy → Prop) (now after : Context VulkanDevice) : Prop where
  copies : now.device.Records after.device good
  later : Later now.device now.config now.stream.resource now.stream.memory.size after

/-- An operation that records no copy records good ones only. -/
theorem Recorded.of_proceeds {good : ImageCopy → Prop} {after : Context VulkanDevice}
    (h : Intact now.device.Proceeds now.config now.stream.resource now.stream.memory after) :
    Recorded good now after where
  copies := h.device.records
  later := ⟨now.stream.memory, rfl, { h with device := h.device.toFollows }⟩

/-- The copy that was asked for may come after other commands. -/
theorem Recorded.of_copied {good : ImageCopy → Prop} {middle : VulkanDevice} {request : BufferCopy}
    {after : Context VulkanDevice} (hsize : memory.size = now.stream.memory.size)
    (hmiddle : now.device.Proceeds middle)
    (h : Intact (VulkanDevice.Copied middle request) now.config now.stream.resource memory after)
    (hgood : ∀ copy, middle.Encodes request copy → good copy) : Recorded good now after where
  copies := .between hmiddle (h.device.copies.mono hgood) (.refl after.device)
  later := ⟨memory, hsize, { h with device := hmiddle.toFollows.trans h.device.toFollows }⟩

/-- Where the pixels of an upload lie when they are copied: in the stream buffer, or in a staging
texture that was made and written for them. -/
inductive Supplies (texture : Texture) (region : Region) (data : ByteArray) (pitch : Nat)
    (before after : Context VulkanDevice) (buffer : Nat) : Memory → Prop where
  | stream
    (hbuffer : before.device.IsBuffer before.stream.resource buffer after.stream.memory.size) :
    Supplies texture region data pitch before after buffer after.stream.memory
  | staging {staging written : StagingTexture}
    (hmade : ((StagingTexture.create region.width region.height texture.nativeFormat true).run
      before).value = .ok staging)
    (hwritten : staging.write { x := 0, y := 0, width := region.width, height := region.height }
      data pitch = .ok written)
    (hbuffer : ((StagingTexture.create region.width region.height texture.nativeFormat true).run
      before).state.device.IsBuffer staging.buffer.resource buffer written.buffer.memory.size) :
    Supplies texture region data pitch before after buffer written.buffer.memory

/-- The copy reads the pixels of an upload from where they were placed. -/
structure FetchesUpload (texture : Texture) (region : Region) (data : ByteArray) (pitch : Nat)
    (before after : Context VulkanDevice) (layout : UploadLayout) (memory : Memory) (start : Nat)
    (copy : ImageCopy) : Prop where
  layout_eq : texture.uploadLayout region pitch before.config.pitchAlignment = .ok layout
  supplies : Supplies texture region data pitch before after copy.buffer memory
  reads : copy.Reads region texture.nativeFormat.bytesPerPixel layout.uploadPitch start memory.size
  pixel : ∀ column row index, column < region.width → row < region.height →
    index < texture.nativeFormat.bytesPerPixel →
    memory.byteAt (copy.address texture.nativeFormat.bytesPerPixel column row + index) =
      byteOf data (row * pitch + column * texture.nativeFormat.bytesPerPixel + index)

/-- The copy of an upload fetches what was written before. -/
theorem fetches_written {before after : Context VulkanDevice} {origin : VulkanDevice}
    {source : ResourceId} {copy : ImageCopy}
    (hencodes : origin.Encodes (texture.uploadCopy layout source start destination) copy)
    (hlayout : texture.uploadLayout region pitch before.config.pitchAlignment = .ok layout)
    (halignment : before.config.pitchAlignment.isPowerOfTwo)
    (hvalid : layout.validateSource data.size = .ok ())
    (hroom : start + layout.uploadSize ≤ memory.size)
    (hsupplies : Supplies texture region data pitch before after copy.buffer
      (layout.write memory start data)) :
    FetchesUpload texture region data pitch before after layout (layout.write memory start data)
      start copy := by
  have hreads := reads_upload hencodes hlayout halignment hroom
  refine ⟨hlayout, hsupplies, ?_, fun _ _ _ hcolumn hrow hindex => byteAt_upload hreads hlayout
    halignment hvalid hroom hcolumn hrow hindex⟩
  rwa [UploadLayout.write, Memory.size_copyRows]

section Checked

variable (halignment : now.config.pitchAlignment.isPowerOfTwo)
  (hnow : Intact (fun device => device.Backs now.stream.resource now.stream.memory.size) now.config
    now.stream.resource now.stream.memory now)
  (hlayout : texture.uploadLayout region pitch now.config.pitchAlignment = .ok layout)
  (hvalid : layout.validateSource data.size = .ok ())
include halignment hnow hlayout hvalid

/-- An upload through the ring records copies that read the pixels from where they were written. -/
theorem fetches_uploadStreaming :
    let outcome := fun after => Recorded (fun copy => ∃ layout memory start,
      FetchesUpload texture region data pitch now after layout memory start copy) now after
    (texture.uploadStreaming layout data).Meets (fun context => context = now) (fun _ => outcome)
      fun _ => outcome := by
  intro outcome
  obtain ⟨⟨destination, hresource⟩, -⟩ := Texture.checked_of_uploadLayout hlayout
  refine .mono (copied_uploadStreaming hresource layout data) hnow.begins ?_
    fun _ _ h => .of_proceeds h
  rintro _ after ⟨start, hroom, hafter⟩
  have hsize : (layout.write now.stream.memory start data).size = now.stream.memory.size :=
    Memory.size_copyRows ..
  refine .of_copied hsize (.refl _) hafter fun copy hencodes => ⟨layout, _, start,
    fetches_written hencodes hlayout halignment hvalid hroom ?_⟩
  rw [← hafter.bytes]
  refine .stream ?_
  rw [hafter.bytes, hsize]
  exact hencodes.isBuffer hnow.device

/-- An upload through a staging texture records copies that read the pixels from its memory. -/
theorem fetches_uploadStaging :
    let outcome := fun after => Recorded (fun copy => ∃ layout memory start,
      FetchesUpload texture region data pitch now after layout memory start copy) now after
    (texture.uploadStaging layout data).Meets (fun context => context = now) (fun _ => outcome)
      fun _ => outcome := by
  intro outcome
  obtain ⟨⟨destination, hresource⟩, -⟩ := Texture.checked_of_uploadLayout hlayout
  refine .mono (copied_uploadStaging halignment hresource hlayout hvalid (hnow.begins now rfl))
    (fun _ h => h) ?_ fun _ _ h => .of_proceeds h
  rintro _ after ⟨staging, hmade, hwritten, hproceeds, hbacks, hafter⟩
  have hsize : (layout.write (.zeroed layout.uploadSize) 0 data).size = layout.uploadSize :=
    Memory.size_copyRows ..
  refine .of_copied rfl hproceeds hafter fun copy hencodes => ⟨layout, _, 0,
    fetches_written hencodes hlayout halignment hvalid (Nat.le_of_eq (Nat.zero_add _))
      (.staging hmade hwritten ?_)⟩
  simp only [hsize]
  exact hencodes.isBuffer hbacks

end Checked

/-- Every copy that an upload records reads the pixels it was given. -/
theorem fetches_load (halignment : now.config.pitchAlignment.isPowerOfTwo)
    (hnow : Intact (fun device => device.Backs now.stream.resource now.stream.memory.size)
      now.config now.stream.resource now.stream.memory now)
    (texture : Texture) (region : Region) (data : ByteArray) (pitch : Nat) :
    let outcome := fun after => Recorded (fun copy => ∃ layout memory start,
      FetchesUpload texture region data pitch now after layout memory start copy) now after
    (texture.load region data pitch).Meets (fun context => context = now) (fun _ => outcome)
      fun _ => outcome := by
  intro outcome
  have hnothing (context : Context VulkanDevice) (h : context = now) : outcome context :=
    .of_proceeds (hnow.begins context h)
  let laidOut (layout : UploadLayout) (context : Context VulkanDevice) : Prop :=
    texture.uploadLayout region pitch now.config.pitchAlignment = .ok layout ∧ context = now
  let checked (layout : UploadLayout) (context : Context VulkanDevice) : Prop :=
    laidOut layout context ∧ layout.validateSource data.size = .ok ()
  have hvalidated (layout : UploadLayout) : (Attempt.ofExcept (layout.validateSource data.size) :
      Attempt TextureError (Context VulkanDevice) Unit).Meets (laidOut layout)
      (fun _ => checked layout) fun _ => outcome :=
    .ofExcept (fun _ hvalid _ h => ⟨h, hvalid⟩) fun _ _ context h => hnothing context h.2
  refine .get_of_eq ?_
  refine .through laidOut ?_ fun layout => ?_
  · exact .ofExcept (fun _ hlayout _ h => ⟨hlayout, h⟩) fun _ _ => hnothing
  refine .bind (.mapError (hvalidated layout)) fun _ => .each ?_
  rintro now ⟨⟨hlayout, rfl⟩, hvalid⟩
  split
  · exact fetches_uploadStreaming halignment hnow hlayout hvalid
  · exact fetches_uploadStaging halignment hnow hlayout hvalid

/-- The copy reads what the caller has written of an update: rows from the cursor on, within the
space that is reserved. -/
structure FetchesUpdate (texture : Texture) (region : Region) (before : Context VulkanDevice)
    (layout : UploadLayout) (copy : ImageCopy) : Prop where
  layout_eq : texture.uploadLayout region 0 before.config.pitchAlignment = .ok layout
  reserved : ∃ reserved, before.stream.ring.reserved = some reserved ∧
    layout.uploadSize ≤ reserved ∧
    before.stream.ring.cursor + reserved ≤ before.stream.memory.size
  isBuffer : before.device.IsBuffer before.stream.resource copy.buffer before.stream.memory.size
  reads : copy.Reads region texture.nativeFormat.bytesPerPixel layout.uploadPitch
    before.stream.ring.cursor (before.stream.ring.cursor + layout.uploadSize)

/-- The end of an update records copies that read what the caller wrote where it was told to. -/
theorem fetches_endUpdate (halignment : now.config.pitchAlignment.isPowerOfTwo)
    (hnow : Intact (fun device => device.Backs now.stream.resource now.stream.memory.size)
      now.config now.stream.resource now.stream.memory now)
    (texture : Texture) (region : Region) :
    let outcome := Recorded (fun copy => ∃ layout, FetchesUpdate texture region now layout copy) now
    (texture.endUpdate region).Meets (fun context => context = now) (fun _ => outcome)
      fun _ => outcome := by
  intro outcome
  have hnothing (context : Context VulkanDevice) (h : context = now) : outcome context :=
    .of_proceeds (hnow.begins context h)
  refine .through (fun layout context =>
    texture.uploadLayout region 0 now.config.pitchAlignment = .ok layout ∧ context = now) ?_
    fun layout => .each ?_
  · refine .get_of_eq (.through (fun layout context =>
        texture.uploadLayout region 0 now.config.pitchAlignment = .ok layout ∧ context = now)
      (.ofExcept (fun _ hlayout _ h => ⟨hlayout, h⟩) fun _ _ => hnothing) fun layout => ?_)
    split
    · exact .pure fun _ h => h
    · exact .after_log (.refuse fun _ h => hnothing _ h.2)
  rintro now ⟨hlayout, rfl⟩
  refine .get_of_eq ?_
  dsimp only
  split
  · next hcovers =>
    obtain ⟨reserved, hreserved, hsize⟩ := (Option.any_eq_true _ _).mp hcovers
    obtain ⟨⟨destination, hresource⟩, -⟩ := Texture.checked_of_uploadLayout hlayout
    refine .mapError (.mono (copied_finishStream hresource layout now.stream.ring.cursor)
      (fun context h => ⟨hnow.begins context h, h ▸ rfl⟩) (fun _ after hafter =>
        .of_copied rfl (.refl _) hafter fun copy hencodes => ⟨layout, ?_⟩) fun _ _ h => h)
    exact
      { layout_eq := hlayout
        reserved := ⟨reserved, hreserved, of_decide_eq_true hsize,
          hnow.ring.reserved_le reserved hreserved⟩
        isBuffer := hencodes.isBuffer hnow.device
        reads := reads_upload hencodes hlayout halignment (Nat.le_refl _) }
  · exact .after_log (.refuse hnothing)

/-- What copies from a staging texture rely on: its rows are aligned pixels, and its memory is that
of a buffer on the device. -/
structure Grounded (config : Config) (device : VulkanDevice) (staging : StagingTexture) : Prop
    extends staging.Formed where
  stride : staging.pitch =
    alignUp (staging.width * staging.format.bytesPerPixel) config.pitchAlignment
  backs : device.Backs staging.buffer.resource staging.buffer.memory.size

/-- A staging texture stays on its buffer while the device follows. -/
theorem Grounded.follows {staging : StagingTexture} {before after : VulkanDevice}
    (h : Grounded config before staging) (hfollows : before.Follows after) :
    Grounded config after staging :=
  { h with backs := h.backs.follows hfollows }

/-- Writing changes the pixels of a staging texture only. -/
theorem Grounded.write {staging written : StagingTexture} {device : VulkanDevice}
    {write : PixelWrite} (h : Grounded config device staging)
    (hwritten : staging.write write.region write.data write.stride = .ok written) :
    Grounded config device written := by
  have hformed := StagingTexture.formed_write h.toFormed hwritten
  obtain ⟨memory, rfl⟩ := StagingTexture.write_eq_ok hwritten
  refine { hformed with stride := h.stride, backs := ?_ }
  have hbacks := h.backs
  rwa [h.memory, ← hformed.memory] at hbacks

/-- A staging texture that was just made is on a buffer of the device. -/
theorem Fresh.grounded {width height : Nat} {format : NativeFormat} {writable : Bool}
    {staging : StagingTexture} {device : VulkanDevice} (halignment : 0 < config.pitchAlignment)
    (h : Fresh config width height format writable device staging) :
    Grounded config device staging := by
  obtain ⟨⟨rfl, hwidth⟩, ⟨rfl, hheight⟩, ⟨rfl, hbytes⟩, hstride, -, hzeroed, hbacks⟩ := h
  refine ⟨⟨⟨by omega, ?_, ?_⟩, by omega, by omega⟩, hstride, hbacks⟩
  · rw [hstride]
    exact le_alignUp halignment
  · rw [hzeroed]
    rfl

/-- A write that went through has given its pixels their bytes. -/
theorem byteAt_written {staging written : StagingTexture} {write : PixelWrite}
    (h : staging.Formed)
    (hwritten : staging.write write.region write.data write.stride = .ok written) {x y index : Nat}
    (hx : x < staging.width) (hy : y < staging.height)
    (hindex : index < staging.format.bytesPerPixel)
    (hinside : write.region.contains x y = true) :
    written.buffer.memory.byteAt (staging.pixelOffset x y + index) =
      write.byte staging.format.bytesPerPixel x y index := by
  obtain ⟨⟨hwritable, hpasses⟩, hrow, -⟩ := StagingTexture.checked_of_write_eq_ok h hwritten
  have hpixels : write.NonEmpty := by
    have hcovers := Region.contains_iff.mp hinside
    unfold PixelWrite.NonEmpty
    omega
  obtain ⟨memory, hmemory, hpaints⟩ :=
    StagingTexture.write_accepted h.toSized hwritable hpixels hrow
    (hpasses.fits (Nat.ne_of_gt hpixels.2))
  cases hwritten.symm.trans hmemory
  exact (hpaints.bytes x y index hx hy hindex).trans (if_pos hinside)

/-- The copy reads a rectangle of a staging texture, whose pixels a write puts where the copy reads
their texels. -/
structure FetchesStaging (staging : StagingTexture) (source : Region) (before : VulkanDevice)
    (copy : ImageCopy) : Prop where
  isBuffer : before.IsBuffer staging.buffer.resource copy.buffer staging.buffer.memory.size
  reads : copy.Reads source staging.format.bytesPerPixel staging.pitch
    (staging.pixelOffset source.x source.y) staging.buffer.memory.size
  place : ∀ column row, column < source.width → row < source.height →
    copy.address staging.format.bytesPerPixel column row =
      staging.pixelOffset (source.x + column) (source.y + row)
  pixel : ∀ (write : PixelWrite) written,
    staging.write write.region write.data write.stride = .ok written →
    ∀ column row index, column < source.width → row < source.height →
      index < staging.format.bytesPerPixel →
      write.region.contains (source.x + column) (source.y + row) = true →
      written.buffer.memory.byteAt
          (copy.address staging.format.bytesPerPixel column row + index) =
        write.byte staging.format.bytesPerPixel (source.x + column) (source.y + row) index

/-- A copy from a staging texture reads every texel at the byte where it was written. -/
theorem fetches_copyTo {staging : StagingTexture} (halignment : config.pitchAlignment.isPowerOfTwo)
    (h : Grounded config now.device staging) {source : Region}
    (hsource : source.fitsWithin staging.width staging.height = true) (destination : ResourceId)
    (x y : Nat) :
    (staging.copyTo source destination x y).Meets (fun context => context = now)
      fun _ after =>
        now.device.Records after.device (FetchesStaging staging source now.device) := by
  rintro _ rfl
  obtain ⟨hcolumns, hrows⟩ := Region.fitsWithin_iff.mp hsource
  have hplace (column row : Nat) : staging.pixelOffset source.x source.y + row * staging.pitch +
      column * staging.format.bytesPerPixel =
        staging.pixelOffset (source.x + column) (source.y + row) := by
    simp only [StagingTexture.pixelOffset, Nat.add_mul]
    omega
  have hroom (column row : Nat) (hcolumn : column < source.width) (hrow : row < source.height) :
      staging.pixelOffset source.x source.y + row * staging.pitch +
        column * staging.format.bytesPerPixel + staging.format.bytesPerPixel ≤
          staging.buffer.memory.size := by
    have hbytes := h.bytes
    have hlast := @StagingTexture.Sized.pixelOffset_lt staging (source.x + column) (source.y + row)
      (staging.format.bytesPerPixel - 1) h.toSized (by omega) (by omega) (by omega)
    rw [hplace]
    omega
  refine (VulkanDevice.meets_recordCopy_copied _ _ (.refl _)).copies.mono fun copy hencodes => ?_
  have hreads := hencodes.reads (Nat.ne_of_gt h.bytes) halignment h.stride
    (show source.width ≤ staging.width by omega) hroom
  have haddress (column row : Nat) (hcolumn : column < source.width) (hrow : row < source.height) :
      copy.address staging.format.bytesPerPixel column row =
        staging.pixelOffset (source.x + column) (source.y + row) :=
    (hreads.texel column row hcolumn hrow).1.trans (hplace column row)
  exact
    { isBuffer := hencodes.isBuffer h.backs
      reads := ⟨hreads.extent, hreads.row, hreads.width, hreads.texel⟩
      place := haddress
      pixel := fun write written hwritten column row index hcolumn hrow hindex hinside => by
        rw [haddress column row hcolumn hrow]
        exact byteAt_written h.toFormed hwritten (by omega) (by omega) hindex hinside }

end Vulkan

end Texel
