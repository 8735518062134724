import Texel.Proofs.Vulkan.Addressing

namespace Texel

open Context

/-- Whatever its device, a context is where it begins. -/
theorem Context.Intact.begins {good : Vulkan.VulkanDevice → Prop} {config : Config}
    {resource : ResourceId} {memory : Memory} {now : Context Vulkan.VulkanDevice}
    (h : Intact good config resource memory now) (context : Context Vulkan.VulkanDevice)
    (hcontext : context = now) : Intact now.device.Proceeds config resource memory context := by
  subst hcontext
  exact { h with device := .refl _ }

namespace Vulkan

namespace VulkanDevice

/-- No request but one for a copy adds any. -/
theorem preserves_proceeds (origin : VulkanDevice) : Device.Preserves origin.Proceeds :=
  preserves_of_proceeds fun _ _ h => h.trans

theorem preserves_copied (origin : VulkanDevice) (request : BufferCopy) :
    Device.Preserves (Copied origin request) :=
  preserves_of_proceeds fun _ _ h => h.proceeds

theorem preserves_follows (origin : VulkanDevice) : Device.Preserves origin.Follows :=
  preserves_of_proceeds fun _ _ h hafter => h.trans hafter.toFollows

end VulkanDevice

variable {origin : VulkanDevice} {now : Context VulkanDevice} {config : Config}
  {resource destination : ResourceId} {memory : Memory} {request : BufferCopy} {texture : Texture}
  {region : Region} {layout : UploadLayout} {data : ByteArray}

/-- A staging texture that has just been made on a device. -/
structure Fresh (config : Config) (width height : Nat) (format : NativeFormat) (writable : Bool)
    (device : VulkanDevice) (staging : StagingTexture) : Prop where
  columns : staging.width = width ∧ width ≠ 0
  rows : staging.height = height ∧ height ≠ 0
  pixels : staging.format = format ∧ format.bytesPerPixel ≠ 0
  stride : staging.pitch = alignUp (width * format.bytesPerPixel) config.pitchAlignment
  access : staging.writable = writable
  zeroed : staging.buffer.memory = .zeroed (staging.pitch * height)
  backs : device.Backs staging.buffer.resource staging.buffer.memory.size

/-- A staging texture is made on a buffer of its own, with rows as the parameters align them. -/
theorem meets_create_fresh (hpower : config.pitchAlignment.isPowerOfTwo) (width height : Nat)
    (format : NativeFormat) (writable : Bool) :
    (StagingTexture.create width height format writable).Meets
      (Intact origin.Proceeds config resource memory)
      (fun staging context => Intact origin.Proceeds config resource memory context ∧
        Fresh config width height format writable context.device staging)
      fun _ => Intact origin.Proceeds config resource memory := by
  refine .each fun now hnow => .get_of_eq ?_
  split
  · refine .after_log (.refuse ?_)
    rintro _ rfl
    exact hnow
  · next hpixels =>
    split
    · refine .after_log (.refuse ?_)
      rintro _ rfl
      exact hnow
    · next pitch hpitch =>
      rw [hnow.config] at hpitch
      refine .answer (.narrow (meets_tryDevice_intact (VulkanDevice.meets_createHostBuffer_backs _))
        fun _ h => h ▸ hnow) (fun buffer => ?_) fun error => .after_log (.refuse fun _ h => h)
      refine .bind (.lift (intact_count _)) fun _ => ?_
      refine .after_log (.pure ?_)
      intro context h
      obtain ⟨hdevice, hzeroed, hbacks⟩ := h.device
      refine ⟨{ h with device := hdevice }, ⟨rfl, by omega⟩, ⟨rfl, by omega⟩, ⟨rfl, by omega⟩,
        StagingTexture.pitch?_eq_some hpower hpitch, rfl, hzeroed, ?_⟩
      rw [hzeroed]
      exact hbacks

/-- The transitions around a copy add no copy. -/
theorem copied_asCopyDestination (texture : Texture) {commands : Act (Context VulkanDevice) Unit}
    (h : commands.Meets (Intact origin.Proceeds config resource memory)
      fun _ => Intact (VulkanDevice.Copied origin request) config resource memory) :
    (texture.asCopyDestination commands).Meets (Intact origin.Proceeds config resource memory)
      fun _ => Intact (VulkanDevice.Copied origin request) config resource memory :=
  .bind (Texture.intact_transition (VulkanDevice.preserves_proceeds origin) texture _) fun opened =>
    .bind h fun _ =>
      Texture.intact_transition (VulkanDevice.preserves_copied origin request) opened _

/-- Copying from a buffer into a texture asks the device for one copy, from that buffer. -/
theorem copied_copyFromBuffer (hresource : texture.resource = some destination)
    (layout : UploadLayout) (source : ResourceId) (offset : Nat)
    {refused : TextureError → Context VulkanDevice → Prop} :
    (texture.copyFromBuffer layout.region layout.uploadPitch source offset).Meets
      (Intact origin.Proceeds config resource memory)
      (fun _ => Intact (VulkanDevice.Copied origin
        (texture.uploadCopy layout source offset destination)) config resource memory)
      refused := by
  unfold Texture.copyFromBuffer
  rw [hresource]
  exact .lift (copied_asCopyDestination texture
    (meets_onDevice (VulkanDevice.meets_recordCopy_copied _)))

/-- What was written at the cursor is copied from there. -/
theorem copied_finishStream (hresource : texture.resource = some destination)
    (layout : UploadLayout) (start : Nat) {refused : TextureError → Context VulkanDevice → Prop} :
    (texture.finishStream layout).Meets
      (fun context => Intact origin.Proceeds config resource memory context ∧
        context.stream.ring.cursor = start)
      (fun _ => Intact (VulkanDevice.Copied origin
        (texture.uploadCopy layout resource start destination)) config resource memory)
      refused := by
  refine .each ?_
  rintro now ⟨hnow, rfl⟩
  refine .get_of_eq ?_
  refine .through (fun _ => Intact origin.Proceeds config resource memory)
    (.lift (.mono (intact_commit _) (fun _ h => h ▸ hnow) fun _ _ h => h)) fun _ => ?_
  rw [hnow.buffer]
  refine .bind (copied_copyFromBuffer hresource layout resource _) fun _ => ?_
  refine .bind (.lift (intact_count _)) fun _ => ?_
  exact .pure fun _ h => h

/-- An upload is written where space was granted, and copied from there. -/
theorem copied_uploadStreaming (hresource : texture.resource = some destination)
    (layout : UploadLayout) (data : ByteArray) :
    (texture.uploadStreaming layout data).Meets (Intact origin.Proceeds config resource memory)
      (fun _ context => ∃ start, start + layout.uploadSize ≤ memory.size ∧
        Intact (VulkanDevice.Copied origin (texture.uploadCopy layout resource start destination))
          config resource (layout.write memory start data) context)
      fun _ => Intact origin.Proceeds config resource memory := by
  refine .bind (Texture.meets_reserveSpace (VulkanDevice.preserves_proceeds origin) _)
    fun _ => .each ?_
  rintro now ⟨hnow, hreserved⟩
  have hroom := hnow.ring.reserved_le _ hreserved
  refine .through (fun _ context => Intact origin.Proceeds config resource
    (layout.write memory now.stream.ring.cursor data) context ∧
      context.stream.ring.cursor = now.stream.ring.cursor) (.lift ?_) fun _ => .mapError ?_
  · rintro _ rfl
    refine ⟨{ hnow with bytes := ?_, ring := ?_ }, rfl⟩
    · rw [← hnow.bytes]
      rfl
    · rw [UploadLayout.write, Memory.size_copyRows]
      exact hnow.ring
  · exact .answering (copied_finishStream hresource layout _) fun _ _ h => ⟨_, hroom, h⟩

/-- All pixels of a staging texture are copied before it is freed. -/
theorem copied_finishStaging (texture : Texture) (staging : StagingTexture) (layout : UploadLayout)
    (destination : ResourceId) :
    (texture.finishStaging staging layout destination).Meets
      (Intact origin.Proceeds config resource memory)
      fun _ => Intact (VulkanDevice.Copied origin (staging.stagingCopy destination layout.region))
        config resource memory := by
  have hcopyTo : (staging.copyTo
      { x := 0, y := 0, width := layout.region.width, height := layout.region.height } destination
      layout.region.x layout.region.y : Act (Context VulkanDevice) Unit) =
      onDevice (Device.recordCopy (staging.stagingCopy destination layout.region)) := by
    simp [StagingTexture.copyTo, StagingTexture.stagingCopy, StagingTexture.pixelOffset]
  have hpreserves := VulkanDevice.preserves_copied origin
    (staging.stagingCopy destination layout.region)
  unfold Texture.finishStaging
  dsimp only
  rw [hcopyTo]
  have hrecorded := @VulkanDevice.meets_recordCopy_copied origin
    (staging.stagingCopy destination layout.region)
  refine .bind (copied_asCopyDestination texture (meets_onDevice hrecorded)) fun _ => ?_
  refine .bind (StagingTexture.intact_destroy hpreserves staging false) fun _ => ?_
  refine .bind (intact_count _) fun _ => ?_
  exact .pure fun _ h => h

/-- The staging texture of an upload is as large as the upload. -/
theorem Fresh.memory_eq {device : VulkanDevice} {staging : StagingTexture} {pitch : Nat}
    (h : Fresh config region.width region.height texture.nativeFormat true device staging)
    (hpower : config.pitchAlignment.isPowerOfTwo)
    (hlayout : texture.uploadLayout region pitch config.pitchAlignment = .ok layout) :
    staging.buffer.memory = .zeroed layout.uploadSize := by
  obtain ⟨-, -, -, -, -, -, rfl⟩ := Texture.uploadLayout_eq_ok hpower hlayout
  rw [h.zeroed, h.stride]
  rfl

/-- It takes all its pixels. -/
theorem Fresh.write_whole {device : VulkanDevice} {staging : StagingTexture} {pitch : Nat}
    (h : Fresh config region.width region.height texture.nativeFormat true device staging)
    (hpower : config.pitchAlignment.isPowerOfTwo)
    (hlayout : texture.uploadLayout region pitch config.pitchAlignment = .ok layout)
    (hvalid : layout.validateSource data.size = .ok ()) :
    staging.write { x := 0, y := 0, width := region.width, height := region.height } data pitch =
      .ok { staging with buffer :=
        { staging.buffer with memory := layout.write (.zeroed layout.uploadSize) 0 data } } := by
  rw [← h.memory_eq hpower hlayout]
  obtain ⟨-, -, -, -, -, hsum, rfl⟩ := Texture.uploadLayout_eq_ok hpower hlayout
  have hword : region.width * texture.nativeFormat.bytesPerPixel < maxWord :=
    Nat.lt_of_lt_of_le (Nat.lt_add_of_pos_right (Nat.pos_of_isPowerOfTwo hpower)) hsum
  have hrow : region.width * texture.nativeFormat.bytesPerPixel =
      staging.width * staging.format.bytesPerPixel := by
    rw [h.columns.1, h.pixels.1]
  exact StagingTexture.write_whole h.access h.columns.1.symm h.rows.1.symm h.stride.symm hrow hword
    hvalid

/-- The copy of all pixels is that of the upload. -/
theorem Fresh.stagingCopy_eq {device : VulkanDevice} {staging : StagingTexture} {pitch : Nat}
    (h : Fresh config region.width region.height texture.nativeFormat true device staging)
    (hpower : config.pitchAlignment.isPowerOfTwo)
    (hlayout : texture.uploadLayout region pitch config.pitchAlignment = .ok layout)
    (memory : Memory) (destination : ResourceId) :
    StagingTexture.stagingCopy { staging with buffer := { staging.buffer with memory } } destination
        layout.region =
      texture.uploadCopy layout staging.buffer.resource 0 destination := by
  obtain ⟨-, -, -, -, -, -, rfl⟩ := Texture.uploadLayout_eq_ok hpower hlayout
  simp only [StagingTexture.stagingCopy, Texture.uploadCopy, h.stride, h.pixels.1,
    UploadLayout.ofRegion]

/-- An upload through a staging texture makes one, writes the pixels to it and asks for one copy
from its buffer. -/
theorem copied_uploadStaging {pitch : Nat} (hpower : config.pitchAlignment.isPowerOfTwo)
    (hresource : texture.resource = some destination)
    (hlayout : texture.uploadLayout region pitch config.pitchAlignment = .ok layout)
    (hvalid : layout.validateSource data.size = .ok ())
    (hnow : Intact now.device.Proceeds config resource memory now) :
    let made := (StagingTexture.create region.width region.height texture.nativeFormat true).run now
    let written := layout.write (.zeroed layout.uploadSize) 0 data
    (texture.uploadStaging layout data).Meets (fun context => context = now)
      (fun _ context => ∃ staging, made.value = .ok staging ∧
        staging.write { x := 0, y := 0, width := region.width, height := region.height } data
            pitch =
          .ok { staging with buffer := { staging.buffer with memory := written } } ∧
        now.device.Proceeds made.state.device ∧
        made.state.device.Backs staging.buffer.resource layout.uploadSize ∧
        Intact (VulkanDevice.Copied made.state.device
          (texture.uploadCopy layout staging.buffer.resource 0 destination)) config resource memory
          context)
      fun _ => Intact now.device.Proceeds config resource memory := by
  intro made written
  have hregion : layout.region = region ∧ layout.sourcePitch = pitch := by
    obtain ⟨-, -, -, -, -, -, rfl⟩ := Texture.uploadLayout_eq_ok hpower hlayout
    exact ⟨rfl, rfl⟩
  unfold Texture.uploadStaging
  rw [hresource]
  simp only [hregion]
  let create : Attempt TextureError (Context VulkanDevice) StagingTexture :=
    StagingTexture.create region.width region.height texture.nativeFormat true
  let outcome (staging : StagingTexture) (context : Context VulkanDevice) : Prop :=
    (made.value = .ok staging ∧ context = made.state) ∧
      Intact now.device.Proceeds config resource memory context ∧
      Fresh config region.width region.height texture.nativeFormat true context.device staging
  have hcreate : create.Meets (fun context => context = now) outcome
      fun _ => Intact now.device.Proceeds config resource memory := by
    have hfresh : create.Meets (fun context => context = now) (fun staging context =>
        Intact now.device.Proceeds config resource memory context ∧
        Fresh config region.width region.height texture.nativeFormat true context.device staging)
        fun _ => Intact now.device.Proceeds config resource memory :=
      .narrow (meets_create_fresh hpower _ _ _ _) (fun _ h => h ▸ hnow)
    exact ((Attempt.Meets.itself create now).both hfresh).refusing fun _ _ h => h.2
  refine .after_log ?_
  refine .bind (.mapError hcreate) fun staging => .each ?_
  rintro context ⟨⟨hvalue, rfl⟩, hintact, hfresh⟩
  have hwrite := hfresh.write_whole hpower hlayout hvalid
  simp only [hwrite]
  have hstart : Intact made.state.device.Proceeds config resource memory made.state :=
    { hintact with device := .refl _ }
  have hbacks := hfresh.backs
  rw [hfresh.memory_eq hpower hlayout] at hbacks
  have hfinish := @copied_finishStaging made.state.device config resource memory texture
    { staging with buffer := { staging.buffer with memory := written } } layout destination
  rw [hfresh.stagingCopy_eq hpower hlayout] at hfinish
  refine .lift (.mono hfinish ?_ fun _ _ h => ⟨staging, hvalue, hwrite, hintact.device, hbacks, h⟩)
  rintro _ rfl
  exact hstart

end Vulkan

end Texel
