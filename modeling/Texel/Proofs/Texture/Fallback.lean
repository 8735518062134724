import Texel.Proofs.Table
import Texel.Proofs.Texture.Upload

namespace Texel

open Simulated Context

namespace StagingTexture

section Rows

variable {width alignment : Nat} {format : NativeFormat} (hwidth : width ≤ Dimension.maxWidth)
  (hpower : alignment.isPowerOfTwo) (hword : alignment ≤ maxWord)
include hwidth hpower hword

/-- Rows no wider than a texture can be leave room for every alignment of at most 32 bits. -/
theorem row_add_le_maxWord : width * format.bytesPerPixel + alignment ≤ maxWord := by
  have hrow : width * format.bytesPerPixel ≤ Dimension.maxWidth * 4 :=
    Nat.mul_le_mul hwidth format.bytesPerPixel_le_four
  have halignment := le_two_pow_of_isPowerOfTwo hpower hword
  unfold Dimension.maxWidth at hrow
  unfold maxWord
  omega

/-- Such rows have a pitch. -/
theorem pitch?_eq_alignUp :
    pitch? width format alignment = some (alignUp (width * format.bytesPerPixel) alignment) := by
  have hrow := @row_add_le_maxWord width alignment format hwidth hpower hword
  unfold pitch?
  rw [if_neg (by omega), alignUp?_eq hpower, if_pos (by omega)]

end Rows

variable {width height pitch : Nat} {format : NativeFormat} {writable : Bool}
  {context : Context SimulatedDevice}

/-- The checks of a new staging texture pass: its pixels have a size, and its rows the pitch. -/
structure Stageable (context : Context SimulatedDevice) (width height : Nat)
    (format : NativeFormat) (rowPitch : Nat) : Prop where
  bytes : format.bytesPerPixel ≠ 0
  columns : width ≠ 0
  rows : height ≠ 0
  pitch_eq : pitch? width format context.config.pitchAlignment = some rowPitch

/-- When the checks pass, it is for the device to say whether there is a staging texture. -/
theorem run_create (h : Stageable context width height format pitch) :
    (create width height format writable).run context =
      (createWithPitch width height format pitch writable).run context := by
  have hpixels : ¬ (format.bytesPerPixel = 0 ∨ width = 0 ∨ height = 0) := by
    rintro (hbytes | hwidth | hheight)
    · exact h.bytes hbytes
    · exact h.columns hwidth
    · exact h.rows hheight
  unfold create
  rw [Attempt.run_bind, Attempt.run_get]
  simp only [hpixels, if_false]
  rw [h.pitch_eq]
  rfl

/-- A refusal of the device is passed on with its reason. -/
theorem value_createWithPitch_error {error : TextureError}
    (hbuffer : ((Device.createHostBuffer (pitch * height) :
      Attempt TextureError SimulatedDevice HostBuffer).run context.device).value = .error error) :
    ((createWithPitch width height format pitch writable).run context).value =
      .error (.stagingFailure error.message) := by
  simp only [createWithPitch, Attempt.run_bind, Attempt.run_answer, tryDevice, Attempt.run_focus,
    hbuffer, Attempt.run_log, Attempt.run_refuse]

/-- With a buffer from the device, the staging texture has its rows in that. -/
theorem value_createWithPitch_ok {buffer : HostBuffer}
    (hbuffer : ((Device.createHostBuffer (pitch * height) :
      Attempt TextureError SimulatedDevice HostBuffer).run context.device).value = .ok buffer) :
    ((createWithPitch width height format pitch writable).run context).value =
      .ok ⟨buffer, width, height, format, pitch, writable⟩ := by
  simp only [createWithPitch, Attempt.run_bind, Attempt.run_answer, tryDevice, Attempt.run_focus,
    hbuffer, Attempt.run_log, Attempt.run_lift, Attempt.run_pure]

/-- The context after the staging buffer of an upload is freed. -/
def unstaged (context : Context SimulatedDevice) (id : ResourceId) : Context SimulatedDevice :=
  { context with
    device := { context.device with
      resources := context.device.resources.erase id
      destroyedCount := context.device.destroyedCount + 1 } }.counted fun stats =>
    { stats with stagingDestroyed := stats.stagingDestroyed + 1 }

/-- What destroying a staging texture at once leaves. -/
theorem state_destroy {staging : StagingTexture}
    (hlive : context.device.isLive staging.buffer.resource = true) :
    ((staging.destroy false).run context).state =
      unstaged context staging.buffer.resource := by
  have hfreed := (SimulatedDevice.state_destroyResource context.device
    staging.buffer.resource).trans (if_pos hlive)
  exact congrArg (fun device => ({ context with device }.counted fun stats =>
    { stats with stagingDestroyed := stats.stagingDestroyed + 1 })) hfreed

end StagingTexture

namespace Texture

variable {texture : Texture} {resource : ResourceId} {origin : Context SimulatedDevice}

/-- The context after an upload through a staging buffer that has come and gone: the identifier of
the buffer is used up, and what is left are the commands and the counters. -/
def fallenBack (context : Context SimulatedDevice) (commands : List Command) :
    Context SimulatedDevice :=
  { context with device := { context.device with
      nextId := context.device.nextId + 1
      commands := context.device.commands ++ commands.toArray
      destroyedCount := context.device.destroyedCount + 1 } }.counted fun stats =>
    { stats with
      stagingUploads := stats.stagingUploads + 1
      stagingCreated := stats.stagingCreated + 1
      stagingDestroyed := stats.stagingDestroyed + 1 }

/-- The buffer made for an upload is gone after it, and no other. -/
theorem state_finishStaging {layout : UploadLayout} {staging : StagingTexture} {size : Nat}
    (hresource : texture.resource = some resource)
    (hid : staging.buffer.resource = ⟨origin.device.nextId⟩)
    (hfresh : origin.device.isLive ⟨origin.device.nextId⟩ = false) :
    ((texture.finishStaging staging layout resource).run
        (StagingTexture.staged origin size)).state =
      fallenBack origin (texture.stagingCommands resource staging layout) := by
  have habsent : origin.device.resources.get? ⟨origin.device.nextId⟩ = none := by
    simpa [SimulatedDevice.isLive, Table.contains] using hfresh
  obtain ⟨-, hcopied⟩ := run_asCopyDestination hresource
    (staging.state_copyTo resource layout.region) (StagingTexture.staged origin size)
  have hlive : ((StagingTexture.staged origin size).recorded
      (texture.stagingCommands resource staging layout)).device.isLive staging.buffer.resource =
        true := by
    rw [hid]
    simp [SimulatedDevice.isLive, Table.contains, StagingTexture.staged, recorded, counted,
      SimulatedDevice.recorded, SimulatedDevice.registered, Table.get?_insert]
  have hdestroyed := StagingTexture.state_destroy hlive
  unfold finishStaging
  simp only [stagingCommands] at hdestroyed ⊢
  simp only [Act.run_bind, Act.run_pure, hcopied, hdestroyed, count, Act.run_modify, hid]
  simp only [StagingTexture.unstaged, StagingTexture.staged, recorded, counted, fallenBack,
    SimulatedDevice.recorded, SimulatedDevice.registered, Table.erase_insert habsent]

section Staging

variable {layout : UploadLayout} {data : ByteArray}

/-- What an upload through staging asks for: checks that pass, and a source that can be read. -/
structure CanStage (texture : Texture) (layout : UploadLayout) (data : ByteArray)
    (origin : Context SimulatedDevice) : Prop where
  stageable : StagingTexture.Stageable origin layout.region.width layout.region.height
    texture.nativeFormat layout.uploadPitch
  row : layout.rowBytes = layout.region.width * texture.nativeFormat.bytesPerPixel
  word : layout.rowBytes < maxWord
  valid : layout.validateSource data.size = .ok ()

/-- Without a buffer the upload is refused, with the reason that the device gives. -/
theorem run_uploadStaging_error {error : TextureError} (h : texture.CanStage layout data origin)
    (hresource : texture.resource = some resource)
    (hbuffer : ((Device.createHostBuffer layout.uploadSize :
      Attempt TextureError SimulatedDevice HostBuffer).run origin.device).value = .error error) :
    ((texture.uploadStaging layout data).run origin).value =
      .error (.refused (.stagingFailure error.message)) := by
  have hcreate := (congrArg Outcome.value (StagingTexture.run_create h.stageable)).trans
    (@StagingTexture.value_createWithPitch_error _ _ _ _ true _ _ hbuffer)
  simp only [uploadStaging, hresource, Attempt.run_bind, Attempt.run_log, Attempt.run_mapError,
    hcreate, Except.mapError]

/-- With a buffer there is a staging texture with the pitch and the size of the layout, and it takes
all pixels. -/
theorem made_of_granted {buffer : HostBuffer} (h : texture.CanStage layout data origin)
    (hbuffer : ((Device.createHostBuffer layout.uploadSize :
      Attempt TextureError SimulatedDevice HostBuffer).run origin.device).value = .ok buffer) :
    let staging : StagingTexture := ⟨buffer, layout.region.width, layout.region.height,
      texture.nativeFormat, layout.uploadPitch, true⟩
    let made := (StagingTexture.create layout.region.width layout.region.height
      texture.nativeFormat true).run origin
    (made.value = .ok staging ∧ made.state = StagingTexture.staged origin layout.uploadSize) ∧
      buffer.memory.size = layout.uploadSize ∧
      staging.write { x := 0, y := 0, width := layout.region.width, height := layout.region.height }
        data layout.sourcePitch = .ok (texture.stagingOf layout data ⟨origin.device.nextId⟩) := by
  intro staging made
  have hcreate : made.value = .ok staging := (congrArg Outcome.value (StagingTexture.run_create
    h.stageable)).trans (StagingTexture.value_createWithPitch_ok hbuffer)
  obtain ⟨hmade, -⟩ := (StagingTexture.meets_create origin layout.region.width layout.region.height
    texture.nativeFormat true).of_run rfl
  obtain ⟨-, pitch, hpitch, hstaging, hstate⟩ := hmade _ hcreate
  obtain rfl : layout.uploadPitch = pitch :=
    Option.some.inj (h.stageable.pitch_eq.symm.trans hpitch)
  obtain rfl : buffer = ⟨⟨origin.device.nextId⟩, .zeroed layout.uploadSize⟩ :=
    congrArg StagingTexture.buffer hstaging
  exact ⟨⟨hcreate, hstate⟩, rfl, StagingTexture.write_whole rfl rfl rfl rfl h.row h.word h.valid⟩

/-- With a buffer the upload goes through: the write is accepted, and the buffer is freed again. -/
theorem run_uploadStaging_ok {buffer : HostBuffer} (h : texture.CanStage layout data origin)
    (hresource : texture.resource = some resource)
    (hfresh : origin.device.isLive ⟨origin.device.nextId⟩ = false)
    (hbuffer : ((Device.createHostBuffer layout.uploadSize :
      Attempt TextureError SimulatedDevice HostBuffer).run origin.device).value = .ok buffer) :
    ((texture.uploadStaging layout data).run origin).value = .ok texture ∧
      ((texture.uploadStaging layout data).run origin).state = fallenBack origin
        (texture.stagingCommands resource (texture.stagingOf layout data ⟨origin.device.nextId⟩)
          layout) := by
  obtain ⟨⟨hcreate, hstate⟩, -, hwrite⟩ := made_of_granted h hbuffer
  obtain ⟨hvalue, -⟩ := meets_finishStaging hresource
    (texture.stagingOf layout data ⟨origin.device.nextId⟩) layout
    (StagingTexture.staged origin layout.uploadSize) rfl
  simp only [uploadStaging, hresource, Attempt.run_bind, Attempt.run_log, Attempt.run_mapError,
    hcreate, hstate, Except.mapError, hwrite, Attempt.run_lift]
  exact ⟨congrArg Except.ok hvalue, state_finishStaging hresource rfl hfresh⟩

/-- An upload that the stream buffer can never hold goes through staging. -/
theorem run_load_of_large {region : Region} {pitch : Nat}
    (hlayout : texture.uploadLayout region pitch origin.config.pitchAlignment = .ok layout)
    (hvalid : layout.validateSource data.size = .ok ())
    (hsize : origin.stream.ring.capacity ≤ layout.uploadSize) :
    ((texture.load region data pitch).run origin).value =
        ((texture.uploadStaging layout data).run origin).value ∧
      ((texture.load region data pitch).run origin).state =
        ((texture.uploadStaging layout data).run origin).state := by
  unfold load
  simp only [Attempt.run_bind, Attempt.run_get, Attempt.run_mapError, Attempt.run_ofExcept, hlayout,
    hvalid, Except.mapError, Nat.not_lt_of_le hsize, if_false]
  exact ⟨trivial, trivial⟩

end Staging

end Texture

end Texel
