import Texel.Proofs.Device.Objects
import Texel.Proofs.Staging
import Texel.Proofs.Texture.Stream

namespace Texel

open Simulated Context

/-- The request itself is at fault: the texture is empty or a parameter is wrong. -/
def TextureError.isInvalid : TextureError → Bool
  | .invalidTexture | .invalidParameter _ => true
  | _ => false

/-- A source that cannot be read is called invalid. -/
theorem UploadLayout.isInvalid_of_validateSource {layout : UploadLayout} {length : Nat}
    {error : TextureError} (h : layout.validateSource length = .error error) :
    error.isInvalid = true := by
  unfold validateSource at h
  split at h
  · exact Except.error.inj h ▸ rfl
  · split at h
    · exact Except.error.inj h ▸ rfl
    · cases h

namespace Texture

variable {texture : Texture} {region : Region} {layout : UploadLayout}
  {sourcePitch pitchAlignment : Nat}

/-- A texture that can take an upload owns a resource with pixels of a known size, and the region is
one of its parts. -/
theorem checked_of_uploadLayout
    (h : texture.uploadLayout region sourcePitch pitchAlignment = .ok layout) :
    (∃ resource, texture.resource = some resource) ∧ region.width ≠ 0 ∧ region.height ≠ 0 ∧
      region.fitsWithin texture.width texture.height = true ∧
      texture.nativeFormat.bytesPerPixel ≠ 0 ∧
      UploadLayout.ofRegion? region texture.nativeFormat.bytesPerPixel sourcePitch pitchAlignment =
        some layout := by
  unfold uploadLayout at h
  simp only at h
  split at h
  · cases h
  · next hvalid =>
    split at h
    · cases h
    · next hregion =>
      split at h
      · cases h
      · next hbytes =>
        cases hlayout : UploadLayout.ofRegion? region texture.nativeFormat.bytesPerPixel
            sourcePitch pitchAlignment with
        | none =>
          rw [hlayout] at h
          cases h
        | some found =>
          rw [hlayout] at h
          cases h
          refine ⟨?_, by omega, by omega, ?_, hbytes, rfl⟩
          · rw [isValid, Bool.not_eq_false] at hvalid
            exact Option.isSome_iff_exists.mp hvalid
          · cases hfits : region.fitsWithin texture.width texture.height
            · exact absurd (.inr (.inr hfits)) hregion
            · rfl

/-- The layout of an upload is exact, and a row of it leaves room for the alignment. -/
theorem uploadLayout_eq_ok (hpower : pitchAlignment.isPowerOfTwo)
    (h : texture.uploadLayout region sourcePitch pitchAlignment = .ok layout) :
    (∃ resource, texture.resource = some resource) ∧ region.width ≠ 0 ∧ region.height ≠ 0 ∧
      region.fitsWithin texture.width texture.height = true ∧
      texture.nativeFormat.bytesPerPixel ≠ 0 ∧
      region.width * texture.nativeFormat.bytesPerPixel + pitchAlignment ≤ maxWord ∧
      layout = .ofRegion region texture.nativeFormat.bytesPerPixel sourcePitch pitchAlignment := by
  obtain ⟨hresource, hwidth, hheight, hfits, hbytes, hlayout⟩ := checked_of_uploadLayout h
  rw [UploadLayout.ofRegion?_eq hpower] at hlayout
  split at hlayout
  · next hrow =>
    exact ⟨hresource, hwidth, hheight, hfits, hbytes, hrow, (Option.some.inj hlayout).symm⟩
  · cases hlayout

/-- Why an upload has no layout. -/
inductive NoLayout (texture : Texture) (region : Region) (pitchAlignment : Nat) : Fault → Prop where
  /-- The texture is empty or a parameter is wrong. -/
  | invalid {error : TextureError} (h : error.isInvalid = true) :
    NoLayout texture region pitchAlignment (.refused error)
  /-- The region is a part of the texture, but a row of it cannot be aligned. -/
  | overflow (hfits : region.fitsWithin texture.width texture.height = true)
    (h : maxWord < region.width * texture.nativeFormat.bytesPerPixel + pitchAlignment) :
    NoLayout texture region pitchAlignment .abort

/-- A texture that cannot take an upload says that it is empty or that a parameter is wrong, unless
a row of the region cannot be aligned. -/
theorem noLayout_of_uploadLayout {fault : Fault}
    (h : texture.uploadLayout region sourcePitch pitchAlignment = .error fault) :
    NoLayout texture region pitchAlignment fault := by
  unfold uploadLayout at h
  simp only at h
  split at h
  · exact Except.error.inj h ▸ .invalid rfl
  · split at h
    · exact Except.error.inj h ▸ .invalid rfl
    · next hregion =>
      split at h
      · exact Except.error.inj h ▸ .invalid rfl
      · cases hlayout : UploadLayout.ofRegion? region texture.nativeFormat.bytesPerPixel
            sourcePitch pitchAlignment with
        | none =>
          rw [hlayout] at h
          have hfits : region.fitsWithin texture.width texture.height = true := by
            rw [not_or, not_or, Bool.not_eq_false] at hregion
            exact hregion.2.2
          exact Except.error.inj h ▸
            .overflow hfits (UploadLayout.ofRegion?_eq_none_iff.mp hlayout)
        | some found =>
          rw [hlayout] at h
          cases h

/-- An upload that has a layout has at least one byte. -/
theorem uploadSize_pos (hpower : pitchAlignment.isPowerOfTwo)
    (h : texture.uploadLayout region sourcePitch pitchAlignment = .ok layout) :
    0 < layout.uploadSize := by
  obtain ⟨-, hwidth, hheight, -, hbytes, -, rfl⟩ := uploadLayout_eq_ok hpower h
  have hrow : 0 < region.width * texture.nativeFormat.bytesPerPixel :=
    Nat.mul_pos (Nat.pos_of_ne_zero hwidth) (Nat.pos_of_ne_zero hbytes)
  have hle : region.width * texture.nativeFormat.bytesPerPixel ≤
      alignUp (region.width * texture.nativeFormat.bytesPerPixel) pitchAlignment :=
    le_alignUp (Nat.pos_of_isPowerOfTwo hpower)
  exact Nat.mul_pos (Nat.lt_of_lt_of_le hrow hle) (Nat.pos_of_ne_zero hheight)

end Texture

namespace StagingTexture

/-- The context with a new staging buffer of that many bytes. -/
def staged (context : Context SimulatedDevice) (size : Nat) : Context SimulatedDevice :=
  { context with device := context.device.registered (.buffer size) }.counted fun stats =>
    { stats with stagingCreated := stats.stagingCreated + 1 }

/-- The context after an allocation that the device was asked to fail. -/
def refusedAllocation (context : Context SimulatedDevice) : Context SimulatedDevice :=
  { context with device := context.device.refusedAllocation }

/-- The pitch of a staging texture is that of a full row, rounded up under the guard. -/
theorem alignUp?_of_pitch? {width alignment pitch : Nat} {format : NativeFormat}
    (h : pitch? width format alignment = some pitch) :
    alignUp? (width * format.bytesPerPixel) alignment = some pitch := by
  unfold pitch? at h
  split at h
  · cases h
  · exact h

/-- The pitch of a staging texture is the least multiple of the alignment that holds a row. -/
theorem pitch?_eq_some {width alignment pitch : Nat} {format : NativeFormat}
    (hpower : alignment.isPowerOfTwo) (h : pitch? width format alignment = some pitch) :
    pitch = alignUp (width * format.bytesPerPixel) alignment := by
  obtain ⟨-, hrounded⟩ := (alignUp?_eq_some_iff hpower).mp (alignUp?_of_pitch? h)
  exact hrounded.symm

/-- The pitch of staging rows holds their pixels and fits 32 bits. -/
theorem bounds_of_pitch? {width alignment pitch : Nat} {format : NativeFormat}
    (hpower : alignment.isPowerOfTwo) (h : pitch? width format alignment = some pitch) :
    width * format.bytesPerPixel ≤ pitch ∧ pitch ≤ maxWord := by
  have hpositive := Nat.pos_of_isPowerOfTwo hpower
  obtain ⟨hpadded, rfl⟩ := (alignUp?_eq_some_iff hpower).mp (alignUp?_of_pitch? h)
  have hlt := @alignUp_lt_add (width * format.bytesPerPixel) alignment hpositive
  exact ⟨le_alignUp hpositive, by omega⟩

/-- A staging texture comes with zeroed memory under the next identifier. -/
theorem meets_create (origin : Context SimulatedDevice) (width height : Nat) (format : NativeFormat)
    (writable : Bool) :
    (create width height format writable).Meets (fun context => context = origin)
      (fun staging context => format.bytesPerPixel ≠ 0 ∧ ∃ pitch,
        pitch? width format origin.config.pitchAlignment = some pitch ∧
        staging = ⟨⟨⟨origin.device.nextId⟩, .zeroed (pitch * height)⟩, width, height, format, pitch,
          writable⟩ ∧ context = staged origin (pitch * height))
      fun error context => (∃ reason, error = .stagingFailure reason) ∧
        (context = origin ∨ context = refusedAllocation origin) := by
  apply Attempt.Meets.get_of_eq
  split
  · exact .after_log (.refuse fun _ h => ⟨⟨_, rfl⟩, .inl h⟩)
  · next hpixels =>
    split
    · exact .after_log (.refuse fun _ h => ⟨⟨_, rfl⟩, .inl h⟩)
    · next pitch hpitch =>
      refine .answer (meets_tryDevice (SimulatedDevice.meets_createHostBuffer origin.device
        (pitch * height))) (fun buffer => ?_) fun error => ?_
      · refine .through (fun _ context =>
          buffer = ⟨⟨origin.device.nextId⟩, .zeroed (pitch * height)⟩ ∧
          context = staged origin (pitch * height)) (.lift ?_) fun _ => ?_
        · rintro _ ⟨_, ⟨-, rfl, rfl⟩, rfl⟩
          exact ⟨rfl, rfl⟩
        · refine .after_log (.pure ?_)
          rintro _ ⟨rfl, rfl⟩
          exact ⟨fun hbytes => hpixels (.inl hbytes), pitch, hpitch, rfl, rfl⟩
      · refine .after_log (.refuse ?_)
        rintro _ ⟨_, ⟨-, rfl⟩, rfl⟩
        exact ⟨⟨_, rfl⟩, .inr rfl⟩

/-- A write that goes through changes the memory of a staging texture and nothing else. -/
theorem write_eq_ok {staging written : StagingTexture} {region : Region} {data : ByteArray}
    {stride : Nat} (h : staging.write region data stride = .ok written) :
    ∃ memory, written = { staging with buffer := { staging.buffer with memory } } := by
  unfold write at h
  split at h
  · cases h
  · split at h
    · cases h
    · split at h
      · cases h
      · split at h
        · cases h
        · split at h
          · cases h
          · next memory _ =>
            cases h
            exact ⟨memory, rfl⟩

/-- A write of all pixels goes through if the source can be read and its rows do not overflow: full
rows are copied. -/
theorem write_whole {staging : StagingTexture} {layout : UploadLayout} {data : ByteArray}
    (hwritable : staging.writable = true) (hwidth : layout.region.width = staging.width)
    (hheight : layout.region.height = staging.height) (hpitch : layout.uploadPitch = staging.pitch)
    (hrow : layout.rowBytes = staging.width * staging.format.bytesPerPixel)
    (hword : layout.rowBytes < maxWord) (hvalid : layout.validateSource data.size = .ok ()) :
    staging.write { x := 0, y := 0, width := layout.region.width, height := layout.region.height }
        data layout.sourcePitch =
      .ok { staging with buffer :=
        { staging.buffer with memory := layout.write staging.buffer.memory 0 data } } := by
  let whole : PixelWrite := {
    region := { x := 0, y := 0, width := layout.region.width, height := layout.region.height }
    data
    stride := layout.sourcePitch }
  have hinside : whole.region.fitsWithin staging.width staging.height = true := by
    simp [whole, hwidth, hheight]
  have hrows : ¬ whole.Overflows staging.width staging.height staging.format.bytesPerPixel := by
    rintro ⟨-, hfull⟩
    change maxWord ≤ layout.region.width * staging.format.bytesPerPixel at hfull
    rw [hwidth, ← hrow] at hfull
    exact Nat.not_lt_of_le hfull hword
  have hsource : (staging.writeLayout whole.region whole.stride).validateSource whole.data.size =
      .ok () := by
    rw [UploadLayout.validateSource_eq_ok_iff] at hvalid ⊢
    simpa [writeLayout, UploadLayout.requiredSource, whole, hwidth, hrow] using hvalid
  have hregion : staging.writeRegion (staging.writeLayout whole.region whole.stride) whole.data =
      .ok (layout.write staging.buffer.memory 0 data) := by
    simp [writeRegion, writeLayout, UploadLayout.write, whole, pixelOffset, hwidth, hpitch]
  have hwrite : staging.write whole.region whole.data whole.stride = _ :=
    write_of_valid hwritable hinside hrows hsource
  refine hwrite.trans ?_
  rw [hregion]
  rfl

/-- The copy of all pixels of a staging texture. -/
def stagingCopy (staging : StagingTexture) (resource : ResourceId) (region : Region) :
    BufferCopy where
  source := staging.buffer.resource
  sourceOffset := 0
  rowPitch := staging.pitch
  format := staging.format
  destination := resource
  region := region

/-- What a copy of a whole staging texture leaves. -/
theorem state_copyTo (staging : StagingTexture) (resource : ResourceId) (region : Region)
    (context : Context SimulatedDevice) :
    ((staging.copyTo { x := 0, y := 0, width := region.width, height := region.height } resource
      region.x region.y).run context).state =
      context.recorded [.copy (staging.stagingCopy resource region)] := by
  unfold copyTo
  rw [state_recordCopy]
  simp [stagingCopy, pixelOffset]

end StagingTexture

namespace Texture

variable {texture : Texture} {resource : ResourceId} {origin : Context SimulatedDevice}

/-- The context after rows of `data` were written where space is reserved. -/
def filled (layout : UploadLayout) (data : ByteArray) (context : Context SimulatedDevice) :
    Context SimulatedDevice :=
  context.withMemory (layout.write context.stream.memory context.stream.ring.cursor data)

/-- The rows of an upload fill the reservation and no byte beside it. -/
theorem evolves_filled {context : Context SimulatedDevice} (layout : UploadLayout)
    (data : ByteArray) (h : context.stream.ring.reserved = some layout.uploadSize) :
    Evolves context (filled layout data context) := by
  refine .step .refl (.write h (Memory.size_copyRows ..) fun index hindex houtside => ?_)
  rw [UploadLayout.write, Memory.size_copyRows] at hindex
  exact Memory.byteAt_copyRows_outside _ _ hindex houtside

/-- A streamed upload writes where it has reserved, and copies from there. -/
theorem meets_uploadStreaming (h : origin.Streams) (hresource : texture.resource = some resource)
    (layout : UploadLayout) (data : ByteArray) :
    (texture.uploadStreaming layout data).Meets (fun context => context = origin)
      (fun value context => value = texture ∧ ∃ base, Reserved origin layout.uploadSize base ∧
        context = texture.streamed resource layout (filled layout data base))
      fun fault context => RoomRefused origin layout.uploadSize fault context := by
  refine .bind (meets_reserveStream_reserved h layout.uploadSize) fun _ => ?_
  refine .through (fun _ context => ∃ base, Reserved origin layout.uploadSize base ∧
    context = filled layout data base) (.lift ?_) fun _ => ?_
  · intro base hbase
    exact ⟨base, hbase, rfl⟩
  · rintro _ ⟨base, hbase, rfl⟩
    have hreserved : (filled layout data base).stream.ring.reserved = some layout.uploadSize :=
      hbase.reserved
    obtain ⟨hvalue, hstate⟩ := run_finishStream hresource hreserved (Nat.le_refl _)
    change Attempt.Settles _ _ (Attempt.run _ _).value (Attempt.run _ _).state
    rw [Attempt.run_mapError, hvalue, hstate]
    exact ⟨rfl, base, hbase, rfl⟩

/-- The commands that move the pixels of a staging texture into a texture. -/
def stagingCommands (texture : Texture) (resource : ResourceId) (staging : StagingTexture)
    (layout : UploadLayout) : List Command :=
  texture.bracketed resource [.copy (staging.stagingCopy resource layout.region)]

/-- All pixels of the staging texture are copied, and it is freed. -/
theorem meets_finishStaging (hresource : texture.resource = some resource)
    (staging : StagingTexture) (layout : UploadLayout) :
    (texture.finishStaging staging layout resource).Meets (fun context => context = origin)
      fun value context => value = texture ∧
        Steady (origin.recorded (texture.stagingCommands resource staging layout)) context := by
  let moved := origin.recorded (texture.stagingCommands resource staging layout)
  refine .through (fun value context => value = texture ∧ Steady moved context) ?_ fun value => ?_
  · rintro _ rfl
    obtain ⟨hvalue, hstate⟩ :=
      run_asCopyDestination hresource (staging.state_copyTo resource layout.region) _
    refine ⟨hvalue, ?_⟩
    rw [hstate]
    exact .refl _
  refine .through (fun _ context => value = texture ∧ Steady moved context) ?_ fun _ => ?_
  · rintro context ⟨hvalue, hsteady⟩
    exact ⟨hvalue, StagingTexture.steady_destroy staging false context hsteady⟩
  refine .through (fun _ context => value = texture ∧ Steady moved context) ?_ fun _ => ?_
  · rintro context ⟨hvalue, hsteady⟩
    exact ⟨hvalue, steady_count _ context hsteady⟩
  exact .pure fun _ h => h

/-- The staging texture of an upload with these bytes. -/
def stagingWith (texture : Texture) (layout : UploadLayout) (id : ResourceId) (memory : Memory) :
    StagingTexture where
  buffer := ⟨id, memory⟩
  width := layout.region.width
  height := layout.region.height
  format := texture.nativeFormat
  pitch := layout.uploadPitch
  writable := true

/-- The staging texture of an upload, with its pixels. -/
def stagingOf (texture : Texture) (layout : UploadLayout) (data : ByteArray) (id : ResourceId) :
    StagingTexture :=
  texture.stagingWith layout id (layout.write (.zeroed layout.uploadSize) 0 data)

/-- A staging texture is made for an upload, and a write of all its pixels is accepted. -/
structure Staged (texture : Texture) (layout : UploadLayout) (data : ByteArray)
    (origin : Context SimulatedDevice) : Prop where
  pitch_eq : StagingTexture.pitch? layout.region.width texture.nativeFormat
    origin.config.pitchAlignment = some layout.uploadPitch
  made : ((StagingTexture.create layout.region.width layout.region.height texture.nativeFormat
    true).run origin).value =
      .ok (texture.stagingWith layout ⟨origin.device.nextId⟩ (.zeroed layout.uploadSize))
  state_eq : ((StagingTexture.create layout.region.width layout.region.height texture.nativeFormat
    true).run origin).state = StagingTexture.staged origin layout.uploadSize
  written : (texture.stagingWith layout ⟨origin.device.nextId⟩ (.zeroed layout.uploadSize)).write
    { x := 0, y := 0, width := layout.region.width, height := layout.region.height } data
      layout.sourcePitch = .ok (texture.stagingOf layout data ⟨origin.device.nextId⟩)

/-- Staging fails only for lack of a buffer or of a pitch for it; its pixels can always be
written. -/
theorem meets_uploadStaging (hpower : origin.config.pitchAlignment.isPowerOfTwo)
    (hresource : texture.resource = some resource) {region : Region} {layout : UploadLayout}
    {data : ByteArray} {sourcePitch : Nat}
    (hlayout : texture.uploadLayout region sourcePitch origin.config.pitchAlignment = .ok layout)
    (hvalid : layout.validateSource data.size = .ok ()) :
    (texture.uploadStaging layout data).Meets (fun context => context = origin)
      (fun value context => value = texture ∧ texture.Staged layout data origin ∧
        context = ((texture.finishStaging (texture.stagingOf layout data ⟨origin.device.nextId⟩)
          layout resource).run (StagingTexture.staged origin layout.uploadSize)).state)
      fun fault context => (∃ reason, fault = .refused (.stagingFailure reason)) ∧
        (context = origin ∨ context = StagingTexture.refusedAllocation origin) := by
  obtain ⟨-, -, -, -, -, hsum, hregion⟩ := uploadLayout_eq_ok hpower hlayout
  have hpositive := Nat.pos_of_isPowerOfTwo hpower
  have hrow : layout.rowBytes = layout.region.width * texture.nativeFormat.bytesPerPixel := by
    rw [hregion]
    rfl
  have hpitch : layout.uploadPitch = alignUp layout.rowBytes origin.config.pitchAlignment := by
    rw [hregion]
    rfl
  have hword : layout.rowBytes < maxWord := by
    rw [hregion]
    exact Nat.lt_of_lt_of_le (Nat.lt_add_of_pos_right hpositive) hsum
  unfold uploadStaging
  rw [hresource]
  let create := StagingTexture.create (D := SimulatedDevice) layout.region.width
    layout.region.height texture.nativeFormat true
  have hcreate := (StagingTexture.meets_create origin layout.region.width layout.region.height
    texture.nativeFormat true).both (.itself create origin)
  refine .after_log (.bind (.mapError (.refusing hcreate ?_))
    fun staging => .each ?_)
  · rintro _ context ⟨⟨⟨reason, rfl⟩, hcontext⟩, -⟩
    exact ⟨⟨reason, rfl⟩, hcontext⟩
  rintro now ⟨⟨-, pitch, hsome, rfl, hnow⟩, hmade, hstate⟩
  obtain rfl : pitch = layout.uploadPitch := by
    rw [hpitch, hrow]
    exact StagingTexture.pitch?_eq_some hpower hsome
  have hwrite := @StagingTexture.write_whole
    (texture.stagingWith layout ⟨origin.device.nextId⟩ (.zeroed layout.uploadSize)) layout data rfl
    rfl rfl rfl hrow hword hvalid
  have hstaged : texture.Staged layout data origin :=
    ⟨hsome, hmade, hstate.symm.trans hnow, hwrite⟩
  subst hnow
  simp only [stagingWith, UploadLayout.uploadSize] at hwrite
  simp only [hwrite]
  apply Attempt.Meets.lift
  rintro _ rfl
  obtain ⟨hvalue, -⟩ := meets_finishStaging hresource
    (texture.stagingOf layout data ⟨origin.device.nextId⟩) layout _ rfl
  exact ⟨hvalue, hstaged, rfl⟩

/-- How an upload that was accepted has gone: through the stream buffer if it has room for it, or
through a staging buffer of its own. -/
inductive Loaded (texture : Texture) (resource : ResourceId) (layout : UploadLayout)
    (data : ByteArray) (origin : Context SimulatedDevice) : Context SimulatedDevice → Prop where
  | streaming {base : Context SimulatedDevice}
    (hsize : layout.uploadSize < origin.stream.ring.capacity)
    (hbase : Reserved origin layout.uploadSize base) :
    Loaded texture resource layout data origin
      (texture.streamed resource layout (filled layout data base))
  | staging (hsize : origin.stream.ring.capacity ≤ layout.uploadSize)
    (hstaged : texture.Staged layout data origin) :
    Loaded texture resource layout data origin
      ((texture.finishStaging (texture.stagingOf layout data ⟨origin.device.nextId⟩) layout
        resource).run (StagingTexture.staged origin layout.uploadSize)).state

/-- Why an upload is refused and what it leaves behind: at most a forced submission, or a failure of
the device spent. -/
inductive LoadRefused (texture : Texture) (region : Region) (origin : Context SimulatedDevice) :
    Fault → Context SimulatedDevice → Prop where
  | layout {fault : Fault} (h : NoLayout texture region origin.config.pitchAlignment fault) :
    LoadRefused texture region origin fault origin
  /-- The source cannot be read. -/
  | source {error : TextureError} (h : error.isInvalid = true) :
    LoadRefused texture region origin (.refused error) origin
  | room {size : Nat} {fault : Fault} {context : Context SimulatedDevice}
    (hsize : size < origin.stream.ring.capacity) (h : RoomRefused origin size fault context) :
    LoadRefused texture region origin fault context
  | staging (reason : String) {context : Context SimulatedDevice}
    (h : context = origin ∨ context = StagingTexture.refusedAllocation origin) :
    LoadRefused texture region origin (.refused (.stagingFailure reason)) context

/-- Whatever the reason, one of three contexts is left behind. -/
theorem LoadRefused.leaves {region : Region} {fault : Fault} {context : Context SimulatedDevice}
    (h : LoadRefused texture region origin fault context) :
    context = origin ∨ context = origin.forced ∨
      context = StagingTexture.refusedAllocation origin := by
  cases h with
  | layout => exact .inl rfl
  | source => exact .inl rfl
  | room _ h => exact h.leaves.imp_right .inl
  | staging reason h => exact h.imp_right .inr

/-- An upload that is accepted gives the texture back as it was. -/
theorem meets_load (h : origin.Streams) (region : Region) (data : ByteArray) (pitch : Nat) :
    (texture.load region data pitch).Meets (fun context => context = origin)
      (fun value context => value = texture ∧ ∃ resource layout,
        texture.resource = some resource ∧
        texture.uploadLayout region pitch origin.config.pitchAlignment = .ok layout ∧
        layout.validateSource data.size = .ok () ∧
        Loaded texture resource layout data origin context)
      fun fault context => LoadRefused texture region origin fault context := by
  refine .get_of_eq (.through (fun layout context => context = origin ∧
    texture.uploadLayout region pitch origin.config.pitchAlignment = .ok layout)
    (.ofExcept ?_ ?_) fun layout => ?_)
  · rintro layout hlayout _ rfl
    exact ⟨rfl, hlayout⟩
  · rintro fault hfault _ rfl
    exact .layout (noLayout_of_uploadLayout hfault)
  refine .through (fun _ context => context = origin ∧
    texture.uploadLayout region pitch origin.config.pitchAlignment = .ok layout ∧
    layout.validateSource data.size = .ok ()) (.mapError (.ofExcept ?_ ?_)) fun _ => ?_
  · rintro _ hvalid _ ⟨rfl, hlayout⟩
    exact ⟨rfl, hlayout, hvalid⟩
  · rintro error herror _ ⟨rfl, -⟩
    exact .source (UploadLayout.isInvalid_of_validateSource herror)
  apply Attempt.Meets.each
  rintro _ ⟨rfl, hlayout, hvalid⟩
  obtain ⟨⟨resource, hresource⟩, -⟩ := checked_of_uploadLayout hlayout
  split
  · next hsize =>
    refine .mono (meets_uploadStreaming h hresource layout data) (fun _ h => h) ?_ ?_
    · rintro value _ ⟨hvalue, base, hbase, rfl⟩
      exact ⟨hvalue, resource, layout, hresource, hlayout, hvalid, .streaming hsize hbase⟩
    · intro _ _ hrefused
      exact .room hsize hrefused
  · next hsize =>
    refine .mono (meets_uploadStaging h.pitch hresource hlayout hvalid) (fun _ h => h) ?_ ?_
    · rintro value _ ⟨hvalue, hstaged, rfl⟩
      exact ⟨hvalue, resource, layout, hresource, hlayout, hvalid,
        .staging (Nat.le_of_not_lt hsize) hstaged⟩
    · rintro _ _ ⟨⟨reason, rfl⟩, hcontext⟩
      exact .staging reason hcontext

/-- An update is refused without a trace because its region has no layout or because the stream
buffer can never hold it. -/
inductive LayoutRefused (texture : Texture) (region : Region) (origin : Context SimulatedDevice) :
    Fault → Prop where
  | none {fault : Fault} (h : NoLayout texture region origin.config.pitchAlignment fault) :
    LayoutRefused texture region origin fault
  | oversized {layout : UploadLayout}
    (hlayout : texture.uploadLayout region 0 origin.config.pitchAlignment = .ok layout)
    (hsize : origin.stream.ring.capacity ≤ layout.uploadSize) :
    LayoutRefused texture region origin
      (.refused (.streamExhausted (min layout.uploadSize maxWord)))

/-- The layout of an update is that of its region, if it leaves a byte of the ring free. -/
theorem meets_updateLayout (region : Region) :
    (texture.updateLayout region).Meets (fun context => context = origin)
      (fun layout context => context = origin ∧
        texture.uploadLayout region 0 origin.config.pitchAlignment = .ok layout ∧
        layout.uploadSize < origin.stream.ring.capacity)
      fun fault context => context = origin ∧ LayoutRefused texture region origin fault := by
  refine .get_of_eq (.through (fun layout context => context = origin ∧
    texture.uploadLayout region 0 origin.config.pitchAlignment = .ok layout)
    (.ofExcept ?_ ?_) fun layout => ?_)
  · rintro layout hlayout _ rfl
    exact ⟨rfl, hlayout⟩
  · exact fun fault hfault _ h => ⟨h, .none (noLayout_of_uploadLayout hfault)⟩
  split
  · next hsize => exact .pure fun _ h => ⟨h.1, h.2, hsize⟩
  · next hsize =>
    exact .after_log (.refuse fun _ h => ⟨h.1, .oversized h.2 (Nat.le_of_not_lt hsize)⟩)

/-- Why an update cannot begin and what that leaves behind: at most a forced submission, if the
region would fit the stream buffer once space came back. -/
inductive UpdateRefused (texture : Texture) (region : Region) (origin : Context SimulatedDevice) :
    Fault → Context SimulatedDevice → Prop where
  | layout {fault : Fault} (h : LayoutRefused texture region origin fault) :
    UpdateRefused texture region origin fault origin
  | room {layout : UploadLayout} {fault : Fault} {context : Context SimulatedDevice}
    (hlayout : texture.uploadLayout region 0 origin.config.pitchAlignment = .ok layout)
    (hsize : layout.uploadSize < origin.stream.ring.capacity)
    (h : RoomRefused origin layout.uploadSize fault context) :
    UpdateRefused texture region origin fault context

/-- An update that is refused leaves the context as it was or after a forced submission. -/
theorem UpdateRefused.leaves {region : Region} {fault : Fault}
    {context : Context SimulatedDevice} (h : UpdateRefused texture region origin fault context) :
    context = origin ∨ context = origin.forced := by
  cases h with
  | layout => exact .inl rfl
  | room _ _ h => exact h.leaves

/-- An update that begins has reserved what it is going to copy. -/
theorem meets_beginUpdate (h : origin.Streams) (region : Region) :
    (texture.beginUpdate region).Meets (fun context => context = origin)
      (fun layout context =>
        (texture.uploadLayout region 0 origin.config.pitchAlignment = .ok layout ∧
          layout.uploadSize < origin.stream.ring.capacity) ∧
        Reserved origin layout.uploadSize context)
      fun fault context => UpdateRefused texture region origin fault context := by
  refine .through (fun layout context => context = origin ∧
    texture.uploadLayout region 0 origin.config.pitchAlignment = .ok layout ∧
    layout.uploadSize < origin.stream.ring.capacity)
    (.refusing (meets_updateLayout region) ?_) fun layout => .each ?_
  · rintro fault _ ⟨rfl, hrefused⟩
    exact .layout hrefused
  rintro _ ⟨rfl, hlayout, hsize⟩
  have hreserve := meets_reserveStream_reserved h layout.uploadSize
  refine .bind (.refusing hreserve ?_) fun _ => ?_
  · intro _ _ hrefused
    exact .room hlayout hsize hrefused
  · exact .pure fun context hreserved => ⟨⟨hlayout, hsize⟩, hreserved⟩

/-- An update ends with what was written at the cursor, if the reservation covers it. -/
theorem meets_endUpdate (region : Region) :
    (texture.endUpdate region).Meets (fun context => context = origin)
      (fun value context => value = texture ∧ ∃ resource layout reserved,
        texture.resource = some resource ∧
        texture.uploadLayout region 0 origin.config.pitchAlignment = .ok layout ∧
        origin.stream.ring.reserved = some reserved ∧ layout.uploadSize ≤ reserved ∧
        context = texture.streamed resource layout origin)
      fun _ context => context = origin := by
  refine .bind (.refusing (meets_updateLayout region) fun _ _ h => h.1) fun layout => .each ?_
  rintro _ ⟨rfl, hlayout, -⟩
  apply Attempt.Meets.get_of_eq
  obtain ⟨⟨resource, hresource⟩, -⟩ := checked_of_uploadLayout hlayout
  simp only
  split
  · next hcovers =>
    obtain ⟨reserved, hreserved, hcovered⟩ := (Option.any_eq_true _ _).mp hcovers
    have hsize : layout.uploadSize ≤ reserved := of_decide_eq_true hcovered
    rintro _ rfl
    obtain ⟨hvalue, hstate⟩ := run_finishStream hresource hreserved hsize
    change Attempt.Settles _ _ (Attempt.run _ _).value (Attempt.run _ _).state
    rw [Attempt.run_mapError, hvalue, hstate]
    exact ⟨rfl, resource, layout, reserved, hresource, hlayout, hreserved, hsize, rfl⟩
  · exact .after_log (.refuse fun _ h => h)

/-- A load that is accepted is a chain of small changes. -/
theorem Loaded.evolves {layout : UploadLayout} {data : ByteArray}
    {context : Context SimulatedDevice} (hresource : texture.resource = some resource)
    (h : Loaded texture resource layout data origin context) : Evolves origin context := by
  cases h with
  | streaming hsize hbase =>
    have hfilled := evolves_filled layout data hbase.reserved
    exact (hbase.evolves.trans hfilled).trans (evolves_streamed hbase.reserved (Nat.le_refl _))
  | staging hsize =>
    have hstaged : Evolves origin (StagingTexture.staged origin layout.uploadSize) :=
      .of_steady ⟨⟨rfl, rfl, rfl, rfl, Nat.le_succ _⟩, rfl, rfl⟩
    obtain ⟨-, hsteady⟩ := meets_finishStaging hresource
      (texture.stagingOf layout data ⟨origin.device.nextId⟩) layout _ rfl
    exact (hstaged.step (.record _ _)).step (.steady hsteady)

/-- Every load is a chain of small changes. -/
theorem evolves_load (h : origin.Streams) (texture : Texture) (region : Region) (data : ByteArray)
    (pitch : Nat) : (texture.load region data pitch).Keeps (Evolves origin) := by
  refine .of_meets (.each fun context hcontext => ?_)
  refine .mono (meets_load (hcontext.streams h) region data pitch) (fun _ h => h) ?_ ?_
  · rintro _ next ⟨-, resource, layout, hresource, -, -, hloaded⟩
    exact hcontext.trans (hloaded.evolves hresource)
  · rintro _ next hrefused
    rcases hrefused.leaves with rfl | rfl | rfl
    · exact hcontext
    · exact hcontext.trans (evolves_forced context)
    · exact hcontext.step (.steady ⟨⟨rfl, rfl, rfl, rfl, Nat.le_refl _⟩, rfl, rfl⟩)

/-- Every end of an update is a chain of small changes. -/
theorem evolves_endUpdate (texture : Texture) (region : Region) :
    (texture.endUpdate region).Keeps (Evolves origin) := by
  refine .of_meets (.each fun context hcontext => ?_)
  refine .mono (meets_endUpdate region) (fun _ h => h) ?_ ?_
  · rintro _ _ ⟨-, resource, layout, reserved, -, -, hreserved, hsize, rfl⟩
    exact hcontext.trans (evolves_streamed hreserved hsize)
  · rintro _ _ rfl
    exact hcontext

/-- Every beginning of an update is a chain of small changes, and reserves the bytes of its layout.
-/
theorem evolves_beginUpdate (h : origin.Streams) (texture : Texture) (region : Region) :
    (texture.beginUpdate region).Meets (Evolves origin)
      (fun layout context => Evolves origin context ∧
        context.stream.ring.reserved = some layout.uploadSize)
      fun _ => Evolves origin := by
  apply Attempt.Meets.each
  intro context hcontext
  refine .mono (meets_beginUpdate (hcontext.streams h) region) (fun _ h => h) ?_ ?_
  · rintro layout next ⟨-, hreserved⟩
    exact ⟨hcontext.trans hreserved.evolves, hreserved.reserved⟩
  · rintro _ _ hrefused
    rcases hrefused.leaves with rfl | rfl
    · exact hcontext
    · exact hcontext.trans (evolves_forced context)

section Recording

variable {P : Context SimulatedDevice → Prop}

theorem keeps_transition (h : ∀ {context} commands, P context → P (context.recorded commands))
    (texture : Texture) (state : UsageState) :
    (texture.transition state : Act (Context SimulatedDevice) Texture).Keeps P := by
  intro context hcontext
  cases hresource : texture.resource with
  | none =>
    rw [run_transition_of_none hresource]
    exact hcontext
  | some resource =>
    rw [(run_transition hresource state context).2]
    exact h _ hcontext

theorem keeps_copyFromBuffer (h : ∀ {context} commands, P context → P (context.recorded commands))
    (texture : Texture) (region : Region) (rowPitch : Nat) (buffer : ResourceId) (offset : Nat) :
    (texture.copyFromBuffer region rowPitch buffer offset :
      Attempt TextureError (Context SimulatedDevice) Texture).Keeps P := by
  intro context hcontext
  change P (Attempt.run _ context).state
  cases hresource : texture.resource with
  | none =>
    rw [run_copyFromBuffer_of_none hresource]
    exact hcontext
  | some resource =>
    rw [(run_copyFromBuffer hresource region rowPitch buffer offset context).2]
    exact h _ hcontext

end Recording

end Texture

theorem StagingTexture.keeps_copyTo {P : Context SimulatedDevice → Prop}
    (h : ∀ {context} commands, P context → P (context.recorded commands))
    (texture : StagingTexture) (source : Region) (destination : ResourceId) (x y : Nat) :
    (texture.copyTo source destination x y : Act (Context SimulatedDevice) Unit).Keeps P := by
  intro context hcontext
  unfold copyTo
  rw [state_recordCopy]
  exact h _ hcontext

end Texel
