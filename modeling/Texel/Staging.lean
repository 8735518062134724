import Texel.Context
import Texel.Upload.Layout

namespace Texel

/-- Pixels in a host buffer of their own, in rows that start at the pitch alignment. -/
structure StagingTexture where
  buffer : HostBuffer
  width : Nat
  height : Nat
  format : NativeFormat
  /-- Bytes between rows. -/
  pitch : Nat
  /-- The host may write the pixels. -/
  writable : Bool
  deriving DecidableEq

namespace StagingTexture

/-- The pitch of rows of `width` pixels, if it fits 32 bits. -/
def pitch? (width : Nat) (format : NativeFormat) (alignment : Nat) : Option Nat :=
  if maxWord < width * format.bytesPerPixel then none
  else alignUp? (width * format.bytesPerPixel) alignment

variable {D : Type} [Device D]

/-- Asks the device for the memory of rows `pitch` bytes apart. -/
def createWithPitch (width height : Nat) (format : NativeFormat) (pitch : Nat)
    (writable : Bool) : Attempt TextureError (Context D) StagingTexture := do
  match ← .answer (Context.tryDevice (Device.createHostBuffer (pitch * height))) with
  | .error error =>
    .log .error (s!"Failed to create {width}x{height} {format.name} staging texture: " ++
      error.message)
    .refuse (.stagingFailure error.message)
  | .ok buffer =>
    .lift (Context.count fun stats => { stats with stagingCreated := stats.stagingCreated + 1 })
    .log .debug (s!"Created staging texture {buffer.resource.describe} " ++
      s!"({width}x{height} {format.name}, pitch {pitch})")
    pure ⟨buffer, width, height, format, pitch, writable⟩

/-- A new staging texture. It has pixels of a known size, and its rows fit a 32-bit pitch. -/
def create (width height : Nat) (format : NativeFormat) (writable : Bool) :
    Attempt TextureError (Context D) StagingTexture := do
  let context ← .get
  if format.bytesPerPixel = 0 ∨ width = 0 ∨ height = 0 then
    .log .error s!"Invalid staging texture {width}x{height} {format.name}"
    .refuse (.stagingFailure s!"cannot stage {width}x{height} pixels of {format.name}")
  else
    match pitch? width format context.config.pitchAlignment with
    | none =>
      .log .error s!"Staging texture row of {width} {format.name} pixels overflows its pitch"
      .refuse (.stagingFailure s!"row of {width} pixels of {format.name} is too wide to stage")
    | some pitch => createWithPitch width height format pitch writable

/-- The byte where the pixel at `x`, `y` starts. -/
def pixelOffset (texture : StagingTexture) (x y : Nat) : Nat :=
  y * texture.pitch + x * texture.format.bytesPerPixel

/-- The layout of a write of `region` from rows `stride` bytes apart. -/
def writeLayout? (texture : StagingTexture) (region : Region) (stride : Nat) :
    Option UploadLayout :=
  (UploadLayout.ofRegion? region texture.format.bytesPerPixel stride 1).map fun layout =>
    { layout with uploadPitch := texture.pitch }

/-- Writes the pixels of one row of a region that starts at the byte `start`, and nothing else of
that row. Leaving the source row or the memory aborts. -/
def writeRow (texture : StagingTexture) (layout : UploadLayout) (start : Nat)
    (data : ByteArray) (memory : Memory) (row : Nat) : Except Fault Memory :=
  let sourceRow := min layout.sourcePitch (data.size - row * layout.sourcePitch)
  let target := start + row * texture.pitch
  if sourceRow < layout.rowBytes ∨ memory.size < target + layout.rowBytes then .error .abort
  else .ok (memory.write target data (row * layout.sourcePitch) layout.rowBytes)

/-- Writes a region into memory. Full rows are copied with their tails, partial rows pixel bytes
only, so that the pixels beside the region keep what they held. -/
def writeRegion (texture : StagingTexture) (layout : UploadLayout) (data : ByteArray) :
    Except Fault Memory :=
  let region := layout.region
  let memory := texture.buffer.memory
  let start := texture.pixelOffset region.x region.y
  if memory.size < start then .error .abort
  else if region.x = 0 ∧ region.width = texture.width then .ok (layout.write memory start data)
  else if layout.sourcePitch = 0 then .error .abort
  else
    (List.range (min region.height (rowCount data.size layout.sourcePitch))).foldlM
      (texture.writeRow layout start data) memory

/-- Writes a region from rows `stride` bytes apart. -/
def write (texture : StagingTexture) (region : Region) (data : ByteArray) (stride : Nat) :
    Except Fault StagingTexture :=
  if texture.writable = false then
    .error (.refused (.stagingFailure "staging texture is not CPU writable"))
  else if region.fitsWithin texture.width texture.height = false then
    .error (.refused (.stagingFailure
      s!"{region.describe} outside {texture.width}x{texture.height} staging texture"))
  else
    match texture.writeLayout? region stride with
    | none => .error .abort
    | some layout =>
      match layout.validateSource data.size with
      | .error error => .error (.refused (.stagingFailure error.message))
      | .ok () =>
        match texture.writeRegion layout data with
        | .error fault => .error fault
        | .ok memory => .ok { texture with buffer := { texture.buffer with memory } }

/-- Records a copy of the pixels of `source` to a texture at `x`, `y`. -/
def copyTo (texture : StagingTexture) (source : Region) (destination : ResourceId) (x y : Nat) :
    Act (Context D) Unit :=
  Context.onDevice (Device.recordCopy
    { source := texture.buffer.resource
      sourceOffset := texture.pixelOffset source.x source.y
      rowPitch := texture.pitch
      format := texture.format
      destination
      region := { x, y, width := source.width, height := source.height } })

/-- Frees the pixels. Freeing them at once is fine after a copy has been recorded: the device keeps
them for the commands that use them. -/
def destroy (texture : StagingTexture) (deferred : Bool) : Act (Context D) Unit := do
  Act.log .debug (s!"Destroying staging texture {texture.buffer.resource.describe} " ++
    s!"(deferred: {Text.bool deferred})")
  Context.count fun stats => { stats with stagingDestroyed := stats.stagingDestroyed + 1 }
  Context.destroyResource texture.buffer.resource deferred

end StagingTexture

end Texel
