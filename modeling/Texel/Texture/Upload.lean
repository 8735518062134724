import Texel.Staging
import Texel.Texture

namespace Texel

namespace Texture

variable {D : Type} [Device D]

/-- The layout of an upload, if the texture can take it. -/
def uploadLayout (texture : Texture) (region : Region) (sourcePitch pitchAlignment : Nat) :
    Except Fault UploadLayout :=
  let bytesPerPixel := texture.nativeFormat.bytesPerPixel
  if texture.isValid = false then .error (.refused .invalidTexture)
  else if region.width = 0 ∨ region.height = 0 ∨
      region.fitsWithin texture.width texture.height = false then
    .error (.refused (.invalidParameter
      s!"upload region {region.describe} outside {texture.width}x{texture.height} texture"))
  else if bytesPerPixel = 0 then
    .error (.refused (.invalidParameter s!"cannot upload to {texture.nativeFormat.name} texture"))
  else
    (UploadLayout.ofRegion? region bytesPerPixel sourcePitch pitchAlignment).elim (.error .abort)
      .ok

/-- Runs commands with the texture as a copy destination and takes it back to its state. -/
def asCopyDestination (texture : Texture) (commands : Act (Context D) Unit) :
    Act (Context D) Texture := do
  let opened ← texture.transition .copyDest
  commands
  opened.transition texture.state

/-- Records a copy of a region from a buffer, whose rows are `rowPitch` bytes apart. -/
def copyFromBuffer (texture : Texture) (region : Region) (rowPitch : Nat) (buffer : ResourceId)
    (offset : Nat) : Attempt TextureError (Context D) Texture :=
  match texture.resource with
  | none => .refuse .invalidTexture
  | some destination =>
    .lift (texture.asCopyDestination (Context.onDevice (Device.recordCopy
      { source := buffer
        sourceOffset := offset
        rowPitch
        format := texture.nativeFormat
        destination
        region })))

/-- Reserves space in the stream buffer. If it is full, what was recorded is submitted once to get
space back. -/
def reserveStream (size : Nat) : Attempt Fault (Context D) Unit := do
  let context ← .get
  let alignment := context.config.placementAlignment
  if ← Context.tryStream (StreamBuffer.reserve size alignment) then pure ()
  else
    .log .warn s!"Stream buffer full, submitting command stream to reclaim {size} bytes"
    .lift (Context.count fun stats =>
      { stats with forcedSubmissions := stats.forcedSubmissions + 1 })
    let _ ← .lift (Context.submit false)
    if ← Context.tryStream (StreamBuffer.reserve size alignment) then pure ()
    else
      let context ← .get
      .log .error (s!"Stream buffer exhausted: {size} bytes unavailable after submission " ++
        s!"({context.stream.describe})")
      .refuse (.refused (.streamExhausted size))

/-- Takes the reservation as written and records the copy that reads it. -/
def finishStream (texture : Texture) (layout : UploadLayout) :
    Attempt TextureError (Context D) Texture := do
  let context ← .get
  let _ ← .lift (Context.onStream (StreamBuffer.commit layout.uploadSize))
  let texture ← texture.copyFromBuffer layout.region layout.uploadPitch context.stream.resource
    context.stream.ring.cursor
  .lift (Context.count fun stats => { stats with streamingUploads := stats.streamingUploads + 1 })
  pure texture

/-- Uploads through the stream buffer. -/
def uploadStreaming (texture : Texture) (layout : UploadLayout) (data : ByteArray) :
    Attempt Fault (Context D) Texture := do
  reserveStream layout.uploadSize
  .lift (Context.onStream (Act.modify fun stream =>
    { stream with memory := layout.write stream.memory stream.ring.cursor data }))
  Attempt.mapError .refused (texture.finishStream layout)

/-- Records the copy of all pixels of a staging texture, which is then free to go. -/
def finishStaging (texture : Texture) (staging : StagingTexture) (layout : UploadLayout)
    (destination : ResourceId) : Act (Context D) Texture := do
  let region := layout.region
  let texture ← texture.asCopyDestination (staging.copyTo
    { x := 0, y := 0, width := region.width, height := region.height } destination region.x
    region.y)
  staging.destroy false
  Context.count fun stats => { stats with stagingUploads := stats.stagingUploads + 1 }
  pure texture

/-- Uploads through a staging texture that lives for this upload only. -/
def uploadStaging (texture : Texture) (layout : UploadLayout) (data : ByteArray) :
    Attempt Fault (Context D) Texture :=
  match texture.resource with
  | none => .refuse (.refused .invalidTexture)
  | some resource => do
    let region := layout.region
    .log .debug (s!"Upload of {layout.uploadSize} bytes to {resource.describe} exceeds stream " ++
      "buffer, using staging texture")
    let staging ← Attempt.mapError .refused
      (StagingTexture.create region.width region.height texture.nativeFormat true)
    let whole : Region := { x := 0, y := 0, width := region.width, height := region.height }
    match staging.write whole data layout.sourcePitch with
    | .ok staging => .lift (texture.finishStaging staging layout resource)
    | .error .abort => .refuse .abort
    | .error (.refused error) =>
      .log .error
        s!"Failed to write staging texture for {resource.describe}: {error.message}"
      .lift (staging.destroy false)
      .refuse (.refused error)

/-- Uploads a region from rows of `data` that are `pitch` bytes apart. -/
def load (texture : Texture) (region : Region) (data : ByteArray) (pitch : Nat) :
    Attempt Fault (Context D) Texture := do
  let context ← .get
  let layout ← .ofExcept (texture.uploadLayout region pitch context.config.pitchAlignment)
  Attempt.mapError .refused (.ofExcept (layout.validateSource data.size))
  if layout.uploadSize < context.stream.ring.capacity then
    texture.uploadStreaming layout data
  else texture.uploadStaging layout data

/-- The layout of an update that the caller writes into the stream buffer. A region that it can
never hold is refused. -/
def updateLayout (texture : Texture) (region : Region) :
    Attempt Fault (Context D) UploadLayout := do
  let context ← .get
  let layout ← .ofExcept (texture.uploadLayout region 0 context.config.pitchAlignment)
  if layout.uploadSize < context.stream.ring.capacity then pure layout
  else
    .log .error (s!"Stream update of {layout.uploadSize} bytes cannot fit in a " ++
      s!"{context.stream.ring.capacity} byte stream buffer")
    .refuse (.refused (.streamExhausted (min layout.uploadSize maxWord)))

/-- Reserves stream buffer space for a region that the caller writes. Answers with the layout of
the bytes to write, which start at the cursor of the stream buffer. -/
def beginUpdate (texture : Texture) (region : Region) :
    Attempt Fault (Context D) UploadLayout := do
  let layout ← texture.updateLayout region
  reserveStream layout.uploadSize
  pure layout

/-- Takes what the caller has written as the pixels of the region. Nothing is recorded if no
reservation covers the region. -/
def endUpdate (texture : Texture) (region : Region) :
    Attempt Fault (Context D) Texture := do
  let layout ← texture.updateLayout region
  let context ← .get
  let size := layout.uploadSize
  if context.stream.ring.reserved.any fun reserved => size ≤ reserved then
    Attempt.mapError .refused (texture.finishStream layout)
  else
    let reserved := Text.option (context.stream.ring.reserved.map toString)
    .log .error
      s!"Stream update of {size} bytes ended without a matching reservation ({reserved})"
    .refuse (.refused (.invalidParameter s!"no stream buffer reservation covers {size} bytes"))

end Texture

end Texel
