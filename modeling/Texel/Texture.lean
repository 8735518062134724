import Texel.Context

namespace Texel

/-- A texture owns one resource, the views made for it and its usage state; an empty texture owns
nothing. Operations answer with the texture as it is afterwards; one that is refused leaves it as it
was. -/
structure Texture where
  resource : Option ResourceId := none
  views : ViewSet := {}
  width : Nat := 0
  height : Nat := 0
  layers : Nat := 0
  levels : Nat := 0
  samples : Nat := 0
  format : PixelFormat := .unknown
  nativeFormat : NativeFormat := .unknown
  state : UsageState := .common
  deriving DecidableEq, Repr, Inhabited

/-- A dimension of a texture with its largest accepted value. -/
structure Dimension where
  name : String
  size : Nat
  max : Nat

namespace Dimension

def maxWidth : Nat := 65535

def maxHeight : Nat := 65535

def maxLayers : Nat := 255

def maxLevels : Nat := 255

def maxSamples : Nat := 255

/-- The dimensions of a texture in the order they are checked. -/
def ofDesc (desc : TextureDesc) : List Dimension :=
  [⟨"width", desc.width, maxWidth⟩, ⟨"height", desc.height, maxHeight⟩,
    ⟨"layers", desc.layers, maxLayers⟩, ⟨"levels", desc.levels, maxLevels⟩,
    ⟨"samples", desc.samples, maxSamples⟩]

def check {σ : Type} (dimension : Dimension) : Attempt TextureError σ Unit :=
  if dimension.max < dimension.size then do
    .log .error (s!"Texture {dimension.name} of {dimension.size} exceeds maximum of " ++
      toString dimension.max)
    .refuse (.capacityExceeded dimension.name dimension.size dimension.max)
  else if dimension.size = 0 then do
    .log .error s!"Texture {dimension.name} cannot be zero"
    .refuse (.invalidParameter s!"{dimension.name} cannot be zero")
  else pure ()

/-- Checks dimensions one after the other and stops at the first fault. -/
def checkAll {σ : Type} : List Dimension → Attempt TextureError σ Unit
  | [] => pure ()
  | dimension :: rest => do
    dimension.check
    checkAll rest

end Dimension

namespace Texture

/-- The texture owns a resource. -/
def isValid (texture : Texture) : Bool := texture.resource.isSome

/-- A texture that owns a resource shaped like `desc`. -/
def ofResource (resource : ResourceId) (views : ViewSet) (desc : TextureDesc)
    (state : UsageState) : Texture where
  resource := some resource
  views := views
  width := desc.width
  height := desc.height
  layers := desc.layers
  levels := desc.levels
  samples := desc.samples
  format := .ofNative desc.format
  nativeFormat := desc.format
  state := state

def describe (texture : Texture) : String :=
  Text.record "GpuTexture" [("resource", Text.option (texture.resource.map ResourceId.describe)),
    ("size", Text.tuple [toString texture.width, toString texture.height]),
    ("layers", toString texture.layers), ("levels", toString texture.levels),
    ("samples", toString texture.samples), ("format", texture.format.name),
    ("native_format", texture.nativeFormat.name), ("state", texture.state.name),
    ("descriptors", texture.views.describe)]

/-- Warns that a texture is given up without being destroyed. -/
def leak {σ : Type} (texture : Texture) : Act σ Unit :=
  match texture.resource with
  | none => pure ()
  | some id => do
    Act.log .warn (s!"GpuTexture {id.describe} dropped without destroy, " ++
      s!"resource and {texture.views.size} views leaked")
    id.leak

variable {D : Type} [Device D]

/-- Frees the resource of a texture that owns one. -/
def destroyOwned (texture : Texture) (deferred : Bool) : Act (Context D) Unit :=
  match texture.resource with
  | none => pure ()
  | some id => do
    Act.log .debug s!"Destroying texture {id.describe} (deferred: {Text.bool deferred})"
    Context.destroyResource id deferred

/-- Frees the resource and the views of a texture, which is empty afterwards. -/
def destroy (texture : Texture) (deferred : Bool) : Act (Context D) Unit := do
  texture.destroyOwned deferred
  Context.destroyViews texture.views deferred

/-- The views of a resource, from the heaps of the context. -/
def allocateViews (resource : ResourceId) (desc : TextureDesc) (formats : ViewFormats) :
    Attempt TextureError (Context D) ViewSet :=
  Context.tryViews (ViewSet.allocate resource desc formats)

/-- A resource of the device for a texture; a refusal is reported. -/
def createResource (desc : TextureDesc) (state : UsageState) :
    Attempt TextureError (Context D) ResourceId := do
  match ← .answer (Context.tryDevice (Device.createTexture desc state)) with
  | .ok resource => pure resource
  | .error error =>
    .log .error (s!"Failed to create {desc.width}x{desc.height}x{desc.layers} texture " ++
      s!"({desc.levels} levels, {desc.samples} samples, {desc.format.name}): {error.message}")
    .refuse error

/-- A new resource shaped like `desc` with the views asked for. What the texture held before is
retired. -/
def create (texture : Texture) (desc : TextureDesc) (formats : ViewFormats) :
    Attempt TextureError (Context D) Texture := do
  Dimension.checkAll (Dimension.ofDesc desc)
  let state := formats.initialState
  let desc := formats.allowIn desc
  let resource ← createResource desc state
  match ← .answer (allocateViews resource desc formats) with
  | .error error =>
    .log .error s!"Failed to create views for texture {resource.describe}: {error.message}"
    .lift (Context.destroyResource resource false)
    .refuse error
  | .ok views =>
    .log .debug (s!"Created texture {resource.describe} ({desc.width}x{desc.height} " ++
      s!"{desc.format.name}, {views.size} views, state {state.name})")
    .lift (texture.destroy true)
    pure (ofResource resource views desc state)

/-- Takes over a resource that is known to be shaped like `desc`. -/
def adoptDescribed (texture : Texture) (resource : ResourceId) (desc : TextureDesc)
    (formats : ViewFormats) (state : UsageState) : Attempt TextureError (Context D) Texture := do
  Dimension.checkAll (Dimension.ofDesc desc)
  match ← .answer (allocateViews resource desc formats) with
  | .error error =>
    .log .error s!"Failed to create views for adopted {resource.describe}: {error.message}"
    .refuse error
  | .ok views =>
    .log .debug (s!"Adopted texture {resource.describe} ({desc.width}x{desc.height} " ++
      s!"{desc.format.name}, state {state.name})")
    .lift (texture.destroy true)
    pure (ofResource resource views desc state)

/-- Takes over a resource made elsewhere, which is in `state` now. Its shape is read back from the
device. What the texture held before is retired; a resource that is refused is handed back. -/
def adopt (texture : Texture) (resource : ResourceId) (formats : ViewFormats)
    (state : UsageState) : Attempt AdoptRefusal (Context D) Texture := do
  let context ← .get
  match Device.textureDesc context.device resource with
  | none =>
    .log .error s!"Cannot adopt {resource.describe}: not a texture"
    .refuse ⟨.invalidParameter s!"{resource.describe} is not a texture", resource⟩
  | some desc =>
    Attempt.mapError (fun error => ⟨error, resource⟩)
      (texture.adoptDescribed resource desc formats state)

/-- Moves the texture to a usage state. A barrier is recorded if it is in another. -/
def transition (texture : Texture) (state : UsageState) : Act (Context D) Texture :=
  match texture.resource with
  | none => pure texture
  | some resource =>
    if texture.state = state then pure texture
    else do
      Context.onDevice (Device.recordBarrier resource texture.state state)
      pure { texture with state }

end Texture

end Texel
