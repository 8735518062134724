import Texel.Device

namespace Texel

/-- A device with the heaps that its views are allocated from. -/
structure ViewPool (D : Type) where
  device : D
  heaps : Heaps

namespace ViewPool

variable {D α : Type} {ε : Type}

def onDevice (act : Act D α) : Act (ViewPool D) α :=
  Act.focus (fun pool => pool.device) (fun pool device => { pool with device }) act

def tryDevice (attempt : Attempt ε D α) : Attempt ε (ViewPool D) α :=
  Attempt.focus (fun pool => pool.device) (fun pool device => { pool with device }) attempt

def onHeap (kind : ViewKind) (act : Act Heap α) : Act (ViewPool D) α :=
  Act.focus (fun pool => pool.heaps.heap kind)
    (fun pool heap => { pool with heaps := pool.heaps.setHeap kind heap }) act

variable [Device D]

/-- Removes the view at a slot and takes the slot back. -/
def release (slot : Slot) : Act (ViewPool D) Unit := do
  onDevice (Device.releaseView slot)
  if ← onHeap slot.kind (Heap.takeBack slot) then pure ()
  else Act.log .error s!"{slot.describe} does not belong to this context, slot leaked"

/-- No slot of the kind is left for a view. -/
def heapExhausted (kind : ViewKind) (resource : ResourceId) :
    Attempt TextureError (ViewPool D) Slot := do
  let heap ← .gets fun pool => pool.heaps.heap kind
  .log .error (s!"Failed to allocate {kind.name} descriptor for {resource.describe} " ++
    s!"({heap.allocatedCount} of {heap.capacity} in use)")
  .refuse (.allocationFailure s!"{kind.name} descriptor heap exhausted")

/-- The device has refused a view; its slot goes back to the heap. -/
def viewRefused (kind : ViewKind) (resource : ResourceId) (slot : Slot)
    (error : TextureError) : Attempt TextureError (ViewPool D) Slot := do
  .log .error s!"Failed to create {kind.name} view for {resource.describe}: {error.message}"
  if ← .lift (onHeap kind (Heap.takeBack slot)) then .refuse error
  else
    .log .error s!"Failed to return {slot.describe} after view creation failed"
    .refuse error

/-- Makes a view of a resource at a slot of its kind. The slot is free again if the device refuses
the view. -/
def createView (kind : ViewKind) (resource : ResourceId) (desc : TextureDesc)
    (format : NativeFormat) : Attempt TextureError (ViewPool D) Slot := do
  match ← .lift (onHeap kind Heap.allocate) with
  | none => heapExhausted kind resource
  | some slot =>
    let view := ViewDesc.ofResource kind format desc
    match ← .answer (tryDevice (Device.createView resource view slot)) with
    | .ok () => pure slot
    | .error error => viewRefused kind resource slot error

end ViewPool

/-- The slots of the views that a texture owns. -/
structure ViewSet where
  shaderResource : Option Slot := none
  /-- A render-target or a depth-stencil view. -/
  target : Option Slot := none
  deriving DecidableEq, Repr, Inhabited

namespace ViewSet

/-- Every slot of the set, the sampled view first. -/
def slots (views : ViewSet) : List Slot :=
  views.shaderResource.toList ++ views.target.toList

def size (views : ViewSet) : Nat := views.slots.length

def isEmpty (views : ViewSet) : Bool := views.slots.isEmpty

/-- The target view, if it is of that kind. -/
def targetOf (views : ViewSet) (kind : ViewKind) : Option Slot :=
  views.target.filter fun slot => slot.kind = kind

def renderTarget (views : ViewSet) : Option Slot := views.targetOf .renderTarget

def depthStencil (views : ViewSet) : Option Slot := views.targetOf .depthStencil

/-- The target view is a depth-stencil view. -/
def isDepthView (views : ViewSet) : Bool := views.depthStencil.isSome

def describe (views : ViewSet) : String :=
  Text.record "DescriptorSet" [
    ("shader_resource", Text.option (views.shaderResource.map Slot.describe)),
    ("target", Text.option (views.target.map fun slot =>
      Text.call slot.kind.name [slot.describe]))]

variable {D : Type} [Device D]

/-- Releases slots one after the other. -/
def releaseSlots : List Slot → Act (ViewPool D) Unit
  | [] => pure ()
  | slot :: rest => do
    ViewPool.release slot
    releaseSlots rest

/-- Gives up every view now. -/
def release (views : ViewSet) : Act (ViewPool D) Unit := releaseSlots views.slots

/-- The sampled view, if the formats ask for one. -/
def allocateSampled (resource : ResourceId) (desc : TextureDesc) (formats : ViewFormats) :
    Attempt TextureError (ViewPool D) (Option Slot) :=
  if formats.shaderResource = .unknown then pure none
  else do
    let slot ← ViewPool.createView .shaderResource resource desc formats.shaderResource
    pure (some slot)

/-- The target view, if the formats ask for one. -/
def allocateTarget (resource : ResourceId) (desc : TextureDesc) (formats : ViewFormats) :
    Attempt TextureError (ViewPool D) (Option Slot) :=
  match formats.target? with
  | none => pure none
  | some (kind, format) => do
    let slot ← ViewPool.createView kind resource desc format
    pure (some slot)

/-- Makes every view that the formats ask for. If one fails, those made before it are released. -/
def allocate (resource : ResourceId) (desc : TextureDesc) (formats : ViewFormats) :
    Attempt TextureError (ViewPool D) ViewSet := do
  let shaderResource ← allocateSampled resource desc formats
  let sampled : ViewSet := { shaderResource }
  match ← .answer (allocateTarget resource desc formats) with
  | .ok target => pure { sampled with target }
  | .error error =>
    .lift sampled.release
    .refuse error

end ViewSet

end Texel
