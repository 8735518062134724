import Texel.Device
import Texel.Table
import Texel.Vulkan.Native

namespace Texel.Vulkan

/-- A native object with its memory. -/
inductive Resource where
  /-- An image. One that belongs to someone else has no memory here. -/
  | image (image : Nat) (memory : Option Nat) (desc : TextureDesc)
  | buffer (buffer memory size : Nat)
  deriving DecidableEq, Repr

/-- Work that has been submitted. -/
structure Submission where
  fenceValue : Nat
  /-- The Vulkan fence, if there is one. -/
  fence : Option Nat
  commandBuffer : Option Nat
  /-- Resources to free once the work is complete. -/
  parked : List Resource
  deriving DecidableEq, Repr

/-- The state of a device on Vulkan. Commands are recorded into one command buffer at a time, begun
when the first of them comes. Each submission has a Vulkan fence of its own; its fence value is
complete once that fence, and those of all submissions before it, have signalled. A resource that is
destroyed while the command buffer being recorded refers to it is parked, and freed when that
submission is retired. -/
structure VulkanDevice where
  native : Native
  pool : Nat
  resources : Table ResourceId Resource := {}
  views : Table Slot Nat := {}
  /-- The command buffer being recorded. -/
  recording : Option Nat := none
  /-- Resources that the command buffer being recorded refers to. -/
  referenced : List ResourceId := []
  /-- Resources to free with the command buffer being recorded. -/
  parked : List Resource := []
  /-- Submissions that are not known to be complete, oldest first. -/
  inFlight : List Submission := []
  nextId : Nat := 1
  currentFence : Nat := 1
  completedFence : Nat := 0

namespace VulkanDevice

/-- How long a wait for a fence may take, in nanoseconds. -/
def fenceTimeout : Nat := 10000000000

def onNative {α : Type} (act : Act Native α) : Act VulkanDevice α :=
  Act.focus (fun device => device.native) (fun device native => { device with native }) act

/-- The calls made so far. -/
def calls (device : VulkanDevice) : List Call := device.native.calls

/-- A device with a command pool for a queue family. Its memory allocator needs a physical device.
If it cannot be made, what Vulkan has come to is handed back with the reason. -/
def ofNative (native : Native) (hasPhysicalDevice : Bool) (family : Nat) :
    Except (TextureError × Native) VulkanDevice × List LogLine :=
  if hasPhysicalDevice = false then
    (.error (.allocationFailure ("Failed to create memory allocator: " ++
      AllocatorRefusal.noPhysicalDevice.message), native), [])
  else
    let made := (Native.createCommandPool family).run native
    match made.value with
    | .error failure =>
      (.error (.allocationFailure s!"Failed to create command pool: {failure.name}", made.state),
        made.log)
    | .ok pool =>
      (.ok { native := made.state, pool },
        made.log ++ [⟨.info, s!"Created Vulkan texture device (queue family {family})"⟩])

/-- Puts a native object in the table under the next identifier. -/
def register (resource : Resource) : Act VulkanDevice ResourceId := do
  let device ← Act.get
  let id := ResourceId.mk device.nextId
  Act.set { device with
    nextId := device.nextId + 1, resources := device.resources.insert id resource }
  pure id

/-- Wraps an image that belongs to someone else. Destroying the resource leaves the image alone. -/
def importImage (image : Nat) (desc : TextureDesc) : Act VulkanDevice ResourceId :=
  register (.image image none desc)

/-- The image behind a resource with its description. -/
def image? (device : VulkanDevice) (id : ResourceId) : Option (Nat × TextureDesc) :=
  match device.resources.get? id with
  | some (.image image _ desc) => some (image, desc)
  | _ => none

def buffer? (device : VulkanDevice) (id : ResourceId) : Option Nat :=
  match device.resources.get? id with
  | some (.buffer buffer _ _) => some buffer
  | _ => none

/-- Frees a native object and its memory. -/
def destroyNative : Resource → Act VulkanDevice Unit
  | .image _ none _ => pure ()
  | .image image (some memory) _ => do
    onNative (Native.freeMemory memory)
    onNative (Native.call (.destroyImage image))
  | .buffer buffer memory _ => do
    onNative (Native.freeMemory memory)
    onNative (Native.call (.destroyBuffer buffer))

/-- Frees native objects one after the other. -/
def destroyEach : List Resource → Act VulkanDevice Unit
  | [] => pure ()
  | resource :: rest => do
    destroyNative resource
    destroyEach rest

def destroyFence (fence : Nat) : Act VulkanDevice Unit :=
  onNative (Native.call (.destroyFence fence))

def freeCommandBuffer (commandBuffer : Nat) : Act VulkanDevice Unit :=
  onNative (Native.call (.freeCommandBuffer commandBuffer))

def destroyView (view : Nat) : Act VulkanDevice Unit :=
  onNative (Native.call (.destroyImageView view))

/-- The command buffer being recorded, begun on first use. -/
def commandBuffer? : Act VulkanDevice (Option Nat) := do
  let device ← Act.get
  match device.recording with
  | some commandBuffer => pure (some commandBuffer)
  | none =>
    match ← onNative (Native.allocateCommandBuffer device.pool) with
    | .error failure =>
      Act.log .error s!"Failed to allocate command buffer: {failure.name}"
      pure none
    | .ok commandBuffer =>
      match ← onNative (Native.beginCommandBuffer commandBuffer) with
      | some failure =>
        Act.log .error s!"Failed to begin command buffer: {failure.name}"
        freeCommandBuffer commandBuffer
        pure none
      | none =>
        Act.modify fun device => { device with recording := some commandBuffer }
        pure (some commandBuffer)

def refer (id : ResourceId) : Act VulkanDevice Unit :=
  Act.modify fun device =>
    { device with referenced := if id ∈ device.referenced then device.referenced
        else id :: device.referenced }

/-- Records a barrier that takes an image from a layout to that of a usage state. -/
def transitionImage (id : ResourceId) (oldLayout : ImageLayout)
    (sourceAccess sourceStage : Nat) (after : UsageState) : Act VulkanDevice Unit := do
  let device ← Act.get
  match device.image? id with
  | none => Act.log .error s!"Barrier on unknown image {id.describe} dropped"
  | some (image, desc) =>
    match ← commandBuffer? with
    | none => pure ()
    | some commandBuffer =>
      onNative (Native.call (.pipelineBarrier commandBuffer
        { image, oldLayout, sourceAccess, sourceStage
          newLayout := stateLayout after
          destinationAccess := stateAccess after
          destinationStage := stateStage after
          aspect := imageAspect desc.format
          levels := desc.levels
          layers := desc.layers }))
      refer id

/-- Waits until the device is idle. The answer says whether it is known to be. -/
def awaitIdle : Act VulkanDevice Bool := do
  match ← onNative Native.deviceWaitIdle with
  | none => pure true
  | some failure =>
    Act.log .error s!"Device wait idle failed: {failure.name}"
    pure false

/-- Frees what a finished submission holds and takes its fence value as complete. -/
def retire (submission : Submission) : Act VulkanDevice Unit := do
  submission.fence.forM destroyFence
  submission.commandBuffer.forM freeCommandBuffer
  destroyEach submission.parked
  Act.modify fun device =>
    { device with completedFence := max device.completedFence submission.fenceValue }

/-- Retires submissions one after the other. -/
def retireEach : List Submission → Act VulkanDevice Unit
  | [] => pure ()
  | submission :: rest => do
    retire submission
    retireEach rest

/-- The fence of the submission is known to have signalled. -/
def hasSignalled (submission : Submission) : Act VulkanDevice Bool :=
  match submission.fence with
  | none => pure false
  | some fence => onNative (Native.isSignalled fence)

/-- Retires submissions from the front for as long as their fences have signalled. -/
def pollEach : List Submission → Act VulkanDevice Unit
  | [] => pure ()
  | submission :: rest => do
    if ← hasSignalled submission then
      Act.modify fun device => { device with inFlight := rest }
      retire submission
      pollEach rest
    else pure ()

/-- Retires what has completed since the last look. -/
def pollCompleted : Act VulkanDevice Unit := do
  let device ← Act.get
  pollEach device.inFlight

/-- Binds memory to a new image, which is given up with its memory if that fails. -/
def bindImage (image memory : Nat) (desc : TextureDesc) :
    Attempt TextureError VulkanDevice ResourceId := do
  match ← .lift (onNative (Native.bindImageMemory image)) with
  | some failure =>
    .lift (onNative (Native.freeMemory memory))
    .lift (onNative (Native.call (.destroyImage image)))
    .refuse (.allocationFailure s!"Failed to bind image memory: {failure.name}")
  | none => .lift (register (.image image (some memory) desc))

/-- A new image with memory of its own. -/
def createImage (format : ImageFormat) (desc : TextureDesc) :
    Attempt TextureError VulkanDevice ResourceId := do
  let info : ImageInfo :=
    { format, width := desc.width, height := desc.height, levels := desc.levels
      layers := desc.layers, samples := sampleCount desc.samples, usage := imageUsage desc.flags }
  match ← .lift (onNative (Native.createImage info)) with
  | .error failure =>
    .refuse (.allocationFailure s!"Failed to create image: {failure.name}")
  | .ok image =>
    match ← .lift (onNative (Native.allocateImageMemory info)) with
    | .error refusal =>
      .lift (onNative (Native.call (.destroyImage image)))
      .refuse (.allocationFailure s!"Failed to allocate texture memory: {refusal.message}")
    | .ok memory => bindImage image memory desc

/-- A new image in the layout of its usage state. New images have no contents that a barrier would
have to keep. -/
def createTexture (desc : TextureDesc) (initialState : UsageState) :
    Attempt TextureError VulkanDevice ResourceId := do
  let format := imageFormat desc.format
  if format = .undefined then
    .refuse (.allocationFailure s!"unsupported texture format {desc.format.name}")
  else if desc.samples.isPowerOfTwo ∧ desc.samples ≤ 64 then
    let id ← createImage format desc
    .lift (transitionImage id .undefined 0 topOfPipe initialState)
    pure id
  else .refuse (.allocationFailure s!"unsupported sample count {desc.samples}")

def textureDesc? (device : VulkanDevice) (id : ResourceId) : Option TextureDesc :=
  (device.image? id).map Prod.snd

/-- Binds memory to a new buffer that the host has to see. A buffer that fails is given up with its
memory. -/
def bindBuffer (buffer memory size : Nat) :
    Attempt TextureError VulkanDevice HostBuffer := do
  let failure ← .lift (onNative (Native.bindBufferMemory buffer))
  let isMapped ← .lift (onNative Native.isMapped)
  match failure with
  | some failure =>
    .lift (destroyNative (.buffer buffer memory size))
    .refuse (.allocationFailure s!"Failed to bind buffer memory: {failure.name}")
  | none =>
    if isMapped then
      let id ← .lift (register (.buffer buffer memory size))
      pure ⟨id, .zeroed size⟩
    else
      .lift (destroyNative (.buffer buffer memory size))
      .refuse (.allocationFailure "upload buffer is not host mapped")

/-- A new buffer with memory that the host sees. -/
def createHostBuffer (size : Nat) : Attempt TextureError VulkanDevice HostBuffer := do
  match ← .lift (onNative (Native.createBuffer size)) with
  | .error failure =>
    .refuse (.allocationFailure s!"Failed to create buffer: {failure.name}")
  | .ok buffer =>
    match ← .lift (onNative (Native.allocateBufferMemory size)) with
    | .error refusal =>
      .lift (onNative (Native.call (.destroyBuffer buffer)))
      .refuse (.allocationFailure s!"Failed to allocate upload memory: {refusal.message}")
    | .ok memory => bindBuffer buffer memory size

/-- The format and aspect of a view. Depth images are seen in their own format. -/
def viewFormat (desc : TextureDesc) (view : ViewDesc) : ImageFormat × Aspect :=
  if isDepthImage desc.format then (imageFormat desc.format, .depth)
  else (imageFormat view.format, .color)

/-- Makes a view. A view that was at the slot before is destroyed. -/
def createView (resource : ResourceId) (view : ViewDesc) (slot : Slot) :
    Attempt TextureError VulkanDevice Unit := do
  let device ← .get
  match device.image? resource with
  | none => .refuse (.invalidParameter s!"{resource.describe} is not an image")
  | some (image, desc) =>
    let info : ViewInfo :=
      { image
        format := (viewFormat desc view).1
        aspect := (viewFormat desc view).2
        isArray := view.dimension.layers?.isSome
        levels := max view.mipLevels 1
        layers := view.dimension.layers?.getD 1 }
    match ← .lift (onNative (Native.createImageView info)) with
    | .error failure =>
      .refuse (.allocationFailure s!"Failed to create image view: {failure.name}")
    | .ok made =>
      let device ← .get
      .modify fun device => { device with views := device.views.insert slot made }
      .lift ((device.views.get? slot).forM destroyView)

def releaseView (slot : Slot) : Act VulkanDevice Unit := do
  let device ← Act.get
  match device.views.get? slot with
  | none => pure ()
  | some view =>
    Act.set { device with views := device.views.erase slot }
    destroyView view

def recordBarrier (resource : ResourceId) (before after : UsageState) : Act VulkanDevice Unit :=
  transitionImage resource (stateLayout before) (stateAccess before) (stateStage before) after

/-- A position in an image is a signed 32-bit number. -/
def imageOffset (position : Nat) : Int := Int.bmod position 4294967296

def recordCopy (copy : BufferCopy) : Act VulkanDevice Unit := do
  let device ← Act.get
  match device.buffer? copy.source with
  | none => Act.log .error s!"Copy from unknown buffer {copy.source.describe} dropped"
  | some buffer =>
    match device.image? copy.destination with
    | none => Act.log .error s!"Copy to unknown image {copy.destination.describe} dropped"
    | some (image, desc) =>
      match ← commandBuffer? with
      | none => pure ()
      | some commandBuffer =>
        onNative (Native.call (.copyBufferToImage commandBuffer
          { buffer, image
            layout := .transferDestination
            offset := copy.sourceOffset
            rowLength := copy.rowPitch / max copy.format.bytesPerPixel 1
            aspect := imageAspect desc.format
            x := imageOffset copy.region.x
            y := imageOffset copy.region.y
            width := copy.region.width
            height := copy.region.height }))
        refer copy.source
        refer copy.destination

def endCommandBuffer (commandBuffer : Nat) : Act VulkanDevice Unit := do
  match ← onNative (Native.endCommandBuffer commandBuffer) with
  | none => pure ()
  | some failure => Act.log .error s!"Failed to end command buffer: {failure.name}"

/-- Ends the command buffer being recorded and hands it over with what was parked for it. -/
def endRecording : Act VulkanDevice (Option Nat × List Resource) := do
  let device ← Act.get
  Act.set { device with recording := none }
  device.recording.forM endCommandBuffer
  Act.modify fun device => { device with referenced := [], parked := [] }
  pure (device.recording, device.parked)

/-- Waits for the fence of a submission. A wait that fails is reported. -/
def awaitFence (fence : Nat) : Act VulkanDevice Unit := do
  match ← onNative (Native.waitForFence fence fenceTimeout) with
  | none => pure ()
  | some failure =>
    if failure = .timeout then
      Act.log .warn ("Fence wait timed out after 10 seconds. " ++
        "GPU may be hung or fence was never signaled.")
    else Act.log .error s!"Fence wait failed: {failure.name}"

/-- Waits for the device before a submission is retired that never reached it. -/
def awaitBeforeRetiring (fenceValue : Nat) : Act VulkanDevice Unit := do
  if ← awaitIdle then pure ()
  else Act.log .warn s!"Retiring submission {fenceValue} without confirmed completion"

/-- Work that could not be submitted is retired once the device is idle. -/
def abandon (submission : Submission) (failure : ResultCode) : Act VulkanDevice Unit := do
  Act.log .error s!"Queue submission failed: {failure.name}"
  submission.fence.forM destroyFence
  awaitBeforeRetiring submission.fenceValue
  retire { submission with fence := none }

/-- Submits ended work under a fence of its own, or gives it up. -/
def handOver (submission : Submission) (fence : Nat) (wait : Bool) :
    Act VulkanDevice Unit := do
  match ← onNative (Native.queueSubmit submission.commandBuffer fence) with
  | some failure => abandon submission failure
  | none =>
    Act.modify fun device => { device with inFlight := device.inFlight ++ [submission] }
    if wait then awaitFence fence else pure ()

/-- Submits ended work under a new fence, or gives it up. -/
def submitEnded (fenceValue : Nat) (ended : Option Nat × List Resource) (wait : Bool) :
    Act VulkanDevice Unit := do
  match ← onNative Native.createFence with
  | .error failure =>
    abandon { fenceValue, fence := none, commandBuffer := ended.1, parked := ended.2 } failure
  | .ok fence =>
    handOver { fenceValue, fence := some fence, commandBuffer := ended.1, parked := ended.2 }
      fence wait

def submit (wait : Bool) : Act VulkanDevice Nat := do
  let device ← Act.get
  let fenceValue := device.currentFence
  Act.set { device with currentFence := fenceValue + 1 }
  let ended ← endRecording
  submitEnded fenceValue ended wait
  pollCompleted
  pure fenceValue

/-- The highest fence value known to be complete, after a look at the fences in flight. -/
def pollFence : Act VulkanDevice Nat := do
  pollCompleted
  Act.gets completedFence

def waitIdle : Act VulkanDevice Unit := do
  let _ ← awaitIdle
  pollCompleted

/-- Frees a resource, or parks it if the command buffer being recorded refers to it. -/
def destroyResource (id : ResourceId) : Act VulkanDevice Unit := do
  let device ← Act.get
  match device.resources.get? id with
  | none => Act.log .error s!"Destroying unknown resource {id.describe}"
  | some resource =>
    Act.set { device with resources := device.resources.erase id }
    if id ∈ device.referenced then
      Act.log .trace s!"Parking {id.describe} until the command buffer using it completes"
      Act.modify fun device => { device with parked := device.parked ++ [resource] }
    else destroyNative resource

def destroyViews : List Nat → Act VulkanDevice Unit
  | [] => pure ()
  | view :: rest => do
    destroyView view
    destroyViews rest

def warnLive (count : Nat) : Act VulkanDevice Unit :=
  if count = 0 then pure ()
  else Act.log .warn s!"VulkanDevice dropped with {count} live resources"

/-- Waits for the device and frees everything that is left. -/
def close : Act VulkanDevice Unit := do
  let _ ← awaitIdle
  let device ← Act.get
  Act.set { device with recording := none }
  device.recording.forM freeCommandBuffer
  Act.modify fun device => { device with inFlight := [] }
  retireEach device.inFlight
  Act.modify fun device => { device with parked := [] }
  destroyEach device.parked
  Act.modify fun device => { device with views := {} }
  destroyViews device.views.values
  warnLive device.resources.size
  Act.modify fun device => { device with resources := {} }
  destroyEach device.resources.values
  onNative (Native.call (.destroyCommandPool device.pool))

def describe (device : VulkanDevice) : String :=
  Text.record "VulkanDevice" [("resources", toString device.resources.size),
    ("views", toString device.views.size), ("recording", Text.bool device.recording.isSome),
    ("in_flight", toString device.inFlight.length),
    ("current_fence", toString device.currentFence),
    ("completed_fence", toString device.completedFence)]

instance : Device VulkanDevice where
  name := "Vulkan"
  describe := describe
  createTexture := createTexture
  textureDesc := textureDesc?
  createHostBuffer := createHostBuffer
  createView := createView
  releaseView := releaseView
  recordBarrier := recordBarrier
  recordCopy := recordCopy
  submit := submit
  currentFence := currentFence
  completedFence := pollFence
  waitIdle := waitIdle
  destroyResource := destroyResource
  close := close

end VulkanDevice

end Texel.Vulkan
