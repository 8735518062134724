import Texel.Device
import Texel.Table

namespace Texel

namespace Simulated

/-- What a simulated device has recorded. -/
inductive Command where
  | barrier (resource : ResourceId) (before after : UsageState)
  | copy (request : BufferCopy)
  deriving DecidableEq, Repr

def Command.describe : Command → String
  | .barrier resource before after =>
    Text.record "Barrier" [("resource", resource.describe), ("before", before.name),
      ("after", after.name)]
  | .copy request => Text.call "CopyBufferToTexture" [request.describe]

def Command.isBarrier : Command → Bool
  | .barrier .. => true
  | .copy _ => false

/-- What a simulated device knows of a resource. -/
inductive Resource where
  | texture (desc : TextureDesc) (initialState : UsageState)
  | buffer (size : Nat)
  deriving DecidableEq, Repr

def Resource.describe : Resource → String
  | .texture desc initialState =>
    Text.record "Texture" [("desc", desc.describe), ("initial_state", initialState.name)]
  | .buffer size => Text.record "Buffer" [("size", toString size)]

def Resource.isTexture : Resource → Bool
  | .texture .. => true
  | .buffer _ => false

end Simulated

/-- A device without hardware. It keeps book of resources and views, keeps every recorded command,
and completes submissions at once unless completion is held back. Allocations and views can be made
to fail. -/
structure SimulatedDevice where
  nextId : Nat := 1
  resources : Table ResourceId Simulated.Resource := {}
  views : Table Slot (ResourceId × ViewDesc) := {}
  /-- Every command recorded so far, across submissions. -/
  commands : Array Simulated.Command := #[]
  /-- The fence of each submission and the number of commands recorded before it. -/
  submissions : Array (Nat × Nat) := #[]
  currentFence : Nat := 1
  completedFence : Nat := 0
  /-- Submissions complete at once. -/
  autoComplete : Bool := true
  /-- How many of the next allocations fail. -/
  failingAllocations : Nat := 0
  /-- How many of the next views fail. -/
  failingViews : Nat := 0
  destroyedCount : Nat := 0
  deriving DecidableEq, Repr

namespace SimulatedDevice

/-- All submitted work is complete. -/
def completeAll (device : SimulatedDevice) : SimulatedDevice :=
  { device with completedFence := device.currentFence - 1 }

def barrierCount (device : SimulatedDevice) : Nat :=
  (device.commands.filter Simulated.Command.isBarrier).size

def copyCount (device : SimulatedDevice) : Nat :=
  device.commands.size - device.barrierCount

def liveTextureCount (device : SimulatedDevice) : Nat :=
  (device.resources.values.filter Simulated.Resource.isTexture).length

def liveBufferCount (device : SimulatedDevice) : Nat :=
  device.resources.size - device.liveTextureCount

def isLive (device : SimulatedDevice) (id : ResourceId) : Bool :=
  device.resources.contains id

/-- The state a live texture was created in. -/
def initialState? (device : SimulatedDevice) (id : ResourceId) : Option UsageState :=
  match device.resources.get? id with
  | some (.texture _ initialState) => some initialState
  | _ => none

def bufferSize? (device : SimulatedDevice) (id : ResourceId) : Option Nat :=
  match device.resources.get? id with
  | some (.buffer size) => some size
  | _ => none

def textureDesc? (device : SimulatedDevice) (id : ResourceId) : Option TextureDesc :=
  match device.resources.get? id with
  | some (.texture desc _) => some desc
  | _ => none

def describe (device : SimulatedDevice) : String :=
  Text.record "DummyDevice" [("next_id", toString device.nextId),
    ("resources", Text.map (device.resources.entries.map fun entry =>
      (entry.1.describe, entry.2.describe))),
    ("views", Text.map (device.views.entries.map fun entry =>
      (Text.tuple [entry.1.kind.name, toString entry.1.index],
        Text.tuple [entry.2.1.describe, entry.2.2.describe]))),
    ("commands", Text.list (device.commands.toList.map Simulated.Command.describe)),
    ("submissions", Text.list (device.submissions.toList.map fun submission =>
      Text.tuple [toString submission.1, toString submission.2])),
    ("current_fence", toString device.currentFence),
    ("completed_fence", toString device.completedFence),
    ("auto_complete", Text.bool device.autoComplete),
    ("failing_allocations", toString device.failingAllocations),
    ("failing_views", toString device.failingViews),
    ("destroyed_count", toString device.destroyedCount)]

/-- Puts a resource in the table under the next identifier, which is then used up. -/
def register (resource : Simulated.Resource) : Act SimulatedDevice ResourceId := do
  let device ← Act.get
  let id := ResourceId.mk device.nextId
  Act.set { device with
    nextId := device.nextId + 1, resources := device.resources.insert id resource }
  pure id

/-- Spends one of the failures asked for, if there are any left. -/
def failAllocation : Act SimulatedDevice Bool := do
  let device ← Act.get
  if device.failingAllocations = 0 then pure false
  else
    Act.set { device with failingAllocations := device.failingAllocations - 1 }
    pure true

def createTexture (desc : TextureDesc) (initialState : UsageState) :
    Attempt TextureError SimulatedDevice ResourceId := do
  if ← .lift failAllocation then .refuse (.allocationFailure "simulated allocation failure")
  else
    let id ← .lift (register (.texture desc initialState))
    .log .trace (s!"DummyDevice: creating texture {id.describe} ({desc.width}x{desc.height}x" ++
      s!"{desc.layers} {desc.format.name}, {initialState.name})")
    pure id

def createHostBuffer (size : Nat) : Attempt TextureError SimulatedDevice HostBuffer := do
  if ← .lift failAllocation then .refuse (.allocationFailure "simulated allocation failure")
  else
    let id ← .lift (register (.buffer size))
    .log .trace s!"DummyDevice: creating host buffer {id.describe} ({size} bytes)"
    pure ⟨id, .zeroed size⟩

def createView (resource : ResourceId) (view : ViewDesc) (slot : Slot) :
    Attempt TextureError SimulatedDevice Unit := do
  let device ← .get
  if device.failingViews = 0 then
    .log .trace
      s!"DummyDevice: creating {view.describe} of {resource.describe} at {slot.describe}"
    .modify fun device => { device with views := device.views.insert slot (resource, view) }
  else
    .modify fun device => { device with failingViews := device.failingViews - 1 }
    .refuse (.allocationFailure "simulated view failure")

def releaseView (slot : Slot) : Act SimulatedDevice Unit :=
  Act.modify fun device => { device with views := device.views.erase slot }

def record (command : Simulated.Command) : Act SimulatedDevice Unit :=
  Act.modify fun device => { device with commands := device.commands.push command }

def recordBarrier (resource : ResourceId) (before after : UsageState) :
    Act SimulatedDevice Unit := do
  Act.log .trace s!"DummyDevice: barrier {resource.describe} {before.name} -> {after.name}"
  record (.barrier resource before after)

def recordCopy (copy : BufferCopy) : Act SimulatedDevice Unit := do
  Act.log .trace (s!"DummyDevice: copy {copy.source.describe}+{copy.sourceOffset} -> " ++
    s!"{copy.destination.describe} {copy.region.describe}")
  record (.copy copy)

def submit (wait : Bool) : Act SimulatedDevice Nat := do
  let device ← Act.get
  let fence := device.currentFence
  Act.set { device with
    currentFence := fence + 1
    submissions := device.submissions.push (fence, device.commands.size)
    completedFence := if device.autoComplete || wait then fence else device.completedFence }
  Act.log .trace s!"DummyDevice: submitted fence {fence} (wait: {Text.bool wait})"
  pure fence

def destroyResource (id : ResourceId) : Act SimulatedDevice Unit := do
  let device ← Act.get
  if device.resources.contains id then
    Act.set { device with
      resources := device.resources.erase id, destroyedCount := device.destroyedCount + 1 }
    Act.log .trace s!"DummyDevice: destroyed {id.describe}"
  else Act.log .error s!"DummyDevice: destroying unknown resource {id.describe}"

instance : Device SimulatedDevice where
  name := "Dummy"
  describe := describe
  createTexture := createTexture
  textureDesc := textureDesc?
  createHostBuffer := createHostBuffer
  createView := createView
  releaseView := releaseView
  recordBarrier := recordBarrier
  recordCopy := recordCopy
  submit := submit
  currentFence := currentFence
  completedFence := Act.gets completedFence
  waitIdle := Act.modify completeAll
  destroyResource := destroyResource
  close := pure ()

end SimulatedDevice

end Texel
