import Texel.Config
import Texel.Descriptor.Set
import Texel.Retirement
import Texel.StreamBuffer

namespace Texel

/-- Counters of the upload paths taken. -/
structure UploadStats where
  streamingUploads : Nat := 0
  stagingUploads : Nat := 0
  stagingCreated : Nat := 0
  stagingDestroyed : Nat := 0
  /-- Submissions forced by a full stream buffer. -/
  forcedSubmissions : Nat := 0
  deriving DecidableEq, Repr

def UploadStats.describe (stats : UploadStats) : String :=
  Text.record "UploadStats" [("streaming_uploads", toString stats.streamingUploads),
    ("staging_uploads", toString stats.stagingUploads),
    ("staging_created", toString stats.stagingCreated),
    ("staging_destroyed", toString stats.stagingDestroyed),
    ("forced_submissions", toString stats.forcedSubmissions)]

/-- The context that every texture operation works on: a device, the heaps for its views, the stream
buffer and the queue of retired items. -/
structure Context (D : Type) where
  device : D
  heaps : Heaps
  stream : StreamBuffer
  retirement : RetirementQueue := {}
  config : Config
  stats : UploadStats := {}

/-- Warns that whoever held a resource gave it up without freeing it. -/
def ResourceId.leak {σ : Type} (id : ResourceId) : Act σ Unit :=
  Act.log .warn s!"GpuResource {id.describe} dropped without being released, native resource leaked"

namespace Context

variable {D α ε : Type}

def onDevice (act : Act D α) : Act (Context D) α :=
  Act.focus (fun context => context.device) (fun context device => { context with device }) act

def tryDevice (attempt : Attempt ε D α) : Attempt ε (Context D) α :=
  Attempt.focus (fun context => context.device) (fun context device => { context with device })
    attempt

def onStream (act : Act StreamBuffer α) : Act (Context D) α :=
  Act.focus (fun context => context.stream) (fun context stream => { context with stream }) act

def tryStream (attempt : Attempt ε StreamBuffer α) : Attempt ε (Context D) α :=
  Attempt.focus (fun context => context.stream) (fun context stream => { context with stream })
    attempt

/-- The part of a context that views are made from. -/
def viewPool (context : Context D) : ViewPool D := ⟨context.device, context.heaps⟩

/-- A context with another view pool in place of its own. -/
def setViewPool (context : Context D) (pool : ViewPool D) : Context D :=
  { context with device := pool.device, heaps := pool.heaps }

def onViews (act : Act (ViewPool D) α) : Act (Context D) α := Act.focus viewPool setViewPool act

def tryViews (attempt : Attempt ε (ViewPool D) α) : Attempt ε (Context D) α :=
  Attempt.focus viewPool setViewPool attempt

def count (change : UploadStats → UploadStats) : Act (Context D) Unit :=
  Act.modify fun context => { context with stats := change context.stats }

variable [Device D]

/-- Makes the stream buffer of a new context on the device. -/
def openStream (config : Config) : Attempt TextureError D StreamBuffer := do
  .ofExcept config.validate
  let buffer ← Device.createHostBuffer config.streamSize
  match StreamBuffer.ofBuffer buffer with
  | .ok stream =>
    .log .info (s!"Created texture context on {Device.name D} " ++
      s!"(stream buffer: {config.streamSize} bytes)")
    pure stream
  | .error (error, buffer) =>
    .lift (Device.destroyResource buffer.resource)
    .refuse error

/-- A context on a device. If it cannot be made, the device is handed back with the reason. -/
def ofDevice (device : D) (config : Config) :
    Except (TextureError × D) (Context D) × List LogLine :=
  let opened := (openStream config).run device
  match opened.value with
  | .ok stream =>
    let heaps := Heaps.ofCapacities config.shaderResourceSlots config.renderTargetSlots
      config.depthStencilSlots
    (.ok { device := opened.state, heaps, stream, config }, opened.log)
  | .error error => (.error (error, opened.state), opened.log)

/-- Frees a retired item. -/
def release : Retired → Act (Context D) Unit
  | .resource id => onDevice (Device.destroyResource id)
  | .descriptor slot => onViews (ViewPool.release slot)

/-- Frees items one after the other. -/
def releaseAll : List Retired → Act (Context D) Unit
  | [] => pure ()
  | item :: rest => do
    release item
    releaseAll rest

/-- Frees an item now, or once the work recorded up to now has completed. -/
def dispose (item : Retired) (deferred : Bool) : Act (Context D) Unit :=
  if deferred then
    Act.modify fun context => { context with
      retirement := context.retirement.retire item (Device.currentFence context.device) }
  else release item

/-- Frees a resource at once, or queues it until the current fence has completed. -/
def destroyResource (id : ResourceId) (deferred : Bool) : Act (Context D) Unit :=
  dispose (.resource id) deferred

/-- Releases a slot at once, or queues it until the current fence has completed. -/
def destroyDescriptor (slot : Slot) (deferred : Bool) : Act (Context D) Unit :=
  dispose (.descriptor slot) deferred

/-- Gives up slots one after the other. -/
def destroySlots : List Slot → Bool → Act (Context D) Unit
  | [], _ => pure ()
  | slot :: rest, deferred => do
    destroyDescriptor slot deferred
    destroySlots rest deferred

/-- Destroys the slots of a set of views, the sampled view first. -/
def destroyViews (views : ViewSet) (deferred : Bool) : Act (Context D) Unit :=
  destroySlots views.slots deferred

/-- Tells how many items a reap has freed, if any. -/
def reportReaped (count completed : Nat) : Act (Context D) Unit :=
  if count = 0 then pure ()
  else Act.log .trace s!"Reaped {count} retired items (fence {completed})"

/-- Frees every retired item whose fence has completed, and the ring space that completed work has
read. Answers with the number of items. -/
def reapCompleted : Act (Context D) Nat := do
  let completed ← onDevice Device.completedFence
  onStream (Act.modify fun stream => stream.reclaim completed)
  let context ← Act.get
  let reaped := context.retirement.reap completed
  Act.set { context with retirement := reaped.2 }
  releaseAll reaped.1
  reportReaped reaped.1.length completed
  pure reaped.1.length

/-- Submits the recorded commands, goes on recording and reaps what has completed. Answers with the
fence of the submission. -/
def submit (wait : Bool) : Act (Context D) Nat := do
  let fence ← onDevice (Device.submit wait)
  onStream (Act.modify fun stream => stream.track fence)
  let _ ← reapCompleted
  pure fence

/-- Warns of slots that are still handed out when the context ends. -/
def reportLeaked (count : Nat) : Act (Context D) Unit :=
  if count = 0 then pure ()
  else Act.log .warn s!"Texture context shut down with {count} descriptors still allocated"

/-- Waits for the device and frees everything that the context holds. What is left is the device. -/
def shutdown : Act (Context D) Unit := do
  let _ ← onDevice (Device.submit true)
  onDevice Device.waitIdle
  let context ← Act.get
  let drained := context.retirement.drain
  Act.set { context with retirement := drained.2 }
  releaseAll drained.1
  let context ← Act.get
  reportLeaked context.heaps.allocatedCount
  onDevice (Device.destroyResource context.stream.resource)
  Act.log .info s!"Texture context on {Device.name D} shut down"

/-- Warns for each resource among retired items that are given up. -/
def leakRetired : List Retired → Act (Context D) Unit
  | [] => pure ()
  | .resource id :: rest => do
    id.leak
    leakRetired rest
  | .descriptor _ :: rest => leakRetired rest

/-- Gives up the context without shutting it down: the device closes, and what the stream buffer and
the queue hold is leaked. -/
def drop : Act (Context D) Unit := do
  onDevice Device.close
  let context ← Act.get
  context.stream.resource.leak
  leakRetired (context.retirement.entries.map Prod.snd)

def describe (context : Context D) : String :=
  Text.record "GpuContext" [("device", Device.describe context.device),
    ("heaps", context.heaps.describe), ("stream_buffer", context.stream.describe),
    ("retirement", context.retirement.describe), ("stats", context.stats.describe)]

end Context

end Texel
