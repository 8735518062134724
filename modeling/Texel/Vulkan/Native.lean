import Texel.Act
import Texel.Vulkan.Call

namespace Texel.Vulkan

/-- What can be told its answers: the calls, and what a memory allocator needs. -/
inductive Operation where
  | createCommandPool
  | createImage
  | bindImageMemory
  | createBuffer
  | bindBufferMemory
  | createImageView
  | createFence
  | allocateCommandBuffers
  | beginCommandBuffer
  | endCommandBuffer
  | queueSubmit
  | waitForFences
  | deviceWaitIdle
  | getFenceStatus
  | imageMemory
  | bufferMemory
  | hostMapping
  deriving DecidableEq, Repr

namespace Operation

/-- The operations that have a name of their own outside this library. -/
def named : List (String × Operation) :=
  [("createCommandPool", .createCommandPool), ("createImage", .createImage),
    ("bindImageMemory", .bindImageMemory), ("createBuffer", .createBuffer),
    ("bindBufferMemory", .bindBufferMemory), ("createImageView", .createImageView),
    ("createFence", .createFence), ("allocateCommandBuffers", .allocateCommandBuffers),
    ("beginCommandBuffer", .beginCommandBuffer), ("endCommandBuffer", .endCommandBuffer),
    ("queueSubmit", .queueSubmit), ("waitForFences", .waitForFences),
    ("deviceWaitIdle", .deviceWaitIdle), ("getFenceStatus", .getFenceStatus),
    ("imageMemory", .imageMemory), ("bufferMemory", .bufferMemory)]

def ofName? (text : String) : Option Operation := named.lookup text

end Operation

/-- What happened: a call, or something that no call shows. -/
inductive Event where
  | call (made : Call)
  | memoryAllocated (memory : Nat)
  | memoryFreed (memory : Nat)
  | fenceSignalled (fence : Nat)

def Event.call? : Event → Option Call
  | .call made => some made
  | _ => none

/-- Why the memory allocator refuses a request. -/
inductive AllocatorRefusal where
  | noPhysicalDevice
  | emptyRequest
  | noMemoryType
  | outOfMemory
  | notMapped
  deriving DecidableEq, Repr

def AllocatorRefusal.message : AllocatorRefusal → String
  | .noPhysicalDevice =>
    "Invalid AllocatorCreateDesc AllocatorCreateDesc field \x60physical_device\x60 is null."
  | .emptyRequest => "Invalid AllocationCreateDesc"
  | .noMemoryType => "No compatible memory type available"
  | .outOfMemory => "Out of memory"
  | .notMapped => "Failed to map memory: Returned mapped pointer is null"

/-- What the memory allocator is asked for. Only memory for a buffer is seen by the host. -/
inductive MemoryRequest where
  | image (info : ImageInfo)
  | buffer (size : Nat)
  deriving DecidableEq, Repr

/-- Why memory for a request is refused that is larger than any heap. Memory that the host sees is
asked for without a look at the size of the heap, and is then found not to be mapped. -/
def MemoryRequest.oversized : MemoryRequest → AllocatorRefusal
  | .image _ => .outOfMemory
  | .buffer _ => .notMapped

/-- The Vulkan implementation that a device works on. It hands out handles, which are numbers from 1
on, counted for each kind of object. It holds the fences of submitted work, gives the answers it is
told to give, and keeps a history of all that happened. -/
structure Native where
  pools : Nat := 0
  images : Nat := 0
  buffers : Nat := 0
  views : Nat := 0
  fences : Nat := 0
  commandBuffers : Nat := 0
  allocations : Nat := 0
  /-- The answers that wait for an operation, the next one first. -/
  script : Operation → List ResultCode := fun _ => []
  /-- What the memory allocator refuses of its own accord. -/
  refuses : MemoryRequest → Option AllocatorRefusal := fun _ => none
  /-- A submission signals its fence at once. -/
  signalsAtOnce : Bool := true
  /-- Fences of submitted work that have not signalled, oldest first. -/
  waiting : List Nat := []
  signalled : List Nat := []
  history : Array Event := #[]

namespace Native

/-- The calls made so far. -/
def calls (native : Native) : List Call :=
  native.history.toList.filterMap Event.call?

/-- Sets the answers that wait for an operation. -/
def plan (native : Native) (operation : Operation) (answers : List ResultCode) : Native :=
  { native with script := fun other =>
      if other = operation then answers else native.script other }

def record (event : Event) : Act Native Unit :=
  Act.modify fun native => { native with history := native.history.push event }

/-- Takes the next answer that waits for an operation. -/
def nextAnswer (operation : Operation) : Act Native (Option ResultCode) := do
  let native ← Act.get
  match native.script operation with
  | [] => pure none
  | answer :: rest =>
    Act.set (native.plan operation rest)
    pure (some answer)

/-- Takes the next answer that waits for an operation. One that is success changes nothing. -/
def nextFailure (operation : Operation) : Act Native (Option ResultCode) := do
  let answer ← nextAnswer operation
  pure (answer.bind ResultCode.failure?)

/-- Signals a fence of submitted work. -/
def signal (fence : Nat) : Act Native Unit := do
  let native ← Act.get
  if fence ∈ native.waiting then
    Act.set { native with
      waiting := native.waiting.filter (· ≠ fence), signalled := native.signalled ++ [fence] }
    record (.fenceSignalled fence)
  else pure ()

/-- Signals fences one after the other. -/
def signalEach : List Nat → Act Native Unit
  | [] => pure ()
  | fence :: rest => do
    signal fence
    signalEach rest

/-- Signals the fences of all submitted work. -/
def signalAll : Act Native Unit := do
  let native ← Act.get
  signalEach native.waiting

/-- A call that makes an object: `made` counts it and gives its handle. -/
def make (operation : Operation) (call : Except ResultCode Nat → Call)
    (made : Native → Nat × Native) : Act Native (Except ResultCode Nat) := do
  match ← nextFailure operation with
  | some failure =>
    record (.call (call (.error failure)))
    pure (.error failure)
  | none =>
    let native ← Act.get
    Act.set (made native).2
    record (.call (call (.ok (made native).1)))
    pure (.ok (made native).1)

def createCommandPool (family : Nat) : Act Native (Except ResultCode Nat) :=
  make .createCommandPool (.createCommandPool family) fun native =>
    (native.pools + 1, { native with pools := native.pools + 1 })

def createImage (info : ImageInfo) : Act Native (Except ResultCode Nat) :=
  make .createImage (.createImage info) fun native =>
    (native.images + 1, { native with images := native.images + 1 })

def createBuffer (size : Nat) : Act Native (Except ResultCode Nat) :=
  make .createBuffer (.createBuffer size) fun native =>
    (native.buffers + 1, { native with buffers := native.buffers + 1 })

def createImageView (info : ViewInfo) : Act Native (Except ResultCode Nat) :=
  make .createImageView (.createImageView info) fun native =>
    (native.views + 1, { native with views := native.views + 1 })

def createFence : Act Native (Except ResultCode Nat) :=
  make .createFence .createFence fun native =>
    (native.fences + 1, { native with fences := native.fences + 1 })

def allocateCommandBuffer (pool : Nat) : Act Native (Except ResultCode Nat) :=
  make .allocateCommandBuffers (.allocateCommandBuffer pool) fun native =>
    (native.commandBuffers + 1, { native with commandBuffers := native.commandBuffers + 1 })

/-- A call that makes nothing and may fail. -/
def attempt (operation : Operation) (call : Option ResultCode → Call) :
    Act Native (Option ResultCode) := do
  let answer ← nextAnswer operation
  record (.call (call answer))
  pure (answer.bind ResultCode.failure?)

def bindImageMemory (image : Nat) : Act Native (Option ResultCode) :=
  attempt .bindImageMemory (.bindImageMemory image)

def bindBufferMemory (buffer : Nat) : Act Native (Option ResultCode) :=
  attempt .bindBufferMemory (.bindBufferMemory buffer)

def beginCommandBuffer (commandBuffer : Nat) : Act Native (Option ResultCode) :=
  attempt .beginCommandBuffer (.beginCommandBuffer commandBuffer)

def endCommandBuffer (commandBuffer : Nat) : Act Native (Option ResultCode) :=
  attempt .endCommandBuffer (.endCommandBuffer commandBuffer)

/-- Submitted work signals its fence at once or waits. -/
def queueSubmit (commandBuffer : Option Nat) (fence : Nat) : Act Native (Option ResultCode) := do
  match ← attempt .queueSubmit (.queueSubmit commandBuffer fence) with
  | some failure => pure (some failure)
  | none =>
    Act.modify fun native => { native with waiting := native.waiting ++ [fence] }
    let native ← Act.get
    if native.signalsAtOnce then
      signal fence
      pure none
    else pure none

/-- A wait that succeeds has seen the fence signal. -/
def waitForFence (fence timeout : Nat) : Act Native (Option ResultCode) := do
  match ← attempt .waitForFences (.waitForFence fence timeout) with
  | some failure => pure (some failure)
  | none =>
    signal fence
    pure none

/-- A wait that succeeds has seen all submitted work finish. -/
def deviceWaitIdle : Act Native (Option ResultCode) := do
  match ← attempt .deviceWaitIdle .deviceWaitIdle with
  | some failure => pure (some failure)
  | none =>
    signalAll
    pure none

/-- Whether a fence is known to have signalled. A query that is told to succeed finds that it just
has; one that fails does not say so. -/
def isSignalled (fence : Nat) : Act Native Bool := do
  match ← nextAnswer .getFenceStatus with
  | none => Act.gets fun native => decide (fence ∈ native.signalled)
  | some answer =>
    match answer.failure? with
    | some _ => pure false
    | none =>
      signal fence
      pure true

/-- Makes a call that cannot fail. -/
def call (made : Call) : Act Native Unit := record (.call made)

/-- Answers whether the host can see the memory of a buffer, which no told answer grants. -/
def isMapped : Act Native Bool := do
  let answer ← nextAnswer .hostMapping
  pure answer.isNone

/-- Whether memory for a request is refused. The told answer 1 stands for a request that is larger
than any heap, every other one for a request that no memory type fits. -/
def allocatorRefusal? (native : Native) (told : Option ResultCode) (request : MemoryRequest) :
    Option AllocatorRefusal :=
  if told.any fun answer => answer.code = 1 then some request.oversized
  else if request = .buffer 0 then some .emptyRequest
  else if told.isSome then some .noMemoryType
  else native.refuses request

/-- Asks the memory allocator for what an object needs. -/
def allocate (operation : Operation) (request : MemoryRequest) :
    Act Native (Except AllocatorRefusal Nat) := do
  let told ← nextAnswer operation
  let native ← Act.get
  match native.allocatorRefusal? told request with
  | some refusal => pure (.error refusal)
  | none =>
    let memory := native.allocations + 1
    Act.set { native with allocations := memory }
    record (.memoryAllocated memory)
    pure (.ok memory)

def allocateImageMemory (info : ImageInfo) : Act Native (Except AllocatorRefusal Nat) :=
  allocate .imageMemory (.image info)

def allocateBufferMemory (size : Nat) : Act Native (Except AllocatorRefusal Nat) :=
  allocate .bufferMemory (.buffer size)

def freeMemory (memory : Nat) : Act Native Unit := record (.memoryFreed memory)

end Native

end Texel.Vulkan
