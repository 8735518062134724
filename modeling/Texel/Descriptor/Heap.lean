import Texel.Act
import Texel.Text

namespace Texel

/-- The kinds of views, each with a heap of its own. -/
inductive ViewKind where
  | shaderResource
  | renderTarget
  | depthStencil
  deriving DecidableEq, Repr, Inhabited

namespace ViewKind

def all : List ViewKind := [.shaderResource, .renderTarget, .depthStencil]

def name : ViewKind → String
  | .shaderResource => "ShaderResource"
  | .renderTarget => "RenderTarget"
  | .depthStencil => "DepthStencil"

def ofName? (text : String) : Option ViewKind :=
  all.find? fun kind => kind.name == text

end ViewKind

/-- A place for one view in the heap of its kind. Whoever holds it may use the place. -/
structure Slot where
  kind : ViewKind
  index : Nat
  deriving DecidableEq, Repr, Inhabited

def Slot.describe (slot : Slot) : String :=
  s!"DescriptorHandle({slot.kind.name}#{slot.index})"

/-- A fixed number of slots of one kind. -/
structure Heap where
  kind : ViewKind
  /-- Indices that can be handed out, the next one first. -/
  free : List Nat
  /-- Which slots are handed out. -/
  taken : Array Bool
  deriving DecidableEq, Repr

namespace Heap

def ofCapacity (kind : ViewKind) (capacity : Nat) : Heap :=
  ⟨kind, List.range capacity, Array.replicate capacity false⟩

def capacity (heap : Heap) : Nat := heap.taken.size

def freeCount (heap : Heap) : Nat := heap.free.length

def allocatedCount (heap : Heap) : Nat := heap.capacity - heap.freeCount

/-- The slot of this index is handed out. -/
def isTaken (heap : Heap) (index : Nat) : Bool := heap.taken.getD index false

/-- Hands out the next free slot. -/
def allocate? (heap : Heap) : Option (Slot × Heap) :=
  match heap.free with
  | [] => none
  | index :: rest =>
    some (⟨heap.kind, index⟩,
      { heap with free := rest, taken := heap.taken.setIfInBounds index true })

/-- Takes a slot back. A slot that this heap has not handed out is given back to the caller. -/
def release (heap : Heap) (slot : Slot) : Except Slot Heap :=
  if slot.kind = heap.kind ∧ heap.isTaken slot.index then
    .ok { heap with
      free := slot.index :: heap.free, taken := heap.taken.setIfInBounds slot.index false }
  else .error slot

/-- `allocate?` as an operation on the heap. -/
def allocate : Act Heap (Option Slot) := do
  let heap ← Act.get
  match heap.allocate? with
  | none => pure none
  | some (slot, rest) =>
    Act.set rest
    pure (some slot)

/-- `release` as an operation on the heap; the answer says whether the slot was taken back. -/
def takeBack (slot : Slot) : Act Heap Bool := do
  let heap ← Act.get
  match heap.release slot with
  | .ok rest =>
    Act.set rest
    pure true
  | .error slot =>
    Act.log .warn s!"{slot.describe} freed into {heap.kind.name} heap that does not own it"
    pure false

def describe (heap : Heap) : String :=
  Text.record "DescriptorHeap" [("kind", heap.kind.name), ("capacity", toString heap.capacity),
    ("allocated", toString heap.allocatedCount)]

end Heap

/-- One heap for each kind of view. -/
structure Heaps where
  shaderResource : Heap
  renderTarget : Heap
  depthStencil : Heap
  deriving DecidableEq, Repr

namespace Heaps

def ofCapacities (shaderResource renderTarget depthStencil : Nat) : Heaps :=
  ⟨Heap.ofCapacity .shaderResource shaderResource, Heap.ofCapacity .renderTarget renderTarget,
    Heap.ofCapacity .depthStencil depthStencil⟩

def heap (heaps : Heaps) : ViewKind → Heap
  | .shaderResource => heaps.shaderResource
  | .renderTarget => heaps.renderTarget
  | .depthStencil => heaps.depthStencil

def setHeap (heaps : Heaps) (kind : ViewKind) (heap : Heap) : Heaps :=
  match kind with
  | .shaderResource => { heaps with shaderResource := heap }
  | .renderTarget => { heaps with renderTarget := heap }
  | .depthStencil => { heaps with depthStencil := heap }

def allocatedCount (heaps : Heaps) : Nat :=
  heaps.shaderResource.allocatedCount + heaps.renderTarget.allocatedCount +
    heaps.depthStencil.allocatedCount

def describe (heaps : Heaps) : String :=
  Text.record "DescriptorHeaps" [("shader_resource", heaps.shaderResource.describe),
    ("render_target", heaps.renderTarget.describe),
    ("depth_stencil", heaps.depthStencil.describe)]

/-- Only the heap that was put in is another one. -/
@[simp] theorem heap_setHeap (heaps : Heaps) (kind other : ViewKind) (heap : Heap) :
    (heaps.setHeap kind heap).heap other = if other = kind then heap else heaps.heap other := by
  cases kind <;> cases other <;> rfl

end Heaps

end Texel
