import Texel.Descriptor.Heap
import Texel.Resource

namespace Texel

/-- Something that waits to be freed. -/
inductive Retired where
  | resource (id : ResourceId)
  | descriptor (slot : Slot)
  deriving DecidableEq, Repr

def Retired.describe : Retired → String
  | .resource id => Text.call "Resource" [Text.record "GpuResource" [("id", id.describe)]]
  | .descriptor slot => Text.call "Descriptor" [slot.describe]

/-- Retired items with the fences they wait for, in the order they were retired. -/
structure RetirementQueue where
  entries : List (Nat × Retired) := []
  deriving DecidableEq, Repr

namespace RetirementQueue

/-- Queues an item until a fence has completed. -/
def retire (queue : RetirementQueue) (item : Retired) (fence : Nat) : RetirementQueue :=
  ⟨queue.entries ++ [(fence, item)]⟩

/-- The items at the front whose fences are at most `completed`, and what is left. -/
def reap (queue : RetirementQueue) (completed : Nat) : List Retired × RetirementQueue :=
  ((queue.entries.takeWhile fun entry => entry.1 ≤ completed).map Prod.snd,
    ⟨queue.entries.dropWhile fun entry => entry.1 ≤ completed⟩)

/-- Every item, whatever its fence. -/
def drain (queue : RetirementQueue) : List Retired × RetirementQueue :=
  (queue.entries.map Prod.snd, {})

def pending (queue : RetirementQueue) : Nat := queue.entries.length

def isEmpty (queue : RetirementQueue) : Bool := queue.entries.isEmpty

def describe (queue : RetirementQueue) : String :=
  Text.record "RetirementQueue" [("pending", toString queue.pending),
    ("oldest_fence", Text.option (queue.entries.head?.map fun entry => toString entry.1))]

end RetirementQueue

end Texel
