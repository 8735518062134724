import Texel.Act
import Texel.Descriptor.View
import Texel.Error
import Texel.HostBuffer

namespace Texel

/-- A device records commands into one stream; they run in that order once they are submitted. Each
submission has a fence value, one more than the one before it, which completes when its work has
finished. -/
class Device (D : Type) where
  name : String
  /-- The device as it is written out in messages. -/
  describe : D → String
  /-- A new texture in the given usage state. -/
  createTexture : TextureDesc → UsageState → Attempt TextureError D ResourceId
  /-- The description of a live texture. -/
  textureDesc : D → ResourceId → Option TextureDesc
  /-- A new buffer of that many bytes which the host can write. -/
  createHostBuffer : Nat → Attempt TextureError D HostBuffer
  /-- Makes a view of a resource at a slot. -/
  createView : ResourceId → ViewDesc → Slot → Attempt TextureError D Unit
  /-- Removes the view at a slot, if there is one. -/
  releaseView : Slot → Act D Unit
  /-- Records that a resource moves from one usage state to another. -/
  recordBarrier : ResourceId → UsageState → UsageState → Act D Unit
  recordCopy : BufferCopy → Act D Unit
  /-- Submits what was recorded and answers with its fence value, after completion if asked to
  wait. -/
  submit : Bool → Act D Nat
  /-- The fence value of the commands being recorded now. -/
  currentFence : D → Nat
  /-- The highest fence value whose work, and all work before it, is known to be complete. -/
  completedFence : Act D Nat
  /-- Waits until all submitted work has completed. -/
  waitIdle : Act D Unit
  /-- Frees a resource now. Commands already recorded may still use it. -/
  destroyResource : ResourceId → Act D Unit
  /-- What the device does when it is given up. -/
  close : Act D Unit

end Texel
