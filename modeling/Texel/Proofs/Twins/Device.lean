import Texel.Descriptor.Set
import Texel.Proofs.Twins.Act

namespace Texel

/-- A description that every device can make a texture of. -/
structure TextureDesc.IsCommon (desc : TextureDesc) : Prop where
  format : desc.format ≠ .unknown
  samples : desc.samples.isPowerOfTwo
  samples_le : desc.samples ≤ 64

instance (desc : TextureDesc) : Decidable desc.IsCommon :=
  decidable_of_iff (desc.format ≠ .unknown ∧ desc.samples.isPowerOfTwo ∧ desc.samples ≤ 64)
    ⟨fun ⟨hformat, hsamples, hle⟩ => ⟨hformat, hsamples, hle⟩, fun ⟨hformat, hsamples, hle⟩ =>
      ⟨hformat, hsamples, hle⟩⟩

/-- The uses that views need make no difference. -/
theorem TextureDesc.IsCommon.allowIn {desc : TextureDesc} (h : desc.IsCommon)
    (formats : ViewFormats) : (formats.allowIn desc).IsCommon := by
  obtain ⟨hformat, hsamples, hle⟩ := h
  unfold ViewFormats.allowIn
  split <;> split <;> exact ⟨hformat, hsamples, hle⟩

variable {D E α ε : Type} {relation related : D → E → Prop}

/-- The devices of two view pools are related, and their heaps are the same. -/
structure ViewPool.Twins (relation : D → E → Prop) (left : ViewPool D) (right : ViewPool E) :
    Prop where
  device : relation left.device right.device
  heaps : left.heaps = right.heaps

namespace ViewPool

/-- What mirrors on two devices does so in pools of views that work on them. -/
theorem mirrors_onDevice {first : Act D α} {second : Act E α}
    (h : first.Mirrors second relation) :
    (onDevice first).Mirrors (onDevice second) (Twins relation) :=
  .focus h (fun _ _ htwins => htwins.device) fun _ _ htwins _ _ _ hnow => ⟨hnow, htwins.heaps⟩

theorem mirrors_tryDevice {first : Attempt ε D α} {second : Attempt ε E α}
    (h : first.Mirrors second relation) :
    (tryDevice first).Mirrors (tryDevice second) (Twins relation) :=
  mirrors_onDevice h

/-- Twin pools have the same heaps, so any operation of a heap does the same in both. -/
theorem mirrors_onHeap (kind : ViewKind) (act : Act Heap α) :
    (onHeap kind act : Act (ViewPool D) α).Mirrors (onHeap kind act) (Twins relation) := by
  refine .focus (Act.Mirrors.refl act)
    (fun _ _ htwins => congrArg (Heaps.heap · kind) htwins.heaps) ?_
  rintro left right ⟨hdevice, hheaps⟩ _ now _ rfl
  exact ⟨hdevice, congrArg (Heaps.setHeap · kind now) hheaps⟩

theorem mirrors_heapExhausted (kind : ViewKind) (resource : ResourceId) :
    (heapExhausted kind resource).Mirrors (heapExhausted kind resource) (Twins relation) := by
  refine .bind (.lift (.gets fun left right htwins => ?_)) fun heap => .bind .log fun _ => .refuse _
  exact ⟨congrArg (Heaps.heap · kind) htwins.heaps, htwins⟩

/-- A refused view gives its slot back in both pools. -/
theorem mirrors_viewRefused (kind : ViewKind) (resource : ResourceId) (slot : Slot)
    (error : TextureError) :
    (viewRefused kind resource slot error).Mirrors (viewRefused kind resource slot error)
      (Twins relation) := by
  refine .bind .log fun _ => ?_
  refine .bind (.lift (mirrors_onHeap kind _)) fun _ => ?_
  refine .ite (fun _ => .refuse _) fun _ => ?_
  exact .bind .log fun _ => .refuse _

end ViewPool

variable [Device D] [Device E]

/-- The device knows the resource as a texture. -/
def Device.IsTexture (device : D) (id : ResourceId) : Prop := (Device.textureDesc device id).isSome

instance (device : D) (id : ResourceId) : Decidable (Device.IsTexture device id) :=
  inferInstanceAs (Decidable ((Device.textureDesc device id).isSome = true))

/-- Operations on devices in related states match: textures have a common description, host buffers
have at least one byte, and views are made of textures. -/
structure Device.Twins (related : D → E → Prop) : Prop where
  textureDesc : ∀ left right, related left right →
    Device.textureDesc left = Device.textureDesc right
  currentFence : ∀ left right, related left right →
    Device.currentFence left = Device.currentFence right
  createTexture : ∀ desc state, desc.IsCommon →
    (Device.createTexture (D := D) desc state).Matches (Device.createTexture (D := E) desc state)
      related (fun id left right => related left right ∧ IsTexture left id) related
  createHostBuffer : ∀ size, 0 < size →
    (Device.createHostBuffer (D := D) size).Mirrors (Device.createHostBuffer (D := E) size) related
  createView : ∀ id view slot,
    (Device.createView (D := D) id view slot).Mirrors (Device.createView (D := E) id view slot)
      fun left right => related left right ∧ IsTexture left id
  releaseView : ∀ slot,
    (Device.releaseView (D := D) slot).Mirrors (Device.releaseView (D := E) slot) related
  recordBarrier : ∀ id before after,
    (Device.recordBarrier (D := D) id before after).Mirrors
      (Device.recordBarrier (D := E) id before after) related
  recordCopy : ∀ copy,
    (Device.recordCopy (D := D) copy).Mirrors (Device.recordCopy (D := E) copy) related
  submit : ∀ wait,
    (Device.submit (D := D) wait).Mirrors (Device.submit (D := E) wait) related
  completedFence :
    (Device.completedFence (D := D)).Mirrors (Device.completedFence (D := E)) related
  waitIdle : (Device.waitIdle (D := D)).Mirrors (Device.waitIdle (D := E)) related
  destroyResource : ∀ id,
    (Device.destroyResource (D := D) id).Mirrors (Device.destroyResource (D := E) id) related

/-- Pools whose devices know the resource as a texture. -/
def ViewPool.TwinsOn (related : D → E → Prop) (id : ResourceId) :
    ViewPool D → ViewPool E → Prop :=
  ViewPool.Twins fun left right => related left right ∧ Device.IsTexture left id

section Views

open ViewPool

variable (h : Device.Twins related)
include h

/-- Releasing a slot removes its view from both devices and frees it in both heaps. -/
theorem ViewPool.mirrors_release (slot : Slot) :
    (release slot).Mirrors (release slot) (Twins related) := by
  refine .bind (mirrors_onDevice (h.releaseView slot)) fun _ => ?_
  refine .bind (mirrors_onHeap slot.kind _) fun _ => ?_
  exact .ite (fun _ => .pure _) fun _ => .log

/-- A view of a texture that both devices hold gets the same slot in twin pools. -/
theorem ViewPool.mirrors_createView (kind : ViewKind) (resource : ResourceId) (desc : TextureDesc)
    (format : NativeFormat) :
    (createView kind resource desc format).Mirrors (createView kind resource desc format)
      (TwinsOn related resource) := by
  refine .bind (.lift (mirrors_onHeap kind _)) fun allocated => ?_
  cases allocated with
  | none => exact mirrors_heapExhausted kind resource
  | some slot =>
    refine .bind (.answer (mirrors_tryDevice (h.createView resource _ slot))) fun answer => ?_
    cases answer with
    | ok => exact .pure slot
    | error error => exact mirrors_viewRefused kind resource slot error

namespace ViewSet

theorem mirrors_releaseSlots (slots : List Slot) :
    (releaseSlots slots).Mirrors (releaseSlots slots) (Twins related) := by
  induction slots with
  | nil => exact .pure ()
  | cons slot rest ih => exact .bind (mirrors_release h slot) fun _ => ih

/-- The views for reading get the same slots in twin pools, or the same error. -/
theorem mirrors_allocateSampled (resource : ResourceId) (desc : TextureDesc)
    (formats : ViewFormats) :
    (allocateSampled resource desc formats).Mirrors (allocateSampled resource desc formats)
      (TwinsOn related resource) :=
  .ite (fun _ => .pure none) fun _ =>
    .bind (mirrors_createView h .shaderResource resource desc _) fun slot => .pure (some slot)

theorem mirrors_allocateTarget (resource : ResourceId) (desc : TextureDesc)
    (formats : ViewFormats) :
    (allocateTarget resource desc formats).Mirrors (allocateTarget resource desc formats)
      (TwinsOn related resource) := by
  unfold allocateTarget
  split
  · exact .pure none
  · exact .bind (mirrors_createView h _ resource desc _) fun slot => .pure (some slot)

/-- A texture gets the same views on both sides. -/
theorem matches_allocate (resource : ResourceId) (desc : TextureDesc) (formats : ViewFormats) :
    (allocate resource desc formats).Matches (allocate resource desc formats)
      (TwinsOn related resource) (fun _ => Twins related) (Twins related) := by
  have hforget (left : ViewPool D) (right : ViewPool E)
      (htwins : TwinsOn related resource left right) : Twins related left right :=
    ⟨htwins.device.1, htwins.heaps⟩
  have hsampled := mirrors_allocateSampled h resource desc formats
  have htarget := mirrors_allocateTarget h resource desc formats
  have hrelease (slots : List Slot) : (releaseSlots slots).Matches (releaseSlots slots)
      (TwinsOn related resource) fun _ => Twins related :=
    .mono (mirrors_releaseSlots h slots) hforget fun _ _ _ htwins => htwins
  refine .bind (.mono (.of_mirrors hsampled) (fun _ _ htwins => htwins)
    (fun _ _ _ htwins => htwins) hforget) fun sampled => ?_
  refine .answer (.of_mirrors htarget) (fun target => .pure hforget) fun error => ?_
  refine .bind (.lift (hrelease _)) fun _ => ?_
  exact .refuse fun _ _ htwins => htwins

end ViewSet

end Views

end Texel
