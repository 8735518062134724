import Texel.Proofs.Context.Upkeep
import Texel.Proofs.Device.Timeline
import Texel.Texture
import Texel.Staging

namespace Texel

open SimulatedDevice

namespace ViewPool

variable {origin : SimulatedDevice}

/-- The condition on the device of a view pool. -/
def Steady (origin : SimulatedDevice) (pool : ViewPool SimulatedDevice) : Prop :=
  SameTimeline origin pool.device

/-- Releasing a slot records nothing. -/
theorem steady_release (slot : Slot) :
    (release slot : Act (ViewPool SimulatedDevice) Unit).Keeps (Steady origin) :=
  keeps_release keeps_releaseView slot

end ViewPool

/-- Making views records nothing, whether it succeeds or not. -/
theorem ViewSet.steady_allocate {origin : SimulatedDevice} (resource : ResourceId)
    (desc : TextureDesc) (formats : ViewFormats) :
    (allocate resource desc formats :
      Attempt TextureError (ViewPool SimulatedDevice) ViewSet).Keeps (ViewPool.Steady origin) :=
  keeps_allocate keeps_createView keeps_releaseView resource desc formats

namespace Context

/-- The timeline of the device, the stream buffer and the parameters are as in another context.
Textures and staging textures come and go like that, without a command or a submission. -/
structure Steady (origin context : Context SimulatedDevice) : Prop where
  timeline : SameTimeline origin.device context.device
  stream : context.stream = origin.stream
  config : context.config = origin.config

/-- A context is steady as long as nothing is done. -/
theorem Steady.refl (context : Context SimulatedDevice) : Steady context context :=
  ⟨.refl _, rfl, rfl⟩

variable {origin : Context SimulatedDevice} {α ε : Type}

/-- An operation of the device leaves the rest of the context as it was. -/
theorem meets_tryDevice {attempt : Attempt ε SimulatedDevice α}
    {after : α → SimulatedDevice → Prop} {refused : ε → SimulatedDevice → Prop}
    (h : attempt.Meets (fun device => device = origin.device) after refused) :
    (tryDevice attempt).Meets (fun context => context = origin)
      (fun value context => ∃ device, after value device ∧ context = { origin with device })
      fun error context => ∃ device, refused error device ∧ context = { origin with device } := by
  apply Attempt.Meets.focus
  rintro context rfl
  exact h.mono (fun _ heq => heq) (fun value device hdevice => ⟨device, hdevice, rfl⟩)
    fun error device hdevice => ⟨device, hdevice, rfl⟩

/-- An operation of the device that leaves its timeline alone leaves uploads alone. -/
theorem steady_onDevice {act : Act SimulatedDevice α}
    (h : act.Keeps (SameTimeline origin.device)) : (onDevice act).Keeps (Steady origin) :=
  fun context hcontext => ⟨h context.device hcontext.timeline, hcontext.stream, hcontext.config⟩

/-- An attempt of the device that leaves its timeline alone leaves uploads alone. -/
theorem steady_tryDevice {attempt : Attempt ε SimulatedDevice α}
    (h : attempt.Keeps (SameTimeline origin.device)) : (tryDevice attempt).Keeps (Steady origin) :=
  fun context hcontext => ⟨h context.device hcontext.timeline, hcontext.stream, hcontext.config⟩

/-- An operation on heaps and device that is steady leaves uploads alone. -/
theorem steady_onViews {act : Act (ViewPool SimulatedDevice) α}
    (h : act.Keeps (ViewPool.Steady origin.device)) : (onViews act).Keeps (Steady origin) :=
  fun context hcontext => ⟨h context.viewPool hcontext.timeline, hcontext.stream, hcontext.config⟩

/-- An attempt on heaps and device that is steady leaves uploads alone. -/
theorem steady_tryViews {attempt : Attempt ε (ViewPool SimulatedDevice) α}
    (h : attempt.Keeps (ViewPool.Steady origin.device)) :
    (tryViews attempt).Keeps (Steady origin) :=
  fun context hcontext => ⟨h context.viewPool hcontext.timeline, hcontext.stream, hcontext.config⟩

/-- Counting leaves uploads alone. -/
theorem steady_count (change : UploadStats → UploadStats) :
    (count change : Act (Context SimulatedDevice) Unit).Keeps (Steady origin) :=
  fun _ h => ⟨h.timeline, h.stream, h.config⟩

/-- Releasing an item leaves uploads alone. -/
theorem steady_release (item : Retired) :
    (release item : Act (Context SimulatedDevice) Unit).Keeps (Steady origin) := by
  cases item with
  | resource id => exact steady_onDevice (keeps_destroyResource id)
  | descriptor slot => exact steady_onViews (ViewPool.steady_release slot)

/-- Releasing items leaves uploads alone. -/
theorem steady_releaseAll (items : List Retired) :
    (releaseAll items : Act (Context SimulatedDevice) Unit).Keeps (Steady origin) := by
  induction items with
  | nil => exact .pure _
  | cons item rest ih => exact .bind (steady_release item) fun _ => ih

/-- Giving up an item leaves uploads alone, at once or deferred. -/
theorem steady_dispose (item : Retired) (deferred : Bool) :
    (dispose item deferred : Act (Context SimulatedDevice) Unit).Keeps (Steady origin) := by
  cases deferred
  · exact steady_release item
  · exact fun _ h => ⟨h.timeline, h.stream, h.config⟩

/-- Giving up slots leaves uploads alone. -/
theorem steady_destroySlots (slots : List Slot) (deferred : Bool) :
    (destroySlots slots deferred : Act (Context SimulatedDevice) Unit).Keeps (Steady origin) := by
  induction slots with
  | nil => exact .pure _
  | cons slot rest ih => exact .bind (steady_dispose _ _) fun _ => ih

end Context

namespace Texture

open Context

variable {origin : Context SimulatedDevice}

/-- Destroying a texture leaves uploads alone. -/
theorem steady_destroy (texture : Texture) (deferred : Bool) :
    (texture.destroy deferred : Act (Context SimulatedDevice) Unit).Keeps (Steady origin) := by
  refine .bind ?_ fun _ => steady_destroySlots _ _
  unfold destroyOwned
  split
  · exact .pure _
  · exact .bind (.log _ _) fun _ => steady_dispose _ _

/-- Making the resource of a texture leaves uploads alone. -/
theorem steady_createResource (desc : TextureDesc) (state : UsageState) :
    (createResource desc state :
      Attempt TextureError (Context SimulatedDevice) ResourceId).Keeps (Steady origin) := by
  refine .bind (.answer (steady_tryDevice (keeps_createTexture desc state))) fun answer => ?_
  cases answer with
  | ok resource => exact .pure _
  | error error => exact .bind (.log _ _) fun _ => .refuse _

/-- Creating a texture leaves uploads alone. -/
theorem steady_create (texture : Texture) (desc : TextureDesc) (formats : ViewFormats) :
    (texture.create desc formats :
      Attempt TextureError (Context SimulatedDevice) Texture).Keeps (Steady origin) := by
  refine .bind (Dimension.keeps_checkAll _) fun _ =>
    .bind (steady_createResource _ _) fun resource => ?_
  refine .bind (.answer (steady_tryViews (ViewSet.steady_allocate _ _ _))) fun answer => ?_
  cases answer with
  | ok views =>
    refine .bind (.log _ _) fun _ => ?_
    refine .bind (.lift (steady_destroy _ _)) fun _ => ?_
    exact .pure _
  | error error =>
    refine .bind (.log _ _) fun _ => ?_
    refine .bind (.lift (steady_dispose _ _)) fun _ => ?_
    exact .refuse _

/-- Adopting a resource of a known description leaves uploads alone. -/
theorem steady_adoptDescribed (texture : Texture) (resource : ResourceId) (desc : TextureDesc)
    (formats : ViewFormats) (state : UsageState) :
    (texture.adoptDescribed resource desc formats state :
      Attempt TextureError (Context SimulatedDevice) Texture).Keeps (Steady origin) := by
  refine .bind (Dimension.keeps_checkAll _) fun _ => ?_
  refine .bind (.answer (steady_tryViews (ViewSet.steady_allocate _ _ _))) fun answer => ?_
  cases answer with
  | ok views =>
    refine .bind (.log _ _) fun _ => ?_
    refine .bind (.lift (steady_destroy _ _)) fun _ => ?_
    exact .pure _
  | error error => exact .bind (.log _ _) fun _ => .refuse _

/-- Adopting a resource leaves uploads alone. -/
theorem steady_adopt (texture : Texture) (resource : ResourceId) (formats : ViewFormats)
    (state : UsageState) :
    (texture.adopt resource formats state :
      Attempt AdoptRefusal (Context SimulatedDevice) Texture).Keeps (Steady origin) := by
  refine .bind .get fun context => ?_
  split
  · exact .bind (.log _ _) fun _ => .refuse _
  · exact .mapError _ (steady_adoptDescribed _ _ _ _ _)

end Texture

namespace StagingTexture

open Context

variable {origin : Context SimulatedDevice}

/-- Creating a staging texture leaves uploads alone. -/
theorem steady_create (width height : Nat) (format : NativeFormat) (writable : Bool) :
    (create width height format writable :
      Attempt TextureError (Context SimulatedDevice) StagingTexture).Keeps (Steady origin) := by
  refine .bind .get fun context => ?_
  split
  · exact .bind (.log _ _) fun _ => .refuse _
  · split
    · exact .bind (.log _ _) fun _ => .refuse _
    · refine .bind (.answer (steady_tryDevice (keeps_createHostBuffer _))) fun answer => ?_
      cases answer with
      | ok buffer =>
        refine .bind (.lift (steady_count _)) fun _ => ?_
        refine .bind (.log _ _) fun _ => ?_
        exact .pure _
      | error error => exact .bind (.log _ _) fun _ => .refuse _

/-- Destroying a staging texture leaves uploads alone. -/
theorem steady_destroy (texture : StagingTexture) (deferred : Bool) :
    (texture.destroy deferred : Act (Context SimulatedDevice) Unit).Keeps (Steady origin) :=
  .bind (.log _ _) fun _ => .bind (steady_count _) fun _ => steady_dispose _ _

end StagingTexture

end Texel
