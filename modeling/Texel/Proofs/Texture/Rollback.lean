import Texel.Proofs.Table
import Texel.Proofs.Texture.Lifecycle

namespace Texel

open Context

namespace ViewPool

variable {origin pool next : ViewPool SimulatedDevice}

/-- The pool is as it was, but for failures of views that were asked for and spent. -/
def Restored (origin pool : ViewPool SimulatedDevice) : Prop :=
  ∃ failingViews, pool = { origin with device := { origin.device with failingViews } }

/-- What was not touched need not be restored. -/
theorem Restored.refl (pool : ViewPool SimulatedDevice) : pool.Restored pool :=
  ⟨pool.device.failingViews, rfl⟩

/-- Releasing these slots takes the pool back, whatever views the device has refused since. -/
structure Reverts (origin : ViewPool SimulatedDevice) (slots : List Slot)
    (pool : ViewPool SimulatedDevice) : Prop where
  heaps : pool.heaps.Sound
  grows : origin.Grows pool
  released : ∀ next, pool.Restored next →
    origin.Restored ((ViewSet.releaseSlots slots).run next).state

/-- Where no slot was taken there is nothing to take back. -/
theorem Reverts.refl (h : pool.heaps.Sound) : pool.Reverts [] pool :=
  ⟨h, .refl pool, fun _ hnext => hnext⟩

/-- A new view is gone without a trace once its slot is released. -/
theorem reverts_createView {linear : Prop} {owned : List Retired} (h : origin.Ledger linear owned)
    (kind : ViewKind)
    (resource : ResourceId) (desc : TextureDesc) (format : NativeFormat) :
    (createView kind resource desc format).Meets (fun pool => pool = origin)
      (fun slot pool => origin.Reverts [slot] pool ∧ pool.Shows resource desc kind format slot)
      fun _ pool => origin.Restored pool := by
  refine .mono (meets_createView h.heaps kind resource desc format) (fun _ h => h) ?_ ?_
  · rintro slot pool ⟨⟨hkind, hclear⟩, hheaps, hdevice, hmarks, hback⟩
    obtain ⟨hgrows, hshows⟩ := grows_viewed hkind hclear hdevice hmarks
    have hhidden : origin.device.views.get? slot = none := (h.lacks_slot hclear).2
    refine ⟨⟨hheaps, hgrows, ?_⟩, hshows⟩
    rintro _ ⟨failingViews, rfl⟩
    have hone (next : ViewPool SimulatedDevice) :
        ((ViewSet.releaseSlots [slot]).run next).state = ((release slot).run next).state := rfl
    have hreleased := hback { pool.device with failingViews }
    rw [hdevice] at hreleased
    simp only [SimulatedDevice.viewed, Table.erase_insert hhidden] at hreleased
    refine ⟨failingViews, ?_⟩
    rw [hone, hdevice]
    exact hreleased
  · rintro _ pool (hsame | hspent)
    · exact hsame ▸ .refl pool
    · exact ⟨_, hspent⟩

end ViewPool

namespace ViewSet

variable {linear : Prop} {origin : ViewPool SimulatedDevice} {owned : List Retired}

/-- A sampled view shows what was asked for and can be taken back; if it is refused, all is as it
was. -/
theorem reverts_allocateSampled (h : origin.Ledger linear owned) (resource : ResourceId)
    (desc : TextureDesc) (formats : ViewFormats) :
    (allocateSampled resource desc formats).Meets (fun pool => pool = origin)
      (fun slot pool => origin.Reverts slot.toList pool ∧
        Option.Rel (pool.Shows resource desc .shaderResource) (formats.asked .shaderResource) slot)
      fun _ pool => origin.Restored pool := by
  unfold allocateSampled
  split
  · next hnone =>
    refine .pure ?_
    rintro _ rfl
    rw [ViewFormats.asked, if_pos hnone]
    exact ⟨.refl h.heaps, .none⟩
  · next hsome =>
    refine .bind (ViewPool.reverts_createView h _ _ _ _) fun slot => .pure ?_
    rintro pool ⟨hreverts, hshows⟩
    rw [ViewFormats.asked, if_neg hsome]
    exact ⟨hreverts, .some hshows⟩

/-- A target view that is refused leaves the pool as it was. -/
theorem restored_allocateTarget (h : origin.heaps.Sound) (resource : ResourceId)
    (desc : TextureDesc) (formats : ViewFormats) :
    (allocateTarget resource desc formats).Meets (fun pool => pool = origin)
      (fun slot pool => origin.Grows pool ∧
        Option.Rel (fun wanted => pool.Shows resource desc wanted.1 wanted.2) formats.target? slot)
      fun _ pool => origin.Restored pool := by
  unfold allocateTarget
  split
  · next hnone =>
    refine .pure ?_
    rintro pool rfl
    rw [hnone]
    exact ⟨.refl pool, .none⟩
  · next kind format hsome =>
    have hview := ViewPool.meets_createView h kind resource desc format
    refine .bind (.refusing hview ?_) fun slot => .pure ?_
    · rintro _ pool (hsame | hspent)
      · exact hsame ▸ .refl pool
      · exact ⟨_, hspent⟩
    · rintro pool ⟨⟨hkind, hclear⟩, -, hdevice, hmarks, -⟩
      obtain ⟨hgrows, hshows⟩ := ViewPool.grows_viewed hkind hclear hdevice hmarks
      rw [hsome]
      exact ⟨hgrows, .some hshows⟩

/-- Every view that is asked for is made, at a slot that was free. If one is refused, those made
before it are gone without a trace. -/
theorem restored_allocate (h : origin.Ledger linear owned) (resource : ResourceId)
    (desc : TextureDesc)
    (formats : ViewFormats) :
    (allocate resource desc formats).Meets (fun pool => pool = origin)
      (fun views pool => origin.Grows pool ∧ views.Shown pool resource desc formats)
      fun _ pool => origin.Restored pool := by
  refine .bind (reverts_allocateSampled h resource desc formats) fun sampled => .each ?_
  rintro made ⟨hmade, hsampled⟩
  refine .answer (restored_allocateTarget hmade.heaps resource desc formats)
    (fun target => .pure ?_) fun error => ?_
  · rintro pool ⟨hgrows, htarget⟩
    refine ⟨hmade.grows.trans hgrows, ⟨?_, htarget⟩⟩
    generalize formats.asked .shaderResource = asked at hsampled ⊢
    cases hsampled with
    | none => exact .none
    | some hshows => exact .some (hshows.grows hgrows)
  refine .through (fun _ pool => origin.Restored pool) (.lift ?_) fun _ => .refuse fun _ h => h
  have hslots : ({ shaderResource := sampled } : ViewSet).slots = sampled.toList :=
    List.append_nil _
  intro pool hpool
  unfold release
  rw [hslots]
  exact hmade.released pool hpool

end ViewSet

/-- A resource that is freed again right away is gone without a trace, but for the counters. -/
theorem SimulatedDevice.state_destroy_registered {device : SimulatedDevice}
    (h : device.isLive ⟨device.nextId⟩ = false) (resource : Simulated.Resource)
    (failingViews : Nat) :
    ((Device.destroyResource ⟨device.nextId⟩).run
        { device.registered resource with failingViews }).state =
      { device with
        nextId := device.nextId + 1
        destroyedCount := device.destroyedCount + 1
        failingViews } := by
  have hnone : device.resources.get? ⟨device.nextId⟩ = none := by
    simpa [isLive, Table.contains] using h
  have hlive : (device.registered resource).resources.contains ⟨device.nextId⟩ = true := by
    simp [registered, Table.contains, Table.get?_insert]
  rw [state_destroyResource, if_pos hlive]
  simp only [registered, Table.erase_insert hnone]

namespace Context

/-- The context is as it was, but for the counters of its device: the next identifier, the number of
resources destroyed, and the failures left to it. -/
def Restored (origin context : Context SimulatedDevice) : Prop :=
  ∃ nextId destroyedCount failingAllocations failingViews,
    context = { origin with device := { origin.device with
      nextId, destroyedCount, failingAllocations, failingViews } }

/-- What was not touched need not be restored. -/
theorem Restored.refl (context : Context SimulatedDevice) : context.Restored context :=
  ⟨context.device.nextId, context.device.destroyedCount, context.device.failingAllocations,
    context.device.failingViews, rfl⟩

end Context

namespace Texture

variable {linear : Prop} {origin : Context SimulatedDevice} {owned : List Retired}

/-- Views are made without touching the queue, or they are refused without a trace. -/
theorem restored_allocateViews (h : origin.viewPool.Ledger linear owned) (resource : ResourceId)
    (desc : TextureDesc) (formats : ViewFormats) :
    (allocateViews resource desc formats).Meets (fun context => context = origin)
      (fun views context => Queued origin [] context ∧
        origin.viewPool.Grows context.viewPool ∧
        views.Shown context.viewPool resource desc formats)
      fun _ context => ∃ failingViews,
        context = { origin with device := { origin.device with failingViews } } := by
  refine .focus ?_
  rintro origin rfl
  have hsteady : (ViewSet.allocate resource desc formats).Keeps (ViewPool.Steady origin.device) :=
    ViewSet.steady_allocate resource desc formats
  refine .mono (.keeping (ViewSet.restored_allocate h resource desc formats) hsteady) ?_ ?_ ?_
  · rintro _ rfl
    exact ⟨rfl, .refl _⟩
  · rintro views pool ⟨hviews, hsame⟩
    exact ⟨⟨(List.append_nil _).symm, hsame.currentFence, rfl⟩, hviews⟩
  · rintro error _ ⟨⟨failingViews, rfl⟩, -⟩
    exact ⟨failingViews, rfl⟩

/-- What a texture held is queued when another resource takes its place, and stays on the device. -/
theorem queued_replaced (texture : Texture) (P : ViewPool SimulatedDevice → Prop) :
    (texture.destroy true).Meets (fun context => Queued origin [] context ∧ P context.viewPool)
      fun _ context => Queued origin texture.holdings context ∧ P context.viewPool := by
  rintro context ⟨hcontext, hpool⟩
  rw [state_destroy, viewPool_disposedAll_deferred]
  exact ⟨hcontext.trans (queued_disposedAll context true texture.holdings), hpool⟩

/-- Checking dimensions touches nothing. -/
theorem restored_checkAll (dimensions : List Dimension) :
    (Dimension.checkAll dimensions).Meets (fun context => context = origin)
      (fun _ context => context = origin) fun _ context => origin.Restored context := by
  refine .refusing (.of_keeps (Dimension.keeps_checkAll dimensions)) ?_
  rintro _ context rfl
  exact .refl context

/-- The pool of a context with a new resource for a texture that asks for views. -/
def withResource (origin : Context SimulatedDevice) (desc : TextureDesc) (formats : ViewFormats) :
    ViewPool SimulatedDevice :=
  ⟨origin.device.registered (.texture (formats.allowIn desc) formats.initialState), origin.heaps⟩

/-- A new resource is there in the shape it was asked for, also with its views. -/
theorem get?_withResource {context : Context SimulatedDevice} {desc : TextureDesc}
    {formats : ViewFormats} (h : (withResource origin desc formats).Grows context.viewPool) :
    context.device.resources.get? ⟨origin.device.nextId⟩ =
      some (.texture (formats.allowIn desc) formats.initialState) := by
  have hresources : context.device.resources =
      (withResource origin desc formats).device.resources := h.resources
  rw [hresources]
  simp [withResource, SimulatedDevice.registered, Table.get?_insert]

/-- A texture is created altogether, in the state its views ask for, or nothing has happened. -/
theorem replaces_create (h : origin.viewPool.Ledger linear owned) (texture : Texture)
    (desc : TextureDesc)
    (formats : ViewFormats) :
    (texture.create desc formats).Meets (fun context => context = origin)
      (fun value context => (∃ views, value =
          ofResource ⟨origin.device.nextId⟩ views (formats.allowIn desc) formats.initialState ∧
          views.Shown context.viewPool ⟨origin.device.nextId⟩ (formats.allowIn desc) formats) ∧
        Queued origin texture.holdings context ∧
        (withResource origin desc formats).Grows context.viewPool)
      fun _ context => origin.Restored context := by
  refine .bind (restored_checkAll _) fun _ => ?_
  refine .bind (.refusing (meets_createResource origin _ _) ?_)
    fun resource => .each ?_
  · exact fun _ _ hrefused => ⟨_, _, _, _, hrefused⟩
  rintro _ ⟨rfl, rfl⟩
  let made : Context SimulatedDevice :=
    { origin with device := (withResource origin desc formats).device }
  have hledger : made.viewPool.Ledger linear _ := ViewPool.ledger_registered h _
  refine .answer (restored_allocateViews hledger _ _ formats) (fun views => ?_) fun error => ?_
  · have hreplaced := @queued_replaced origin texture fun pool => made.viewPool.Grows pool ∧
      views.Shown pool ⟨origin.device.nextId⟩ (formats.allowIn desc) formats
    refine .after_log ?_
    refine .through _ (.lift (.mono hreplaced ?_ fun _ _ h => h)) fun _ => .pure ?_
    · rintro context ⟨hqueued, hviews⟩
      exact ⟨⟨hqueued.entries, hqueued.currentFence, hqueued.forced⟩, hviews⟩
    · rintro context ⟨hqueued, hgrows, hshown⟩
      exact ⟨⟨views, rfl, hshown⟩, hqueued, hgrows⟩
  · refine .after_log ?_
    refine .through (fun _ context => origin.Restored context) (.lift ?_) fun _ =>
      .refuse fun _ h => h
    rintro _ ⟨failingViews, rfl⟩
    have hnew : origin.device.isLive ⟨origin.device.nextId⟩ = false := h.lacks_fresh
    exact ⟨_, _, _, _, congrArg (fun device => { origin with device })
      (SimulatedDevice.state_destroy_registered hnew _ failingViews)⟩

/-- Adopting queues what the texture held and makes the views asked for, or restores the context. -/
theorem replaces_adoptDescribed (h : origin.viewPool.Ledger linear owned) (texture : Texture)
    (resource : ResourceId) (desc : TextureDesc) (formats : ViewFormats) (state : UsageState) :
    (texture.adoptDescribed resource desc formats state).Meets (fun context => context = origin)
      (fun value context => (∃ views, value = ofResource resource views desc state ∧
          views.Shown context.viewPool resource desc formats) ∧
        Queued origin texture.holdings context ∧ origin.viewPool.Grows context.viewPool)
      fun _ context => origin.Restored context := by
  refine .bind (restored_checkAll _) fun _ => ?_
  refine .answer (restored_allocateViews h resource desc formats) (fun views => ?_) fun error => ?_
  · have hreplaced := @queued_replaced origin texture fun pool => origin.viewPool.Grows pool ∧
      views.Shown pool resource desc formats
    refine .after_log ?_
    refine .bind (.lift hreplaced) fun _ => .pure ?_
    rintro context ⟨hqueued, hgrows, hshown⟩
    exact ⟨⟨views, rfl, hshown⟩, hqueued, hgrows⟩
  · refine .after_log (.refuse ?_)
    rintro _ ⟨failingViews, rfl⟩
    exact ⟨_, _, _, _, rfl⟩

/-- A resource is adopted with everything that is asked for, or it is handed back and nothing has
happened. -/
theorem replaces_adopt (h : origin.viewPool.Ledger linear owned) (texture : Texture)
    (resource : ResourceId) (formats : ViewFormats) (state : UsageState) :
    (texture.adopt resource formats state).Meets (fun context => context = origin)
      (fun value context => (∃ views desc, origin.device.textureDesc? resource = some desc ∧
          value = ofResource resource views desc state ∧
          views.Shown context.viewPool resource desc formats) ∧
        Queued origin texture.holdings context ∧ origin.viewPool.Grows context.viewPool)
      fun refusal context => refusal.resource = resource ∧ origin.Restored context := by
  apply Attempt.Meets.get_of_eq
  split
  · refine .after_log (.refuse ?_)
    rintro origin rfl
    exact ⟨rfl, .refl origin⟩
  · next desc hdesc =>
    refine .mapError (.mono (replaces_adoptDescribed h texture resource desc formats state)
      (fun _ h => h) ?_ fun _ _ h => ⟨rfl, h⟩)
    rintro value context ⟨⟨views, hvalue, hshown⟩, hrest⟩
    exact ⟨⟨views, desc, hdesc, hvalue, hshown⟩, hrest⟩

end Texture

end Texel
