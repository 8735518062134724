import Texel.Proofs.Context.Disposal

namespace Texel

open Context

/-- What a texture owns. -/
def Texture.holdings (texture : Texture) : List Retired :=
  texture.resource.toList.map .resource ++ texture.views.slots.map .descriptor

namespace ViewSet

variable {conduct : Conduct} {origin : Context SimulatedDevice} {books : Books}

/-- Views that were just made, in the hands of their maker. -/
def withSlots (books : Books) (slots : List Slot) : Books :=
  { books with unnamed := slots.map .descriptor ++ books.unnamed }

/-- A new view belongs to whoever has asked for it. -/
theorem custody_createView (kind : ViewKind) (resource : ResourceId) (desc : TextureDesc)
    (format : NativeFormat) :
    (ViewPool.createView kind resource desc format).Meets (Custody conduct origin books)
      (fun slot => Custody conduct origin (withSlots books [slot]))
      fun _ => Custody conduct origin books := by
  apply Attempt.Meets.each
  intro pool hpool
  refine .mono (ViewPool.meets_createView hpool.ledger.heaps kind resource desc format)
    (fun _ h => h) ?_ ?_
  · rintro slot next ⟨⟨-, hclear⟩, hheaps, hdevice, hmarks, -⟩
    exact custody_viewed hpool hclear hdevice hheaps hmarks
  · rintro _ _ (rfl | rfl)
    · exact hpool
    · exact custody_switched hpool _ _ _

/-- A sampled view belongs to whoever has asked for it. -/
theorem custody_allocateSampled (resource : ResourceId) (desc : TextureDesc)
    (formats : ViewFormats) :
    (allocateSampled resource desc formats).Meets (Custody conduct origin books)
      (fun slot => Custody conduct origin (withSlots books slot.toList))
      fun _ => Custody conduct origin books := by
  unfold allocateSampled
  split
  · exact .pure fun _ h => h
  · exact .bind (custody_createView _ _ _ _) fun slot => .pure fun _ h => h

/-- A target view belongs to whoever has asked for it. -/
theorem custody_allocateTarget (resource : ResourceId) (desc : TextureDesc)
    (formats : ViewFormats) :
    (allocateTarget resource desc formats).Meets (Custody conduct origin books)
      (fun slot => Custody conduct origin (withSlots books slot.toList))
      fun _ => Custody conduct origin books := by
  unfold allocateTarget
  split
  · exact .pure fun _ h => h
  · exact .bind (custody_createView _ _ _ _) fun slot => .pure fun _ h => h

/-- Slots that are released lose their owner. -/
theorem custody_releaseSlots (slots : List Slot) :
    (releaseSlots slots).Meets (Custody conduct origin (withSlots books slots))
      fun _ => Custody conduct origin books := by
  induction slots with
  | nil => exact .pure fun _ h => h
  | cons slot rest ih =>
    refine .through (fun _ => Custody conduct origin (withSlots books rest)) ?_ fun _ => ih
    exact fun pool hpool => custody_freed_unnamed hpool (.refl _)

/-- Either all views are made or none. -/
theorem custody_allocate (resource : ResourceId) (desc : TextureDesc) (formats : ViewFormats) :
    (allocate resource desc formats).Meets (Custody conduct origin books)
      (fun views => Custody conduct origin (withSlots books views.slots))
      fun _ => Custody conduct origin books := by
  refine .bind (custody_allocateSampled resource desc formats) fun sampled => ?_
  refine .answer (custody_allocateTarget resource desc formats) (fun target => ?_) fun error => ?_
  · refine .pure fun pool hpool => custody_rearrange hpool ?_ (fun _ h => h) fun item hitem => ?_
    · apply List.Perm.append_right
      simp only [withSlots, slots, List.map_append, ← List.append_assoc]
      exact List.perm_append_comm.append_right _
    · simp only [withSlots, slots, List.map_append, List.mem_append] at hitem ⊢
      rcases hitem with (hsampled | htarget) | hold
      · exact .inr (.inl hsampled)
      · exact .inl htarget
      · exact .inr (.inr hold)
  · refine .through (fun _ => Custody conduct origin books) (.lift ?_) fun _ => .refuse fun _ h => h
    have hslots : ({ shaderResource := sampled } : ViewSet).slots = sampled.toList :=
      List.append_nil _
    unfold release
    rw [hslots]
    exact custody_releaseSlots sampled.toList

end ViewSet

namespace Texture

variable {conduct : Conduct} {origin start : Context SimulatedDevice}
  {held unnamed rest items : List Retired}

/-- What giving up slots leaves. -/
theorem state_destroySlots (slots : List Slot) (deferred : Bool)
    (context : Context SimulatedDevice) :
    ((destroySlots slots deferred).run context).state =
      context.disposedAll deferred (slots.map .descriptor) := by
  induction slots generalizing context with
  | nil => rfl
  | cons slot rest ih => exact ih (context.disposed deferred (.descriptor slot))

/-- Destroying a texture disposes of what it owns. -/
theorem state_destroy (texture : Texture) (deferred : Bool) (context : Context SimulatedDevice) :
    ((texture.destroy deferred).run context).state =
      context.disposedAll deferred texture.holdings := by
  change ((destroySlots texture.views.slots deferred).run
    ((texture.destroyOwned deferred).run context).state).state = _
  rw [state_destroySlots]
  unfold destroyOwned holdings
  cases texture.resource <;> rfl

/-- A texture that is destroyed gives up all it holds. -/
theorem midway_destroy {context : Context SimulatedDevice} (texture : Texture) (deferred : Bool)
    (h : Midway conduct origin start (texture.holdings ++ rest) unnamed items context) :
    Midway (conduct.giving deferred) origin start rest unnamed
      (items ++ queuedOf texture.holdings deferred)
      ((texture.destroy deferred).run context).state := by
  rw [state_destroy]
  exact ⟨custody_disposedAll h.custody (.refl _) deferred,
    h.queued.trans (queued_disposedAll context deferred texture.holdings)⟩

/-- A resource comes under the next identifier, or the device was asked to fail. -/
theorem meets_createResource (origin : Context SimulatedDevice) (desc : TextureDesc)
    (state : UsageState) :
    (createResource desc state).Meets (fun context => context = origin)
      (fun id context => id = ⟨origin.device.nextId⟩ ∧
        context = { origin with device := origin.device.registered (.texture desc state) })
      fun _ context => context = { origin with device := origin.device.refusedAllocation } := by
  have hmade := SimulatedDevice.meets_createTexture origin.device desc state
  refine .answer (meets_tryDevice hmade) (fun id => ?_) fun error => ?_
  · refine .pure ?_
    rintro _ ⟨_, ⟨-, hid, rfl⟩, rfl⟩
    exact ⟨hid, rfl⟩
  · refine .after_log (.refuse ?_)
    rintro _ ⟨_, ⟨-, rfl⟩, rfl⟩
    rfl

/-- A new resource has no name yet. -/
theorem midway_createResource (desc : TextureDesc) (state : UsageState) :
    (createResource desc state).Meets (Midway conduct origin start held unnamed items)
      (fun id => Midway conduct origin start held (.resource id :: unnamed) items)
      fun _ => Midway conduct origin start held unnamed items := by
  apply Attempt.Meets.each
  intro context hcontext
  refine .mono (meets_createResource context desc state) (fun _ h => h) ?_ ?_
  · rintro _ _ ⟨rfl, rfl⟩
    exact hcontext.registered _
  · rintro _ _ rfl
    exact hcontext.switched _ _ _

/-- New views have no name yet. -/
theorem midway_allocateViews (resource : ResourceId) (desc : TextureDesc) (formats : ViewFormats) :
    (allocateViews resource desc formats).Meets (Midway conduct origin start held unnamed items)
      (fun views =>
        Midway conduct origin start held (views.slots.map .descriptor ++ unnamed) items)
      fun _ => Midway conduct origin start held unnamed items := by
  refine .focus fun context hcontext => ?_
  have hallocate : (ViewSet.allocate resource desc formats).Meets
      (Custody conduct origin (context.books held unnamed)) _ _ :=
    ViewSet.custody_allocate resource desc formats
  have hsteady : (ViewSet.allocate resource desc formats).Keeps (ViewPool.Steady context.device) :=
    ViewSet.steady_allocate resource desc formats
  refine .mono (.keeping hallocate hsteady) ?_ ?_ ?_
  · rintro _ rfl
    exact ⟨hcontext.custody, .refl _⟩
  · rintro views pool ⟨hpool, hsame⟩
    exact ⟨hpool, hcontext.queued.entries, hsame.currentFence.trans hcontext.queued.currentFence,
      hcontext.queued.forced⟩
  · rintro error pool ⟨hpool, hsame⟩
    exact ⟨hpool, hcontext.queued.entries, hsame.currentFence.trans hcontext.queued.currentFence,
      hcontext.queued.forced⟩

/-- A texture that is created owns a new resource and its views. What it owned before is queued. -/
theorem midway_create (texture : Texture) (desc : TextureDesc) (formats : ViewFormats) :
    (texture.create desc formats).Meets
      (Midway conduct origin start (texture.holdings ++ rest) unnamed [])
      (fun value => Midway conduct origin start (value.holdings ++ rest) unnamed texture.holdings)
      fun _ => Midway conduct origin start (texture.holdings ++ rest) unnamed [] := by
  refine .through (fun _ => Midway conduct origin start (texture.holdings ++ rest) unnamed [])
    (.of_keeps (Dimension.keeps_checkAll _)) fun _ => ?_
  refine .bind (midway_createResource _ _) fun resource => ?_
  refine .answer (midway_allocateViews resource _ formats) (fun views => ?_) fun error => ?_
  · refine .after_log ?_
    refine .through (fun _ => Midway conduct origin start rest
      (views.slots.map .descriptor ++ .resource resource :: unnamed) texture.holdings) (.lift ?_)
      fun _ => .pure ?_
    · intro context hcontext
      have hdestroyed := midway_destroy texture true hcontext
      exact ⟨hdestroyed.custody.weaken conduct.le_giving_true, hdestroyed.queued⟩
    · intro context hcontext
      have hnew : Midway conduct origin start rest
          ((views.slots.map .descriptor ++ [.resource resource]) ++ unnamed) texture.holdings
          context := by
        rw [List.append_assoc]
        exact hcontext
      exact hnew.hold (List.perm_append_singleton _ _)
  · refine .after_log ?_
    refine .through (fun _ => Midway conduct origin start (texture.holdings ++ rest) unnamed [])
      (.lift ?_) fun _ => .refuse fun _ h => h
    intro context hcontext
    exact ⟨custody_disposed_unnamed hcontext.custody (.refl _) false,
      hcontext.queued.trans (queued_disposed context false _)⟩

/-- A texture that adopts a resource owns it with its views, and what it held is queued; a refusal
leaves every owner with what it had. -/
theorem midway_adoptDescribed (texture : Texture) (resource : ResourceId) (desc : TextureDesc)
    (formats : ViewFormats) (state : UsageState) :
    (texture.adoptDescribed resource desc formats state).Meets
      (Midway conduct origin start (texture.holdings ++ .resource resource :: rest) unnamed [])
      (fun value => Midway conduct origin start (value.holdings ++ rest) unnamed texture.holdings)
      fun _ => Midway conduct origin start (texture.holdings ++ .resource resource :: rest) unnamed
        [] := by
  refine .through (fun _ =>
    Midway conduct origin start (texture.holdings ++ .resource resource :: rest) unnamed [])
    (.of_keeps (Dimension.keeps_checkAll _)) fun _ => ?_
  refine .answer (midway_allocateViews resource desc formats) (fun views => ?_) fun error => ?_
  · refine .after_log ?_
    refine .through (fun _ => Midway conduct origin start (.resource resource :: rest)
      (views.slots.map .descriptor ++ unnamed) texture.holdings) (.lift ?_) fun _ => .pure ?_
    · intro context hcontext
      have hdestroyed := midway_destroy texture true hcontext
      exact ⟨hdestroyed.custody.weaken conduct.le_giving_true, hdestroyed.queued⟩
    · intro context hcontext
      exact (hcontext.hold (.refl _)).perm List.perm_middle
  · exact .after_log (.refuse fun _ h => h)

/-- A texture that adopts a resource owns it from then on. What it owned before is queued. -/
theorem midway_adopt (texture : Texture) (resource : ResourceId) (formats : ViewFormats)
    (state : UsageState) :
    (texture.adopt resource formats state).Meets
      (Midway conduct origin start (texture.holdings ++ .resource resource :: rest) unnamed [])
      (fun value => Midway conduct origin start (value.holdings ++ rest) unnamed texture.holdings)
      fun _ => Midway conduct origin start (texture.holdings ++ .resource resource :: rest) unnamed
        [] := by
  refine .get fun context => ?_
  split
  · exact .after_log (.refuse fun _ h => h.2)
  · exact .mapError (.narrow (midway_adoptDescribed texture resource _ formats state)
      (fun _ h => h.2))

end Texture

end Texel
