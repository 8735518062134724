import Texel.Proofs.Texture.Upload

namespace Texel

namespace SimulatedDevice

/-- What was there in `origin` is as it was, or gone. No view is new, and new resources have new
identifiers. -/
structure Dwindles (origin device : SimulatedDevice) : Prop where
  nextId : origin.nextId ≤ device.nextId
  resources : ∀ id : ResourceId, id.raw < origin.nextId →
    device.resources.get? id = none ∨ device.resources.get? id = origin.resources.get? id
  views : ∀ slot, device.views.get? slot = none ∨ device.views.get? slot = origin.views.get? slot

variable {origin device next : SimulatedDevice}

/-- A device has what it has. -/
theorem Dwindles.refl (device : SimulatedDevice) : device.Dwindles device :=
  ⟨Nat.le_refl _, fun _ _ => .inr rfl, fun _ => .inr rfl⟩

/-- What has gone does not come back. -/
theorem Dwindles.trans (h : origin.Dwindles device) (h' : device.Dwindles next) :
    origin.Dwindles next where
  nextId := Nat.le_trans h.nextId h'.nextId
  resources id hid := by
    rcases h'.resources id (Nat.lt_of_lt_of_le hid h.nextId) with hgone | hsame
    · exact .inl hgone
    · rw [hsame]
      exact h.resources id hid
  views slot := by
    rcases h'.views slot with hgone | hsame
    · exact .inl hgone
    · rw [hsame]
      exact h.views slot

/-- Nothing has come and nothing has gone. -/
theorem Dwindles.congr (h : origin.Dwindles device) (hnextId : next.nextId = device.nextId)
    (hresources : next.resources = device.resources) (hviews : next.views = device.views) :
    origin.Dwindles next :=
  h.trans ⟨Nat.le_of_eq hnextId.symm, fun _ _ => .inr (hresources ▸ rfl),
    fun _ => .inr (hviews ▸ rfl)⟩

/-- A new resource takes the place of none. -/
theorem dwindles_registered (device : SimulatedDevice) (resource : Simulated.Resource) :
    device.Dwindles (device.registered resource) where
  nextId := Nat.le_succ _
  resources id hid := by
    have hold : id ≠ ⟨device.nextId⟩ := by
      rintro rfl
      exact Nat.lt_irrefl _ hid
    simp [registered, Table.get?_insert, hold]
  views _ := .inr rfl

/-- Making a texture changes no resource that is there. -/
theorem dwindles_createTexture (desc : TextureDesc) (state : UsageState) :
    (Device.createTexture desc state : Attempt TextureError SimulatedDevice ResourceId).Keeps
      origin.Dwindles := by
  refine .of_meets (.each fun device h => ?_)
  refine .mono (meets_createTexture device desc state) (fun _ h => h) ?_ ?_
  · rintro _ _ ⟨-, -, rfl⟩
    exact h.trans (dwindles_registered device _)
  · rintro _ _ ⟨-, rfl⟩
    exact h.congr rfl rfl rfl

/-- Making a host buffer changes no resource that is there. -/
theorem dwindles_createHostBuffer (size : Nat) :
    (Device.createHostBuffer size : Attempt TextureError SimulatedDevice HostBuffer).Keeps
      origin.Dwindles := by
  refine .of_meets (.each fun device h => ?_)
  refine .mono (meets_createHostBuffer device size) (fun _ h => h) ?_ ?_
  · rintro _ _ ⟨-, -, rfl⟩
    exact h.trans (dwindles_registered device _)
  · rintro _ _ ⟨-, rfl⟩
    exact h.congr rfl rfl rfl

/-- Removing a view leaves the others as they are. -/
theorem dwindles_releaseView (slot : Slot) :
    (Device.releaseView slot : Act SimulatedDevice Unit).Keeps origin.Dwindles := by
  refine fun device h => h.trans ⟨Nat.le_refl _, fun _ _ => .inr rfl, fun other => ?_⟩
  change (device.views.erase slot).get? other = none ∨ (device.views.erase slot).get? other = _
  rw [Table.get?_erase]
  split
  · exact .inl rfl
  · exact .inr rfl

/-- Freeing a resource leaves the others as they are. -/
theorem dwindles_destroyResource (id : ResourceId) :
    (Device.destroyResource id : Act SimulatedDevice Unit).Keeps origin.Dwindles := by
  intro device h
  rw [state_destroyResource]
  split
  · refine h.trans ⟨Nat.le_refl _, fun other _ => ?_, fun _ => .inr rfl⟩
    simp only [Table.get?_erase]
    split
    · exact .inl rfl
    · exact .inr rfl
  · exact h

end SimulatedDevice

namespace Context

/-- The condition on the device of a context. -/
def Dwindles (origin : SimulatedDevice) (context : Context SimulatedDevice) : Prop :=
  origin.Dwindles context.device

variable {origin : SimulatedDevice} {α ε : Type}

/-- What an operation of the device leaves as it is, its context does. -/
theorem dwindles_onDevice {act : Act SimulatedDevice α} (h : act.Keeps origin.Dwindles) :
    (onDevice act).Keeps (Dwindles origin) :=
  fun context hcontext => h context.device hcontext

/-- What an attempt of the device leaves as it is, its context does. -/
theorem dwindles_tryDevice {attempt : Attempt ε SimulatedDevice α}
    (h : attempt.Keeps origin.Dwindles) : (tryDevice attempt).Keeps (Dwindles origin) :=
  fun context hcontext => h context.device hcontext

/-- Recording changes no resource and no view. -/
theorem dwindles_recorded {context : Context SimulatedDevice} (commands : List Simulated.Command)
    (h : Dwindles origin context) : Dwindles origin (context.recorded commands) :=
  h.congr rfl rfl rfl

/-- Releasing an item makes nothing new. -/
theorem dwindles_release (item : Retired) :
    (release item : Act (Context SimulatedDevice) Unit).Keeps (Dwindles origin) := by
  cases item with
  | resource id => exact dwindles_onDevice (SimulatedDevice.dwindles_destroyResource id)
  | descriptor slot =>
    have hslot : (ViewPool.release slot : Act (ViewPool SimulatedDevice) Unit).Keeps
        fun pool => origin.Dwindles pool.device := by
      refine .bind (fun pool => SimulatedDevice.dwindles_releaseView slot pool.device) fun _ =>
        .bind (fun _ hpool => hpool) fun taken => ?_
      split
      · exact .pure _
      · exact .log _ _
    exact fun context => hslot context.viewPool

/-- Releasing items makes nothing new. -/
theorem dwindles_releaseAll (items : List Retired) :
    (releaseAll items : Act (Context SimulatedDevice) Unit).Keeps (Dwindles origin) := by
  induction items with
  | nil => exact .pure _
  | cons item rest ih => exact .bind (dwindles_release item) fun _ => ih

/-- Giving up an item makes nothing new. -/
theorem dwindles_dispose (item : Retired) (deferred : Bool) :
    (dispose item deferred : Act (Context SimulatedDevice) Unit).Keeps (Dwindles origin) := by
  cases deferred
  · exact dwindles_release item
  · exact fun _ hcontext => hcontext

/-- A reap makes nothing new. -/
theorem dwindles_reapCompleted :
    (reapCompleted : Act (Context SimulatedDevice) Nat).Keeps (Dwindles origin) := by
  intro context hcontext
  rw [state_reapCompleted]
  exact dwindles_releaseAll _ _ hcontext

/-- A submission makes nothing new. -/
theorem dwindles_submit (wait : Bool) :
    (submit wait : Act (Context SimulatedDevice) Nat).Keeps (Dwindles origin) := by
  intro context hcontext
  rw [state_submit]
  have hsubmitted : Dwindles origin (context.submitted wait) := hcontext.congr rfl rfl rfl
  exact dwindles_reapCompleted _ hsubmitted

/-- Giving up slots makes nothing new. -/
theorem dwindles_destroySlots (slots : List Slot) (deferred : Bool) :
    (destroySlots slots deferred : Act (Context SimulatedDevice) Unit).Keeps (Dwindles origin) := by
  induction slots with
  | nil => exact .pure _
  | cons slot rest ih => exact .bind (dwindles_dispose _ _) fun _ => ih

end Context

namespace StagingTexture

open Context

variable {origin : SimulatedDevice}

/-- A staging texture makes a buffer, and changes no resource that is there. -/
theorem dwindles_create (width height : Nat) (format : NativeFormat) (writable : Bool) :
    (create width height format writable :
      Attempt TextureError (Context SimulatedDevice) StagingTexture).Keeps (Dwindles origin) := by
  refine .of_meets (.each fun context hcontext => ?_)
  refine .mono (meets_create context width height format writable) (fun _ h => h) ?_ ?_
  · rintro _ _ ⟨-, pitch, -, -, rfl⟩
    exact hcontext.trans (SimulatedDevice.dwindles_registered _ _)
  · rintro _ _ ⟨-, rfl | rfl⟩
    · exact hcontext
    · exact hcontext.congr rfl rfl rfl

/-- Destroying a staging texture makes nothing new. -/
theorem dwindles_destroy (texture : StagingTexture) (deferred : Bool) :
    (texture.destroy deferred : Act (Context SimulatedDevice) Unit).Keeps (Dwindles origin) :=
  .bind (.log _ _) fun _ => .bind (fun _ hcontext => hcontext) fun _ => dwindles_dispose _ _

end StagingTexture

namespace Texture

open Context

variable {origin : SimulatedDevice}

/-- Destroying a texture makes nothing new. -/
theorem dwindles_destroy (texture : Texture) (deferred : Bool) :
    (texture.destroy deferred : Act (Context SimulatedDevice) Unit).Keeps (Dwindles origin) := by
  refine .bind ?_ fun _ => dwindles_destroySlots _ _
  unfold destroyOwned
  split
  · exact .pure _
  · exact .bind (.log _ _) fun _ => dwindles_dispose _ _

/-- Opening a texture for copies and taking it back changes no resource. -/
theorem dwindles_asCopyDestination (texture : Texture)
    {commands : Act (Context SimulatedDevice) Unit} (h : commands.Keeps (Dwindles origin)) :
    (texture.asCopyDestination commands).Keeps (Dwindles origin) :=
  .bind (texture.keeps_transition dwindles_recorded _) fun opened => .bind h fun _ =>
    opened.keeps_transition dwindles_recorded _

/-- A reservation may reap, and makes nothing new. -/
theorem dwindles_reserveStream (size : Nat) :
    (reserveStream size : Attempt Fault (Context SimulatedDevice) Unit).Keeps
      (Dwindles origin) := by
  have hreserve : ∀ alignment, (tryStream (StreamBuffer.reserve size alignment) :
      Attempt Fault (Context SimulatedDevice) Bool).Keeps (Dwindles origin) :=
    fun _ _ hcontext => hcontext
  refine .bind .get fun _ => .bind (hreserve _) fun found => ?_
  split
  · exact .pure _
  · refine .bind (.log _ _) fun _ => ?_
    refine .bind (.lift fun _ hcontext => hcontext) fun _ => ?_
    refine .bind (.lift (dwindles_submit false)) fun _ => .bind (hreserve _) fun found => ?_
    split
    · exact .pure _
    · refine .bind .get fun _ => ?_
      refine .bind (.log _ _) fun _ => ?_
      exact .refuse _

/-- Finishing a streamed upload makes nothing new. -/
theorem dwindles_finishStream (texture : Texture) (layout : UploadLayout) :
    (texture.finishStream layout :
      Attempt TextureError (Context SimulatedDevice) Texture).Keeps (Dwindles origin) := by
  refine .bind .get fun _ => ?_
  refine .bind (.lift fun _ hcontext => hcontext) fun _ => ?_
  refine .bind (texture.keeps_copyFromBuffer dwindles_recorded _ _ _ _) fun _ => ?_
  refine .bind (.lift fun _ hcontext => hcontext) fun _ => ?_
  exact .pure _

/-- Finishing an upload from a staging texture makes nothing new. -/
theorem dwindles_finishStaging (texture : Texture) (staging : StagingTexture)
    (layout : UploadLayout) (destination : ResourceId) :
    (texture.finishStaging staging layout destination :
      Act (Context SimulatedDevice) Texture).Keeps (Dwindles origin) := by
  refine .bind (texture.dwindles_asCopyDestination (staging.keeps_copyTo dwindles_recorded _ _ _ _))
    fun _ => ?_
  refine .bind (staging.dwindles_destroy false) fun _ => ?_
  exact .bind (fun _ hcontext => hcontext) fun _ => .pure _

/-- An upload through a staging texture makes a buffer for it, and no view. -/
theorem dwindles_uploadStaging (texture : Texture) (layout : UploadLayout) (data : ByteArray) :
    (texture.uploadStaging layout data :
      Attempt Fault (Context SimulatedDevice) Texture).Keeps (Dwindles origin) := by
  unfold uploadStaging
  split
  · exact .refuse _
  · refine .bind (.log _ _) fun _ => ?_
    refine .bind (.mapError _ (StagingTexture.dwindles_create _ _ _ _)) fun staging => ?_
    simp only
    split
    · exact .lift (texture.dwindles_finishStaging _ _ _)
    · exact .refuse _
    · refine .bind (.log _ _) fun _ => ?_
      refine .bind (.lift (staging.dwindles_destroy false)) fun _ => ?_
      exact .refuse _

/-- A load makes no view and changes no resource that is there. -/
theorem dwindles_load (texture : Texture) (region : Region) (data : ByteArray) (pitch : Nat) :
    (texture.load region data pitch :
      Attempt Fault (Context SimulatedDevice) Texture).Keeps (Dwindles origin) := by
  refine .bind .get fun _ => ?_
  refine .bind (.ofExcept _) fun layout => ?_
  refine .bind (.mapError _ (.ofExcept _)) fun _ => ?_
  split
  · refine .bind (dwindles_reserveStream _) fun _ => ?_
    refine .bind (.lift fun _ hcontext => hcontext) fun _ => ?_
    exact .mapError _ (texture.dwindles_finishStream layout)
  · exact texture.dwindles_uploadStaging layout data

/-- Looking for the layout of an update does nothing. -/
theorem dwindles_updateLayout (texture : Texture) (region : Region) :
    (texture.updateLayout region :
      Attempt Fault (Context SimulatedDevice) UploadLayout).Keeps (Dwindles origin) := by
  refine .bind .get fun _ => ?_
  refine .bind (.ofExcept _) fun layout => ?_
  split
  · exact .pure _
  · exact .bind (.log _ _) fun _ => .refuse _

/-- An update that begins makes nothing new. -/
theorem dwindles_beginUpdate (texture : Texture) (region : Region) :
    (texture.beginUpdate region :
      Attempt Fault (Context SimulatedDevice) UploadLayout).Keeps (Dwindles origin) :=
  .bind (texture.dwindles_updateLayout region) fun _ => .bind (dwindles_reserveStream _) fun _ =>
    .pure _

/-- An update that ends makes nothing new. -/
theorem dwindles_endUpdate (texture : Texture) (region : Region) :
    (texture.endUpdate region :
      Attempt Fault (Context SimulatedDevice) Texture).Keeps (Dwindles origin) := by
  refine .bind (texture.dwindles_updateLayout region) fun layout => .bind .get fun _ => ?_
  simp only
  split
  · exact .mapError _ (texture.dwindles_finishStream layout)
  · exact .bind (.log _ _) fun _ => .refuse _

end Texture

end Texel
