import Texel.Proofs.Act
import Texel.Proofs.Ring.Inside
import Texel.Texture.Upload

namespace Texel

/-- A reservation changes nothing but the ring. -/
theorem StreamBuffer.keeps_reserve {P : StreamBuffer → Prop}
    (h : ∀ buffer ring, P buffer → P { buffer with ring }) (size alignment : Nat) :
    (reserve size alignment).Keeps P := by
  refine .bind .get fun buffer => ?_
  split
  · next ring _ => exact .bind (.lift fun now hnow => h now ring hnow) fun _ => .pure true
  · split
    · exact .bind (.log _ _) fun _ => .pure false
    · exact .pure false
  · exact .refuse Fault.abort

namespace ViewPool

variable {D : Type} [Device D] {P : D → Prop}

theorem keeps_release (h : ∀ slot, (Device.releaseView slot : Act D Unit).Keeps P) (slot : Slot) :
    (release slot : Act (ViewPool D) Unit).Keeps fun pool => P pool.device := by
  refine .bind (fun pool hpool => h slot pool.device hpool) fun _ =>
    .bind (fun _ hpool => hpool) fun taken => ?_
  split
  · exact .pure _
  · exact .log _ _

/-- Making a view keeps what the device keeps when it is asked for one. -/
theorem keeps_createView
    (h : ∀ id view slot, (Device.createView id view slot : Attempt TextureError D Unit).Keeps P)
    (kind : ViewKind) (id : ResourceId) (desc : TextureDesc) (format : NativeFormat) :
    (createView kind id desc format : Attempt TextureError (ViewPool D) Slot).Keeps
      fun pool => P pool.device := by
  refine .bind (.lift fun _ hpool => hpool) fun slot => ?_
  cases slot with
  | none => exact .bind (.lift fun _ hpool => hpool) fun _ => .bind (.log _ _) fun _ => .refuse _
  | some slot =>
    refine .bind (.answer fun pool hpool => h _ _ _ pool.device hpool) fun answer => ?_
    cases answer with
    | ok => exact .pure _
    | error error =>
      refine .bind (.log _ _) fun _ => ?_
      refine .bind (.lift fun _ hpool => hpool) fun taken => ?_
      split
      · exact .refuse _
      · exact .bind (.log _ _) fun _ => .refuse _

end ViewPool

namespace ViewSet

variable {D : Type} [Device D] {P : D → Prop}

/-- Making views keeps what making a view and releasing one keep. -/
theorem keeps_allocate
    (hcreate : ∀ id view slot,
      (Device.createView id view slot : Attempt TextureError D Unit).Keeps P)
    (hrelease : ∀ slot, (Device.releaseView slot : Act D Unit).Keeps P)
    (id : ResourceId) (desc : TextureDesc) (formats : ViewFormats) :
    (allocate id desc formats : Attempt TextureError (ViewPool D) ViewSet).Keeps
      fun pool => P pool.device := by
  have hslots (slots : List Slot) :
      (releaseSlots slots : Act (ViewPool D) Unit).Keeps fun pool => P pool.device := by
    induction slots with
    | nil => exact .pure _
    | cons slot rest ih => exact .bind (ViewPool.keeps_release hrelease slot) fun _ => ih
  refine .bind ?_ fun sampled => .bind (.answer ?_) fun answer => ?_
  · unfold allocateSampled
    split
    · exact .pure _
    · exact .bind (ViewPool.keeps_createView hcreate _ _ _ _) fun _ => .pure _
  · unfold allocateTarget
    split
    · exact .pure _
    · exact .bind (ViewPool.keeps_createView hcreate _ _ _ _) fun _ => .pure _
  · cases answer with
    | ok target => exact .pure _
    | error error => exact .bind (.lift (hslots _)) fun _ => .refuse _

end ViewSet

/-- A condition that a device preserves whatever it is asked for, copies apart. -/
structure Device.Preserves {D : Type} [Device D] (good : D → Prop) : Prop where
  createTexture : ∀ desc state,
    (Device.createTexture desc state : Attempt TextureError D ResourceId).Keeps good
  createHostBuffer : ∀ size,
    (Device.createHostBuffer size : Attempt TextureError D HostBuffer).Keeps good
  createView : ∀ id view slot,
    (Device.createView id view slot : Attempt TextureError D Unit).Keeps good
  releaseView : ∀ slot, (Device.releaseView slot : Act D Unit).Keeps good
  recordBarrier : ∀ id before after, (Device.recordBarrier id before after : Act D Unit).Keeps good
  submit : ∀ wait, (Device.submit wait : Act D Nat).Keeps good
  completedFence : (Device.completedFence : Act D Nat).Keeps good
  waitIdle : (Device.waitIdle : Act D Unit).Keeps good
  destroyResource : ∀ id, (Device.destroyResource id : Act D Unit).Keeps good

namespace Context

/-- What a context keeps up, whatever it is asked: a device in `good`, its parameters, and a stream
buffer of these bytes with its positions in place. Only what is written to the stream buffer changes
the bytes, and only uploads record copies. -/
structure Intact {D : Type} (good : D → Prop) (config : Config) (resource : ResourceId)
    (memory : Memory) (context : Context D) : Prop where
  device : good context.device
  config : context.config = config
  buffer : context.stream.resource = resource
  bytes : context.stream.memory = memory
  ring : context.stream.ring.Inside memory.size

section

variable {D α ε : Type} {good after : D → Prop} {config : Config} {resource : ResourceId}
  {memory : Memory}

/-- A contract of the device is one of its context. -/
theorem meets_onDevice {act : Act D α} (h : act.Meets good fun _ => after) :
    (onDevice act).Meets (Intact good config resource memory)
      fun _ => Intact after config resource memory :=
  fun context hcontext => { hcontext with device := h context.device hcontext.device }

/-- What keeps the device as it should be keeps the context intact. -/
theorem intact_onDevice {act : Act D α} (h : act.Keeps good) :
    (onDevice act).Keeps (Intact good config resource memory) :=
  meets_onDevice h

/-- A contract of an attempt of the device is one of its context. -/
theorem meets_tryDevice_intact {attempt : Attempt ε D α} {answered : α → D → Prop}
    {refused : ε → D → Prop} (h : attempt.Meets good answered refused) :
    (tryDevice attempt).Meets (Intact good config resource memory)
      (fun value => Intact (answered value) config resource memory)
      fun error => Intact (refused error) config resource memory := by
  refine .focus fun context hcontext => .mono h ?_
    (fun _ _ hdevice => { hcontext with device := hdevice })
    fun _ _ hdevice => { hcontext with device := hdevice }
  rintro _ rfl
  exact hcontext.device

/-- An attempt that keeps the device as it should be keeps the context intact. -/
theorem intact_tryDevice {attempt : Attempt ε D α} (h : attempt.Keeps good) :
    (tryDevice attempt).Keeps (Intact good config resource memory) :=
  fun context hcontext => { hcontext with device := h context.device hcontext.device }

/-- Views that keep the device as it should be keep the context intact. -/
theorem intact_onViews {act : Act (ViewPool D) α} (h : act.Keeps fun pool => good pool.device) :
    (onViews act).Keeps (Intact good config resource memory) :=
  fun context hcontext => { hcontext with device := h context.viewPool hcontext.device }

/-- An attempt at views that keeps the device as it should be keeps the context intact. -/
theorem intact_tryViews {attempt : Attempt ε (ViewPool D) α}
    (h : attempt.Keeps fun pool => good pool.device) :
    (tryViews attempt).Keeps (Intact good config resource memory) :=
  fun context hcontext => { hcontext with device := h context.viewPool hcontext.device }

/-- Counting keeps the context intact. -/
theorem intact_count (change : UploadStats → UploadStats) :
    (count change : Act (Context D) Unit).Keeps (Intact good config resource memory) :=
  fun _ hcontext => { hcontext with }

/-- A reservation that is granted is the one that is outstanding from then on. -/
theorem meets_reserve_inside (size alignment : Nat) :
    (tryStream (StreamBuffer.reserve size alignment) : Attempt Fault (Context D) Bool).Meets
      (Intact good config resource memory)
      (fun granted context => Intact good config resource memory context ∧
        (granted = true → context.stream.ring.reserved = some size))
      fun _ => Intact good config resource memory := by
  refine .focus fun context hcontext => .get_of_eq ?_
  split
  · next ring hreserve =>
    rintro _ rfl
    obtain ⟨hinside, hreserved⟩ := Ring.inside_reserve hcontext.ring hreserve
    exact ⟨{ hcontext with ring := hinside }, fun _ => hreserved⟩
  · split
    · refine .after_log (.pure ?_)
      rintro _ rfl
      exact ⟨hcontext, fun h => absurd h Bool.false_ne_true⟩
    · refine .pure ?_
      rintro _ rfl
      exact ⟨hcontext, fun h => absurd h Bool.false_ne_true⟩
  · refine .refuse ?_
    rintro _ rfl
    exact hcontext

/-- Taking what was written moves positions within the ring. -/
theorem intact_commit (size : Nat) :
    (onStream (StreamBuffer.commit size) : Act (Context D) Bool).Keeps
      (Intact good config resource memory) := by
  refine .focus fun context hcontext => .get_of_eq ?_
  split
  · next ring hcommit =>
    rintro _ rfl
    exact { hcontext with ring := Ring.inside_commit hcontext.ring hcommit }
  · refine .after_log (.pure ?_)
    rintro _ rfl
    exact hcontext

/-- Tracking a submission moves positions within the ring. -/
theorem intact_track (fence : Nat) :
    (onStream (Act.modify fun stream => stream.track fence) : Act (Context D) Unit).Keeps
      (Intact good config resource memory) :=
  fun _ hcontext => { hcontext with ring := Ring.inside_track hcontext.ring fence }

/-- Getting space back moves positions within the ring. -/
theorem intact_reclaim (completed : Nat) :
    (onStream (Act.modify fun stream => stream.reclaim completed) : Act (Context D) Unit).Keeps
      (Intact good config resource memory) :=
  fun _ hcontext => { hcontext with ring := Ring.inside_reclaim hcontext.ring completed }

end

variable {D : Type} [Device D] {good : D → Prop} {config : Config} {resource : ResourceId}
  {memory : Memory} (h : Device.Preserves good)
include h

/-- Releasing an item keeps the context intact. -/
theorem intact_release (item : Retired) :
    (release item).Keeps (Intact good config resource memory) := by
  cases item with
  | resource id => exact intact_onDevice (h.destroyResource id)
  | descriptor slot => exact intact_onViews (ViewPool.keeps_release h.releaseView slot)

/-- Releasing items keeps the context intact. -/
theorem intact_releaseAll (items : List Retired) :
    (releaseAll items).Keeps (Intact good config resource memory) := by
  induction items with
  | nil => exact .pure ()
  | cons item rest ih => exact .bind (intact_release h item) fun _ => ih

/-- Giving up an item keeps the context intact, at once or deferred. -/
theorem intact_dispose (item : Retired) (deferred : Bool) :
    (dispose item deferred).Keeps (Intact good config resource memory) := by
  cases deferred with
  | false => exact intact_release h item
  | true => exact fun _ hcontext => { hcontext with }

/-- Giving up slots keeps the context intact. -/
theorem intact_destroySlots (slots : List Slot) (deferred : Bool) :
    (destroySlots slots deferred).Keeps (Intact good config resource memory) := by
  induction slots with
  | nil => exact .pure ()
  | cons slot rest ih => exact .bind (intact_dispose h _ deferred) fun _ => ih

/-- A reap keeps the context intact. -/
theorem intact_reapCompleted :
    (reapCompleted : Act (Context D) Nat).Keeps (Intact good config resource memory) := by
  have hreport (count completed : Nat) :
      (reportReaped count completed : Act (Context D) Unit).Keeps
        (Intact good config resource memory) := by
    unfold reportReaped
    split
    · exact .pure ()
    · exact .log _ _
  refine .bind (intact_onDevice h.completedFence) fun completed => ?_
  refine .bind (intact_reclaim completed) fun reclaimed => ?_
  refine Act.Meets.get fun context => ?_
  refine .through (fun _ => Intact good config resource memory) ?_ fun _ => ?_
  · rintro _ ⟨rfl, hcontext⟩
    exact { hcontext with }
  refine .bind (intact_releaseAll h _) fun _ => ?_
  refine .bind (hreport _ _) fun _ => ?_
  exact Act.Keeps.pure _

/-- A submission keeps the context intact. -/
theorem intact_submit (wait : Bool) :
    (submit wait : Act (Context D) Nat).Keeps (Intact good config resource memory) := by
  refine .bind (intact_onDevice (h.submit wait)) fun fence => ?_
  refine .bind (intact_track fence) fun _ => ?_
  exact .bind (intact_reapCompleted h) fun _ => .pure fence

end Context

section

open Context

variable {D : Type} [Device D] {good : D → Prop} {config : Config} {resource : ResourceId}
  {memory : Memory}

theorem Dimension.keeps_checkAll {σ : Type} {P : σ → Prop} (dimensions : List Dimension) :
    (checkAll dimensions : Attempt TextureError σ Unit).Keeps P := by
  induction dimensions with
  | nil => exact .pure ()
  | cons dimension rest ih =>
    refine .bind ?_ fun _ => ih
    unfold check
    split
    · exact .bind (.log _ _) fun _ => .refuse _
    · split
      · exact .bind (.log _ _) fun _ => .refuse _
      · exact .pure ()

omit [Device D] in
/-- An update that is not refused has the layout that its texture gives it. -/
theorem Texture.meets_updateLayout_intact (texture : Texture) (region : Region) :
    (texture.updateLayout region : Attempt Fault (Context D) UploadLayout).Meets
      (Intact good config resource memory)
      (fun layout context => Intact good config resource memory context ∧
        texture.uploadLayout region 0 config.pitchAlignment = .ok layout)
      fun _ => Intact good config resource memory := by
  refine .each fun now hnow => ?_
  refine .get_of_eq ?_
  refine .through (fun layout context => context = now ∧
    texture.uploadLayout region 0 config.pitchAlignment = .ok layout) ?_ fun layout => ?_
  · exact .ofExcept (fun layout hlayout _ h => ⟨h, hnow.config ▸ hlayout⟩) fun _ _ _ h => h ▸ hnow
  split
  · exact .pure fun _ h => ⟨h.1 ▸ hnow, h.2⟩
  · exact .after_log (.refuse fun _ h => h.1 ▸ hnow)

variable (h : Device.Preserves good)
include h

namespace StagingTexture

/-- Destroying a staging texture keeps the context intact. -/
theorem intact_destroy (texture : StagingTexture) (deferred : Bool) :
    (texture.destroy deferred : Act (Context D) Unit).Keeps (Intact good config resource memory) :=
  .bind (.log _ _) fun _ => .bind (intact_count _) fun _ => intact_dispose h _ deferred

end StagingTexture

namespace Texture

/-- Destroying a texture keeps the context intact. -/
theorem intact_destroy (texture : Texture) (deferred : Bool) :
    (texture.destroy deferred : Act (Context D) Unit).Keeps
      (Intact good config resource memory) := by
  refine .bind ?_ fun _ => intact_destroySlots h _ deferred
  unfold destroyOwned
  split
  · exact .pure ()
  · exact .bind (.log _ _) fun _ => intact_dispose h _ deferred

/-- Making the views of a texture keeps the context intact. -/
theorem intact_allocateViews (id : ResourceId) (desc : TextureDesc) (formats : ViewFormats) :
    (allocateViews id desc formats : Attempt TextureError (Context D) ViewSet).Keeps
      (Intact good config resource memory) :=
  intact_tryViews (ViewSet.keeps_allocate h.createView h.releaseView id desc formats)

/-- Creating a texture keeps the context intact. -/
theorem intact_create (texture : Texture) (desc : TextureDesc) (formats : ViewFormats) :
    (texture.create desc formats : Attempt TextureError (Context D) Texture).Keeps
      (Intact good config resource memory) := by
  have hmade (desc : TextureDesc) (state : UsageState) :
      (createResource desc state : Attempt TextureError (Context D) ResourceId).Keeps
        (Intact good config resource memory) := by
    refine .bind (.answer (intact_tryDevice (h.createTexture _ _))) fun answer => ?_
    cases answer with
    | ok id => exact .pure id
    | error error => exact .bind (.log _ _) fun _ => .refuse error
  refine .bind (Dimension.keeps_checkAll _) fun _ => ?_
  refine .bind (hmade _ _) fun id => ?_
  refine .bind (.answer (intact_allocateViews h id _ formats)) fun answer => ?_
  cases answer with
  | ok views =>
    refine .bind (.log _ _) fun _ => ?_
    refine .bind (.lift (texture.intact_destroy h true)) fun _ => ?_
    exact .pure _
  | error error =>
    refine .bind (.log _ _) fun _ => ?_
    refine .bind (.lift (intact_dispose h _ false)) fun _ => ?_
    exact .refuse _

/-- Adopting a resource keeps the context intact. -/
theorem intact_adopt (texture : Texture) (id : ResourceId) (formats : ViewFormats)
    (state : UsageState) :
    (texture.adopt id formats state : Attempt AdoptRefusal (Context D) Texture).Keeps
      (Intact good config resource memory) := by
  refine .bind .get fun context => ?_
  split
  · exact .bind (.log _ _) fun _ => .refuse _
  · refine .mapError _ ?_
    refine .bind (Dimension.keeps_checkAll _) fun _ => ?_
    refine .bind (.answer (intact_allocateViews h id _ formats)) fun answer => ?_
    cases answer with
    | ok views =>
      refine .bind (.log _ _) fun _ => ?_
      refine .bind (.lift (texture.intact_destroy h true)) fun _ => ?_
      exact .pure _
    | error error => exact .bind (.log _ _) fun _ => .refuse error

/-- Moving a texture to another usage state keeps the context intact. -/
theorem intact_transition (texture : Texture) (state : UsageState) :
    (texture.transition state : Act (Context D) Texture).Keeps
      (Intact good config resource memory) := by
  unfold transition
  split
  · exact .pure texture
  · split
    · exact .pure texture
    · exact .bind (intact_onDevice (h.recordBarrier _ _ _)) fun _ => .pure _

/-- Space that is granted is reserved, at once or after a submission. -/
theorem meets_reserveSpace (size : Nat) :
    (reserveStream size : Attempt Fault (Context D) Unit).Meets
      (Intact good config resource memory)
      (fun _ context => Intact good config resource memory context ∧
        context.stream.ring.reserved = some size)
      fun _ => Intact good config resource memory := by
  refine .get fun origin => ?_
  have hreserve := @meets_reserve_inside D good config resource memory size
    origin.config.placementAlignment
  refine .narrow (.bind hreserve fun granted => ?_) (fun _ hnow => hnow.2)
  cases granted with
  | true => exact .pure fun _ hnow => ⟨hnow.1, hnow.2 rfl⟩
  | false =>
    have hsubmit : (submit false : Act (Context D) Nat).Keeps
        (Intact good config resource memory) :=
      intact_submit h false
    refine .narrow ?_ (fun _ hnow => hnow.1)
    refine .after_log ?_
    refine .through (fun _ => Intact good config resource memory) (.lift (intact_count _)) ?_
    intro _
    refine .through (fun _ => Intact good config resource memory) (.lift hsubmit) fun _ => ?_
    refine .bind hreserve fun granted => ?_
    cases granted with
    | true => exact .pure fun _ hnow => ⟨hnow.1, hnow.2 rfl⟩
    | false => exact .get fun _ => .after_log (.refuse fun _ hnow => hnow.2.1)

/-- An update that has begun has room reserved for all its bytes. -/
theorem meets_beginUpdate_reserved (texture : Texture) (region : Region) :
    (texture.beginUpdate region : Attempt Fault (Context D) UploadLayout).Meets
      (Intact good config resource memory)
      (fun layout context => (Intact good config resource memory context ∧
        texture.uploadLayout region 0 config.pitchAlignment = .ok layout) ∧
        context.stream.ring.reserved = some layout.uploadSize)
      fun _ => Intact good config resource memory := by
  refine .bind (texture.meets_updateLayout_intact region) fun layout => .each ?_
  rintro now ⟨hnow, hlayout⟩
  have hreserved := (meets_reserveSpace h layout.uploadSize).narrow
    (fun context (heq : context = now) => heq ▸ hnow)
  refine .bind hreserved fun _ => ?_
  exact .pure fun _ h => ⟨⟨h.1, hlayout⟩, h.2⟩

/-- Beginning an update keeps the context intact. -/
theorem intact_beginUpdate (texture : Texture) (region : Region) :
    (texture.beginUpdate region : Attempt Fault (Context D) UploadLayout).Keeps
      (Intact good config resource memory) :=
  .of_meets (.answering (meets_beginUpdate_reserved h texture region) (fun _ _ hnow => hnow.1.1))

end Texture

end

end Texel
