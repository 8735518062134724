import Texel.Proofs.Twins.Texture
import Texel.Proofs.Vulkan.Session

namespace Texel

open Context

namespace Session

variable {D E α ε : Type} {relation related : D → E → Prop} {config : Config}

/-- The contexts of two sessions are twins, and their slots hold the same. -/
structure Twins (relation : D → E → Prop) (config : Config) (left : Session D)
    (right : Session E) : Prop where
  context : Context.Twins relation config left.context right.context
  textures : left.textures = right.textures
  staging : left.staging = right.staging
  resources : left.resources = right.resources

/-- Twin sessions have the same texture in every slot. -/
theorem Twins.texture {left : Session D} {right : Session E} (h : Twins relation config left right)
    (slot : Nat) : left.texture slot = right.texture slot := by
  rw [Session.texture, Session.texture, h.textures]

/-- What mirrors in twin contexts does so in the sessions that hold them. -/
theorem mirrors_onContext {first : Act (Context D) α} {second : Act (Context E) α}
    (h : first.Mirrors second (Context.Twins relation config)) :
    (onContext first).Mirrors (onContext second) (Twins relation config) :=
  .focus h (fun _ _ htwins => htwins.context)
    fun _ _ htwins _ _ _ hcontext => { htwins with context := hcontext }

theorem mirrors_tryContext {first : Attempt ε (Context D) α} {second : Attempt ε (Context E) α}
    (h : first.Mirrors second (Context.Twins relation config)) :
    (tryContext first).Mirrors (tryContext second) (Twins relation config) :=
  mirrors_onContext h

theorem mirrors_onDevice {first : Act D α} {second : Act E α} (h : first.Mirrors second relation) :
    (onDevice first).Mirrors (onDevice second) (Twins relation config) :=
  mirrors_onContext (Context.mirrors_onDevice h)

/-- Putting the same texture into the same slot keeps sessions twins. -/
theorem mirrors_setTexture (slot : Nat) (texture : Texture) :
    (setTexture slot texture).Mirrors (setTexture slot texture) (Twins relation config) :=
  .modify fun _ _ htwins =>
    { htwins with textures := congrArg (Table.insert · slot texture) htwins.textures }

theorem mirrors_setStaging (slot : Nat) (texture : StagingTexture) :
    (Act.modify fun session : Session D =>
      { session with staging := session.staging.insert slot texture }).Mirrors
      (Act.modify fun session : Session E =>
        { session with staging := session.staging.insert slot texture })
      (Twins relation config) :=
  .modify fun _ _ htwins =>
    { htwins with staging := congrArg (Table.insert · slot texture) htwins.staging }

theorem mirrors_clearResource (slot : Nat) :
    (clearResource slot).Mirrors (clearResource slot) (Twins relation config) :=
  .modify fun _ _ htwins =>
    { htwins with resources := congrArg (Table.erase · slot) htwins.resources }

/-- Twin sessions have the same resource in a slot, so what mirrors for each one does so
for it. -/
theorem mirrors_withResource (slot : Nat) {act : ResourceId → Act (Session D) α}
    {act' : ResourceId → Act (Session E) α}
    (h : ∀ id, (act id).Mirrors (act' id) (Twins relation config)) :
    (withResource slot act).Mirrors (withResource slot act') (Twins relation config) := by
  refine .get fun left right htwins => ?_
  rw [← htwins.resources]
  split
  · exact .pure none
  · exact .map (h _)

/-- Twin sessions have the same staging texture in a slot, so what mirrors for each one does so
for it. -/
theorem mirrors_withStaging (slot : Nat) {act : StagingTexture → Act (Session D) α}
    {act' : StagingTexture → Act (Session E) α}
    (h : ∀ texture, (act texture).Mirrors (act' texture) (Twins relation config)) :
    (withStaging slot act).Mirrors (withStaging slot act') (Twins relation config) := by
  refine .get fun left right htwins => ?_
  rw [← htwins.staging]
  split
  · exact .pure none
  · exact .map (h _)

/-- Putting a resource into a slot leaks the one that was there, in both sessions alike. -/
theorem mirrors_holdResource (slot : Nat) (id : ResourceId) :
    (holdResource slot id).Mirrors (holdResource slot id) (Twins relation config) := by
  refine .get fun left right htwins => ?_
  rw [← htwins.resources]
  refine .bind ?_ fun _ => .modify fun _ _ htwins =>
    { htwins with resources := congrArg (Table.insert · slot id) htwins.resources }
  cases left.resources.get? slot with
  | none => exact .pure ()
  | some previous => exact .log

/-- Putting a staging texture into a slot leaks the one that was there, in both sessions alike.
-/
theorem mirrors_holdStaging (slot : Nat) (texture : StagingTexture) :
    (holdStaging slot texture).Mirrors (holdStaging slot texture) (Twins relation config) := by
  refine .get fun left right htwins => ?_
  rw [← htwins.staging]
  refine .bind ?_ fun _ => mirrors_setStaging slot texture
  cases left.staging.get? slot with
  | none => exact .pure ()
  | some previous => exact .log

/-- The texture in a slot is given up alike in twin sessions. -/
theorem mirrors_dropTexture (slot : Nat) :
    (dropTexture slot).Mirrors (dropTexture slot) (Twins relation config) := by
  refine .get fun left right htwins => ?_
  rw [htwins.texture]
  exact .bind (Texture.mirrors_leak _) fun _ => mirrors_setTexture slot {}

/-- A change that mirrors for each texture does so for the one in a slot. -/
theorem mirrors_changeTexture (slot : Nat) {change : Texture → Attempt ε (Context D) Texture}
    {change' : Texture → Attempt ε (Context E) Texture}
    (h : ∀ texture, (change texture).Mirrors (change' texture) (Context.Twins relation config)) :
    (changeTexture slot change).Mirrors (changeTexture slot change') (Twins relation config) := by
  refine .get fun left right htwins => ?_
  rw [htwins.texture]
  exact .bind (mirrors_tryContext (h _)) fun changed => .lift (mirrors_setTexture slot changed)

end Session

/-- Textures have a common description, and host buffers have bytes. The switches of the simulated
device are left alone. -/
def Operation.IsCommon : Operation → Prop
  | .create _ desc _ => desc.IsCommon
  | .createResource _ desc _ => desc.IsCommon
  | .createBuffer _ size => 0 < size
  | .setAutoComplete _ | .failAllocations _ | .failViews _ => False
  | _ => True

instance : (operation : Operation) → Decidable operation.IsCommon
  | .create _ desc _ => inferInstanceAs (Decidable desc.IsCommon)
  | .createResource _ desc _ => inferInstanceAs (Decidable desc.IsCommon)
  | .createBuffer _ size => inferInstanceAs (Decidable (0 < size))
  | .setAutoComplete _ | .failAllocations _ | .failViews _ => isFalse id
  | .adopt .. | .destroyTexture .. | .takeTexture .. | .dropTexture _ | .transition .. | .load ..
  | .beginUpdate .. | .endUpdate .. | .copyFromBuffer .. | .createStaging .. | .writeStaging ..
  | .copyStaging .. | .copyStagingInto .. | .destroyStaging .. | .recordBarrier ..
  | .destroyResource .. | .destroyDescriptor .. | .destroyViews .. | .deviceDestroy _
  | .dropResource _ | .submit _ | .reap | .waitIdle => isTrue trivial

/-- What a caller asks of a session: an operation, or something of the context or of the device
beneath it, whatever resources and slots it names. -/
inductive Action where
  | operation (operation : Operation)
  /-- A resource that the caller has made up. -/
  | holdResource (slot : Nat) (id : ResourceId)
  | shutdown
  | createView (id : ResourceId) (view : ViewDesc) (slot : Slot)
  | releaseView (slot : Slot)
  | recordBarrier (id : ResourceId) (before after : UsageState)
  | recordCopy (copy : BufferCopy)
  | submitDevice (wait : Bool)
  | currentFence
  | completedFence
  | textureDesc (id : ResourceId)
  | destroyOnDevice (id : ResourceId)

namespace Action

/-- What a caller is answered when it asks for an action. -/
def Answer : Action → Type
  | .operation asked => asked.Answer
  | .createView .. => Except TextureError Unit
  | .submitDevice _ | .currentFence | .completedFence => Nat
  | .textureDesc _ => Option TextureDesc
  | _ => Unit

variable {D E : Type} [Device D] [Device E]

/-- What an action does to a session, with the answer. -/
def perform : (action : Action) → Act (Session D) action.Answer
  | .operation asked => asked.perform
  | .holdResource slot id => Session.holdResource slot id
  | .shutdown => Session.onContext Context.shutdown
  | .createView id view slot => (Session.tryDevice (Device.createView id view slot)).act
  | .releaseView slot => Session.onDevice (Device.releaseView slot)
  | .recordBarrier id before after => Session.onDevice (Device.recordBarrier id before after)
  | .recordCopy copy => Session.onDevice (Device.recordCopy copy)
  | .submitDevice wait => Session.onDevice (Device.submit wait)
  | .currentFence => Act.gets fun session => Device.currentFence session.context.device
  | .completedFence => Session.onDevice Device.completedFence
  | .textureDesc id => Act.gets fun session => Device.textureDesc session.context.device id
  | .destroyOnDevice id => Session.onDevice (Device.destroyResource id)

/-- Operations are permitted, and views are made of textures. -/
def IsPermitted (session : Session D) : Action → Prop
  | .operation asked => asked.IsCommon
  | .createView id _ _ => Device.IsTexture session.context.device id
  | _ => True

instance (session : Session D) : (action : Action) → Decidable (action.IsPermitted session)
  | .operation asked => inferInstanceAs (Decidable asked.IsCommon)
  | .createView id _ _ => inferInstanceAs (Decidable (Device.IsTexture session.context.device id))
  | .holdResource .. | .shutdown | .releaseView _ | .recordBarrier .. | .recordCopy _
  | .submitDevice _ | .currentFence | .completedFence | .textureDesc _ | .destroyOnDevice _ =>
    isTrue trivial

end Action

/-- What a caller sees of a session without asking. -/
structure Snapshot where
  textures : Table Nat Texture
  staging : Table Nat StagingTexture
  resources : Table Nat ResourceId
  heaps : Heaps
  stream : StreamBuffer
  retirement : RetirementQueue
  config : Config
  stats : UploadStats

/-- What a caller is answered, and what it sees then. -/
structure Reply where
  action : Action
  answer : action.Answer
  seen : Snapshot

namespace Session

section Transcripts

variable {D E : Type} [Device D] [Device E]

/-- What a caller can see of a session besides its answers. -/
def snapshot (session : Session D) : Snapshot :=
  { textures := session.textures, staging := session.staging, resources := session.resources
    heaps := session.context.heaps, stream := session.context.stream
    retirement := session.context.retirement, config := session.context.config
    stats := session.context.stats }

/-- Every action is permitted when its turn comes. -/
def PermitsAll : Session D → List Action → Prop
  | _, [] => True
  | session, action :: rest =>
    action.IsPermitted session ∧ PermitsAll (action.perform.run session).state rest

instance decidablePermitsAll :
    (session : Session D) → (actions : List Action) → Decidable (PermitsAll session actions)
  | _, [] => isTrue trivial
  | session, action :: rest =>
    have := decidablePermitsAll (action.perform.run session).state rest
    inferInstanceAs (Decidable (action.IsPermitted session ∧
      PermitsAll (action.perform.run session).state rest))

/-- The replies to actions, one after the other. -/
def transcript : Session D → List Action → List Reply
  | _, [] => []
  | session, action :: rest =>
    let outcome := action.perform.run session
    ⟨action, outcome.value, outcome.state.snapshot⟩ :: transcript outcome.state rest

/-- What a caller sees of a new context on a device and the replies to what it asks then, or why the
context does not open. -/
def account (device : D) (config : Config) (actions : List Action) :
    Except TextureError (Snapshot × List Reply) :=
  match (Context.ofDevice device config).1 with
  | .ok context =>
    let session : Session D := { context }
    .ok (session.snapshot, session.transcript actions)
  | .error (error, _) => .error error

end Transcripts

variable {D E : Type} {related : D → E → Prop} {config : Config}

theorem Twins.snapshot {left : Session D} {right : Session E}
    (h : Twins related config left right) : left.snapshot = right.snapshot := by
  obtain ⟨⟨_, hheaps, hstream, hretirement, hstats, hleft, hright⟩, htextures, hstaging,
    hresources⟩ := h
  simp only [Session.snapshot, hheaps, hstream, hretirement, hstats, hleft, hright, htextures,
    hstaging, hresources]

variable [Device D] [Device E] (h : Device.Twins related)
include h

theorem mirrors_adopt (slot source : Nat) (formats : ViewFormats) (state : UsageState) :
    (adopt slot source formats state).Mirrors (adopt slot source formats state)
      (Twins related config) := by
  refine mirrors_withResource source fun id => .bind (mirrors_changeTexture slot fun texture =>
    texture.mirrors_adopt h id formats state) fun answer => ?_
  cases answer with
  | ok => exact .bind (mirrors_clearResource source) fun _ => .pure _
  | error refusal => exact .pure _

theorem mirrors_destroyTexture (slot : Nat) (deferred : Bool) :
    (destroyTexture slot deferred).Mirrors (destroyTexture slot deferred)
      (Twins related config) := by
  refine .get fun left right htwins => ?_
  rw [htwins.texture]
  exact .bind (mirrors_onContext (Texture.mirrors_destroy h _ deferred)) fun _ =>
    mirrors_setTexture slot {}

omit h [Device D] [Device E] in
theorem mirrors_takeTexture (source target : Nat) :
    (takeTexture source target).Mirrors (takeTexture source target) (Twins related config) := by
  refine .get fun left right htwins => ?_
  rw [htwins.texture]
  exact .bind (mirrors_setTexture source {}) fun _ => .bind (mirrors_dropTexture target) fun _ =>
    mirrors_setTexture target _

theorem mirrors_transition (slot : Nat) (state : UsageState) :
    (transition slot state).Mirrors (transition slot state) (Twins related config) := by
  refine .get fun left right htwins => ?_
  rw [htwins.texture]
  exact .bind (mirrors_onContext (Texture.mirrors_transition h _ state)) fun moved =>
    mirrors_setTexture slot moved

/-- Beginning an update gives the same target or the same error in twin sessions, and writes the
same bytes. -/
theorem mirrors_beginUpdate (slot : Nat) (region : Region) (data : ByteArray) :
    (beginUpdate slot region data).Mirrors (beginUpdate slot region data)
      (Twins related config) := by
  refine .get fun left right htwins => ?_
  rw [htwins.texture]
  refine .bind (mirrors_tryContext (Texture.mirrors_beginUpdate h _ region)) fun layout => ?_
  refine .bind (.lift (mirrors_onContext (mirrors_onStream _))) fun _ => ?_
  exact .pure layout

/-- A staging texture is made in both of two twin sessions or in neither. -/
theorem mirrors_createStaging (slot width height : Nat) (format : NativeFormat) (writable : Bool)
    (hvalid : config.validate = .ok ()) :
    (createStaging slot width height format writable).Mirrors
      (createStaging slot width height format writable) (Twins related config) := by
  have hmade := StagingTexture.mirrors_create h width height format writable hvalid
  refine .bind (mirrors_tryContext hmade) fun texture => ?_
  refine .bind (.lift (mirrors_holdStaging slot texture)) fun _ => ?_
  exact .pure texture

omit h [Device D] [Device E] in
/-- Writing to the staging texture in a slot gives the same answer in twin sessions and leaves the
same memory. -/
theorem mirrors_writeStaging (slot : Nat) (region : Region) (data : ByteArray) (stride : Nat) :
    (writeStaging slot region data stride).Mirrors (writeStaging slot region data stride)
      (Twins related config) := by
  refine mirrors_withStaging slot fun texture => ?_
  split
  · exact .pure _
  · exact .bind (mirrors_setStaging slot _) fun _ => .pure _

theorem mirrors_copyStaging (slot : Nat) (source : Region) (destination x y : Nat) :
    (copyStaging slot source destination x y).Mirrors (copyStaging slot source destination x y)
      (Twins related config) := by
  refine .get fun left right htwins => ?_
  rw [← htwins.staging]
  split
  · exact .pure none
  · next texture _ =>
    exact mirrors_withResource destination fun id =>
      mirrors_onContext (texture.mirrors_copyTo h source id x y)

theorem mirrors_copyStagingInto (slot : Nat) (source : Region) (target x y : Nat) :
    (copyStagingInto slot source target x y).Mirrors (copyStagingInto slot source target x y)
      (Twins related config) := by
  refine .get fun left right htwins => ?_
  rw [htwins.texture]
  split
  · exact .pure none
  · next id _ =>
    exact mirrors_withStaging slot fun texture =>
      mirrors_onContext (texture.mirrors_copyTo h source id x y)

theorem mirrors_destroyStaging (slot : Nat) (deferred : Bool) :
    (destroyStaging slot deferred).Mirrors (destroyStaging slot deferred)
      (Twins related config) := by
  refine mirrors_withStaging slot fun texture => .bind (.modify fun _ _ htwins => ?_) fun _ =>
    mirrors_onContext (texture.mirrors_destroy h deferred)
  exact { htwins with staging := congrArg (Table.erase · slot) htwins.staging }

theorem mirrors_createResource (slot : Nat) {desc : TextureDesc} (hdesc : desc.IsCommon)
    (state : UsageState) :
    (createResource slot desc state).Mirrors (createResource slot desc state)
      (Twins related config) := by
  have hmade : (Device.createTexture (D := D) desc state).Mirrors
      (Device.createTexture (D := E) desc state) related :=
    .of_matches (.mono (h.createTexture desc state hdesc) (fun _ _ hrelated => hrelated)
      (fun _ _ _ hmade => hmade.1) fun _ _ hrelated => hrelated)
  refine .bind (mirrors_tryContext (mirrors_tryDevice hmade)) fun id => ?_
  refine .bind (.lift (mirrors_holdResource slot id)) fun _ => ?_
  exact .pure id

theorem mirrors_createBuffer (slot : Nat) {size : Nat} (hpositive : 0 < size) :
    (createBuffer slot size).Mirrors (createBuffer slot size) (Twins related config) := by
  have hmade := h.createHostBuffer size hpositive
  refine .bind (mirrors_tryContext (mirrors_tryDevice hmade)) fun buffer => ?_
  refine .bind (.lift (mirrors_holdResource slot buffer.resource)) fun _ => ?_
  exact .pure buffer

/-- Every operation that is permitted answers alike on both sides. -/
theorem perform_operation (hvalid : config.validate = .ok ()) {left : Session D}
    {right : Session E} (htwins : Twins related config left right) {operation : Operation}
    (hcommon : operation.IsCommon) :
    (operation.perform.run left).value = (operation.perform.run right).value ∧
      Twins related config (operation.perform.run left).state
        (operation.perform.run right).state := by
  cases operation with
  | create slot desc formats =>
    exact mirrors_changeTexture slot (fun texture => texture.mirrors_create h hcommon formats)
      left right htwins
  | adopt slot source formats state =>
    exact mirrors_adopt h slot source formats state left right htwins
  | destroyTexture slot deferred => exact mirrors_destroyTexture h slot deferred left right htwins
  | takeTexture source target => exact mirrors_takeTexture source target left right htwins
  | dropTexture slot => exact mirrors_dropTexture slot left right htwins
  | transition slot state => exact mirrors_transition h slot state left right htwins
  | load slot region data pitch =>
    exact mirrors_changeTexture slot (fun texture =>
      texture.mirrors_load h region data pitch hvalid) left right htwins
  | beginUpdate slot region data => exact mirrors_beginUpdate h slot region data left right htwins
  | endUpdate slot region =>
    exact mirrors_changeTexture slot (fun texture => texture.mirrors_endUpdate h region) left right
      htwins
  | copyFromBuffer slot region rowPitch buffer offset =>
    exact mirrors_changeTexture slot (fun texture =>
      texture.mirrors_copyFromBuffer h region rowPitch buffer offset) left right htwins
  | createStaging slot width height format writable =>
    exact mirrors_createStaging h slot width height format writable hvalid left right htwins
  | writeStaging slot region data stride =>
    exact mirrors_writeStaging slot region data stride left right htwins
  | copyStaging slot source destination x y =>
    exact mirrors_copyStaging h slot source destination x y left right htwins
  | copyStagingInto slot source target x y =>
    exact mirrors_copyStagingInto h slot source target x y left right htwins
  | destroyStaging slot deferred => exact mirrors_destroyStaging h slot deferred left right htwins
  | createResource slot desc state =>
    exact mirrors_createResource h slot hcommon state left right htwins
  | createBuffer slot size =>
    exact mirrors_createBuffer h slot hcommon left right htwins
  | recordBarrier slot before after =>
    exact mirrors_withResource slot (fun id => mirrors_onDevice (h.recordBarrier id before after))
      left right htwins
  | destroyResource slot deferred =>
    exact mirrors_withResource slot (fun id => .bind (mirrors_clearResource slot) fun _ =>
      mirrors_onContext (mirrors_dispose h _ deferred)) left right htwins
  | destroyDescriptor slot deferred =>
    exact mirrors_onContext (mirrors_dispose h _ deferred) left right htwins
  | destroyViews views deferred =>
    exact mirrors_onContext (mirrors_destroySlots h _ deferred) left right htwins
  | deviceDestroy slot =>
    exact mirrors_withResource slot (fun id => .bind (mirrors_clearResource slot) fun _ =>
      mirrors_onDevice (h.destroyResource id)) left right htwins
  | dropResource slot =>
    exact mirrors_withResource slot (fun id => .bind (mirrors_clearResource slot) fun _ => .log)
      left right htwins
  | submit wait => exact mirrors_onContext (mirrors_submit h wait) left right htwins
  | reap => exact mirrors_onContext (mirrors_reapCompleted h) left right htwins
  | waitIdle => exact mirrors_onDevice h.waitIdle left right htwins
  | setAutoComplete | failAllocations | failViews => exact hcommon.elim

/-- Every action that is permitted answers alike on both sides. -/
theorem perform_action (hvalid : config.validate = .ok ()) {left : Session D} {right : Session E}
    (htwins : Twins related config left right) {action : Action}
    (hpermits : action.IsPermitted left) :
    (action.perform.run left).value = (action.perform.run right).value ∧
      Twins related config (action.perform.run left).state (action.perform.run right).state := by
  cases action with
  | operation asked => exact perform_operation h hvalid htwins hpermits
  | holdResource slot id => exact mirrors_holdResource slot id left right htwins
  | shutdown => exact mirrors_onContext (mirrors_shutdown h) left right htwins
  | createView id view slot =>
    -- that the resource is a texture goes into the relation for this one call
    have hknown : Twins (fun left right => related left right ∧ Device.IsTexture left id) config
        left right :=
      { htwins with context := { htwins.context with device := ⟨htwins.context.device, hpermits⟩ } }
    obtain ⟨hvalue, hstates⟩ := mirrors_tryContext (mirrors_tryDevice (h.createView id view slot))
      left right hknown
    exact ⟨hvalue, { hstates with
      context := { hstates.context with device := hstates.context.device.1 } }⟩
  | releaseView slot => exact mirrors_onDevice (h.releaseView slot) left right htwins
  | recordBarrier id before after =>
    exact mirrors_onDevice (h.recordBarrier id before after) left right htwins
  | recordCopy copy => exact mirrors_onDevice (h.recordCopy copy) left right htwins
  | submitDevice wait => exact mirrors_onDevice (h.submit wait) left right htwins
  | currentFence => exact ⟨h.currentFence _ _ htwins.context.device, htwins⟩
  | completedFence => exact mirrors_onDevice h.completedFence left right htwins
  | textureDesc id => exact ⟨congrFun (h.textureDesc _ _ htwins.context.device) id, htwins⟩
  | destroyOnDevice id => exact mirrors_onDevice (h.destroyResource id) left right htwins

/-- The same actions leave the same transcript. -/
theorem transcript_eq (hvalid : config.validate = .ok ()) {left : Session D} {right : Session E}
    (htwins : Twins related config left right) {actions : List Action}
    (hpermits : PermitsAll left actions) :
    left.transcript actions = right.transcript actions := by
  induction actions generalizing left right with
  | nil => rfl
  | cons action rest ih =>
    obtain ⟨hvalue, hstates⟩ := perform_action h hvalid htwins hpermits.1
    simp only [transcript, hvalue, hstates.snapshot, ih hstates hpermits.2]

/-- Contexts that are opened on both devices with the same parameters give the same account. -/
theorem account_eq {left : D} {right : E} (hrelated : related left right) {actions : List Action}
    (hpermits : ∀ context, (ofDevice left config).1 = .ok context →
      PermitsAll { context } actions) :
    account left config actions = account right config actions := by
  obtain ⟨first, second, hfirst, hsecond, hvalid, hcontexts⟩ | ⟨error, _, _, hfirst, hsecond, -⟩ :=
    twins_ofDevice h hrelated
  · have htwins : Twins related config { context := first } { context := second } :=
      ⟨hcontexts, rfl, rfl, rfl⟩
    simp only [account, hfirst, hsecond, htwins.snapshot,
      transcript_eq h hvalid htwins (hpermits first hfirst)]
  · simp only [account, hfirst, hsecond]

end Session

end Texel
