import Texel.Session
import Texel.Proofs.Texture.Upload

namespace Texel

open Context

/-- What a caller asks of a session: operations on textures, staging textures, loose resources and
the context, and the switches of the device. Slots of the heaps change hands with their texture; a
slot that a caller gives up by itself comes from another heap, and may be any. -/
inductive Operation where
  | create (slot : Nat) (desc : TextureDesc) (formats : ViewFormats)
  | adopt (slot source : Nat) (formats : ViewFormats) (state : UsageState)
  | destroyTexture (slot : Nat) (deferred : Bool)
  | takeTexture (source target : Nat)
  | dropTexture (slot : Nat)
  | transition (slot : Nat) (state : UsageState)
  | load (slot : Nat) (region : Region) (data : ByteArray) (pitch : Nat)
  | beginUpdate (slot : Nat) (region : Region) (data : ByteArray)
  | endUpdate (slot : Nat) (region : Region)
  | copyFromBuffer (slot : Nat) (region : Region) (rowPitch : Nat) (buffer : ResourceId)
    (offset : Nat)
  | createStaging (slot width height : Nat) (format : NativeFormat) (writable : Bool)
  | writeStaging (slot : Nat) (region : Region) (data : ByteArray) (stride : Nat)
  | copyStaging (slot : Nat) (source : Region) (destination x y : Nat)
  | copyStagingInto (slot : Nat) (source : Region) (target x y : Nat)
  | destroyStaging (slot : Nat) (deferred : Bool)
  | createResource (slot : Nat) (desc : TextureDesc) (state : UsageState)
  | createBuffer (slot size : Nat)
  | recordBarrier (slot : Nat) (before after : UsageState)
  | destroyResource (slot : Nat) (deferred : Bool)
  | destroyDescriptor (slot : Slot) (deferred : Bool)
  | destroyViews (views : ViewSet) (deferred : Bool)
  | deviceDestroy (slot : Nat)
  | dropResource (slot : Nat)
  | submit (wait : Bool)
  | reap
  | waitIdle
  | setAutoComplete (on : Bool)
  | failAllocations (count : Nat)
  | failViews (count : Nat)

namespace Operation

open Session

/-- What an operation is answered with; nothing if the slot it names is empty. -/
def Answer : Operation → Type
  | .create .. | .copyFromBuffer .. => Except TextureError Unit
  | .adopt .. => Option (Except AdoptRefusal Unit)
  | .load .. | .endUpdate .. => Except Fault Unit
  | .beginUpdate .. => Except Fault UploadLayout
  | .createStaging .. => Except TextureError StagingTexture
  | .writeStaging .. => Option (Except Fault Unit)
  | .createResource .. => Except TextureError ResourceId
  | .createBuffer .. => Except TextureError HostBuffer
  | .copyStaging .. | .copyStagingInto .. | .destroyStaging .. | .recordBarrier ..
  | .destroyResource .. | .deviceDestroy .. | .dropResource .. => Option Unit
  | .submit .. | .reap => Nat
  | _ => Unit

/-- The operation on a session with any device, with its answer. A device that has no switches is
left as it is by them. -/
def perform {D : Type} [Device D] : (operation : Operation) → Act (Session D) operation.Answer
  | .create slot desc formats => (Session.create slot desc formats).act
  | .adopt slot source formats state => Session.adopt slot source formats state
  | .destroyTexture slot deferred => Session.destroyTexture slot deferred
  | .takeTexture source target => Session.takeTexture source target
  | .dropTexture slot => Session.dropTexture slot
  | .transition slot state => Session.transition slot state
  | .load slot region data pitch => (Session.load slot region data pitch).act
  | .beginUpdate slot region data => (Session.beginUpdate slot region data).act
  | .endUpdate slot region => (Session.endUpdate slot region).act
  | .copyFromBuffer slot region rowPitch buffer offset =>
    (Session.copyFromBuffer slot region rowPitch buffer offset).act
  | .createStaging slot width height format writable =>
    (Session.createStaging slot width height format writable).act
  | .writeStaging slot region data stride => Session.writeStaging slot region data stride
  | .copyStaging slot source destination x y => Session.copyStaging slot source destination x y
  | .copyStagingInto slot source target x y =>
    Session.copyStagingInto slot source target x y
  | .destroyStaging slot deferred => Session.destroyStaging slot deferred
  | .createResource slot desc state => (Session.createResource slot desc state).act
  | .createBuffer slot size => (Session.createBuffer slot size).act
  | .recordBarrier slot before after => Session.recordBarrier slot before after
  | .destroyResource slot deferred => Session.destroyResource slot deferred
  | .destroyDescriptor slot deferred => onContext (Context.destroyDescriptor slot deferred)
  | .destroyViews views deferred => onContext (Context.destroyViews views deferred)
  | .deviceDestroy slot => Session.deviceDestroy slot
  | .dropResource slot => Session.dropResource slot
  | .submit wait => onContext (Context.submit wait)
  | .reap => onContext reapCompleted
  | .waitIdle => Session.onDevice Device.waitIdle
  | .setAutoComplete _ | .failAllocations _ | .failViews _ => (pure () : Act (Session D) Unit)

/-- The operation on a session with a simulated device, which has the switches, without its
answer. -/
def act : Operation → Act (Session SimulatedDevice) Unit
  | .setAutoComplete on =>
    Session.onDevice (Act.modify fun device => { device with autoComplete := on })
  | .failAllocations count =>
    Session.onDevice (Act.modify fun device => { device with failingAllocations := count })
  | .failViews count =>
    Session.onDevice (Act.modify fun device => { device with failingViews := count })
  | operation => discard operation.perform

/-- The session after an operation. -/
def after (operation : Operation) (session : Session SimulatedDevice) : Session SimulatedDevice :=
  (operation.act.run session).state

/-- What an operation may ask of the context, whatever the slots of the session hold. -/
inductive Calls : Operation → {α : Type} → Act (Context SimulatedDevice) α → Prop where
  | create (slot : Nat) (texture : Texture) (desc : TextureDesc) (formats : ViewFormats) :
    Calls (.create slot desc formats) (texture.create desc formats).act
  | adopt (slot source : Nat) (id : ResourceId) (texture : Texture) (formats : ViewFormats)
    (state : UsageState) :
    Calls (.adopt slot source formats state) (texture.adopt id formats state).act
  | destroyTexture (slot : Nat) (texture : Texture) (deferred : Bool) :
    Calls (.destroyTexture slot deferred) (texture.destroy deferred)
  | transition (slot : Nat) (texture : Texture) (state : UsageState) :
    Calls (.transition slot state) (texture.transition state)
  | load (slot : Nat) (texture : Texture) (region : Region) (data : ByteArray) (pitch : Nat) :
    Calls (.load slot region data pitch) (texture.load region data pitch).act
  | beginUpdate (slot : Nat) (texture : Texture) (region : Region) (data : ByteArray) :
    Calls (.beginUpdate slot region data) (texture.beginUpdate region).act
  | writeUpdate (slot : Nat) (region : Region) (data : ByteArray) (size : Nat) :
    Calls (.beginUpdate slot region data)
      (onStream (Act.modify fun stream => stream.writeAtCursor data size))
  | endUpdate (slot : Nat) (texture : Texture) (region : Region) :
    Calls (.endUpdate slot region) (texture.endUpdate region).act
  | copyFromBuffer (slot : Nat) (texture : Texture) (region : Region) (rowPitch : Nat)
    (buffer : ResourceId) (offset : Nat) :
    Calls (.copyFromBuffer slot region rowPitch buffer offset)
      (texture.copyFromBuffer region rowPitch buffer offset).act
  | createStaging (slot width height : Nat) (format : NativeFormat) (writable : Bool) :
    Calls (.createStaging slot width height format writable)
      (StagingTexture.create width height format writable).act
  | copyStaging (slot destination : Nat) (id : ResourceId) (texture : StagingTexture)
    (source : Region) (x y : Nat) :
    Calls (.copyStaging slot source destination x y) (texture.copyTo source id x y)
  | copyStagingInto (slot target : Nat) (id : ResourceId) (texture : StagingTexture)
    (source : Region) (x y : Nat) :
    Calls (.copyStagingInto slot source target x y) (texture.copyTo source id x y)
  | destroyStaging (slot : Nat) (texture : StagingTexture) (deferred : Bool) :
    Calls (.destroyStaging slot deferred) (texture.destroy deferred)
  | createResource (slot : Nat) (desc : TextureDesc) (state : UsageState) :
    Calls (.createResource slot desc state)
      (Context.tryDevice (Device.createTexture desc state)).act
  | createBuffer (slot size : Nat) :
    Calls (.createBuffer slot size) (Context.tryDevice (Device.createHostBuffer size)).act
  | recordBarrier (slot : Nat) (id : ResourceId) (before after : UsageState) :
    Calls (.recordBarrier slot before after)
      (Context.onDevice (Device.recordBarrier id before after))
  | destroyResource (slot : Nat) (id : ResourceId) (deferred : Bool) :
    Calls (.destroyResource slot deferred) (Context.destroyResource id deferred)
  | destroyDescriptor (slot : Slot) (deferred : Bool) :
    Calls (.destroyDescriptor slot deferred) (Context.destroyDescriptor slot deferred)
  | destroyViews (views : ViewSet) (deferred : Bool) :
    Calls (.destroyViews views deferred) (Context.destroyViews views deferred)
  | deviceDestroy (slot : Nat) (id : ResourceId) :
    Calls (.deviceDestroy slot) (Context.onDevice (Device.destroyResource id))
  | submit (wait : Bool) : Calls (.submit wait) (Context.submit wait)
  | reap : Calls .reap reapCompleted
  | waitIdle : Calls .waitIdle (Context.onDevice Device.waitIdle)
  | setAutoComplete (on : Bool) : Calls (.setAutoComplete on)
      (Context.onDevice (Act.modify fun device => { device with autoComplete := on }))
  | failAllocations (count : Nat) : Calls (.failAllocations count)
      (Context.onDevice (Act.modify fun device => { device with failingAllocations := count }))
  | failViews (count : Nat) : Calls (.failViews count)
      (Context.onDevice (Act.modify fun device => { device with failingViews := count }))

/-- The operations that may put another texture into a slot. -/
def changesTexture : Operation → Bool
  | .create .. | .adopt .. | .destroyTexture .. | .takeTexture .. | .dropTexture ..
  | .transition .. | .load .. | .endUpdate .. | .copyFromBuffer .. => true
  | _ => false

/-- The operations that put a staging texture into a slot or take one out. -/
def fillsStaging : Operation → Bool
  | .createStaging .. | .writeStaging .. | .destroyStaging .. => true
  | _ => false

/-- The operations that may reserve, write or take space of the stream buffer. -/
def usesStream : Operation → Bool
  | .load .. | .beginUpdate .. | .endUpdate .. => true
  | _ => false

end Operation

namespace Session

/-- The session after a run of operations. -/
def run (session : Session SimulatedDevice) (operations : List Operation) :
    Session SimulatedDevice :=
  operations.foldl (fun session operation => operation.after session) session

/-- A session that was just opened on a new device, with nothing in its slots. -/
def Opened (config : Config) (session : Session SimulatedDevice) : Prop :=
  ∃ context log, Context.ofDevice ({} : SimulatedDevice) config = (.ok context, log) ∧
    session = { context }

/-- A run may be cut anywhere. -/
theorem run_append (session : Session SimulatedDevice) (first second : List Operation) :
    session.run (first ++ second) = (session.run first).run second :=
  List.foldl_append

/-- What each operation preserves is preserved by a run. -/
theorem run_induction {P : Session SimulatedDevice → Prop}
    (hstep : ∀ session operation, P session → P (Operation.after operation session))
    {session : Session SimulatedDevice} (h : P session) (operations : List Operation) :
    P (session.run operations) := by
  induction operations generalizing session with
  | nil => exact h
  | cons operation rest ih => exact ih (hstep session operation h)

section Changing

variable {ε : Type} {session : Session SimulatedDevice} {slot : Nat}
  {change : Texture → Attempt ε (Context SimulatedDevice) Texture}

/-- A change that is accepted puts the new texture into the slot. -/
theorem changeTexture_ok {value : Texture}
    (h : ((change (session.texture slot)).run session.context).value = .ok value) :
    ((changeTexture slot change).run session).value = .ok () ∧
      ((changeTexture slot change).run session).state =
        { session with
          context := ((change (session.texture slot)).run session.context).state
          textures := session.textures.insert slot value } := by
  simp only [changeTexture, Attempt.run_bind, Attempt.run_get, tryContext, Attempt.run_focus, h]
  exact ⟨rfl, rfl⟩

/-- A change that is refused leaves the slot as it was. -/
theorem changeTexture_error {error : ε}
    (h : ((change (session.texture slot)).run session.context).value = .error error) :
    ((changeTexture slot change).run session).value = .error error ∧
      ((changeTexture slot change).run session).state =
        { session with
          context := ((change (session.texture slot)).run session.context).state } := by
  simp only [changeTexture, Attempt.run_bind, Attempt.run_get, tryContext, Attempt.run_focus, h]
  exact ⟨trivial, trivial⟩

/-- A change that is accepted puts the new texture into the slot. -/
theorem accepted_changeTexture {after : Texture → Context SimulatedDevice → Prop}
    {refused : ε → Context SimulatedDevice → Prop}
    (hchange : (change (session.texture slot)).Meets (fun context => context = session.context)
      after refused)
    (h : ((changeTexture slot change).run session).value = .ok ()) :
    ∃ value next, ((changeTexture slot change).run session).state =
        { session with context := next, textures := session.textures.insert slot value } ∧
      after value next := by
  cases hvalue : ((change (session.texture slot)).run session.context).value with
  | ok value => exact ⟨value, _, (changeTexture_ok hvalue).2, (hchange.of_run rfl).1 value hvalue⟩
  | error error =>
    rw [(changeTexture_error hvalue).1] at h
    cases h

/-- A change that is refused leaves every slot as it was and the context as the change left it. -/
theorem refused_changeTexture {error : ε} {after : Texture → Context SimulatedDevice → Prop}
    {refused : ε → Context SimulatedDevice → Prop}
    (hchange : (change (session.texture slot)).Meets (fun context => context = session.context)
      after refused)
    (h : ((changeTexture slot change).run session).value = .error error) :
    ∃ next, ((changeTexture slot change).run session).state = { session with context := next } ∧
      refused error next := by
  cases hvalue : ((change (session.texture slot)).run session.context).value with
  | ok value =>
    rw [(changeTexture_ok hvalue).1] at h
    cases h
  | error error' =>
    obtain ⟨herror, hstate⟩ := changeTexture_error hvalue
    obtain rfl := Except.error.inj (herror.symm.trans h)
    exact ⟨_, hstate, (hchange.of_run rfl).2 _ hvalue⟩

/-- What the change of a texture does to the context. -/
theorem context_changeTexture (session : Session SimulatedDevice) (slot : Nat)
    (change : Texture → Attempt ε (Context SimulatedDevice) Texture) :
    ((discard (changeTexture slot change).act).run session).state.context =
      ((change (session.texture slot)).run session.context).state := by
  change ((changeTexture slot change).run session).state.context = _
  cases hvalue : ((change (session.texture slot)).run session.context).value with
  | ok value => rw [(changeTexture_ok hvalue).2]
  | error error => rw [(changeTexture_error hvalue).2]

end Changing

/-- A host buffer that can be a ring is one as a whole. -/
theorem ofBuffer_eq_ok {buffer : HostBuffer} {stream : StreamBuffer}
    (h : StreamBuffer.ofBuffer buffer = .ok stream) :
    buffer.memory.size ≤ maxWord ∧
      stream = ⟨buffer.resource, buffer.memory, { capacity := buffer.memory.size }⟩ := by
  unfold StreamBuffer.ofBuffer StreamBuffer.checkCapacity at h
  split at h
  · cases h
  · next hcheck =>
    cases h
    split at hcheck
    · cases hcheck
    · split at hcheck
      · cases hcheck
      · next hsize => exact ⟨Nat.le_of_not_lt hsize, rfl⟩

/-- The stream buffer is the first resource of a device, if its parameters are accepted. -/
theorem meets_openStream (config : Config) :
    (openStream config : Attempt TextureError SimulatedDevice StreamBuffer).Meets
      (fun device => device = {})
      (fun stream device => config.validate = .ok () ∧ config.streamSize ≤ maxWord ∧
        stream = ⟨⟨1⟩, .zeroed config.streamSize, { capacity := config.streamSize }⟩ ∧
        device = ({} : SimulatedDevice).registered (.buffer config.streamSize))
      fun _ _ => ¬ (config.validate = .ok () ∧ config.streamSize ≤ maxWord) := by
  refine .through (fun _ device => config.validate = .ok () ∧ device = {}) (.ofExcept ?_ ?_)
    fun _ => ?_
  · exact fun _ hvalid _ h => ⟨hvalid, h⟩
  · intro error herror _ _ hvalid
    rw [herror] at hvalid
    cases hvalid.1
  apply Attempt.Meets.each
  rintro _ ⟨hvalid, rfl⟩
  refine .bind (.refusing (SimulatedDevice.meets_createHostBuffer _ _)
    fun _ _ h => absurd rfl h.1) fun buffer => .each ?_
  rintro _ ⟨-, rfl, rfl⟩
  split
  · next stream hstream =>
    obtain ⟨hsize, rfl⟩ := ofBuffer_eq_ok hstream
    refine .after_log (.pure ?_)
    rintro _ rfl
    exact ⟨hvalid, hsize, rfl, rfl⟩
  · next error buffer herror =>
    have hlarge : ¬ config.streamSize ≤ maxWord := by
      intro hsize
      have hpositive := (Config.validate_eq_ok_iff.mp hvalid).1
      have hcapacity : StreamBuffer.checkCapacity config.streamSize = .ok () := by
        unfold StreamBuffer.checkCapacity
        rw [if_neg hpositive, if_neg (Nat.not_lt.mpr hsize)]
      unfold StreamBuffer.ofBuffer at herror
      simp only [Memory.zeroed, hcapacity] at herror
      cases herror
    exact .through (fun _ _ => True) (.lift fun _ _ => trivial) fun _ =>
      .refuse fun _ _ h => hlarge h.2

/-- The session that opening on a new device gives. -/
def opening (config : Config) : Session SimulatedDevice where
  context :=
    { device := ({} : SimulatedDevice).registered (.buffer config.streamSize)
      heaps := Heaps.ofCapacities config.shaderResourceSlots config.renderTargetSlots
        config.depthStencilSlots
      stream := ⟨⟨1⟩, .zeroed config.streamSize, { capacity := config.streamSize }⟩
      config }

/-- A session opens exactly with valid parameters and a stream buffer of at most 32 bits. -/
theorem opened_iff {config : Config} {session : Session SimulatedDevice} :
    Opened config session ↔
      config.validate = .ok () ∧ config.streamSize ≤ maxWord ∧ session = opening config := by
  obtain ⟨hok, herror⟩ := (meets_openStream config).of_run rfl
  unfold Opened Context.ofDevice
  simp only
  cases hvalue : ((openStream config).run ({} : SimulatedDevice)).value with
  | ok stream =>
    obtain ⟨hvalid, hsize, rfl, hdevice⟩ := hok stream hvalue
    rw [hdevice]
    constructor
    · rintro ⟨context, log, hopen, rfl⟩
      cases hopen
      exact ⟨hvalid, hsize, rfl⟩
    · rintro ⟨-, -, rfl⟩
      exact ⟨_, _, rfl, rfl⟩
  | error error =>
    constructor
    · rintro ⟨context, log, hopen, rfl⟩
      cases hopen
    · rintro ⟨hvalid, hsize, -⟩
      exact absurd ⟨hvalid, hsize⟩ (herror error hvalue)

/-- The stream buffer of a session that was just opened is in order. -/
theorem streams_opened {config : Config} {session : Session SimulatedDevice}
    (h : Opened config session) : session.context.Streams := by
  obtain ⟨hvalid, -, rfl⟩ := opened_iff.mp h
  obtain ⟨-, hpitch, hplacement⟩ := Config.validate_eq_ok_iff.mp hvalid
  exact ⟨⟨Nat.zero_lt_one, by simp [opening, SimulatedDevice.registered],
      by simp [opening, SimulatedDevice.registered]⟩,
    Ring.inside_empty _, Ring.ordered_empty _, by simp [opening],
    hpitch, hplacement, Nat.lt_succ_self 1⟩

section Lifting

variable {D : Type} {P : Context D → Prop} {Q : Session D → Prop} {α ε : Type}

/-- A condition on the context is kept by what keeps it there. -/
theorem keeps_onContext {act : Act (Context D) α} (h : act.Keeps P) :
    (onContext act).Keeps fun session => P session.context :=
  fun session hsession => h session.context hsession

/-- A contract of the context is one of the session. -/
theorem meets_tryContext {attempt : Attempt ε (Context D) α}
    {after : α → Context D → Prop} {refused : ε → Context D → Prop}
    (h : attempt.Meets P after refused) :
    (tryContext attempt).Meets (fun session => P session.context)
      (fun value session => after value session.context)
      fun error session => refused error session.context := by
  refine .focus fun session hsession => ?_
  refine .narrow h ?_
  rintro _ rfl
  exact hsession

/-- A change of a texture keeps what its work on the context keeps, if slots do not matter. -/
theorem keeps_changeTexture (slot : Nat)
    {change : Texture → Attempt ε (Context D) Texture}
    (h : ∀ texture, (onContext (change texture).act).Keeps Q)
    (htextures : ∀ session textures, Q session → Q { session with textures }) :
    (changeTexture slot change).Keeps Q := by
  refine .bind .get fun session => ?_
  refine .bind (h _) fun _ => .lift ?_
  exact fun now hnow => htextures now _ hnow

theorem keeps_dropTexture (slot : Nat)
    (htextures : ∀ session textures, Q session → Q { session with textures }) :
    (Session.dropTexture slot).Keeps Q := by
  refine .bind .get fun session => .bind ?_ fun _ now hnow => htextures now _ hnow
  unfold Texture.leak
  split
  · exact .pure _
  · exact .bind (.log _ _) fun _ => .log _ _

theorem keeps_holdResource (slot : Nat) (id : ResourceId)
    (hresources : ∀ session resources, Q session → Q { session with resources }) :
    (holdResource slot id).Keeps Q := by
  refine .bind .get fun session => .bind ?_ fun _ now hnow => hresources now _ hnow
  cases session.resources.get? slot with
  | none => exact .pure _
  | some previous => exact .log _ _

theorem keeps_holdStaging (slot : Nat) (texture : StagingTexture)
    (hstaging : ∀ session staging, Q session → Q { session with staging }) :
    (holdStaging slot texture).Keeps Q := by
  refine .bind .get fun session => .bind ?_ fun _ now hnow => hstaging now _ hnow
  cases session.staging.get? slot with
  | none => exact .pure _
  | some previous => exact .log _ _

/-- An operation on a loose resource keeps what it keeps for every resource. -/
theorem keeps_withResource (slot : Nat)
    {act : ResourceId → Act (Session D) α} (h : ∀ id, (act id).Keeps Q) :
    (withResource slot act).Keeps Q := by
  refine .bind .get fun session => ?_
  split
  · exact .pure _
  · exact .map (h _)

/-- An operation on a staging texture keeps what it keeps for every one. -/
theorem keeps_withStaging (slot : Nat)
    {act : StagingTexture → Act (Session D) α}
    (h : ∀ texture, (act texture).Keeps Q) :
    (withStaging slot act).Keeps Q := by
  refine .bind .get fun session => ?_
  split
  · exact .pure _
  · exact .map (h _)

end Lifting

/-- An operation keeps what the calls it makes keep and what does not depend on the slots that it
fills and empties. -/
theorem keeps_parts {Q : Session SimulatedDevice → Prop} {operation : Operation}
    (hcalls : ∀ {α : Type} {act : Act (Context SimulatedDevice) α}, operation.Calls act →
      (onContext act).Keeps Q)
    (htextures : operation.changesTexture = true → ∀ session textures, Q session →
      Q { session with textures })
    (hstaging : operation.fillsStaging = true → ∀ session staging, Q session →
      Q { session with staging })
    (hresources : ∀ session resources, Q session → Q { session with resources }) :
    operation.act.Keeps Q := by
  cases operation with
  | create slot desc formats =>
    exact Attempt.Keeps.discard (keeps_changeTexture slot (fun texture => hcalls (.create ..))
      (htextures rfl))
  | adopt slot source formats state =>
    refine .discard (keeps_withResource source fun id => .bind (keeps_changeTexture slot
      (fun texture => hcalls (.adopt ..)) (htextures rfl)) fun answer => ?_)
    cases answer with
    | ok => exact .bind (fun now hnow => hresources now _ hnow) fun _ => .pure _
    | error refusal => exact .pure _
  | destroyTexture slot deferred =>
    refine .discard ?_
    refine .bind .get fun session => ?_
    refine .bind (hcalls (.destroyTexture ..)) fun _ => ?_
    exact fun now hnow => htextures rfl now _ hnow
  | takeTexture source target =>
    refine .discard ?_
    refine .bind .get fun session => ?_
    refine .bind (fun now hnow => htextures rfl now _ hnow) fun _ => ?_
    refine .bind (keeps_dropTexture target (htextures rfl)) fun _ => ?_
    exact fun now hnow => htextures rfl now _ hnow
  | dropTexture slot => exact .discard (keeps_dropTexture slot (htextures rfl))
  | transition slot state =>
    refine .discard ?_
    refine .bind .get fun session => ?_
    refine .bind (hcalls (.transition ..)) fun _ => ?_
    exact fun now hnow => htextures rfl now _ hnow
  | load slot region data pitch =>
    exact Attempt.Keeps.discard (keeps_changeTexture slot (fun texture => hcalls (.load ..))
      (htextures rfl))
  | beginUpdate slot region data =>
    refine Attempt.Keeps.discard ?_
    refine .bind .get fun session => ?_
    refine .bind (hcalls (.beginUpdate ..)) fun layout => ?_
    refine .bind (.lift (hcalls (.writeUpdate ..))) fun _ => ?_
    exact .pure _
  | endUpdate slot region =>
    exact Attempt.Keeps.discard (keeps_changeTexture slot (fun texture => hcalls (.endUpdate ..))
      (htextures rfl))
  | copyFromBuffer slot region rowPitch buffer offset =>
    exact Attempt.Keeps.discard (keeps_changeTexture slot
      (fun texture => hcalls (.copyFromBuffer ..)) (htextures rfl))
  | createStaging slot width height format writable =>
    refine Attempt.Keeps.discard ?_
    refine .bind (hcalls (.createStaging ..)) fun texture => ?_
    refine .bind (.lift (keeps_holdStaging slot texture (hstaging rfl))) fun _ => ?_
    exact .pure _
  | writeStaging slot region data stride =>
    refine .discard (keeps_withStaging slot fun texture => ?_)
    split
    · exact .pure _
    · exact .bind (fun now hnow => hstaging rfl now _ hnow) fun _ => .pure _
  | copyStaging slot source destination x y =>
    refine .discard (.bind .get fun session => ?_)
    split
    · exact .pure _
    · exact keeps_withResource destination fun id => hcalls (.copyStaging ..)
  | copyStagingInto slot source target x y =>
    refine .discard (.bind .get fun session => ?_)
    split
    · exact .pure _
    · exact keeps_withStaging slot fun texture => hcalls (.copyStagingInto ..)
  | destroyStaging slot deferred =>
    exact .discard (keeps_withStaging slot fun texture =>
      .bind (fun now hnow => hstaging rfl now _ hnow) fun _ => hcalls (.destroyStaging ..))
  | createResource slot desc state =>
    refine Attempt.Keeps.discard ?_
    refine .bind (hcalls (.createResource ..)) fun id => ?_
    refine .bind (.lift (keeps_holdResource slot id hresources)) fun _ => ?_
    exact .pure _
  | createBuffer slot size =>
    refine Attempt.Keeps.discard ?_
    refine .bind (hcalls (.createBuffer ..)) fun buffer => ?_
    refine .bind (.lift (keeps_holdResource slot buffer.resource hresources)) fun _ => ?_
    exact .pure _
  | recordBarrier slot before after =>
    exact .discard (keeps_withResource slot fun id => hcalls (.recordBarrier ..))
  | destroyResource slot deferred =>
    exact .discard (keeps_withResource slot fun id =>
      .bind (fun now hnow => hresources now _ hnow) fun _ => hcalls (.destroyResource ..))
  | destroyDescriptor slot deferred => exact .discard (hcalls (.destroyDescriptor slot deferred))
  | destroyViews views deferred => exact .discard (hcalls (.destroyViews views deferred))
  | deviceDestroy slot =>
    exact .discard (keeps_withResource slot fun id =>
      .bind (fun now hnow => hresources now _ hnow) fun _ => hcalls (.deviceDestroy ..))
  | dropResource slot =>
    exact .discard (keeps_withResource slot fun id =>
      .bind (fun now hnow => hresources now _ hnow) fun _ => .log _ _)
  | submit wait => exact .discard (hcalls (.submit wait))
  | reap => exact .discard (hcalls .reap)
  | waitIdle => exact .discard (hcalls .waitIdle)
  | setAutoComplete on => exact hcalls (.setAutoComplete on)
  | failAllocations count => exact hcalls (.failAllocations count)
  | failViews count => exact hcalls (.failViews count)

/-- What each call of an operation keeps of the context is kept by the operation. -/
theorem keeps_of_calls {P : Context SimulatedDevice → Prop} {operation : Operation}
    (h : ∀ {α : Type} {act : Act (Context SimulatedDevice) α}, operation.Calls act → act.Keeps P) :
    operation.act.Keeps fun session => P session.context :=
  keeps_parts (fun call => keeps_onContext (h call)) (fun _ _ _ hsession => hsession)
    (fun _ _ _ hsession => hsession) fun _ _ hsession => hsession

/-- What outlasts every change beside the write side of the stream buffer is kept by all calls but
those of uploads and updates. -/
theorem keeps_call {P : Context SimulatedDevice → Prop} (h : Lasts P) {operation : Operation}
    (hbeside : operation.usesStream = false) {α : Type} {act : Act (Context SimulatedDevice) α}
    (call : operation.Calls act) : act.Keeps P := by
  cases call with
  | create slot texture desc formats =>
    exact h.keeps_of_steady fun context => texture.steady_create desc formats
  | adopt slot source id texture formats state =>
    exact h.keeps_of_steady fun context => texture.steady_adopt id formats state
  | destroyTexture slot texture deferred =>
    exact h.keeps_of_steady fun context => texture.steady_destroy deferred
  | transition slot texture state => exact texture.keeps_transition h.record state
  | load | beginUpdate | writeUpdate | endUpdate => cases hbeside
  | copyFromBuffer slot texture region rowPitch buffer offset =>
    exact texture.keeps_copyFromBuffer h.record region rowPitch buffer offset
  | createStaging slot width height format writable =>
    exact h.keeps_of_steady fun context =>
      StagingTexture.steady_create width height format writable
  | copyStaging slot destination id texture source x y =>
    exact texture.keeps_copyTo h.record source id x y
  | copyStagingInto slot target id texture source x y =>
    exact texture.keeps_copyTo h.record source id x y
  | destroyStaging slot texture deferred =>
    exact h.keeps_of_steady fun context => texture.steady_destroy deferred
  | createResource slot desc state =>
    exact h.keeps_of_steady fun context =>
      steady_tryDevice (SimulatedDevice.keeps_createTexture desc state)
  | createBuffer slot size =>
    exact h.keeps_of_steady fun context =>
      steady_tryDevice (SimulatedDevice.keeps_createHostBuffer size)
  | recordBarrier slot id before after =>
    intro context hcontext
    rw [state_recordBarrier]
    exact h.record _ hcontext
  | destroyResource slot id deferred =>
    exact h.keeps_of_steady fun context => steady_dispose _ deferred
  | destroyDescriptor slot deferred =>
    exact h.keeps_of_steady fun context => steady_dispose _ deferred
  | destroyViews views deferred =>
    exact h.keeps_of_steady fun context => steady_destroySlots _ deferred
  | deviceDestroy slot id =>
    exact h.keeps_of_steady fun context =>
      steady_onDevice (SimulatedDevice.keeps_destroyResource id)
  | submit wait => exact h.keeps_submit wait
  | reap => exact h.keeps_reapCompleted
  | waitIdle => exact fun context hcontext => h.complete hcontext
  | setAutoComplete | failAllocations | failViews =>
    exact h.keeps_of_steady fun context => steady_onDevice fun _ hdevice =>
      hdevice.trans ⟨rfl, rfl, rfl, rfl, Nat.le_refl _⟩

/-- Operations that do not write to the stream buffer keep what outlasts small changes. -/
theorem keeps_act {P : Context SimulatedDevice → Prop} (h : Lasts P) {operation : Operation}
    (hbeside : operation.usesStream = false) :
    operation.act.Keeps fun session => P session.context :=
  keeps_of_calls fun call => keeps_call h hbeside call

/-- What a caller writes where an update has begun stays within the reservation. -/
theorem evolves_beginUpdate {origin : Context SimulatedDevice} (h : origin.Streams) (slot : Nat)
    (region : Region) (data : ByteArray) :
    (Session.beginUpdate slot region data).Keeps fun session => Evolves origin session.context := by
  refine .of_meets (.get fun session => ?_)
  refine .through (fun layout now => Evolves origin now.context ∧
    now.context.stream.ring.reserved = some layout.uploadSize) (.narrow (meets_tryContext
      (Texture.evolves_beginUpdate h _ region)) (fun _ hnow => hnow.2)) fun layout => ?_
  refine .through (fun _ now => Evolves origin now.context) (.lift ?_) fun _ => .pure fun _ h => h
  rintro now ⟨hevolves, hreserved⟩
  refine hevolves.step (.write hreserved (Memory.size_write ..) fun index _ houtside => ?_)
  simp only at houtside ⊢
  rw [Memory.byteAt_write]
  have hroom : now.context.stream.memory.room now.context.stream.ring.cursor data 0
      layout.uploadSize ≤ layout.uploadSize := Nat.min_le_left _ _
  exact if_neg (by omega)

/-- Every operation is a chain of changes of the context. -/
theorem evolves_act {origin : Context SimulatedDevice} (h : origin.Streams)
    (operation : Operation) :
    operation.act.Keeps fun session => Evolves origin session.context := by
  cases operation with
  | beginUpdate slot region data =>
    exact Attempt.Keeps.discard (evolves_beginUpdate h slot region data)
  | load slot region data pitch =>
    refine keeps_of_calls fun call => ?_
    cases call with
    | load slot texture => exact Texture.evolves_load h texture region data pitch
  | endUpdate slot region =>
    refine keeps_of_calls fun call => ?_
    cases call with
    | endUpdate slot texture => exact texture.evolves_endUpdate region
  | _ => exact keeps_act (lasts_evolves origin) rfl

/-- Every run is a chain of small changes of the context. -/
theorem evolves_run {session : Session SimulatedDevice} (h : session.context.Streams)
    (operations : List Operation) : Evolves session.context (session.run operations).context :=
  run_induction (fun now operation => evolves_act h operation now) .refl operations

end Session

end Texel
