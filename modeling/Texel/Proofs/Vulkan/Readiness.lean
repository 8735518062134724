import Texel.Proofs.Vulkan.Fetching
import Texel.Proofs.Vulkan.Session

namespace Texel

open Context

namespace Vulkan

/-- Every copy that a session may be asked for has a source in place. -/
structure Ready (config : Config) (session : Session VulkanDevice) : Prop where
  valid : config.validate = .ok ()
  config_eq : session.context.config = config
  intact : Intact
    (fun device => device.Backs session.context.stream.resource session.context.stream.memory.size)
    session.context.config session.context.stream.resource session.context.stream.memory
    session.context
  staging : ∀ slot staging, session.staging.get? slot = some staging →
    Grounded config session.context.device staging

variable {α ε : Type} {config : Config} {session : Session VulkanDevice} {slot : Nat}

namespace Ready

/-- The alignment of rows is a power of two in a session that is ready. -/
theorem pitch (h : Ready config session) :
    session.context.config.pitchAlignment.isPowerOfTwo := by
  rw [h.config_eq]
  exact (Config.validate_eq_ok_iff.mp h.valid).2.1

/-- A context that has gone on is as ready as before. -/
theorem later {context : Context VulkanDevice} (h : Ready config session)
    (hlater : Later session.context.device session.context.config session.context.stream.resource
      session.context.stream.memory.size context) :
    Ready config { session with context } := by
  obtain ⟨memory, hsize, hcontext⟩ := hlater
  refine
    { valid := h.valid
      config_eq := hcontext.config.trans h.config_eq
      intact := ⟨?_, rfl, rfl, rfl, ?_⟩
      staging := fun slot staging hfound =>
        (h.staging slot staging hfound).follows hcontext.device }
  · rw [hcontext.buffer, hcontext.bytes, hsize]
    exact h.intact.device.follows hcontext.device
  · rw [hcontext.bytes]
    exact hcontext.ring

/-- A staging texture that is on a buffer of the device may come into a slot. -/
theorem insertStaging {staging : StagingTexture} (h : Ready config session) (slot : Nat)
    (hstaging : Grounded config session.context.device staging) :
    Ready config { session with staging := session.staging.insert slot staging } := by
  refine { h with staging := fun other found hfound => ?_ }
  rw [Table.get?_insert] at hfound
  split at hfound
  · exact Option.some.inj hfound ▸ hstaging
  · exact h.staging other found hfound

/-- A staging texture may go out of its slot. -/
theorem eraseStaging (h : Ready config session) (slot : Nat) :
    Ready config { session with staging := session.staging.erase slot } := by
  refine { h with staging := fun other found hfound => ?_ }
  rw [Table.get?_erase] at hfound
  split at hfound
  · cases hfound
  · exact h.staging other found hfound

end Ready

/-- A session stays ready when its context goes on with the same parameters and the same ring. -/
theorem ready_onContext {act : Act (Context VulkanDevice) α}
    (h : ∀ session, Ready config session → act.Meets (fun context => context = session.context)
      fun _ => Later session.context.device session.context.config session.context.stream.resource
        session.context.stream.memory.size) :
    (Session.onContext act).Keeps (Ready config) :=
  fun session hsession => hsession.later (h session hsession session.context rfl)

/-- What leaves the stream buffer alone and lets the device go on is always fine. -/
theorem ready_of_intact {act : Act (Context VulkanDevice) α}
    (h : ∀ (origin : VulkanDevice) (config : Config) (resource : ResourceId) (memory : Memory),
      act.Keeps (Intact origin.Follows config resource memory)) :
    (Session.onContext act).Keeps (Ready config) := by
  refine ready_onContext fun session hsession => ?_
  rintro _ rfl
  exact ⟨_, rfl, h session.context.device _ _ _ session.context
    { hsession.intact with device := .refl _ }⟩

/-- So is what only the device is asked for. -/
theorem ready_onDevice {act : Act VulkanDevice α}
    (h : ∀ origin : VulkanDevice, act.Keeps origin.Follows) :
    (Session.onDevice act).Keeps (Ready config) :=
  ready_of_intact fun origin _ _ _ => intact_onDevice (h origin)

theorem ready_tryDevice {attempt : Attempt ε VulkanDevice α}
    (h : ∀ origin : VulkanDevice, attempt.Keeps origin.Follows) :
    (Session.tryDevice attempt).Keeps (Ready config) :=
  ready_onDevice h

theorem ready_copyTo (staging : StagingTexture) (source : Region) (id : ResourceId) (x y : Nat) :
    (Session.onContext (staging.copyTo source id x y)).Keeps (Ready config) :=
  ready_onDevice fun _ => VulkanDevice.follows_recordCopy _

theorem ready_copyFromBuffer (texture : Texture) (region : Region) (rowPitch : Nat)
    (buffer : ResourceId) (offset : Nat) :
    (Session.onContext (texture.copyFromBuffer region rowPitch buffer offset).act).Keeps
      (Ready config) := by
  refine ready_of_intact fun origin config resource memory => ?_
  have hpreserves := VulkanDevice.preserves_follows origin
  unfold Texture.copyFromBuffer
  split
  · exact .pure _
  · exact Attempt.Keeps.lift (.bind (Texture.intact_transition hpreserves texture _) fun opened =>
      .bind (intact_onDevice (VulkanDevice.follows_recordCopy _)) fun _ =>
        Texture.intact_transition hpreserves opened _)

/-- What a caller writes of an update is written to the stream buffer. -/
theorem ready_writeAtCursor (data : ByteArray) (size : Nat) :
    (Session.onContext (onStream (Act.modify fun stream => stream.writeAtCursor data size))).Keeps
      (Ready config) := by
  refine ready_onContext fun session hsession => ?_
  rintro _ rfl
  refine ⟨_, Memory.size_write .., .refl _, rfl, rfl, rfl, ?_⟩
  rw [Memory.size_write]
  exact hsession.intact.ring

/-- A session stays ready when it takes a staging texture that is on a buffer of the device. -/
theorem ready_holdStaging (slot : Nat) (staging : StagingTexture) :
    (Session.holdStaging slot staging).Meets
      (fun session => Ready config session ∧ Grounded config session.context.device staging)
      fun _ => Ready config := by
  refine .get fun origin => ?_
  refine .through (fun _ session =>
    Ready config session ∧ Grounded config session.context.device staging) ?_ fun _ => .modify ?_
  · cases origin.staging.get? slot with
    | none => exact .pure fun _ h => h.2
    | some previous => exact .log fun _ h => h.2
  · rintro session ⟨hready, hgrounded⟩
    exact hready.insertStaging slot hgrounded

theorem ready_createStaging (slot width height : Nat) (format : NativeFormat) (writable : Bool) :
    (Session.createStaging slot width height format writable).Keeps (Ready config) := by
  refine .of_meets ?_
  refine .through (fun staging session =>
    Ready config session ∧ Grounded config session.context.device staging) (.focus ?_)
    fun staging => .bind (.lift (ready_holdStaging slot staging)) fun _ => .pure fun _ h => h
  intro session hsession
  have hlater {context : Context VulkanDevice}
      (h : Intact session.context.device.Proceeds session.context.config
        session.context.stream.resource session.context.stream.memory context) :
      Ready config { session with context } :=
    hsession.later ⟨_, rfl, { h with device := h.device.toFollows }⟩
  refine .mono (meets_create_fresh hsession.pitch width height format writable)
    hsession.intact.begins ?_
    fun _ _ h => hlater h
  rintro staging context ⟨hcontext, hfresh⟩
  have hgrounded := hfresh.grounded (Nat.pos_of_isPowerOfTwo hsession.pitch)
  rw [hsession.config_eq] at hgrounded
  exact ⟨hlater hcontext, hgrounded⟩

/-- A session stays ready when a staging texture is written: its memory keeps its size. -/
theorem ready_writeStaging (slot : Nat) (region : Region) (data : ByteArray) (stride : Nat) :
    (Session.writeStaging slot region data stride).Keeps (Ready config) := by
  intro session hsession
  refine meets_withStaging slot hsession (fun staging hfound => ?_) session rfl
  split
  · exact .pure fun _ hnow => hnow ▸ hsession
  · next written hwritten =>
    refine .through (fun _ => Ready config) (.modify ?_) fun _ => .pure fun _ h => h
    rintro _ rfl
    exact hsession.insertStaging slot
      (@Grounded.write config staging written _ ⟨region, data, stride⟩
        (hsession.staging slot staging hfound) hwritten)

theorem ready_withTextures (textures : Table Nat Texture) (h : Ready config session) :
    Ready config { session with textures } :=
  { h with }

theorem ready_withResources (resources : Table Nat ResourceId) (h : Ready config session) :
    Ready config { session with resources } :=
  { h with }

/-- A change of a texture in its slot. -/
theorem ready_changeTexture (slot : Nat)
    {change : Texture → Attempt ε (Context VulkanDevice) Texture}
    (h : ∀ texture, (Session.onContext (change texture).act).Keeps (Ready config)) :
    (Session.changeTexture slot change).Keeps (Ready config) :=
  Session.keeps_changeTexture slot h fun _ => ready_withTextures

theorem ready_load (texture : Texture) (region : Region) (data : ByteArray) (pitch : Nat) :
    (Session.onContext (texture.load region data pitch).act).Keeps (Ready config) :=
  ready_onContext fun _ hsession _ hnow =>
    ((fetches_load hsession.pitch hsession.intact texture region data
      pitch).state_run hnow).later

theorem ready_endUpdate (texture : Texture) (region : Region) :
    (Session.onContext (texture.endUpdate region).act).Keeps (Ready config) :=
  ready_onContext fun _ hsession _ hnow =>
    ((fetches_endUpdate hsession.pitch hsession.intact texture region).state_run hnow).later

/-- Whatever is asked of a session, it stays ready. -/
theorem ready_operation (operation : Texel.Operation) :
    (discard operation.perform).Keeps (Ready config) := by
  have hpreserves := VulkanDevice.preserves_follows
  have hheld (slot : Nat) (id : ResourceId) :
      (Session.holdResource slot id).Keeps (Ready config) :=
    Session.keeps_holdResource slot id fun _ => ready_withResources
  cases operation with
  | create slot desc formats =>
    exact Attempt.Keeps.discard (ready_changeTexture slot fun texture => ready_of_intact
      fun origin _ _ _ => texture.intact_create (hpreserves origin) desc formats)
  | adopt slot source formats state =>
    refine .discard (Session.keeps_withResource source fun id => ?_)
    have hadopted (texture : Texture) : (Session.onContext
        (texture.adopt id formats state).act).Keeps (Ready config) :=
      ready_of_intact fun origin _ _ _ => texture.intact_adopt (hpreserves origin) id formats state
    refine .bind (ready_changeTexture slot hadopted) fun answer => ?_
    cases answer with
    | ok =>
      refine .bind (fun _ h => ready_withResources _ h) fun _ => ?_
      exact .pure _
    | error refusal => exact .pure _
  | destroyTexture slot deferred =>
    refine .discard ?_
    refine .bind .get fun session => ?_
    have hdestroyed (texture : Texture) :
        (Session.onContext (texture.destroy deferred)).Keeps (Ready config) :=
      ready_of_intact fun origin _ _ _ => texture.intact_destroy (hpreserves origin) deferred
    refine .bind (hdestroyed _) fun _ => ?_
    exact fun _ h => ready_withTextures _ h
  | takeTexture source target =>
    refine .discard ?_
    refine .bind .get fun session => ?_
    refine .bind (fun _ h => ready_withTextures _ h) fun _ => ?_
    refine .bind (Session.keeps_dropTexture target fun _ => ready_withTextures) fun _ => ?_
    exact fun _ h => ready_withTextures _ h
  | dropTexture slot =>
    exact .discard (Session.keeps_dropTexture slot fun _ => ready_withTextures)
  | transition slot state =>
    refine .discard ?_
    refine .bind .get fun session => ?_
    have hmoved (texture : Texture) :
        (Session.onContext (texture.transition state)).Keeps (Ready config) :=
      ready_of_intact fun origin _ _ _ => texture.intact_transition (hpreserves origin) state
    refine .bind (hmoved _) fun _ => ?_
    exact fun _ h => ready_withTextures _ h
  | load slot region data pitch =>
    exact Attempt.Keeps.discard (ready_changeTexture slot fun texture =>
      ready_load texture region data pitch)
  | beginUpdate slot region data =>
    refine Attempt.Keeps.discard ?_
    refine .bind .get fun session => ?_
    have hbegun (texture : Texture) :
        (Session.tryContext (texture.beginUpdate region)).Keeps (Ready config) :=
      ready_of_intact fun origin _ _ _ => texture.intact_beginUpdate (hpreserves origin) region
    refine .bind (hbegun _) fun layout => ?_
    refine .bind (.lift (ready_writeAtCursor data _)) fun _ => ?_
    exact .pure _
  | endUpdate slot region =>
    exact Attempt.Keeps.discard (ready_changeTexture slot fun texture =>
      ready_endUpdate texture region)
  | copyFromBuffer slot region rowPitch buffer offset =>
    exact Attempt.Keeps.discard (ready_changeTexture slot fun texture =>
      ready_copyFromBuffer texture region rowPitch buffer offset)
  | createStaging slot width height format writable =>
    exact Attempt.Keeps.discard (ready_createStaging slot width height format writable)
  | writeStaging slot region data stride =>
    exact .discard (ready_writeStaging slot region data stride)
  | copyStaging slot source destination x y =>
    refine .discard (.bind .get fun session => ?_)
    split
    · exact .pure _
    · exact Session.keeps_withResource destination fun id => ready_copyTo _ source id x y
  | copyStagingInto slot source target x y =>
    refine .discard (.bind .get fun session => ?_)
    split
    · exact .pure _
    · exact Session.keeps_withStaging slot fun staging => ready_copyTo staging source _ x y
  | destroyStaging slot deferred =>
    refine .discard (Session.keeps_withStaging slot fun staging => ?_)
    refine .bind (fun _ h => h.eraseStaging slot) fun _ => ?_
    exact ready_of_intact fun origin _ _ _ => staging.intact_destroy (hpreserves origin) deferred
  | createResource slot desc state =>
    refine Attempt.Keeps.discard ?_
    have hmade : (Session.tryDevice (Device.createTexture desc state)).Keeps (Ready config) :=
      ready_tryDevice fun origin => (hpreserves origin).createTexture desc state
    refine .bind hmade fun id => ?_
    refine .bind (.lift (hheld slot id)) fun _ => ?_
    exact .pure _
  | createBuffer slot size =>
    refine Attempt.Keeps.discard ?_
    have hmade : (Session.tryDevice (Device.createHostBuffer size)).Keeps (Ready config) :=
      ready_tryDevice fun origin => (hpreserves origin).createHostBuffer size
    refine .bind hmade fun buffer => ?_
    refine .bind (.lift (hheld slot buffer.resource)) fun _ => ?_
    exact .pure _
  | recordBarrier slot before after =>
    exact .discard (Session.keeps_withResource slot fun id => ready_onDevice fun origin =>
      (hpreserves origin).recordBarrier id before after)
  | destroyResource slot deferred =>
    refine .discard (Session.keeps_withResource slot fun id => ?_)
    refine .bind (fun _ h => ready_withResources _ h) fun _ => ?_
    exact ready_of_intact fun origin _ _ _ => intact_dispose (hpreserves origin) _ deferred
  | destroyDescriptor slot deferred =>
    exact .discard (ready_of_intact fun origin _ _ _ =>
      intact_dispose (hpreserves origin) _ deferred)
  | destroyViews views deferred =>
    exact .discard (ready_of_intact fun origin _ _ _ =>
      intact_destroySlots (hpreserves origin) _ deferred)
  | deviceDestroy slot =>
    exact .discard (Session.keeps_withResource slot fun id => .bind
      (fun _ h => ready_withResources _ h) fun _ => ready_onDevice fun origin =>
        (hpreserves origin).destroyResource id)
  | dropResource slot =>
    exact .discard (Session.keeps_withResource slot fun id => .bind
      (fun _ h => ready_withResources _ h) fun _ => .log _ _)
  | submit wait =>
    exact .discard (ready_of_intact fun origin _ _ _ => intact_submit (hpreserves origin) wait)
  | reap =>
    exact .discard (ready_of_intact fun origin _ _ _ => intact_reapCompleted (hpreserves origin))
  | waitIdle => exact .discard (ready_onDevice fun origin => (hpreserves origin).waitIdle)
  | setAutoComplete | failAllocations | failViews => exact .discard (.pure _)

/-- What the implementation does on its own makes no call. -/
theorem proceeds_move (move : Move) {origin : VulkanDevice} :
    (VulkanDevice.onNative move.act).Keeps origin.Proceeds := by
  refine VulkanDevice.proceeds_onNative fun native => ?_
  cases move with
  | signal fence => exact Native.keeps_signal fence
  | plan | signalAtOnce | makeImage => exact fun _ h => h.of_history rfl

theorem ready_turn (turn : SessionTurn) : turn.act.Keeps (Ready config) := by
  have hproceeds {α : Type} {act : Act VulkanDevice α}
      (h : ∀ origin : VulkanDevice, act.Keeps origin.Proceeds) :
      (Session.onDevice act).Keeps (Ready config) :=
    ready_onDevice fun _ => VulkanDevice.keeps_of_proceeds
      (fun _ _ hbefore hafter => hbefore.trans hafter.toFollows) h
  cases turn with
  | operation asked => exact ready_operation asked
  | importImage slot image desc =>
    exact .bind (hproceeds fun _ => VulkanDevice.proceeds_register _) fun id =>
      Session.keeps_holdResource slot id fun _ => ready_withResources
  | move made => exact hproceeds fun _ => proceeds_move made

/-- A session that is ready stays so along every run. -/
theorem ready_run (h : Ready config session) (turns : List SessionTurn) :
    Ready config (runSession session turns) := by
  induction turns generalizing session with
  | nil => exact h
  | cons turn rest ih => exact ih (ready_turn turn session h)

/-- The stream buffer that a context is opened with. -/
theorem meets_openStream_backs (config : Config) :
    (openStream config).Meets (fun _ => True)
      (fun stream device => config.validate = .ok () ∧
        stream = ⟨stream.resource, .zeroed config.streamSize, { capacity := config.streamSize }⟩ ∧
        device.Backs stream.resource config.streamSize)
      fun _ (_ : VulkanDevice) => True := by
  refine .through (fun _ _ => config.validate = .ok ()) (.ofExcept (fun _ hvalid _ _ => hvalid)
    fun _ _ _ _ => trivial) fun _ => .each ?_
  intro origin hvalid
  have hmade := @VulkanDevice.meets_createHostBuffer_backs origin config.streamSize
  refine .bind (.mono hmade (fun device h => h ▸ .refl origin) (fun _ _ h => h.2)
    fun _ _ _ => trivial) fun buffer => ?_
  split
  · next stream hstream =>
    obtain ⟨-, rfl⟩ := Session.ofBuffer_eq_ok hstream
    refine .after_log (.pure ?_)
    rintro device ⟨hzeroed, hbacks⟩
    refine ⟨hvalid, ?_, hbacks⟩
    simp only [hzeroed, Memory.zeroed]
  · exact .through (fun _ _ => True) (.lift fun _ _ => trivial) fun _ => .refuse fun _ _ => trivial

/-- A session that was just opened is ready. -/
theorem ready_opened {script : Operation → List ResultCode}
    (hopened : SessionOpened script config session) : Ready config session := by
  obtain ⟨device, context, -, hopen, rfl⟩ := hopened
  unfold ofDevice at hopen
  simp only at hopen
  cases hvalue : ((openStream config).run device).value with
  | error error =>
    rw [hvalue] at hopen
    cases hopen
  | ok stream =>
    rw [hvalue] at hopen
    cases hopen
    obtain ⟨hvalid, hstream, hbacks⟩ :=
      ((meets_openStream_backs config).of_run trivial).1 stream hvalue
    rw [hstream]
    exact
      { valid := hvalid
        config_eq := rfl
        intact := ⟨hbacks, rfl, rfl, rfl, Ring.inside_empty _⟩
        staging := fun _ _ hnone => nomatch hnone }

end Vulkan

end Texel
