import Texel.Proofs.Session.Deferral
import Texel.Proofs.Texture.Quiet

namespace Texel

open Simulated Context

namespace Operation

/-- The lines that an operation logs. -/
def logs (operation : Operation) (session : Session SimulatedDevice) : List LogLine :=
  (operation.act.run session).log

end Operation

namespace Session

variable {conduct : Conduct} {origin : Context SimulatedDevice} {session : Session SimulatedDevice}
  {leaked : List Retired} {before : Session SimulatedDevice → Prop}

section Lifting

variable {α ε : Type}

/-- What is quiet on the context is quiet in the session. -/
theorem quiet_onContext {act : Act (Context SimulatedDevice) α}
    (h : act.Quiet fun context => context = session.context) :
    (onContext act).Quiet fun now => now = session :=
  .focus fun _ hnow => hnow ▸ h

/-- A change of a texture is as quiet as what it does on the context. -/
theorem quiet_changeTexture (slot : Nat)
    {change : Texture → Attempt ε (Context SimulatedDevice) Texture}
    (h : (change (session.texture slot)).Quiet fun context => context = session.context) :
    (changeTexture slot change).Quiet fun now => now = session := by
  refine .get fun now => ?_
  refine .andThen (.focus ?_) fun _ => .lift (.silent fun _ => rfl)
  rintro _ ⟨rfl, rfl⟩
  exact h

/-- An operation on a loose resource is quiet if it is so for the one in the slot. -/
theorem quiet_withResource (slot : Nat) {act : ResourceId → Act (Session SimulatedDevice) α}
    (h : ∀ id, session.resources.get? slot = some id →
      (act id).Quiet fun now => now = session) :
    (withResource slot act).Quiet fun now => now = session := by
  refine .get fun now => ?_
  split
  · exact .silent fun _ => rfl
  · next id hid =>
    refine .map ?_
    rintro _ ⟨rfl, rfl⟩
    exact h id hid _ rfl

/-- An operation on a staging texture is quiet if it is so for the one in the slot. -/
theorem quiet_withStaging (slot : Nat) {act : StagingTexture → Act (Session SimulatedDevice) α}
    (h : ∀ texture, session.staging.get? slot = some texture →
      (act texture).Quiet fun now => now = session) :
    (withStaging slot act).Quiet fun now => now = session := by
  refine .get fun now => ?_
  split
  · exact .silent fun _ => rfl
  · next texture htexture =>
    refine .map ?_
    rintro _ ⟨rfl, rfl⟩
    exact h texture htexture _ rfl

end Lifting

/-- A leak is reported, but it is no complaint. -/
theorem quiet_leak (id : ResourceId) :
    (id.leak : Act (Session SimulatedDevice) Unit).Quiet before :=
  .report (by simp)

/-- Dropping a texture is no reason for a complaint. -/
theorem quiet_dropTexture (slot : Nat) :
    (Session.dropTexture slot : Act (Session SimulatedDevice) Unit).Quiet before := by
  refine .get fun now => .andThen ?_ fun _ => .silent fun _ => rfl
  unfold Texture.leak
  split
  · exact .silent fun _ => rfl
  · exact .after (.report (by simp)) (quiet_leak _)

/-- Holding a resource in a slot is no reason for a complaint. -/
theorem quiet_holdResource (slot : Nat) (id : ResourceId) :
    (holdResource slot id : Act (Session SimulatedDevice) Unit).Quiet before := by
  refine .get fun now => .andThen ?_ fun _ => .silent fun _ => rfl
  cases now.resources.get? slot with
  | none => exact .silent fun _ => rfl
  | some previous => exact quiet_leak previous

/-- Holding a staging texture in a slot is no reason for a complaint. -/
theorem quiet_holdStaging (slot : Nat) (texture : StagingTexture) :
    (holdStaging slot texture : Act (Session SimulatedDevice) Unit).Quiet before := by
  refine .get fun now => .andThen ?_ fun _ => .silent fun _ => rfl
  cases now.staging.get? slot with
  | none => exact .silent fun _ => rfl
  | some previous => exact quiet_leak _

/-- A resource leaves its slot before it is freed. -/
theorem quiet_freed {slot : Nat} {act : Act (Context SimulatedDevice) Unit}
    (h : act.Quiet fun context => context = session.context) :
    (do clearResource slot; onContext act : Act (Session SimulatedDevice) Unit).Quiet
      fun now => now = session := by
  refine .through (fun _ now => now = session.withoutResource slot) (.silent fun _ => rfl) ?_
    fun _ => quiet_onContext h
  rintro _ rfl
  rfl

/-- A resource in a slot is there. -/
theorem InCustody.holds_resource (h : session.InCustody conduct origin leaked)
    (hlinear : conduct.linear) {slot : Nat}
    {id : ResourceId} (hid : session.resources.get? slot = some id) :
    session.context.Holds [.resource id] := by
  have hheld : Context.InCustody conduct origin
      ([.resource id] ++ (leaked ++ (session.withoutResource slot).held)) session.unnamed
      session.context := h.custody.perm (held_without h.keyed hid) (.refl _)
  exact hheld.holds hlinear

/-- The buffer of a staging texture is there. -/
theorem InCustody.holds_buffer (h : session.InCustody conduct origin leaked)
    (hlinear : conduct.linear) {slot : Nat}
    {staging : StagingTexture} (hstaging : session.staging.get? slot = some staging) :
    session.context.Holds [.resource staging.buffer.resource] := by
  have hat := unnamed_bufferAt h.keyed slot
  rw [bufferAt_eq hstaging] at hat
  exact (h.custody.perm (.refl _) hat).holds_unnamed hlinear

/-- No operation complains: whatever it frees belongs to whoever gives it up. -/
theorem quiet_operation (h : session.InCustody conduct origin leaked) (hlinear : conduct.linear)
    (operation : Operation) (howner : operation.isLinear = true) :
    operation.act.Quiet fun now => now = session := by
  have hmidway (slot : Nat) : Midway conduct origin session.context
      ((session.texture slot).holdings ++ (leaked ++ session.besides slot)) session.unnamed []
      session.context := .refl (h.split slot)
  cases operation with
  | create slot desc formats =>
    exact Attempt.Quiet.discard (quiet_changeTexture slot
      ((Texture.quiet_create hlinear _ desc formats).at_state (hmidway slot)))
  | adopt slot source formats state =>
    refine .discard (quiet_withResource source fun id _ => .andThen (quiet_changeTexture slot
      ((Texture.quiet_adopt hlinear _ id formats state).at_state (hmidway slot))) fun answer => ?_)
    cases answer <;> exact .silent fun _ => rfl
  | destroyTexture slot deferred =>
    refine .discard ?_
    refine .get fun now => ?_
    refine .andThen (.focus ?_) fun _ => .silent fun _ => rfl
    rintro _ ⟨rfl, rfl⟩
    exact (Texture.quiet_destroy _ deferred).at_state ((h.split slot).holds hlinear)
  | takeTexture source target =>
    refine .discard ?_
    refine .get fun now => ?_
    refine .andThen (.silent fun _ => rfl) fun _ => ?_
    exact .andThen (quiet_dropTexture target) fun _ => .silent fun _ => rfl
  | dropTexture slot => exact .discard (quiet_dropTexture slot)
  | transition slot state =>
    refine .discard ?_
    refine .get fun now => ?_
    refine .andThen (.focus fun _ _ => Texture.quiet_transition _ state) fun _ => ?_
    exact .silent fun _ => rfl
  | load slot region data pitch =>
    exact Attempt.Quiet.discard (quiet_changeTexture slot
      ((Texture.quiet_load hlinear _ region data pitch).at_state (hmidway slot)))
  | beginUpdate slot region data =>
    have hbegun := (Texture.quiet_beginUpdate (session.texture slot) region).at_state
      (h.custody.holdsQueue hlinear)
    refine Attempt.Quiet.discard ?_
    refine .get fun now => ?_
    refine .andThen (.focus ?_) fun _ => ?_
    · rintro _ ⟨rfl, rfl⟩
      exact hbegun
    exact .andThen (.lift (.silent fun _ => rfl)) fun _ => .pure
  | endUpdate slot region =>
    exact Attempt.Quiet.discard (quiet_changeTexture slot (Texture.quiet_endUpdate _ region))
  | copyFromBuffer slot region rowPitch buffer offset =>
    exact Attempt.Quiet.discard (quiet_changeTexture slot
      (Texture.quiet_copyFromBuffer _ region rowPitch buffer offset))
  | createStaging slot width height format writable =>
    refine Attempt.Quiet.discard ?_
    refine .andThen (.focus fun _ _ => StagingTexture.quiet_create width height format writable)
      fun texture => ?_
    refine .andThen (.lift (quiet_holdStaging slot texture)) fun _ => ?_
    exact .pure
  | writeStaging slot region data stride =>
    refine .discard (quiet_withStaging slot fun texture _ => ?_)
    split <;> exact .silent fun _ => rfl
  | copyStaging slot source destination x y =>
    refine .discard (.get fun now => ?_)
    split
    · exact .silent fun _ => rfl
    · exact .mono (quiet_withResource destination fun id _ =>
        quiet_onContext (StagingTexture.quiet_copyTo _ source id x y)) fun _ hnow => hnow.2
  | copyStagingInto slot source target x y =>
    refine .discard (.get fun now => ?_)
    split
    · exact .silent fun _ => rfl
    · exact .mono (quiet_withStaging slot fun texture _ =>
        quiet_onContext (texture.quiet_copyTo source _ x y)) fun _ hnow => hnow.2
  | destroyStaging slot deferred =>
    refine .discard (quiet_withStaging slot fun texture htexture => ?_)
    refine .through (fun _ now => now = session.withoutStaging slot) (.silent fun _ => rfl)
      (fun _ hnow => hnow ▸ rfl) fun _ => quiet_onContext ?_
    exact (texture.quiet_destroy deferred).at_state (h.holds_buffer hlinear htexture)
  | createResource slot desc state =>
    refine Attempt.Quiet.discard ?_
    refine .andThen ?_ fun id => ?_
    · exact .focus fun _ _ => .focus fun _ _ => SimulatedDevice.quiet_createTexture desc state
    refine .andThen (.lift (quiet_holdResource slot id)) fun _ => ?_
    exact .pure
  | createBuffer slot size =>
    refine Attempt.Quiet.discard ?_
    refine .andThen ?_ fun buffer => ?_
    · exact .focus fun _ _ => .focus fun _ _ => SimulatedDevice.quiet_createHostBuffer size
    refine .andThen (.lift (quiet_holdResource slot buffer.resource)) fun _ => ?_
    exact .pure
  | recordBarrier slot old new =>
    exact .discard (quiet_withResource slot fun id _ => quiet_onContext (.focus fun _ _ =>
      SimulatedDevice.quiet_recordBarrier id old new))
  | destroyResource slot deferred =>
    exact .discard (quiet_withResource slot fun id hid => quiet_freed
      ((quiet_dispose (.resource id) deferred).at_state (h.holds_resource hlinear hid)))
  | destroyDescriptor | destroyViews => cases howner
  | deviceDestroy slot =>
    exact .discard (quiet_withResource slot fun id hid => quiet_freed
      ((Context.quiet_release (.resource id)).at_state (h.holds_resource hlinear hid)))
  | dropResource slot =>
    exact .discard (quiet_withResource slot fun id _ => .andThen (.silent fun _ => rfl) fun _ =>
      quiet_leak id)
  | submit wait =>
    exact .discard (quiet_onContext ((quiet_submit wait).at_state (h.custody.holdsQueue hlinear)))
  | reap => exact .discard (quiet_onContext
    (quiet_reapCompleted.at_state (h.custody.holdsQueue hlinear)))
  | waitIdle => exact .silent fun _ => rfl
  | setAutoComplete on => exact .silent fun _ => rfl
  | failAllocations count => exact .silent fun _ => rfl
  | failViews count => exact .silent fun _ => rfl

/-- Every line that a run logs. -/
def logged (session : Session SimulatedDevice) (operations : List Operation) : List LogLine :=
  session.history Operation.logs operations

/-- Nobody complains along a run. -/
theorem quiet_run (h : session.InCustody conduct origin leaked) (hlinear : conduct.linear)
    (hstreams : session.context.Streams) (operations : List Operation)
    (howners : ∀ operation ∈ operations, operation.isLinear = true) :
    ∀ line ∈ session.logged operations, ¬ line.Complains := by
  induction operations generalizing session conduct leaked with
  | nil => exact fun _ hline => absurd hline List.not_mem_nil
  | cons operation rest ih =>
    obtain ⟨howner, howners⟩ := List.forall_mem_cons.mp howners
    intro line hline
    rcases List.mem_append.mp hline with hfirst | hrest
    · exact quiet_operation h hlinear operation howner session rfl line hfirst
    · exact ih (h.after hstreams operation) ⟨hlinear, howner⟩ (streams_after hstreams operation)
        howners line hrest

/-- Everything that has an owner, and what was lost: the stream buffer, what textures hold, the
buffers of staging textures, loose resources, and what waits in the queue. -/
def owners (session : Session SimulatedDevice) (lost : List Retired) : List Retired :=
  .resource session.context.stream.resource ::
    (session.textures.gather Texture.holdings ++
      (session.staging.gather fun staging => [.resource staging.buffer.resource]) ++
      (session.resources.gather fun id => [.resource id]) ++
      session.context.retirement.entries.map Prod.snd ++ lost)

/-- The books of a session are about its owners. -/
theorem InCustody.ledger_owners (h : session.InCustody conduct origin leaked) :
    session.context.viewPool.Ledger conduct.linear (session.owners leaked) := by
  refine h.custody.ledger.perm (.cons _ (List.perm_iff_count.mpr fun item => ?_))
  simp only [books, unnamed, held, List.count_append]
  omega

/-- So they are at every point of a run. -/
theorem ledger_run {config : Config} {session : Session SimulatedDevice}
    (hopened : Opened config session) (operations : List Operation)
    (hlinear : ∀ operation ∈ operations, operation.isLinear = true) :
    (session.run operations).context.viewPool.Ledger True
      ((session.run operations).owners (session.lost operations)) := by
  have hrun := (inCustody_opened hopened).run (streams_opened hopened) operations
  rw [List.append_nil] at hrun
  exact hrun.ledger_owners.weaken fun _ => ⟨trivial, hlinear⟩

/-- At every point of a run in which slots are given up with their textures only, the live
resources, the slots that heaps have handed out and the views of the device are those of the owners,
and each has one owner. Whatever was made is owned or was destroyed, and nobody has asked to free
what is not there. -/
theorem ownership_is_conserved {config : Config} {session : Session SimulatedDevice}
    (hopened : Opened config session) (operations : List Operation)
    (hlinear : ∀ operation ∈ operations, operation.isLinear = true) :
    let now := session.run operations
    let owners := now.owners (session.lost operations)
    now.Keyed ∧ owners.Nodup ∧
    (∀ id, now.context.device.isLive id = true ↔ .resource id ∈ owners) ∧
    (∀ slot, now.context.heaps.isTaken slot = true ↔ .descriptor slot ∈ owners) ∧
    (∀ slot, (now.context.device.views.get? slot).isSome = true ↔ .descriptor slot ∈ owners) ∧
    (∀ kind, (now.context.heaps.heap kind).allocatedCount =
      (owners.filterMap (Retired.indexIn? kind)).length) ∧
    now.context.device.destroyedCount + owners.countP Retired.isResource + 1 =
      now.context.device.nextId ∧
    ∀ line ∈ session.logged operations, ¬ line.Complains := by
  intro now owners
  have hcustody := inCustody_opened hopened
  have hstreams := streams_opened hopened
  have hrun := hcustody.run hstreams operations
  have hledger : now.context.viewPool.Ledger True owners := ledger_run hopened operations hlinear
  exact ⟨hrun.keyed, hledger.nodup trivial, hledger.live, hledger.taken trivial,
    hledger.viewed_iff trivial, hledger.allocatedCount trivial, hledger.conserved,
    quiet_run hcustody trivial hstreams operations hlinear⟩

/-- A texture that waits in the queue and a resource that was dropped are still owned; the resource
of a texture whose view was refused is not. -/
theorem ownership_is_conserved_rollback :
    let config : Config := { streamSize := 64, pitchAlignment := 4, placementAlignment := 8 }
    let desc : TextureDesc := { width := 2, height := 2, layers := 1, levels := 1, samples := 1,
                                format := .rgba8Unorm }
    let operations : List Operation := [
      .create 0 desc { shaderResource := .rgba8Unorm }, .failViews 1,
      .create 1 desc { shaderResource := .rgba8Unorm }, .createResource 0 desc .common,
      .dropResource 0, .setAutoComplete false, .destroyTexture 0 true, .submit false]
    let owners :=
      ((opening config).run operations).owners ((opening config).lost operations)
    owners.Nodup ∧ .resource ⟨2⟩ ∈ owners ∧ .descriptor ⟨.shaderResource, 0⟩ ∈ owners ∧
      .resource ⟨3⟩ ∉ owners ∧ .resource ⟨4⟩ ∈ owners ∧
      ∀ line ∈ (opening config).logged operations, ¬ line.Complains := by
  intro config desc operations owners
  have hopened : Opened config (opening config) :=
    opened_iff.mpr ⟨Config.validate_eq_ok_iff.mpr (by decide), by decide, rfl⟩
  obtain ⟨-, hnodup, hlive, htaken, -, -, -, hquiet⟩ :=
    ownership_is_conserved hopened operations (by decide)
  refine ⟨hnodup, (hlive ⟨2⟩).mp (by decide +kernel), (htaken _).mp (by decide +kernel), ?_,
    (hlive ⟨4⟩).mp (by decide +kernel), hquiet⟩
  exact fun hmem => absurd ((hlive ⟨3⟩).mpr hmem) (by decide +kernel)

end Session

end Texel
