import Texel.Proofs.Session.Ownership

namespace Texel

open Simulated Context

/-- How callers have given things up, an operation included. -/
def Conduct.after (conduct : Conduct) (operation : Operation) : Conduct where
  deferred := conduct.deferred ∧ operation.isDeferred = true
  linear := conduct.linear ∧ operation.isLinear = true

/-- An operation makes no conduct more careful. -/
theorem Conduct.after_le (conduct : Conduct) (operation : Operation) :
    conduct.after operation ≤ conduct :=
  ⟨And.left, And.left⟩

/-- An operation that gives something up is answered for by how it does so. -/
theorem Conduct.after_le_giving (conduct : Conduct) {operation : Operation} {deferred : Bool}
    (h : operation.isDeferred = true → deferred = true) :
    conduct.after operation ≤ conduct.giving deferred :=
  ⟨fun hdeferred => ⟨hdeferred.1, h hdeferred.2⟩, And.left⟩

/-- How callers have given things up, a run of operations included. -/
def Conduct.afterAll (conduct : Conduct) (operations : List Operation) : Conduct where
  deferred := conduct.deferred ∧ ∀ operation ∈ operations, operation.isDeferred = true
  linear := conduct.linear ∧ ∀ operation ∈ operations, operation.isLinear = true

/-- What comes first counts no less than what comes later. -/
theorem Conduct.afterAll_cons_le (conduct : Conduct) (operation : Operation)
    (operations : List Operation) :
    conduct.afterAll (operation :: operations) ≤ (conduct.after operation).afterAll operations := by
  refine ⟨fun h => ?_, fun h => ?_⟩
  · obtain ⟨hfirst, hrest⟩ := List.forall_mem_cons.mp h.2
    exact ⟨⟨h.1, hfirst⟩, hrest⟩
  · obtain ⟨hfirst, hrest⟩ := List.forall_mem_cons.mp h.2
    exact ⟨⟨h.1, hfirst⟩, hrest⟩

namespace Session

variable {conduct : Conduct} {origin : Context SimulatedDevice} {session : Session SimulatedDevice}
  {leaked : List Retired}

/-- The books after an operation that started with right ones. -/
def After (conduct : Conduct) (origin : Context SimulatedDevice) (leaked : List Retired)
    (session : Session SimulatedDevice) (operation : Operation) : Prop :=
  Session.Handled (conduct.after operation) origin session.context
    (operation.leaks session ++ leaked) (operation.retires session) (operation.after session)

/-- Creating a texture keeps the books: what the slot held is queued. -/
theorem after_create (h : session.InCustody conduct origin leaked) (slot : Nat) (desc : TextureDesc)
    (formats : ViewFormats) : After conduct origin leaked session (.create slot desc formats) := by
  have hcreate : ((session.texture slot).create desc formats).Meets (Midway conduct origin
      session.context ((session.texture slot).holdings ++ (leaked ++ session.besides slot))
      session.unnamed []) _ _ := Texture.midway_create _ desc formats
  refine handled_changeTexture h.keyed slot (fun texture => texture.create desc formats)
    (.mono hcreate ?_ ?_ ?_)
  · rintro _ rfl
    exact Midway.refl (h.split slot)
  · exact fun _ _ hcontext => hcontext.handled.weaken (conduct.after_le _)
  · exact fun _ _ hcontext => hcontext.handled.weaken (conduct.after_le _)

/-- Changes of a texture that leave it with what it owns. -/
theorem after_change {ε : Type} {conduct' : Conduct} (h : session.InCustody conduct origin leaked)
    (hconduct : conduct' ≤ conduct) (slot : Nat)
    (change : Texture → Attempt ε (Context SimulatedDevice) Texture)
    (hchange : ∀ held, (∀ item ∈ (session.texture slot).holdings, item ∈ held) →
      Context.InCustody conduct origin held session.unnamed session.context →
      (change (session.texture slot)).Meets (fun context => context = session.context)
        (fun value context => value = session.texture slot ∧
          Context.Handled conduct origin session.context held session.unnamed [] context)
        fun _ => Context.Handled conduct origin session.context held session.unnamed []) :
    Session.Handled conduct' origin session.context leaked []
      ((discard (changeTexture slot change).act).run session).state := by
  have hmeets := hchange _ (fun _ => List.mem_append_left _) (h.split slot)
  rw [← (change (session.texture slot)).ifAccepted_nil session.context]
  refine handled_changeTexture h.keyed slot change (.mono hmeets (fun _ h => h) ?_ ?_)
  · rintro _ context ⟨rfl, hcontext⟩
    exact hcontext.weaken hconduct
  · exact fun _ _ hcontext => hcontext.weaken hconduct

/-- Destroying a texture keeps the books. -/
theorem after_destroyTexture (h : session.InCustody conduct origin leaked) (slot : Nat)
    (deferred : Bool) : After conduct origin leaked session (.destroyTexture slot deferred) := by
  have hdestroyed := Texture.midway_destroy (session.texture slot) deferred
    (Midway.refl (h.split slot))
  refine ⟨(h.keyed.insert slot {}).moved _,
    (hdestroyed.handled.perm ?_ (.refl _)).weaken (conduct.after_le_giving fun h => h)⟩
  exact (session.held_insert slot {}).symm.append_left leaked

/-- Reporting a leak changes nothing. -/
theorem state_leak (texture : Texture) (session : Session SimulatedDevice) :
    (texture.leak.run session).state = session := by
  unfold Texture.leak
  cases texture.resource <;> rfl

/-- What dropping a texture leaves. -/
theorem state_dropTexture (slot : Nat) (session : Session SimulatedDevice) :
    ((Session.dropTexture slot).run session).state =
      { session with textures := session.textures.insert slot {} } := by
  change ((setTexture slot {}).run (((session.texture slot).leak).run session).state).state = _
  rw [state_leak]
  rfl

/-- What is held when one texture takes the place of another. -/
theorem held_replace (h : session.Keyed) (slot : Nat) (texture : Texture) :
    (texture.holdings ++ session.held).Perm ((session.texture slot).holdings ++
      ({ session with textures := session.textures.insert slot texture } :
        Session SimulatedDevice).held) := by
  apply List.perm_iff_count.mpr
  intro item
  have hsplit := (held_split h slot).count_eq item
  have hinsert := (session.held_insert slot texture).count_eq item
  simp only [List.count_append] at hsplit hinsert ⊢
  omega

/-- What a dropped texture held is leaked. -/
theorem after_dropTexture (h : session.InCustody conduct origin leaked) (slot : Nat) :
    After conduct origin leaked session (.dropTexture slot) := by
  refine ⟨?_, ?_⟩
  · change ((Session.dropTexture slot).run session).state.Keyed
    rw [state_dropTexture]
    exact h.keyed.insert slot {}
  · change Context.Handled _ _ _ (_ ++ ((Session.dropTexture slot).run session).state.held)
      ((Session.dropTexture slot).run session).state.unnamed _
      ((Session.dropTexture slot).run session).state.context
    rw [state_dropTexture]
    refine (h.idle (conduct.after_le _)).handled.perm ?_ (.refl _)
    apply List.perm_iff_count.mpr
    intro item
    have hreplace := (held_replace h.keyed slot {}).count_eq item
    have hempty : ({} : Texture).holdings = [] := rfl
    simp only [Operation.leaks, hempty, List.count_append, List.count_nil] at hreplace ⊢
    omega

/-- The source is emptied, then the target, then the texture moves there. -/
theorem state_takeTexture (source target : Nat) :
    (Operation.takeTexture source target).after session =
      { session with
        textures := ((session.textures.insert source {}).insert target {}).insert target
          (session.texture source) } := by
  change ((setTexture target (session.texture source)).run ((Session.dropTexture target).run
    { session with textures := session.textures.insert source {} }).state).state = _
  rw [state_dropTexture]
  rfl

/-- What the target held is leaked, and the texture takes its own along. -/
theorem after_takeTexture (h : session.InCustody conduct origin leaked) (source target : Nat) :
    After conduct origin leaked session (.takeTexture source target) := by
  let taken : Session SimulatedDevice :=
    { session with textures := session.textures.insert source {} }
  let dropped : Session SimulatedDevice :=
    { taken with textures := taken.textures.insert target {} }
  let moved : Session SimulatedDevice :=
    { dropped with textures := dropped.textures.insert target (session.texture source) }
  have htaken : taken.Keyed := h.keyed.insert source {}
  have hdropped : dropped.Keyed := htaken.insert target {}
  have hstate : (Operation.takeTexture source target).after session = moved :=
    state_takeTexture source target
  have htarget : (taken.texture target).holdings =
      (Operation.takeTexture source target).leaks session := by
    simp only [Operation.leaks, texture, taken, Table.get?_insert]
    by_cases heq : source = target
    · subst heq
      simp [Texture.holdings, ViewSet.slots]
    · rw [if_neg (Ne.symm heq), if_neg heq]
  have hagain : dropped.texture target = {} := by
    simp [texture, dropped, Table.get?_insert]
  have hfirst : session.held.Perm ((session.texture source).holdings ++ taken.held) :=
    held_replace h.keyed source {}
  have hsecond : taken.held.Perm
      ((Operation.takeTexture source target).leaks session ++ dropped.held) :=
    htarget ▸ held_replace htaken target {}
  have hthird : ((session.texture source).holdings ++ dropped.held).Perm moved.held := by
    have hreplace := held_replace hdropped target (session.texture source)
    rw [hagain] at hreplace
    exact hreplace
  unfold After
  rw [hstate]
  refine ⟨hdropped.insert target _, ?_⟩
  refine (h.idle (conduct.after_le _)).handled.perm ?_ (.refl _)
  apply List.perm_iff_count.mpr
  intro item
  have hcounts := And.intro (hfirst.count_eq item) (And.intro (hsecond.count_eq item)
    (hthird.count_eq item))
  simp only [List.count_append] at hcounts ⊢
  omega

/-- A transition changes no owner. -/
theorem after_transition (h : session.InCustody conduct origin leaked) (slot : Nat)
    (state : UsageState) : After conduct origin leaked session (.transition slot state) := by
  obtain ⟨hholdings, hmoved⟩ := Texture.handled_transition (fun _ => List.mem_append_left _)
    (Midway.refl (h.split slot)).handled state
  have hinsert := session.held_insert slot
    (((session.texture slot).transition state).run session.context).value
  rw [hholdings] at hinsert
  refine ⟨(h.keyed.insert slot _).moved _, (hmoved.perm ?_ (.refl _)).weaken (conduct.after_le _)⟩
  refine .trans ?_ (hinsert.symm.append_left leaked)
  simp only [← List.append_assoc]
  exact List.perm_append_comm.append_right _

section Adopting

variable {slot source : Nat} {id : ResourceId} {formats : ViewFormats} {state : UsageState}

/-- An adoption answers as the texture does. -/
theorem value_adopt (hid : session.resources.get? source = some id) :
    ((Session.adopt slot source formats state).run session).value =
      some (((changeTexture slot fun texture =>
        texture.adopt id formats state).run session).value) := by
  let change (texture : Texture) : Attempt AdoptRefusal (Context SimulatedDevice) Texture :=
    texture.adopt id formats state
  cases hanswer : ((changeTexture slot change).run session).value with
  | ok =>
    have hrun : ((changeTexture slot change).act.run session).value = .ok () := hanswer
    simp only [change] at hrun
    simp only [Session.adopt, withResource, Act.run_bind, Act.run_get, hid, Act.run_map, hrun]
    rfl
  | error refusal =>
    have hrun : ((changeTexture slot change).act.run session).value = .error refusal := hanswer
    simp only [change] at hrun
    simp only [Session.adopt, withResource, Act.run_bind, Act.run_get, hid, Act.run_map, hrun]
    rfl

/-- What an accepted adoption leaves. -/
theorem state_adopt_ok (hid : session.resources.get? source = some id) {value : Texture}
    (h : (((session.texture slot).adopt id formats state).run session.context).value =
      .ok value) :
    (Operation.adopt slot source formats state).after session =
      { session.withoutResource source with
        context := (((session.texture slot).adopt id formats state).run session.context).state
        textures := session.textures.insert slot value } := by
  let change (texture : Texture) : Attempt AdoptRefusal (Context SimulatedDevice) Texture :=
    texture.adopt id formats state
  have hchange : ((change (session.texture slot)).run session.context).value = .ok value := h
  obtain ⟨hvalue, hstate⟩ := changeTexture_ok hchange
  have hrun : ((changeTexture slot change).act.run session).value = .ok () := hvalue
  apply (state_withResource hid _).trans
  simp only [Act.run_bind]
  simp only [change] at hrun
  rw [hrun]
  exact congrArg (withoutResource · source) hstate

/-- What a refused adoption leaves. -/
theorem state_adopt_error (hid : session.resources.get? source = some id) {refusal : AdoptRefusal}
    (h : (((session.texture slot).adopt id formats state).run session.context).value =
      .error refusal) :
    (Operation.adopt slot source formats state).after session =
      { session with context :=
          (((session.texture slot).adopt id formats state).run session.context).state } := by
  let change (texture : Texture) : Attempt AdoptRefusal (Context SimulatedDevice) Texture :=
    texture.adopt id formats state
  have hchange : ((change (session.texture slot)).run session.context).value = .error refusal := h
  obtain ⟨hvalue, hstate⟩ := changeTexture_error hchange
  have hrun : ((changeTexture slot change).act.run session).value = .error refusal := hvalue
  apply (state_withResource hid _).trans
  simp only [Act.run_bind]
  simp only [change] at hrun
  rw [hrun]
  exact hstate

end Adopting

/-- The resource that a texture adopts leaves its slot, if it is accepted. -/
theorem after_adopt (h : session.InCustody conduct origin leaked) (slot source : Nat)
    (formats : ViewFormats) (state : UsageState) :
    After conduct origin leaked session (.adopt slot source formats state) := by
  unfold After
  cases hid : session.resources.get? source with
  | none =>
    have hstate : (Operation.adopt slot source formats state).after session = session :=
      state_withResource_none hid _
    simp only [hstate, Operation.retires, hid]
    exact h.idle (conduct.after_le _)
  | some id =>
    let rest := leaked ++ (session.withoutResource source).besides slot
    have hrest : ((session.texture slot).holdings ++ (leaked ++ session.besides slot)).Perm
        ((session.texture slot).holdings ++ .resource id :: rest) := by
      apply List.Perm.append_left
      have hbesides := besides_resourceAt h.keyed slot source
      rw [resourceAt_eq hid] at hbesides
      exact (hbesides.append_left leaked).trans List.perm_middle
    have hadopt : ((session.texture slot).adopt id formats state).Meets
        (Midway conduct origin session.context
          ((session.texture slot).holdings ++ .resource id :: rest) session.unnamed []) _ _ :=
      Texture.midway_adopt _ id formats state
    obtain ⟨hok, herror⟩ := hadopt.of_run (Midway.refl ((h.split slot).perm hrest (.refl _)))
    simp only [Operation.retires, hid, Attempt.ifAccepted]
    cases hvalue : (((session.texture slot).adopt id formats state).run session.context).value with
    | ok value =>
      rw [state_adopt_ok hid hvalue]
      refine ⟨?_, ((hok value hvalue).handled.perm ?_ (.refl _)).weaken (conduct.after_le _)⟩
      · exact ⟨Table.nodup_keys_insert h.keyed.textures slot value, h.keyed.staging,
          Table.nodup_keys_erase h.keyed.resources source⟩
      · have hinsert := (session.withoutResource source).held_insert slot value
        refine .trans ?_ (hinsert.symm.append_left leaked)
        simp only [rest, ← List.append_assoc]
        exact List.perm_append_comm.append_right _
    | error refusal =>
      rw [state_adopt_error hid hvalue]
      refine ⟨h.keyed.moved _, ((herror refusal hvalue).handled.perm ?_ (.refl _)).weaken
        (conduct.after_le _)⟩
      apply hrest.symm.trans
      refine .trans ?_ ((held_split h.keyed slot).symm.append_left leaked)
      simp only [← List.append_assoc]
      exact List.perm_append_comm.append_right _

/-- What holding a staging texture leaves. -/
theorem state_holdStaging (slot : Nat) (texture : StagingTexture)
    (session : Session SimulatedDevice) :
    ((holdStaging slot texture).run session).state =
      { session with staging := session.staging.insert slot texture } := by
  unfold holdStaging
  simp only [Act.run_bind, Act.run_get]
  cases session.staging.get? slot <;> rfl

/-- A new staging texture owns its buffer; the buffer of the one it replaces is leaked. -/
theorem after_createStaging (h : session.InCustody conduct origin leaked) (slot width height : Nat)
    (format : NativeFormat) (writable : Bool) :
    After conduct origin leaked session (.createStaging slot width height format writable) := by
  have hcreate : (StagingTexture.create width height format writable).Meets (Midway conduct origin
      session.context (leaked ++ session.held) session.unnamed []) _ _ :=
    StagingTexture.midway_create width height format writable
  obtain ⟨hok, herror⟩ := hcreate.of_run (Midway.refl h.custody)
  unfold After
  change Session.Handled _ _ _ _ _
    ((Session.createStaging slot width height format writable).run session).state
  simp only [Operation.leaks, Operation.retires, Attempt.ifAccepted]
  cases hvalue :
      ((StagingTexture.create width height format writable).run session.context).value with
  | ok staging =>
    have hstate : ((Session.createStaging slot width height format writable).run session).state =
        { session with
          context :=
            ((StagingTexture.create width height format writable).run session.context).state
          staging := session.staging.insert slot staging } := by
      simp only [Session.createStaging, Attempt.run_bind, tryContext, Attempt.run_focus, hvalue,
        Attempt.run_lift, state_holdStaging]
      rfl
    have hunnamed := session.unnamed_hold slot staging
    have hat := unnamed_bufferAt h.keyed slot
    obtain ⟨hcustody, hqueued⟩ := hok staging hvalue
    rw [hstate]
    refine ⟨⟨h.keyed.textures, Table.nodup_keys_insert h.keyed.staging slot staging,
      h.keyed.resources⟩, .weaken ⟨hcustody.rearrange ?_ ?_ ?_, .queued hqueued⟩
        (conduct.after_le _)⟩
    · -- the buffer that was in the slot is leaked
      apply List.perm_iff_count.mpr
      intro item
      have hcounts := And.intro (hunnamed.count_eq item) (hat.count_eq item)
      simp only [List.count_append, List.count_cons] at hcounts ⊢
      change _ = List.count item (Session.unnamed { session with
        staging := session.staging.insert slot staging }) + (_ + List.count item session.held)
      omega
    · intro item hitem
      rw [List.append_assoc]
      exact List.mem_append_right _ hitem
    · intro item hitem
      rcases List.mem_cons.mp (hunnamed.mem_iff.mp hitem) with rfl | hrest
      · exact List.mem_cons_self
      · exact List.mem_cons_of_mem _ (hat.mem_iff.mpr (List.mem_append_right _ hrest))
  | error error =>
    have hstate : ((Session.createStaging slot width height format writable).run session).state =
        { session with
          context :=
            ((StagingTexture.create width height format writable).run session.context).state } := by
      simp only [Session.createStaging, Attempt.run_bind, tryContext, Attempt.run_focus, hvalue]
    rw [hstate]
    exact h.moved ((herror error hvalue).handled.weaken (conduct.after_le _))

/-- A write changes no owner. -/
theorem after_writeStaging (h : session.InCustody conduct origin leaked) (slot : Nat)
    (region : Region) (data : ByteArray) (stride : Nat) :
    After conduct origin leaked session (.writeStaging slot region data stride) := by
  unfold After
  change Session.Handled _ _ _ _ _
    ((Session.writeStaging slot region data stride).run session).state
  unfold Session.writeStaging
  cases hstaging : session.staging.get? slot with
  | none =>
    rw [state_withStaging_none hstaging]
    exact h.idle (conduct.after_le _)
  | some staging =>
    rw [state_withStaging hstaging]
    cases hwrite : staging.write region data stride with
    | error fault => exact h.idle (conduct.after_le _)
    | ok written =>
      refine ⟨⟨h.keyed.textures, Table.nodup_keys_insert h.keyed.staging slot written,
        h.keyed.resources⟩, (h.idle (conduct.after_le _)).handled.perm (.refl _) ?_⟩
      have hat := unnamed_bufferAt h.keyed slot
      have hunnamed := session.unnamed_hold slot written
      have hsame : written.buffer.resource = staging.buffer.resource := by
        obtain ⟨memory, rfl⟩ := StagingTexture.write_eq_ok hwrite
        rfl
      rw [hsame] at hunnamed
      rw [bufferAt_eq hstaging] at hat
      exact hat.trans hunnamed.symm

/-- Destroying a staging texture gives its buffer up. -/
theorem after_destroyStaging (h : session.InCustody conduct origin leaked) (slot : Nat)
    (deferred : Bool) : After conduct origin leaked session (.destroyStaging slot deferred) := by
  unfold After
  change Session.Handled _ _ _ _ _ ((Session.destroyStaging slot deferred).run session).state
  unfold Session.destroyStaging
  cases hstaging : session.staging.get? slot with
  | none =>
    have hnothing : (Operation.destroyStaging slot deferred).retires session = [] := by
      simp only [Operation.retires, bufferAt, hstaging, queuedOf]
      exact ite_self _
    rw [state_withStaging_none hstaging, hnothing]
    exact h.idle (conduct.after_le _)
  | some staging =>
    have hat := unnamed_bufferAt h.keyed slot
    have hitems : (Operation.destroyStaging slot deferred).retires session =
        [] ++ queuedOf [.resource staging.buffer.resource] deferred := by
      simp only [Operation.retires, bufferAt_eq hstaging, List.nil_append]
    rw [bufferAt_eq hstaging] at hat
    rw [state_withStaging hstaging, hitems]
    have hdestroyed := staging.midway_destroy deferred session.context
      (Midway.refl (h.custody.perm (.refl _) hat))
    refine ⟨⟨h.keyed.textures, Table.nodup_keys_erase h.keyed.staging slot, h.keyed.resources⟩, ?_⟩
    exact hdestroyed.handled.weaken (conduct.after_le _)

/-- What holding a resource leaves. -/
theorem state_holdResource (slot : Nat) (id : ResourceId) (session : Session SimulatedDevice) :
    ((holdResource slot id).run session).state =
      { session with resources := session.resources.insert slot id } := by
  unfold holdResource
  simp only [Act.run_bind, Act.run_get]
  cases session.resources.get? slot <;> rfl

/-- A new resource is held in a slot; the resource that was there is leaked. -/
theorem handled_holdResource {conduct' : Conduct} {device : SimulatedDevice} {resource : Resource}
    (h : session.InCustody conduct origin leaked) (hconduct : conduct' ≤ conduct) (slot : Nat)
    (hdevice : device = session.context.device.registered resource) :
    Session.Handled conduct' origin session.context (session.resourceAt slot ++ leaked) []
      { session with
        context := { session.context with device }
        resources := session.resources.insert slot ⟨session.context.device.nextId⟩ } := by
  subst hdevice
  have hregistered : Midway conduct origin session.context (leaked ++ session.held)
      ([.resource ⟨session.context.device.nextId⟩] ++ session.unnamed) []
      { session.context with device := session.context.device.registered resource } :=
    (Midway.refl h.custody).registered resource
  refine ⟨⟨h.keyed.textures, h.keyed.staging, Table.nodup_keys_insert h.keyed.resources slot _⟩,
    .weaken ((hregistered.hold (.refl _)).handled.perm ?_ (.refl _)) hconduct⟩
  apply List.perm_iff_count.mpr
  intro item
  have hhold := (session.held_hold slot ⟨session.context.device.nextId⟩).count_eq item
  have hat := (held_resourceAt h.keyed slot).count_eq item
  simp only [List.count_append, List.count_cons, List.count_nil] at hhold hat ⊢
  change _ = _ + List.count item (Session.held { session with
    resources := session.resources.insert slot ⟨session.context.device.nextId⟩ })
  omega

/-- A device that fails an allocation leaves the books as they are. -/
theorem handled_refusedAllocation {conduct' : Conduct} {device : SimulatedDevice}
    (h : session.InCustody conduct origin leaked) (hconduct : conduct' ≤ conduct)
    (hdevice : device = session.context.device.refusedAllocation) :
    Session.Handled conduct' origin session.context leaked []
      { session with context := { session.context with device } } := by
  subst hdevice
  exact h.moved (.weaken ((Midway.refl h.custody).switched _ _ _).handled hconduct)

/-- A new resource belongs to its slot; the one it replaces is leaked. -/
theorem after_createResource (h : session.InCustody conduct origin leaked) (slot : Nat)
    (desc : TextureDesc) (state : UsageState) :
    After conduct origin leaked session (.createResource slot desc state) := by
  obtain ⟨hok, herror⟩ :=
    (SimulatedDevice.meets_createTexture session.context.device desc state).of_run rfl
  unfold After
  change Session.Handled _ _ _ _ _ ((Session.createResource slot desc state).run session).state
  simp only [Operation.leaks, Operation.retires, Attempt.ifAccepted, Session.createResource,
    Attempt.run_bind, tryDevice, tryContext, Context.tryDevice, Attempt.run_focus]
  cases hvalue : ((Device.createTexture desc state).run session.context.device).value with
  | ok id =>
    obtain ⟨-, rfl, hdevice⟩ := hok id hvalue
    simp only [Attempt.run_lift, state_holdResource]
    exact handled_holdResource h (conduct.after_le _) slot hdevice
  | error error => exact handled_refusedAllocation h (conduct.after_le _) (herror error hvalue).2

/-- A new buffer belongs to its slot; the resource it replaces is leaked. -/
theorem after_createBuffer (h : session.InCustody conduct origin leaked) (slot size : Nat) :
    After conduct origin leaked session (.createBuffer slot size) := by
  obtain ⟨hok, herror⟩ :=
    (SimulatedDevice.meets_createHostBuffer session.context.device size).of_run rfl
  unfold After
  change Session.Handled _ _ _ _ _ ((Session.createBuffer slot size).run session).state
  simp only [Operation.leaks, Operation.retires, Attempt.ifAccepted, Session.createBuffer,
    Attempt.run_bind, tryDevice, tryContext, Context.tryDevice, Attempt.run_focus]
  cases hvalue : ((Device.createHostBuffer size).run session.context.device).value with
  | ok buffer =>
    obtain ⟨-, rfl, hdevice⟩ := hok buffer hvalue
    simp only [Attempt.run_lift, state_holdResource]
    exact handled_holdResource h (conduct.after_le _) slot hdevice
  | error error => exact handled_refusedAllocation h (conduct.after_le _) (herror error hvalue).2

/-- A slot that is emptied holds nothing. -/
theorem held_without (h : session.Keyed) {slot : Nat} {id : ResourceId}
    (hid : session.resources.get? slot = some id) :
    (leaked ++ session.held).Perm
      (.resource id :: (leaked ++ (session.withoutResource slot).held)) := by
  have hat := held_resourceAt h slot
  rw [resourceAt_eq hid] at hat
  exact (hat.append_left leaked).trans List.perm_middle

/-- Giving up a loose resource, through the context or through the device. -/
theorem handled_disposed {conduct' : Conduct} (h : session.InCustody conduct origin leaked)
    {slot : Nat} {id : ResourceId} (hid : session.resources.get? slot = some id) (deferred : Bool)
    (hconduct : conduct' ≤ conduct.giving deferred) :
    Session.Handled conduct' origin session.context leaked
      (queuedOf [.resource id] deferred)
      { session.withoutResource slot with
        context := session.context.disposed deferred (.resource id) } :=
  ⟨⟨h.keyed.textures, h.keyed.staging, Table.nodup_keys_erase h.keyed.resources slot⟩,
    .weaken ⟨custody_disposed h.custody (held_without h.keyed hid) deferred,
      .queued (queued_disposed session.context deferred _)⟩ hconduct⟩

/-- Destroying a loose resource gives it up. -/
theorem after_destroyResource (h : session.InCustody conduct origin leaked) (slot : Nat)
    (deferred : Bool) : After conduct origin leaked session (.destroyResource slot deferred) := by
  unfold After
  change Session.Handled _ _ _ _ _ ((Session.destroyResource slot deferred).run session).state
  unfold Session.destroyResource
  cases hid : session.resources.get? slot with
  | none =>
    have hnothing : (Operation.destroyResource slot deferred).retires session = [] := by
      simp only [Operation.retires, resourceAt, hid, queuedOf]
      exact ite_self _
    rw [state_withResource_none hid, hnothing]
    exact h.idle (conduct.after_le _)
  | some id =>
    have hitems : (Operation.destroyResource slot deferred).retires session =
        queuedOf [.resource id] deferred := by
      simp only [Operation.retires, resourceAt_eq hid]
    rw [state_withResource hid, hitems]
    exact handled_disposed h hid deferred (conduct.after_le_giving fun h => h)

/-- A loose resource may be freed past the queue. -/
theorem after_deviceDestroy (h : session.InCustody conduct origin leaked) (slot : Nat) :
    After conduct origin leaked session (.deviceDestroy slot) := by
  unfold After
  change Session.Handled _ _ _ _ _ ((Session.deviceDestroy slot).run session).state
  unfold Session.deviceDestroy
  cases hid : session.resources.get? slot with
  | none =>
    rw [state_withResource_none hid]
    exact h.idle (conduct.after_le _)
  | some id =>
    rw [state_withResource hid]
    exact handled_disposed h hid false (conduct.after_le_giving fun h => h)

/-- A dropped resource is leaked. -/
theorem after_dropResource (h : session.InCustody conduct origin leaked) (slot : Nat) :
    After conduct origin leaked session (.dropResource slot) := by
  unfold After
  change Session.Handled _ _ _ _ _ ((Session.dropResource slot).run session).state
  unfold Session.dropResource
  cases hid : session.resources.get? slot with
  | none =>
    have hnothing : (Operation.dropResource slot).leaks session = [] := by
      simp only [Operation.leaks, resourceAt, hid]
      rfl
    rw [state_withResource_none hid, hnothing]
    exact h.idle (conduct.after_le _)
  | some id =>
    have hitems : (Operation.dropResource slot).leaks session = [.resource id] :=
      resourceAt_eq hid
    rw [state_withResource hid, hitems]
    exact ⟨⟨h.keyed.textures, h.keyed.staging, Table.nodup_keys_erase h.keyed.resources slot⟩,
      (h.idle (conduct.after_le _)).handled.perm (held_without h.keyed hid) (.refl _)⟩

/-- A caller may give up a slot by its handle, whoever owns it. -/
theorem after_destroyDescriptor (h : session.InCustody conduct origin leaked) (slot : Slot)
    (deferred : Bool) : After conduct origin leaked session (.destroyDescriptor slot deferred) := by
  refine h.moved (.weaken ⟨custody_disposedSlots h.custody [slot] deferred,
    .queued (queued_disposed session.context deferred _)⟩ ?_)
  exact ⟨fun hdeferred => hdeferred, fun hlinear => absurd hlinear.2 Bool.false_ne_true⟩

/-- A caller may give up slots by their handles, whoever owns them. -/
theorem after_destroyViews (h : session.InCustody conduct origin leaked) (views : ViewSet)
    (deferred : Bool) : After conduct origin leaked session (.destroyViews views deferred) := by
  have hstate : (Operation.destroyViews views deferred).after session =
      { session with context :=
          session.context.disposedAll deferred (views.slots.map .descriptor) } :=
    congrArg (fun context => { session with context })
      (Texture.state_destroySlots views.slots deferred session.context)
  unfold After
  rw [hstate]
  refine h.moved (.weaken ⟨custody_disposedSlots h.custody views.slots deferred,
    .queued (queued_disposedAll session.context deferred _)⟩ ?_)
  exact ⟨fun hdeferred => hdeferred, fun hlinear => absurd hlinear.2 Bool.false_ne_true⟩

/-- Commands may be recorded that name what the session holds. -/
theorem handled_recorded {conduct' : Conduct} (h : session.InCustody conduct origin leaked)
    (hconduct : conduct' ≤ conduct) {command : Command}
    (htarget : .resource command.target ∈ session.held) :
    Session.Handled conduct' origin session.context leaked []
      { session with context := session.context.recorded [command] } := by
  refine h.moved ((h.idle hconduct).handled.recorded fun other hother => ?_)
  rw [List.mem_singleton.mp hother]
  exact List.mem_append_right _ htarget

/-- A loose resource is held by its slot. -/
theorem mem_held_of_resource (h : session.Keyed) {slot : Nat} {id : ResourceId}
    (hid : session.resources.get? slot = some id) : .resource id ∈ session.held := by
  refine (held_resourceAt h slot).mem_iff.mpr (List.mem_append_left _ ?_)
  rw [resourceAt_eq hid]
  exact List.mem_cons_self

/-- The resource of a texture is held by its slot. -/
theorem mem_held_of_texture (h : session.Keyed) {slot : Nat} {id : ResourceId}
    (hid : (session.texture slot).resource = some id) : .resource id ∈ session.held :=
  (held_split h slot).mem_iff.mpr (List.mem_append_left _ (Texture.mem_holdings hid))

/-- What a copy from a staging texture leaves: one recorded copy. -/
theorem state_onContext_copyTo (texture : StagingTexture) (source : Region) (id : ResourceId)
    (x y : Nat) : ∃ request : BufferCopy, request.destination = id ∧
      ((onContext (texture.copyTo source id x y)).run session).state =
        { session with context := session.context.recorded [.copy request] } := by
  refine ⟨⟨texture.buffer.resource, texture.pixelOffset source.x source.y, texture.pitch,
    texture.format, id, ⟨x, y, source.width, source.height⟩⟩, rfl, ?_⟩
  exact congrArg (fun context => { session with context }) (state_recordCopy session.context _)

/-- A copy from a staging texture changes no owner. -/
theorem after_copyStaging (h : session.InCustody conduct origin leaked) (slot : Nat)
    (source : Region)
    (destination x y : Nat) :
    After conduct origin leaked session (.copyStaging slot source destination x y) := by
  unfold After
  change Session.Handled _ _ _ _ _
    ((Session.copyStaging slot source destination x y).run session).state
  unfold Session.copyStaging
  simp only [Act.run_bind, Act.run_get]
  cases session.staging.get? slot with
  | none => exact h.idle (conduct.after_le _)
  | some staging =>
    cases hid : session.resources.get? destination with
    | none =>
      simp only
      rw [state_withResource_none hid]
      exact h.idle (conduct.after_le _)
    | some id =>
      obtain ⟨request, rfl, hstate⟩ := state_onContext_copyTo staging source id x y
      simp only
      rw [state_withResource hid, hstate]
      exact handled_recorded h (conduct.after_le _) (mem_held_of_resource h.keyed hid)

/-- A copy from a staging texture into a texture changes no owner. -/
theorem after_copyStagingInto (h : session.InCustody conduct origin leaked) (slot : Nat)
    (source : Region) (target x y : Nat) :
    After conduct origin leaked session (.copyStagingInto slot source target x y) := by
  unfold After
  change Session.Handled _ _ _ _ _
    ((Session.copyStagingInto slot source target x y).run session).state
  simp only [Session.copyStagingInto, Act.run_bind, Act.run_get]
  cases hid : (session.texture target).resource with
  | none => exact h.idle (conduct.after_le _)
  | some id =>
    simp only
    cases hstaging : session.staging.get? slot with
    | none =>
      rw [state_withStaging_none hstaging]
      exact h.idle (conduct.after_le _)
    | some staging =>
      obtain ⟨request, rfl, hstate⟩ := state_onContext_copyTo staging source id x y
      rw [state_withStaging hstaging, hstate]
      exact handled_recorded h (conduct.after_le _) (mem_held_of_texture h.keyed hid)

/-- A raw barrier changes no owner. -/
theorem after_recordBarrier (h : session.InCustody conduct origin leaked) (slot : Nat)
    (before after : UsageState) :
    After conduct origin leaked session (.recordBarrier slot before after) := by
  unfold After
  change Session.Handled _ _ _ _ _
    ((Session.recordBarrier slot before after).run session).state
  unfold Session.recordBarrier
  cases hid : session.resources.get? slot with
  | none =>
    rw [state_withResource_none hid]
    exact h.idle (conduct.after_le _)
  | some id =>
    have hstate : ((Session.onDevice (Device.recordBarrier id before after)).run session).state =
        { session with context := session.context.recorded [.barrier id before after] } :=
      congrArg (fun context => { session with context })
        (state_recordBarrier session.context id before after)
    rw [state_withResource hid, hstate]
    exact handled_recorded h (conduct.after_le _) (mem_held_of_resource h.keyed hid)

/-- An upload changes no owner but that of a buffer of its own. -/
theorem after_load (h : session.InCustody conduct origin leaked)
    (hstreams : session.context.Streams)
    (slot : Nat) (region : Region) (data : ByteArray) (pitch : Nat) :
    After conduct origin leaked session (.load slot region data pitch) :=
  after_change h (conduct.after_le _) slot (fun texture => texture.load region data pitch)
    fun _ hheld hcustody => Texture.handled_load hcustody hstreams hheld region data pitch

/-- An update that begins changes no owner. -/
theorem after_beginUpdate (h : session.InCustody conduct origin leaked)
    (hstreams : session.context.Streams) (slot : Nat) (region : Region) (data : ByteArray) :
    After conduct origin leaked session (.beginUpdate slot region data) := by
  have hbegin : ((session.texture slot).beginUpdate region).Meets _ _ _ :=
    Texture.handled_beginUpdate h.custody hstreams region
  obtain ⟨hok, herror⟩ := hbegin.of_run rfl
  unfold After
  have hafter : (Operation.beginUpdate slot region data).after session =
      ((Session.beginUpdate slot region data).run session).state := Act.state_discard _ session
  rw [hafter]
  simp only [Session.beginUpdate, Attempt.run_bind, Attempt.run_get, tryContext, Attempt.run_focus]
  cases hvalue : (((session.texture slot).beginUpdate region).run session.context).value with
  | ok layout =>
    have hcontext := hok layout hvalue
    exact h.moved (.weaken ⟨hcontext.custody, hcontext.turned.congr rfl rfl rfl rfl
      fun _ hitem => hitem⟩ (conduct.after_le _))
  | error error => exact h.moved ((herror error hvalue).weaken (conduct.after_le _))

/-- An update that ends changes no owner. -/
theorem after_endUpdate (h : session.InCustody conduct origin leaked) (slot : Nat)
    (region : Region) :
    After conduct origin leaked session (.endUpdate slot region) :=
  after_change h (conduct.after_le _) slot (fun texture => texture.endUpdate region)
    fun _ hheld hcustody => Texture.handled_endUpdate hcustody hheld region

/-- A copy from a buffer changes no owner. -/
theorem after_copyFromBuffer (h : session.InCustody conduct origin leaked) (slot : Nat)
    (region : Region) (rowPitch : Nat) (buffer : ResourceId) (offset : Nat) :
    After conduct origin leaked session (.copyFromBuffer slot region rowPitch buffer offset) :=
  after_change h (conduct.after_le _) slot
    (fun texture => texture.copyFromBuffer region rowPitch buffer offset)
    fun _ hheld hcustody => .narrow
      (Texture.handled_copyFromBuffer hheld region rowPitch buffer offset)
      (fun _ heq => heq ▸ (Midway.refl hcustody).handled)

/-- A submission is followed by a reap, which frees what is due. -/
theorem after_submit (h : session.InCustody conduct origin leaked) (wait : Bool) :
    After conduct origin leaked session (.submit wait) ∧ ∃ departed,
      Reaped session.context departed (Operation.after (.submit wait) session).context := by
  obtain ⟨hcustody, departed, hreaped⟩ := custody_submit h.custody wait
  exact ⟨h.moved (.weaken ⟨hcustody, .reaped hreaped⟩ (conduct.after_le _)), departed, hreaped⟩

/-- A reap frees what is due. -/
theorem after_reap (h : session.InCustody conduct origin leaked) :
    After conduct origin leaked session .reap ∧ ∃ departed,
      Reaped session.context departed (Operation.after .reap session).context := by
  obtain ⟨hcustody, departed, hreaped⟩ := custody_reapCompleted h.custody
  exact ⟨h.moved (.weaken ⟨hcustody, .reaped hreaped⟩ (conduct.after_le _)), departed, hreaped⟩

/-- A wait for the device changes no owner. -/
theorem after_waitIdle (h : session.InCustody conduct origin leaked) :
    After conduct origin leaked session .waitIdle :=
  h.moved (.weaken ⟨custody_completed h.custody, .queued ⟨(List.append_nil _).symm, rfl, rfl⟩⟩
    (conduct.after_le _))

/-- Switches of the device do not touch the books. -/
theorem handled_switch {conduct' : Conduct} (h : session.InCustody conduct origin leaked)
    (hconduct : conduct' ≤ conduct) (autoComplete : Bool) (failingAllocations failingViews : Nat) :
    Session.Handled conduct' origin session.context leaked []
      { session with context := { session.context with device := { session.context.device with
        autoComplete, failingAllocations, failingViews } } } :=
  h.moved (.weaken ((Midway.refl h.custody).switched _ _ _).handled hconduct)

/-- Every operation keeps the books of the session. -/
theorem after_operation (h : session.InCustody conduct origin leaked)
    (hstreams : session.context.Streams) (operation : Operation) :
    After conduct origin leaked session operation := by
  cases operation with
  | create slot desc formats => exact after_create h slot desc formats
  | adopt slot source formats state => exact after_adopt h slot source formats state
  | destroyTexture slot deferred => exact after_destroyTexture h slot deferred
  | takeTexture source target => exact after_takeTexture h source target
  | dropTexture slot => exact after_dropTexture h slot
  | transition slot state => exact after_transition h slot state
  | load slot region data pitch => exact after_load h hstreams slot region data pitch
  | beginUpdate slot region data => exact after_beginUpdate h hstreams slot region data
  | endUpdate slot region => exact after_endUpdate h slot region
  | copyFromBuffer slot region rowPitch buffer offset =>
    exact after_copyFromBuffer h slot region rowPitch buffer offset
  | createStaging slot width height format writable =>
    exact after_createStaging h slot width height format writable
  | writeStaging slot region data stride => exact after_writeStaging h slot region data stride
  | copyStaging slot source destination x y => exact after_copyStaging h slot source destination x y
  | copyStagingInto slot source target x y => exact after_copyStagingInto h slot source target x y
  | destroyStaging slot deferred => exact after_destroyStaging h slot deferred
  | createResource slot desc state => exact after_createResource h slot desc state
  | createBuffer slot size => exact after_createBuffer h slot size
  | recordBarrier slot before after => exact after_recordBarrier h slot before after
  | destroyResource slot deferred => exact after_destroyResource h slot deferred
  | destroyDescriptor slot deferred => exact after_destroyDescriptor h slot deferred
  | destroyViews views deferred => exact after_destroyViews h views deferred
  | deviceDestroy slot => exact after_deviceDestroy h slot
  | dropResource slot => exact after_dropResource h slot
  | submit wait => exact (after_submit h wait).1
  | reap => exact (after_reap h).1
  | waitIdle => exact after_waitIdle h
  | setAutoComplete on => exact handled_switch h (conduct.after_le _) on _ _
  | failAllocations count => exact handled_switch h (conduct.after_le _) _ count _
  | failViews count => exact handled_switch h (conduct.after_le _) _ _ count

end Session

end Texel
