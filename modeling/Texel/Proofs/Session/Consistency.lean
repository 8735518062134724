import Texel.Proofs.Session.Resemblance
import Texel.Proofs.Texture.Dwindling
import Mathlib.Data.List.Basic

namespace Texel

open Simulated Context

/-- The slot of the view of a kind. -/
def ViewSet.slotOf (views : ViewSet) : ViewKind → Option Slot
  | .shaderResource => views.shaderResource
  | kind => views.targetOf kind

/-- Of target formats that are not both asked for, each is the one of the target view or none. -/
theorem ViewFormats.asked_target {formats : ViewFormats} {kind : ViewKind}
    (htarget : formats.renderTarget = .unknown ∨ formats.depthStencil = .unknown)
    (hkind : kind ≠ .shaderResource) :
    formats.asked kind = (formats.target?.filter fun wanted => wanted.1 = kind).map Prod.snd := by
  unfold asked target?
  by_cases hrender : formats.renderTarget = .unknown
  · by_cases hdepth : formats.depthStencil = .unknown <;> cases kind <;>
      simp_all [Option.filter]
  · have hdepth := htarget.resolve_left hrender
    cases kind <;> simp_all [Option.filter]

namespace ViewSet

variable {views : ViewSet} {pool : ViewPool SimulatedDevice} {id : ResourceId} {desc : TextureDesc}
  {formats : ViewFormats}

/-- There is a view of each kind exactly if it is asked for, unless both targets are. -/
theorem Shown.each (h : views.Shown pool id desc formats)
    (htarget : formats.renderTarget = .unknown ∨ formats.depthStencil = .unknown)
    (kind : ViewKind) :
    Option.Rel (pool.Shows id desc kind) (formats.asked kind) (views.slotOf kind) := by
  by_cases hkind : kind = .shaderResource
  · subst hkind
    exact h.sampled
  have hslot : views.slotOf kind = views.target.filter fun slot => slot.kind = kind := by
    cases kind
    · exact absurd rfl hkind
    · rfl
    · rfl
  have htargets := h.target
  rw [ViewFormats.asked_target htarget hkind, hslot]
  generalize formats.target? = wanted? at htargets ⊢
  generalize views.target = slot? at htargets ⊢
  cases htargets with
  | none => exact .none
  | @some wanted slot hshows =>
    have hsame := hshows.kind_eq
    by_cases hwanted : wanted.1 = kind
    · subst hwanted
      simpa [Option.filter, hsame] using Option.Rel.some hshows
    · simp [Option.filter, hsame, hwanted]

/-- A target view is of one kind. -/
theorem one_target (views : ViewSet) :
    views.slotOf .renderTarget = none ∨ views.slotOf .depthStencil = none := by
  cases htarget : views.target with
  | none => simp [slotOf, targetOf, htarget]
  | some slot => cases hkind : slot.kind <;> simp [slotOf, targetOf, htarget, hkind]

end ViewSet

/-- The texture owns the resource in the shape that the device says, with the views asked for. -/
def Texture.Backed (texture : Texture) (pool : ViewPool SimulatedDevice) (id : ResourceId)
    (formats : ViewFormats) : Prop :=
  ∃ views desc state, texture = .ofResource id views desc state ∧
    pool.device.textureDesc? id = some desc ∧ views.Shown pool id desc formats

namespace Operation

/-- The views asked for when a texture takes over a resource, new or adopted. -/
def requests (operation : Operation) (session : Session SimulatedDevice) :
    List (ResourceId × ViewFormats) :=
  match operation with
  | .create slot desc formats =>
    match (((session.texture slot).create desc formats).run session.context).value with
    | .ok _ => [(⟨session.context.device.nextId⟩, formats)]
    | .error _ => []
  | .adopt slot source formats state =>
    match session.resources.get? source with
    | none => []
    | some id =>
      match (((session.texture slot).adopt id formats state).run session.context).value with
      | .ok _ => [(id, formats)]
      | .error _ => []
  | _ => []

/-- The operation does not ask for a render-target view and a depth-stencil view at once. -/
def asksOneTarget : Operation → Bool
  | .create _ _ formats | .adopt _ _ formats _ =>
    formats.renderTarget == .unknown || formats.depthStencil == .unknown
  | _ => true

/-- The operations that may make views. -/
def makesViews : Operation → Bool
  | .create .. | .adopt .. => true
  | _ => false

end Operation

namespace ViewPool

variable {origin pool next : ViewPool SimulatedDevice}

/-- Whatever was there in `origin` is as it was, or gone. -/
structure Abides (origin pool : ViewPool SimulatedDevice) : Prop where
  resources : ∀ id : ResourceId, id.raw < origin.device.nextId →
    pool.device.resources.get? id = none ∨
      pool.device.resources.get? id = origin.device.resources.get? id
  views : ∀ slot, origin.heaps.isTaken slot = true →
    pool.device.views.get? slot = none ∨
      pool.device.views.get? slot = origin.device.views.get? slot

/-- Where nothing new comes, what is shown stays or goes. -/
theorem abides_of_dwindles (h : origin.device.Dwindles pool.device) : origin.Abides pool :=
  ⟨h.resources, fun slot _ => h.views slot⟩

/-- New views, perhaps of a new resource, take nothing away. -/
theorem abides_of_grows {device : SimulatedDevice} (hdevice : origin.device.Dwindles device)
    (hviews : device.views = origin.device.views)
    (h : (⟨device, origin.heaps⟩ : ViewPool SimulatedDevice).Grows pool) : origin.Abides pool where
  resources id hid := by
    have hsame : pool.device.resources = device.resources := h.resources
    rw [hsame]
    exact hdevice.resources id hid
  views slot htaken := by
    have hsame : pool.device.views.get? slot = device.views.get? slot := h.views slot htaken
    exact .inr (hsame.trans (by rw [hviews]))

/-- A view of something that is still held shows it as before. -/
theorem Shows.abides {id : ResourceId} {desc : TextureDesc} {kind : ViewKind}
    {format : NativeFormat} {slot : Slot} (h : pool.Shows id desc kind format slot)
    (habides : pool.Abides next) (hheld : next.Has (.descriptor slot)) :
    next.Shows id desc kind format slot := by
  refine ⟨h.kind_eq, hheld.1, ?_⟩
  rcases habides.views slot h.taken with hgone | hsame
  · have hthere := hheld.2
    rw [hgone] at hthere
    cases hthere
  · exact hsame.trans h.view

/-- A resource that is still held is described as before. -/
theorem textureDesc?_abides {id : ResourceId} (habides : pool.Abides next)
    (hid : id.raw < pool.device.nextId) (hheld : next.Has (.resource id)) :
    next.device.textureDesc? id = pool.device.textureDesc? id := by
  unfold SimulatedDevice.textureDesc?
  rcases habides.resources id hid with hgone | hsame
  · have hlive : next.device.isLive id = true := hheld
    simp [SimulatedDevice.isLive, Table.contains, hgone] at hlive
  · rw [hsame]

end ViewPool

namespace Texture

variable {texture other : Texture} {pool next : ViewPool SimulatedDevice} {id : ResourceId}
  {formats : ViewFormats}

/-- A texture that goes on holding what it holds goes on being backed. -/
theorem Backed.abides (h : texture.Backed pool id formats) (habides : pool.Abides next)
    (hid : id.raw < pool.device.nextId) (hheld : ∀ item ∈ texture.holdings, next.Has item) :
    texture.Backed next id formats := by
  obtain ⟨views, desc, state, rfl, hdesc, hsampled, htarget⟩ := h
  have hresource : next.Has (.resource id) := hheld _ (mem_holdings rfl)
  have hslot (slot : Slot) (hmem : slot ∈ views.slots) : next.Has (.descriptor slot) :=
    hheld _ (List.mem_append_right _ (List.mem_map_of_mem hmem))
  refine ⟨views, desc, state, rfl, ?_, ?_, ?_⟩
  · exact (ViewPool.textureDesc?_abides habides hid hresource).trans hdesc
  · generalize hslots : views.shaderResource = slot? at hsampled ⊢
    generalize formats.asked .shaderResource = asked at hsampled ⊢
    cases hsampled with
    | none => exact .none
    | some hshows => exact .some (hshows.abides habides (hslot _ (by simp [ViewSet.slots, hslots])))
  · generalize hslots : views.target = slot? at htarget ⊢
    generalize formats.target? = wanted at htarget ⊢
    cases htarget with
    | none => exact .none
    | some hshows => exact .some (hshows.abides habides (hslot _ (by simp [ViewSet.slots, hslots])))

/-- Textures that differ in their state only are backed alike. -/
theorem Backed.resembles (h : texture.Backed pool id formats) (hsame : texture.Resembles other) :
    other.Backed pool id formats := by
  obtain ⟨views, desc, state, rfl, hrest⟩ := h
  exact ⟨views, desc, other.state, hsame.same, hrest⟩

/-- A texture that is backed owns the resource behind it. -/
theorem Backed.resource_eq (h : texture.Backed pool id formats) : texture.resource = some id := by
  obtain ⟨views, desc, state, rfl, -⟩ := h
  rfl

/-- Textures that differ in their state only hold the same. -/
theorem Resembles.holdings_eq (h : texture.Resembles other) :
    other.holdings = texture.holdings := by
  rw [h.same]
  rfl

end Texture

namespace Session

variable {conduct : Conduct} {origin : Context SimulatedDevice}
  {session next : Session SimulatedDevice}
  {leaked : List Retired} {operation : Operation} {slot : Nat} {id : ResourceId}

/-- Operations that make no view let resources and views stay as they are until they are freed. -/
theorem dwindles_call {device : SimulatedDevice} (hviews : operation.makesViews = false) {α : Type}
    {act : Act (Context SimulatedDevice) α} (call : operation.Calls act) :
    act.Keeps (Dwindles device) := by
  cases call with
  | create | adopt => cases hviews
  | destroyTexture slot texture deferred => exact texture.dwindles_destroy deferred
  | transition slot texture state => exact texture.keeps_transition dwindles_recorded state
  | load slot texture region data pitch => exact texture.dwindles_load region data pitch
  | beginUpdate slot texture region data => exact texture.dwindles_beginUpdate region
  | writeUpdate => exact fun _ hcontext => hcontext
  | endUpdate slot texture region => exact texture.dwindles_endUpdate region
  | copyFromBuffer slot texture region rowPitch buffer offset =>
    exact texture.keeps_copyFromBuffer dwindles_recorded region rowPitch buffer offset
  | createStaging slot width height format writable =>
    exact StagingTexture.dwindles_create width height format writable
  | copyStaging slot destination id texture source x y =>
    exact texture.keeps_copyTo dwindles_recorded source id x y
  | copyStagingInto slot target id texture source x y =>
    exact texture.keeps_copyTo dwindles_recorded source id x y
  | destroyStaging slot texture deferred => exact texture.dwindles_destroy deferred
  | createResource slot desc state =>
    exact dwindles_tryDevice (SimulatedDevice.dwindles_createTexture desc state)
  | createBuffer slot size =>
    exact dwindles_tryDevice (SimulatedDevice.dwindles_createHostBuffer size)
  | recordBarrier slot id before after =>
    intro context hcontext
    rw [state_recordBarrier]
    exact dwindles_recorded _ hcontext
  | destroyResource slot id deferred => exact dwindles_dispose _ deferred
  | destroyDescriptor slot deferred => exact dwindles_dispose _ deferred
  | destroyViews views deferred => exact dwindles_destroySlots _ deferred
  | deviceDestroy slot id => exact dwindles_onDevice (SimulatedDevice.dwindles_destroyResource id)
  | submit wait => exact dwindles_submit wait
  | reap => exact dwindles_reapCompleted
  | waitIdle | setAutoComplete | failAllocations | failViews =>
    exact fun _ hcontext => hcontext.congr rfl rfl rfl

/-- Nothing that was restored has gone. -/
theorem abides_restored {context next : Context SimulatedDevice} (h : context.Restored next) :
    context.viewPool.Abides next.viewPool := by
  obtain ⟨nextId, destroyedCount, failingAllocations, failingViews, rfl⟩ := h
  exact ⟨fun _ _ => .inr rfl, fun _ _ => .inr rfl⟩

/-- Whatever was there before an operation is there after it as it was, or gone. -/
theorem abides_operation (h : session.InCustody conduct origin leaked) (operation : Operation) :
    session.context.viewPool.Abides (operation.after session).context.viewPool := by
  cases hviews : operation.makesViews with
  | false =>
    exact ViewPool.abides_of_dwindles
      (keeps_of_calls (dwindles_call hviews) session (SimulatedDevice.Dwindles.refl _))
  | true =>
    cases operation with
    | create slot desc formats =>
      obtain ⟨hok, herror⟩ :=
        (Texture.replaces_create h.custody.ledger (session.texture slot) desc formats).of_run rfl
      have hcontext := context_changeTexture session slot fun texture =>
        texture.create desc formats
      change session.context.viewPool.Abides
        ((discard (Session.create slot desc formats).act).run session).state.context.viewPool
      rw [Session.create, hcontext]
      cases hvalue :
          (((session.texture slot).create desc formats).run session.context).value with
      | ok value =>
        obtain ⟨-, -, hgrows⟩ := hok value hvalue
        exact ViewPool.abides_of_grows (SimulatedDevice.dwindles_registered _ _) rfl hgrows
      | error error => exact abides_restored (herror error hvalue)
    | adopt slot source formats state =>
      cases hid : session.resources.get? source with
      | none =>
        have hstate : (Operation.adopt slot source formats state).after session = session :=
          state_withResource_none hid _
        rw [hstate]
        exact ViewPool.abides_of_dwindles (.refl _)
      | some id =>
        obtain ⟨hok, herror⟩ := (Texture.replaces_adopt h.custody.ledger (session.texture slot) id
          formats state).of_run rfl
        cases hvalue :
            (((session.texture slot).adopt id formats state).run session.context).value with
        | ok value =>
          obtain ⟨-, -, hgrows⟩ := hok value hvalue
          rw [state_adopt_ok hid hvalue]
          exact ViewPool.abides_of_grows (.refl _) rfl hgrows
        | error refusal =>
          rw [state_adopt_error hid hvalue]
          exact abides_restored (herror refusal hvalue).2
    | _ => cases hviews

/-- Where a texture comes from: it is empty, it was there before, or it has just taken over a
resource with the views requested. -/
inductive Arises (requested : List (ResourceId × ViewFormats))
    (session next : Session SimulatedDevice) (texture : Texture) : Prop where
  | emptied (h : texture = {})
  | remained {source : Nat} (h : (session.texture source).Resembles texture)
  | acquired {id : ResourceId} {formats : ViewFormats} (hrequest : (id, formats) ∈ requested)
    (h : texture.Backed next.context.viewPool id formats)

/-- If one slot is filled, it is enough to know where its texture comes from. -/
theorem arises_of_insert {requested : List (ResourceId × ViewFormats)} {value : Texture}
    {target : Nat} (htextures : next.textures = session.textures.insert target value)
    (h : Arises requested session next value) (slot : Nat) :
    Arises requested session next (next.texture slot) := by
  rw [texture_of_insert htextures]
  split
  · exact h
  · exact .remained (.refl _)

/-- After creating, every texture was there before or is the new one. -/
theorem arises_create (h : session.InCustody conduct origin leaked) (target : Nat)
    (desc : TextureDesc) (formats : ViewFormats) (slot : Nat) :
    Arises ((Operation.create target desc formats).requests session) session
      ((Operation.create target desc formats).after session)
      (((Operation.create target desc formats).after session).texture slot) := by
  have hcreate := Texture.replaces_create h.custody.ledger (session.texture target) desc formats
  have hafter : (Operation.create target desc formats).after session =
      ((Session.create target desc formats).run session).state := Act.state_discard _ session
  rw [hafter, Session.create]
  simp only [Operation.requests]
  cases hvalue : (((session.texture target).create desc formats).run session.context).value with
  | ok value =>
    obtain ⟨⟨views, rfl, hshown⟩, -, hgrows⟩ := (hcreate.of_run rfl).1 value hvalue
    rw [(changeTexture_ok hvalue).2]
    refine arises_of_insert rfl (.acquired List.mem_cons_self ⟨views, _, _, rfl, ?_, hshown⟩) slot
    have hcreated := Texture.get?_withResource hgrows
    simp only [viewPool, SimulatedDevice.textureDesc?, hcreated]
  | error error =>
    rw [(changeTexture_error hvalue).2]
    exact .remained (resembles_of_get? rfl)

/-- After adopting, every texture was there before or has just taken the resource over. -/
theorem arises_adopt (h : session.InCustody conduct origin leaked) (target source : Nat)
    (formats : ViewFormats) (state : UsageState) (slot : Nat) :
    Arises ((Operation.adopt target source formats state).requests session) session
      ((Operation.adopt target source formats state).after session)
      (((Operation.adopt target source formats state).after session).texture slot) := by
  cases hid : session.resources.get? source with
  | none =>
    have hstate : (Operation.adopt target source formats state).after session = session :=
      state_withResource_none hid _
    rw [hstate]
    exact .remained (.refl _)
  | some id =>
    have hadopt := Texture.replaces_adopt h.custody.ledger (session.texture target) id formats state
    simp only [Operation.requests, hid]
    cases hvalue :
        (((session.texture target).adopt id formats state).run session.context).value with
    | ok value =>
      obtain ⟨⟨views, desc, hdesc, rfl, hshown⟩, -, hgrows⟩ := (hadopt.of_run rfl).1 value hvalue
      rw [state_adopt_ok hid hvalue]
      refine arises_of_insert rfl
        (.acquired List.mem_cons_self ⟨views, desc, state, rfl, ?_, hshown⟩) slot
      have hresources := hgrows.resources
      simp only [SimulatedDevice.textureDesc?, hresources] at hdesc ⊢
      exact hdesc
    | error refusal =>
      rw [state_adopt_error hid hvalue]
      exact .remained (resembles_of_get? rfl)

/-- After a move every texture was there before. -/
theorem arises_takeTexture (source target slot : Nat) :
    Arises [] session ((Operation.takeTexture source target).after session)
      (((Operation.takeTexture source target).after session).texture slot) := by
  rw [state_takeTexture]
  simp only [texture, Table.get?_insert]
  by_cases htarget : slot = target
  · rw [if_pos htarget]
    exact .remained (.refl _)
  · rw [if_neg htarget, if_neg htarget]
    by_cases hsource : slot = source
    · rw [if_pos hsource]
      exact .emptied rfl
    · rw [if_neg hsource]
      exact .remained (.refl _)

/-- After every operation each texture was there before or has just taken a resource over. -/
theorem arises_operation (h : session.InCustody conduct origin leaked)
    (hstreams : session.context.Streams) (operation : Operation) (slot : Nat) :
    Arises (operation.requests session) session (operation.after session)
      ((operation.after session).texture slot) := by
  cases operation with
  | create target desc formats => exact arises_create h target desc formats slot
  | adopt target source formats state => exact arises_adopt h target source formats state slot
  | destroyTexture target deferred => exact arises_of_insert rfl (.emptied rfl) slot
  | dropTexture target =>
    have hafter : (Operation.dropTexture target).after session = _ :=
      state_dropTexture target session
    rw [hafter]
    exact arises_of_insert rfl (.emptied rfl) slot
  | takeTexture source target => exact arises_takeTexture source target slot
  | _ => exact .remained (resembles_operation hstreams rfl)

/-- What is requested asks for one target at most. -/
theorem oneTarget_of_mem_requests {formats : ViewFormats} (h : operation.asksOneTarget = true)
    (hrequest : (id, formats) ∈ operation.requests session) :
    formats.renderTarget = .unknown ∨ formats.depthStencil = .unknown := by
  suffices hsame : operation.asksOneTarget =
      (formats.renderTarget == .unknown || formats.depthStencil == .unknown) by
    simpa [hsame] using h
  cases operation with
  | create slot desc asked =>
    simp only [Operation.requests] at hrequest
    split at hrequest
    · cases List.mem_singleton.mp hrequest
      rfl
    · cases hrequest
  | adopt slot source asked state =>
    simp only [Operation.requests] at hrequest
    split at hrequest
    · cases hrequest
    · split at hrequest
      · cases List.mem_singleton.mp hrequest
        rfl
      · cases hrequest
  | _ => cases hrequest

/-- Whatever is requested was asked for by an operation. -/
theorem oneTarget_of_mem_history {operations : List Operation} {formats : ViewFormats}
    (h : ∀ operation ∈ operations, operation.asksOneTarget = true)
    (hrequest : (id, formats) ∈ session.history Operation.requests operations) :
    formats.renderTarget = .unknown ∨ formats.depthStencil = .unknown := by
  induction operations generalizing session with
  | nil => cases hrequest
  | cons operation rest ih =>
    obtain ⟨hfirst, hrest⟩ := List.forall_mem_cons.mp h
    rcases List.mem_append.mp hrequest with hnow | hlater
    · exact oneTarget_of_mem_requests hfirst hnow
    · exact ih hrest hlater

/-- What is acquired is requested, with its views. -/
theorem requests_acquired (h : session.InCustody conduct origin leaked) (operation : Operation) :
    (operation.requests session).map Prod.fst = (operation.acquires session).map Prod.fst := by
  cases operation with
  | create slot desc formats =>
    have hcreate := Texture.replaces_create h.custody.ledger (session.texture slot) desc formats
    simp only [Operation.requests, Operation.acquires]
    cases hvalue : (((session.texture slot).create desc formats).run session.context).value with
    | ok value =>
      obtain ⟨-, -, hgrows⟩ := (hcreate.of_run rfl).1 value hvalue
      simp [SimulatedDevice.initialState?, Texture.get?_withResource hgrows]
    | error error => rfl
  | adopt slot source formats state =>
    simp only [Operation.requests, Operation.acquires]
    cases session.resources.get? source with
    | none => rfl
    | some id =>
      simp only
      cases (((session.texture slot).adopt id formats state).run session.context).value <;> rfl
  | _ => rfl

/-- What a texture holds is there. -/
theorem InCustody.has_holdings (h : session.InCustody conduct origin leaked)
    (hlinear : conduct.linear) (slot : Nat) :
    ∀ item ∈ (session.texture slot).holdings, session.context.viewPool.Has item := by
  intro item hitem
  exact (h.split slot).ledger.has (item.isTracked hlinear)
    (Books.mem_owned.mpr (.inr (.inr (.inl (List.mem_append_left _ hitem)))))

/-- Every texture is empty or backed, by a resource that it has taken over with the views requested
for it. -/
structure Consistent (requested : List (ResourceId × ViewFormats))
    (session : Session SimulatedDevice) : Prop where
  accounted : Accounted (requested.map Prod.fst) session
  textures : ∀ slot, session.texture slot = {} ∨ ∃ id formats, (id, formats) ∈ requested ∧
    (session.texture slot).Backed session.context.viewPool id formats

/-- Every operation keeps textures and device consistent. -/
theorem consistent_operation {requested : List (ResourceId × ViewFormats)}
    (h : Consistent requested session) (hcustody : session.InCustody conduct origin leaked)
    (hlinear : conduct.linear) (hstreams : session.context.Streams) (operation : Operation)
    (howner : operation.isLinear = true) :
    Consistent (requested ++ operation.requests session) (operation.after session) where
  accounted := by
    rw [List.map_append, requests_acquired hcustody]
    exact accounted_operation h.accounted hcustody hstreams operation
  textures slot := by
    have hholds := (hcustody.after hstreams operation).has_holdings ⟨hlinear, howner⟩ slot
    cases arises_operation hcustody hstreams operation slot with
    | emptied hempty => exact .inl hempty
    | @remained source hsame =>
      rcases h.textures source with hempty | ⟨id, formats, hrequest, hbacked⟩
      · exact .inl ((hsame.empty (hempty ▸ rfl)).trans hempty)
      · rw [hsame.holdings_eq] at hholds
        have hknown := h.accounted.known id (List.mem_map_of_mem hrequest)
        exact .inr ⟨id, formats, List.mem_append_left _ hrequest,
          (hbacked.abides (abides_operation hcustody operation) hknown hholds).resembles hsame⟩
    | acquired hrequest hbacked => exact .inr ⟨_, _, List.mem_append_right _ hrequest, hbacked⟩

/-- A session that was just opened has no texture. -/
theorem consistent_opened {config : Config} (h : Opened config session) :
    Consistent [] session := by
  have haccounted := accounted_opened h
  obtain ⟨-, -, rfl⟩ := opened_iff.mp h
  exact ⟨haccounted, fun _ => .inl rfl⟩

/-- Every run keeps textures and device consistent. -/
theorem consistent_run {requested : List (ResourceId × ViewFormats)}
    (h : Consistent requested session) (hcustody : session.InCustody conduct origin leaked)
    (hlinear : conduct.linear) (hstreams : session.context.Streams) (operations : List Operation)
    (howners : ∀ operation ∈ operations, operation.isLinear = true) :
    Consistent (requested ++ session.history Operation.requests operations)
      (session.run operations) := by
  induction operations generalizing session requested conduct leaked with
  | nil =>
    rw [history, List.append_nil]
    exact h
  | cons operation rest ih =>
    obtain ⟨howner, howners⟩ := List.forall_mem_cons.mp howners
    have hrun := ih (consistent_operation h hcustody hlinear hstreams operation howner)
      (hcustody.after hstreams operation) ⟨hlinear, howner⟩ (streams_after hstreams operation)
      howners
    rw [List.append_assoc] at hrun
    exact hrun

/-- Along a run in which nobody asks for both kinds of target view at once, and slots are given up
with their textures only, a resource is taken over by one texture at most, with one request for
views. Every texture is then empty, or it is described as the device describes its resource, and
each view that was asked for, and no other, is made of that resource at a slot of its kind, in the
format asked for. No two textures have a resource or a slot in common. -/
theorem textures_are_consistent {config : Config} {session : Session SimulatedDevice}
    (hopened : Opened config session) (operations : List Operation)
    (hlinear : ∀ operation ∈ operations, operation.isLinear = true)
    (htargets : ∀ operation ∈ operations, operation.asksOneTarget = true) :
    let now := session.run operations
    let requested := session.history Operation.requests operations
    (requested.map Prod.fst).Nodup ∧
    (∀ slot, now.texture slot = {} ∨ ∃ id formats views desc state, (id, formats) ∈ requested ∧
      now.texture slot = .ofResource id views desc state ∧
      now.context.device.textureDesc? id = some desc ∧
      (∀ kind, Option.Rel (now.context.viewPool.Shows id desc kind) (formats.asked kind)
        (views.slotOf kind)) ∧
      (views.slotOf .renderTarget = none ∨ views.slotOf .depthStencil = none)) ∧
    ∀ slot other, other ≠ slot →
      (now.texture slot).holdings.Disjoint (now.texture other).holdings := by
  intro now requested
  have hcustody := inCustody_opened hopened
  have hstreams := streams_opened hopened
  have hconsistent : Consistent requested now :=
    consistent_run (consistent_opened hopened) hcustody trivial hstreams operations hlinear
  refine ⟨hconsistent.accounted.nodup, fun slot => ?_, fun slot other hne item hslot => ?_⟩
  · refine (hconsistent.textures slot).imp_right ?_
    rintro ⟨id, formats, hrequest, views, desc, state, htexture, hdesc, hshown⟩
    have htarget := oneTarget_of_mem_history htargets hrequest
    exact ⟨id, formats, views, desc, state, hrequest, htexture, hdesc, hshown.each htarget,
      views.one_target⟩
  · exact (hcustody.run hstreams operations).holdings_apart
      (item.isTracked ⟨trivial, hlinear⟩) hne hslot

/-- A slot that a destroyed texture had is used again, and shows the resource of the texture that
has it now; the texture that has adopted another resource has a slot of its own. -/
theorem textures_are_consistent_reused :
    let config : Config :=
      { streamSize := 64, pitchAlignment := 4, placementAlignment := 8, shaderResourceSlots := 2,
        renderTargetSlots := 1, depthStencilSlots := 1 }
    let desc : TextureDesc :=
      { width := 2, height := 1, layers := 1, levels := 1, samples := 1, format := .rgba8Unorm }
    let color : ViewFormats := { shaderResource := .rgba8Unorm, renderTarget := .rgba8Unorm }
    let depth : ViewFormats := { shaderResource := .r16Unorm, depthStencil := .d16Unorm }
    let operations : List Operation := [
      .create 0 desc color, .createResource 0 desc .common, .adopt 1 0 depth .common,
      .destroyTexture 0 true, .submit false, .create 2 desc color]
    let now := (opening config).run operations
    (∃ id formats views desc state,
      (id, formats) ∈ (opening config).history Operation.requests operations ∧
      now.texture 2 = .ofResource id views desc state ∧
      now.context.device.textureDesc? id = some desc ∧
      (∀ kind, Option.Rel (now.context.viewPool.Shows id desc kind) (formats.asked kind)
        (views.slotOf kind)) ∧
      (views.slotOf .renderTarget = none ∨ views.slotOf .depthStencil = none)) ∧
    (now.texture 1).holdings.Disjoint (now.texture 2).holdings ∧
    (now.texture 2).views.slotOf .shaderResource = some ⟨.shaderResource, 0⟩ := by
  intro config desc color depth operations now
  have hopened : Opened config (opening config) :=
    opened_iff.mpr ⟨Config.validate_eq_ok_iff.mpr (by decide), by decide, rfl⟩
  obtain ⟨-, htextures, hdisjoint⟩ := textures_are_consistent hopened operations (by decide)
    (by decide)
  have hnow : now = (opening config).run operations := rfl
  rw [hnow]
  exact ⟨(htextures 2).resolve_left (by decide +kernel), hdisjoint 1 2 (by decide),
    by decide +kernel⟩

end Session

end Texel
