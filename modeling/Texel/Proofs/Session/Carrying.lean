import Texel.Proofs.Session.Deferral
import Texel.Proofs.Texture.Rollback
import Texel.Proofs.Texture.Usage

namespace Texel

open Simulated Context

namespace Operation

/-- Resources that a texture takes over, each with the usage state it is in: a new one in the state
that the device has made it in, an adopted one in the state that the caller declares. -/
def acquires (operation : Operation) (session : Session SimulatedDevice) :
    List (ResourceId × UsageState) :=
  match operation with
  | .create slot desc formats =>
    let id : ResourceId := ⟨session.context.device.nextId⟩
    let created := ((session.texture slot).create desc formats).run session.context
    match created.value with
    | .ok _ => (created.state.device.initialState? id).toList.map fun state => (id, state)
    | .error _ => []
  | .adopt slot source formats state =>
    match session.resources.get? source with
    | none => []
    | some id =>
      match (((session.texture slot).adopt id formats state).run session.context).value with
      | .ok _ => [(id, state)]
      | .error _ => []
  | _ => []

/-- The operation records a barrier on the device itself, without a texture that knows of it. -/
def isRawBarrier : Operation → Bool
  | .recordBarrier .. => true
  | _ => false

end Operation

namespace Session

variable {conduct : Conduct} {origin : Context SimulatedDevice}
  {session next : Session SimulatedDevice}
  {leaked : List Retired} {slot other : Nat} {id : ResourceId}

/-- What a texture in a slot holds is held by the textures altogether. -/
theorem mem_holdings_gather (h : session.Keyed) {item : Retired}
    (hitem : item ∈ (session.texture slot).holdings) :
    item ∈ session.textures.gather Texture.holdings := by
  refine (Table.gather_split h.textures slot Texture.holdings).mem_iff.mpr
    (List.mem_append_left _ ?_)
  rw [← holdings_texture]
  exact hitem

/-- What callers hold is held once. -/
theorem InCustody.held_apart (h : session.InCustody conduct origin leaked) {item : Retired}
    (htracked : item.IsTracked conduct.linear) {first second : List Retired}
    (hperm : session.held.Perm (first ++ second)) (hfirst : item ∈ first) : item ∉ second := by
  intro hsecond
  have hone := List.count_pos_iff.mpr hfirst
  have htwo := List.count_pos_iff.mpr hsecond
  have hcount := hperm.count_eq item
  have honce := h.custody.ledger.unique item htracked
  simp only [Books.owned, Context.books, List.count_cons, List.count_append] at hcount honce
  omega

/-- What the textures of two slots hold is apart. -/
theorem InCustody.holdings_apart (h : session.InCustody conduct origin leaked) {item : Retired}
    (htracked : item.IsTracked conduct.linear) (hne : other ≠ slot)
    (hslot : item ∈ (session.texture slot).holdings) :
    item ∉ (session.texture other).holdings := by
  intro hother
  let without : Session SimulatedDevice := { session with textures := session.textures.erase slot }
  have hkeyed : without.Keyed :=
    ⟨Table.nodup_keys_erase h.keyed.textures slot, h.keyed.staging, h.keyed.resources⟩
  have hthere : item ∈ (without.texture other).holdings := by
    rw [texture, Table.get?_erase, if_neg hne]
    exact hother
  have hbeside : item ∈ session.besides slot :=
    List.mem_append_left _ (mem_holdings_gather hkeyed hthere)
  exact h.held_apart htracked (held_split h.keyed slot) hslot hbeside

/-- A resource belongs to one texture. -/
theorem InCustody.slot_unique (h : session.InCustody conduct origin leaked)
    (hslot : (session.texture slot).resource = some id)
    (hother : (session.texture other).resource = some id) : other = slot := by
  by_contra hne
  have htracked : (Retired.resource id).IsTracked conduct.linear := trivial
  exact h.holdings_apart htracked hne (Texture.mem_holdings hslot) (Texture.mem_holdings hother)

/-- A resource of a texture is not loose as well. -/
theorem InCustody.not_loose (h : session.InCustody conduct origin leaked)
    (hslot : (session.texture slot).resource = some id) :
    session.resources.get? other ≠ some id := by
  intro hloose
  have hgather := mem_holdings_gather h.keyed (Texture.mem_holdings hslot)
  have hheld : .resource id ∈ (session.withoutResource other).held :=
    List.mem_append_left _ hgather
  have hat : .resource id ∈ session.resourceAt other := by
    rw [resourceAt_eq hloose]
    exact List.mem_cons_self
  have htracked : (Retired.resource id).IsTracked conduct.linear := trivial
  exact h.held_apart htracked (held_resourceAt h.keyed other) hat hheld

/-- An operation has recorded `new` commands and let textures take over what `acquired` names. Every
other texture was there before, and the new barriers for its resource lead to the state it is in. No
barrier is for a loose resource. -/
structure Carried (acquired : List (ResourceId × UsageState)) (new : List Command)
    (session next : Session SimulatedDevice) : Prop where
  commands : next.context.device.commands = session.context.device.commands ++ new.toArray
  textures : ∀ slot id, (next.texture slot).resource = some id →
    (∃ source, (session.texture source).resource = some id ∧
      (session.texture source).state.Leads (movesOf id new) (next.texture slot).state) ∨
    ((id, (next.texture slot).state) ∈ acquired ∧ movesOf id new = [])
  loose : ∀ slot id, next.resources.get? slot = some id → movesOf id new = [] ∧
    ((∃ source, session.resources.get? source = some id) ∨ id = ⟨session.context.device.nextId⟩)
  owned : ∀ entry ∈ acquired, ∃ slot, (next.texture slot).resource = some entry.1
  unowned : ∀ entry ∈ acquired, (∃ source, session.resources.get? source = some entry.1) ∨
    entry.1 = ⟨session.context.device.nextId⟩
  single : (acquired.map Prod.fst).Nodup

/-- No barrier is recorded and nothing is acquired; textures change places and loose resources come
and go. -/
theorem carried_quietly {new : List Command}
    (hcommands : next.context.device.commands = session.context.device.commands ++ new.toArray)
    (hmoves : ∀ id, movesOf id new = [])
    (htextures : ∀ slot id, (next.texture slot).resource = some id →
      ∃ source, session.texture source = next.texture slot)
    (hloose : ∀ slot id, next.resources.get? slot = some id →
      (∃ source, session.resources.get? source = some id) ∨
        id = ⟨session.context.device.nextId⟩) : Carried [] new session next where
  commands := hcommands
  textures slot id hid := by
    obtain ⟨source, hsource⟩ := htextures slot id hid
    rw [← hsource] at hid ⊢
    exact .inl ⟨source, hid, hmoves id ▸ rfl⟩
  loose slot id hid := ⟨hmoves id, hloose slot id hid⟩
  owned _ hentry := absurd hentry List.not_mem_nil
  unowned _ hentry := absurd hentry List.not_mem_nil
  single := List.nodup_nil

/-- An operation that records nothing carries textures on if it moves them at most, and holds at
most one new resource. -/
theorem carried_unrecorded
    (hcommands : next.context.device.commands = session.context.device.commands)
    (htextures : ∀ slot id, (next.texture slot).resource = some id →
      ∃ source, session.texture source = next.texture slot)
    (hloose : ∀ slot id, next.resources.get? slot = some id →
      (∃ source, session.resources.get? source = some id) ∨
        id = ⟨session.context.device.nextId⟩) : Carried [] [] session next :=
  carried_quietly (hcommands.trans Array.append_empty.symm) (fun _ => rfl) htextures hloose

/-- The texture in one slot is replaced. -/
theorem texture_of_insert {value : Texture}
    (h : next.textures = session.textures.insert slot value) (other : Nat) :
    next.texture other = if other = slot then value else session.texture other := by
  simp only [texture, h, Table.get?_insert]
  by_cases heq : other = slot <;> simp [heq]

/-- The barriers for the resource of one texture lead it to another state. -/
theorem carried_moved (h : session.InCustody conduct origin leaked)
    (hid : (session.texture slot).resource = some id) {value : Texture} {new : List Command}
    (hvalue : value.resource = some id)
    (htextures : next.textures = session.textures.insert slot value)
    (hresources : next.resources = session.resources)
    (hcommands : next.context.device.commands = session.context.device.commands ++ new.toArray)
    (htargets : ∀ command ∈ new, command.target = id)
    (hleads : (session.texture slot).state.Leads (movesOf id new) value.state) :
    Carried [] new session next where
  commands := hcommands
  textures other found hfound := by
    rw [texture_of_insert htextures] at hfound ⊢
    refine .inl ?_
    by_cases heq : other = slot
    · rw [if_pos heq] at hfound ⊢
      obtain rfl := Option.some.inj (hvalue.symm.trans hfound)
      exact ⟨slot, hid, hleads⟩
    · rw [if_neg heq] at hfound ⊢
      refine ⟨other, hfound, ?_⟩
      have hnone : movesOf found new = [] := movesOf_eq_nil fun command hcommand hsame => by
        rw [htargets command hcommand] at hsame
        subst hsame
        exact heq (h.slot_unique hid hfound)
      rw [hnone]
      rfl
  loose other found hfound := by
    rw [hresources] at hfound
    refine ⟨movesOf_eq_nil fun command hcommand hsame => ?_, .inl ⟨other, hfound⟩⟩
    rw [htargets command hcommand] at hsame
    subst hsame
    exact h.not_loose hid hfound
  owned _ hentry := absurd hentry List.not_mem_nil
  unowned _ hentry := absurd hentry List.not_mem_nil
  single := List.nodup_nil

/-- A texture takes over a resource that is loose or new. -/
theorem carried_acquired {value : Texture} {state : UsageState}
    (htextures : next.textures = session.textures.insert slot value)
    (hvalue : value.resource = some id) (hstate : value.state = state)
    (hcommands : next.context.device.commands = session.context.device.commands)
    (hunowned : (∃ source, session.resources.get? source = some id) ∨
      id = ⟨session.context.device.nextId⟩)
    (hloose : ∀ slot id, next.resources.get? slot = some id →
      ∃ source, session.resources.get? source = some id) :
    Carried [(id, state)] [] session next where
  commands := hcommands.trans Array.append_empty.symm
  textures other found hfound := by
    rw [texture_of_insert htextures] at hfound ⊢
    by_cases heq : other = slot
    · rw [if_pos heq] at hfound ⊢
      obtain rfl := Option.some.inj (hvalue.symm.trans hfound)
      exact .inr ⟨List.mem_singleton.mpr (congrArg (Prod.mk id) hstate), rfl⟩
    · rw [if_neg heq] at hfound ⊢
      exact .inl ⟨other, hfound, rfl⟩
  loose other found hfound := ⟨rfl, .inl (hloose other found hfound)⟩
  owned entry hentry := by
    obtain rfl := List.mem_singleton.mp hentry
    refine ⟨slot, ?_⟩
    rw [texture_of_insert htextures, if_pos rfl]
    exact hvalue
  unowned entry hentry := by
    obtain rfl := List.mem_singleton.mp hentry
    exact hunowned
  single := List.nodup_singleton _

/-- Textures and loose resources are as they were, and nothing was recorded. -/
structure Still (session next : Session SimulatedDevice) : Prop where
  textures : next.textures = session.textures
  resources : next.resources = session.resources
  commands : next.context.device.commands = session.context.device.commands

/-- Doing nothing keeps everything still. -/
theorem Still.refl (session : Session SimulatedDevice) : Still session session :=
  ⟨rfl, rfl, rfl⟩

/-- Where all is still, all textures are carried on. -/
theorem Still.carried (h : Still session next) : Carried [] [] session next := by
  refine carried_unrecorded h.commands (fun slot id hid => ⟨slot, ?_⟩) fun slot id hid => ?_
  · unfold texture
    rw [h.textures]
  · rw [h.resources] at hid
    exact .inl ⟨slot, hid⟩

section Still

variable {α ε : Type}

/-- Operations on the context that leave uploads alone touch no slot. -/
theorem still_onContext {act : Act (Context SimulatedDevice) α}
    (h : ∀ context, act.Keeps (Steady context)) : (onContext act).Keeps (Still session) :=
  fun now hnow => ⟨hnow.textures, hnow.resources,
    (h now.context now.context (.refl _)).timeline.commands.trans hnow.commands⟩

/-- Attempts on the context that leave uploads alone touch no slot. -/
theorem still_tryContext {attempt : Attempt ε (Context SimulatedDevice) α}
    (h : ∀ context, attempt.Keeps (Steady context)) : (tryContext attempt).Keeps (Still session) :=
  still_onContext h

/-- A staging texture comes into a slot of its own kind. -/
theorem still_holdStaging (slot : Nat) (staging : StagingTexture) :
    (holdStaging slot staging).Keeps (Still session) := by
  intro now hnow
  rw [state_holdStaging]
  exact ⟨hnow.textures, hnow.resources, hnow.commands⟩

end Still

/-- An update that begins records nothing. -/
theorem still_beginUpdate (hstreams : session.context.Streams) (slot : Nat) (region : Region)
    (data : ByteArray) :
    Still session ((Session.beginUpdate slot region data).run session).state := by
  have hbegin : ((session.texture slot).beginUpdate region).Meets _ _ _ :=
    Texture.meets_beginUpdate hstreams region
  obtain ⟨hok, herror⟩ := hbegin.of_run rfl
  simp only [Session.beginUpdate, Attempt.run_bind, Attempt.run_get, tryContext, Attempt.run_focus]
  cases hvalue : (((session.texture slot).beginUpdate region).run session.context).value with
  | ok layout => exact ⟨rfl, rfl, (hok layout hvalue).2.commands⟩
  | error error =>
    refine ⟨rfl, rfl, ?_⟩
    rcases (herror error hvalue).leaves with heq | heq
    · exact congrArg (·.device.commands) heq
    · exact (congrArg (·.device.commands) heq).trans (records_nothing_forced _).1

/-- A texture is emptied, and the others stay where they are. -/
theorem carried_emptied (htextures : next.textures = session.textures.insert slot {})
    (hresources : next.resources = session.resources)
    (hcommands : next.context.device.commands = session.context.device.commands) :
    Carried [] [] session next := by
  refine carried_unrecorded hcommands ?_ ?_
  · intro other id hid
    rw [texture_of_insert htextures] at hid ⊢
    by_cases heq : other = slot
    · rw [if_pos heq] at hid
      cases hid
    · exact ⟨other, (if_neg heq).symm⟩
  · intro other id hid
    rw [hresources] at hid
    exact .inl ⟨other, hid⟩

/-- A texture that moves to another slot takes its state along. -/
theorem carried_takeTexture (source target : Nat) :
    Carried [] [] session ((Operation.takeTexture source target).after session) := by
  let taken : Session SimulatedDevice :=
    { session with textures := session.textures.insert source {} }
  let dropped : Session SimulatedDevice :=
    { taken with textures := taken.textures.insert target {} }
  let moved : Session SimulatedDevice :=
    { dropped with textures := dropped.textures.insert target (session.texture source) }
  have htaken := @texture_of_insert session taken source {} rfl
  have hdropped := @texture_of_insert taken dropped target {} rfl
  have hmoved := @texture_of_insert dropped moved target (session.texture source) rfl
  rw [state_takeTexture]
  refine carried_unrecorded rfl ?_ fun slot id hid => .inl ⟨slot, hid⟩
  change ∀ slot id, (moved.texture slot).resource = some id → ∃ source, _ = moved.texture slot
  intro slot id hid
  rw [hmoved] at hid ⊢
  by_cases htarget : slot = target
  · exact ⟨source, (if_pos htarget).symm⟩
  · rw [if_neg htarget, hdropped, if_neg htarget, htaken] at hid ⊢
    by_cases hsource : slot = source
    · rw [if_pos hsource] at hid
      cases hid
    · exact ⟨slot, (if_neg hsource).symm⟩

/-- Commands of staging textures are no barriers. -/
theorem carried_copied (request : BufferCopy) :
    Carried [] [.copy request] session
      { session with context := session.context.recorded [.copy request] } :=
  carried_quietly rfl (fun _ => rfl) (fun slot _ _ => ⟨slot, rfl⟩)
    fun slot _ hid => .inl ⟨slot, hid⟩

/-- A copy from a staging texture records no barrier. -/
theorem carried_copyStaging (slot : Nat) (source : Region) (destination x y : Nat) :
    ∃ new, Carried [] new session
      ((Operation.copyStaging slot source destination x y).after session) := by
  change ∃ new, Carried [] new session
    ((Session.copyStaging slot source destination x y).run session).state
  unfold Session.copyStaging
  simp only [Act.run_bind, Act.run_get]
  cases session.staging.get? slot with
  | none => exact ⟨[], (Still.refl session).carried⟩
  | some staging =>
    simp only
    cases hid : session.resources.get? destination with
    | none =>
      rw [state_withResource_none hid]
      exact ⟨[], (Still.refl session).carried⟩
    | some id =>
      obtain ⟨request, -, hstate⟩ := @state_onContext_copyTo session staging source id x y
      rw [state_withResource hid, hstate]
      exact ⟨_, carried_copied request⟩

/-- A copy from a staging texture into a texture records no barrier. -/
theorem carried_copyStagingInto (slot : Nat) (source : Region) (target x y : Nat) :
    ∃ new, Carried [] new session
      ((Operation.copyStagingInto slot source target x y).after session) := by
  change ∃ new, Carried [] new session
    ((Session.copyStagingInto slot source target x y).run session).state
  simp only [Session.copyStagingInto, Act.run_bind, Act.run_get]
  cases (session.texture target).resource with
  | none => exact ⟨[], (Still.refl session).carried⟩
  | some id =>
    simp only
    cases hstaging : session.staging.get? slot with
    | none =>
      rw [state_withStaging_none hstaging]
      exact ⟨[], (Still.refl session).carried⟩
    | some staging =>
      obtain ⟨request, -, hstate⟩ := @state_onContext_copyTo session staging source id x y
      rw [state_withStaging hstaging, hstate]
      exact ⟨_, carried_copied request⟩

/-- A resource with the next identifier is held in a slot, or none is. -/
theorem carried_held {context : Context SimulatedDevice} (slot : Nat)
    (hcommands : context.device.commands = session.context.device.commands) :
    Carried [] [] session { session with
      context, resources := session.resources.insert slot ⟨session.context.device.nextId⟩ } := by
  refine carried_unrecorded hcommands (fun slot _ _ => ⟨slot, rfl⟩) fun other id hid => ?_
  simp only [Table.get?_insert] at hid
  by_cases heq : other = slot
  · rw [if_pos heq] at hid
    exact .inr (Option.some.inj hid).symm
  · rw [if_neg heq] at hid
    exact .inl ⟨other, hid⟩

/-- A new loose resource has no barrier yet. -/
theorem carried_createResource (slot : Nat) (desc : TextureDesc) (state : UsageState) :
    Carried [] [] session ((Operation.createResource slot desc state).after session) := by
  obtain ⟨hok, herror⟩ :=
    (SimulatedDevice.meets_createTexture session.context.device desc state).of_run rfl
  change Carried [] [] session ((Session.createResource slot desc state).run session).state
  simp only [Session.createResource, Attempt.run_bind, tryDevice, tryContext, Context.tryDevice,
    Attempt.run_focus]
  cases hvalue : ((Device.createTexture desc state).run session.context.device).value with
  | ok id =>
    obtain ⟨-, rfl, hdevice⟩ := hok id hvalue
    simp only [Attempt.run_lift, state_holdResource]
    exact carried_held slot (congrArg (·.commands) hdevice)
  | error error => exact Still.carried ⟨rfl, rfl, congrArg (·.commands) (herror error hvalue).2⟩

/-- A new loose buffer has no barrier yet. -/
theorem carried_createBuffer (slot size : Nat) :
    Carried [] [] session ((Operation.createBuffer slot size).after session) := by
  obtain ⟨hok, herror⟩ :=
    (SimulatedDevice.meets_createHostBuffer session.context.device size).of_run rfl
  change Carried [] [] session ((Session.createBuffer slot size).run session).state
  simp only [Session.createBuffer, Attempt.run_bind, tryDevice, tryContext, Context.tryDevice,
    Attempt.run_focus]
  cases hvalue : ((Device.createHostBuffer size).run session.context.device).value with
  | ok buffer =>
    obtain ⟨-, rfl, hdevice⟩ := hok buffer hvalue
    simp only [Attempt.run_lift, state_holdResource]
    exact carried_held slot (congrArg (·.commands) hdevice)
  | error error => exact Still.carried ⟨rfl, rfl, congrArg (·.commands) (herror error hvalue).2⟩

/-- The resource in a slot leaves it, whatever becomes of it. -/
theorem carried_withResource {α : Type} (slot : Nat)
    (act : ResourceId → Act (Session SimulatedDevice) α)
    (hact : ∀ id, (act id).Keeps (Still (session.withoutResource slot))) :
    Carried [] [] session ((withResource slot fun id => do
      clearResource slot
      act id).run session).state := by
  cases hid : session.resources.get? slot with
  | none =>
    rw [state_withResource_none hid]
    exact (Still.refl session).carried
  | some id =>
    rw [state_withResource hid]
    obtain ⟨htextures, hresources, hcommands⟩ := hact id (session.withoutResource slot) (.refl _)
    refine carried_unrecorded hcommands (fun other _ _ => ⟨other, ?_⟩) fun other found hfound => ?_
    · exact congrArg (fun textures => (textures.get? other).getD {}) htextures.symm
    · have hsame : (session.resources.erase slot).get? other = some found :=
        (congrArg (·.get? other) hresources).symm.trans hfound
      rw [Table.get?_erase] at hsame
      split at hsame
      · cases hsame
      · exact .inl ⟨other, hsame⟩

/-- A texture that is created has taken over a new resource; any other is carried on. -/
theorem carried_create (h : session.InCustody conduct origin leaked) (slot : Nat)
    (desc : TextureDesc)
    (formats : ViewFormats) :
    Carried ((Operation.create slot desc formats).acquires session) [] session
      ((Operation.create slot desc formats).after session) := by
  have hcreate := Texture.replaces_create h.custody.ledger (session.texture slot) desc formats
  have hsteady := (session.texture slot).steady_create desc formats session.context (.refl _)
  have hafter : (Operation.create slot desc formats).after session =
      ((Session.create slot desc formats).run session).state := Act.state_discard _ session
  rw [hafter, Session.create]
  simp only [Operation.acquires]
  cases hvalue : (((session.texture slot).create desc formats).run session.context).value with
  | ok value =>
    obtain ⟨⟨views, rfl, -⟩, -, hgrows⟩ := (hcreate.of_run rfl).1 value hvalue
    have hinitial : (((session.texture slot).create desc formats).run
        session.context).state.device.initialState? ⟨session.context.device.nextId⟩ =
        some formats.initialState := by
      rw [SimulatedDevice.initialState?, Texture.get?_withResource hgrows]
    rw [(changeTexture_ok hvalue).2]
    simp only [hinitial, Option.toList_some, List.map_cons, List.map_nil]
    exact carried_acquired rfl rfl rfl hsteady.timeline.commands (.inr rfl)
      fun slot _ hid => ⟨slot, hid⟩
  | error error =>
    rw [(changeTexture_error hvalue).2]
    exact Still.carried ⟨rfl, rfl, hsteady.timeline.commands⟩

/-- A texture that adopts a resource has taken it over; any other is carried on. -/
theorem carried_adopt (h : session.InCustody conduct origin leaked) (slot source : Nat)
    (formats : ViewFormats) (state : UsageState) :
    Carried ((Operation.adopt slot source formats state).acquires session) [] session
      ((Operation.adopt slot source formats state).after session) := by
  cases hid : session.resources.get? source with
  | none =>
    have hstate : (Operation.adopt slot source formats state).after session = session :=
      state_withResource_none hid _
    simp only [hstate, Operation.acquires, hid]
    exact (Still.refl session).carried
  | some id =>
    have hadopt := Texture.replaces_adopt h.custody.ledger (session.texture slot) id formats state
    have hsteady := (session.texture slot).steady_adopt id formats state session.context (.refl _)
    simp only [Operation.acquires, hid]
    cases hvalue : (((session.texture slot).adopt id formats state).run session.context).value with
    | ok value =>
      obtain ⟨⟨views, desc, -, rfl, -⟩, -⟩ := (hadopt.of_run rfl).1 value hvalue
      rw [state_adopt_ok hid hvalue]
      refine carried_acquired rfl rfl rfl hsteady.timeline.commands (.inl ⟨source, hid⟩)
        fun other found hfound => ?_
      simp only [withoutResource, Table.get?_erase] at hfound
      split at hfound
      · cases hfound
      · exact ⟨other, hfound⟩
    | error refusal =>
      rw [state_adopt_error hid hvalue]
      exact Still.carried ⟨rfl, rfl, hsteady.timeline.commands⟩

/-- A texture that is put back as it was leaves every texture as it was. -/
theorem texture_of_reinsert
    (h : next.textures = session.textures.insert slot (session.texture slot)) (other : Nat) :
    next.texture other = session.texture other := by
  rw [texture_of_insert h]
  split
  · next heq => rw [heq]
  · rfl

/-- A transition records the barrier that leads to its state. -/
theorem carried_transition (h : session.InCustody conduct origin leaked) (slot : Nat)
    (state : UsageState) :
    ∃ new, Carried [] new session ((Operation.transition slot state).after session) := by
  have hafter : (Operation.transition slot state).after session =
      { session with
        context := (((session.texture slot).transition state).run session.context).state
        textures := session.textures.insert slot
          (((session.texture slot).transition state).run session.context).value } := rfl
  rw [hafter]
  cases hresource : (session.texture slot).resource with
  | none =>
    rw [Texture.run_transition_of_none hresource]
    refine ⟨[], carried_unrecorded rfl (fun other _ _ => ⟨other, ?_⟩)
      fun other _ hid => .inl ⟨other, hid⟩⟩
    exact (texture_of_reinsert rfl other).symm
  | some id =>
    obtain ⟨hvalue, hstate⟩ := Texture.run_transition hresource state session.context
    have hmoved : ({ session.texture slot with state } : Texture).resource = some id := hresource
    rw [hvalue, hstate]
    refine ⟨_, carried_moved h hresource hmoved rfl rfl rfl ?_
      ((session.texture slot).leads_barriersTo id state)⟩
    intro command hcommand
    unfold Texture.barriersTo at hcommand
    split at hcommand
    · cases hcommand
    · rw [List.mem_singleton.mp hcommand]
      rfl

/-- An upload leaves its texture in the state that it was in. -/
theorem carried_copies {ε : Type} (h : session.InCustody conduct origin leaked) (slot : Nat)
    (change : Texture → Attempt ε (Context SimulatedDevice) Texture)
    (hcopies : (session.texture slot).Copies session.context (change (session.texture slot))) :
    ∃ new, Carried [] new session
      ((discard (changeTexture slot change).act).run session).state := by
  obtain ⟨hok, herror⟩ := Attempt.Meets.of_run hcopies rfl
  change ∃ new, Carried [] new session ((changeTexture slot change).run session).state
  cases hvalue : ((change (session.texture slot)).run session.context).value with
  | ok value =>
    obtain ⟨rfl, id, request, hid, hdestination, hcommands⟩ := hok value hvalue
    rw [(changeTexture_ok hvalue).2]
    refine ⟨_, carried_moved h hid hid rfl rfl hcommands ?_
      ((session.texture slot).leads_bracketed id request)⟩
    intro command hcommand
    rcases Texture.target_of_mem_bracketed hcommand with htarget | hmem
    · exact htarget
    · rw [List.mem_singleton.mp hmem]
      exact hdestination
  | error error =>
    rw [(changeTexture_error hvalue).2]
    exact ⟨[], Still.carried ⟨rfl, rfl, herror error hvalue⟩⟩

/-- Whatever an operation records and acquires, it carries textures and loose resources on. -/
theorem carried_operation (h : session.InCustody conduct origin leaked)
    (hstreams : session.context.Streams) (operation : Operation)
    (hraw : operation.isRawBarrier = false) :
    ∃ new, Carried (operation.acquires session) new session (operation.after session) := by
  cases operation with
  | create slot desc formats => exact ⟨[], carried_create h slot desc formats⟩
  | adopt slot source formats state => exact ⟨[], carried_adopt h slot source formats state⟩
  | destroyTexture slot deferred =>
    have hsteady := (session.texture slot).steady_destroy deferred session.context (.refl _)
    exact ⟨[], carried_emptied rfl rfl hsteady.timeline.commands⟩
  | takeTexture source target => exact ⟨[], carried_takeTexture source target⟩
  | dropTexture slot =>
    have hstate : (Operation.dropTexture slot).after session = _ := state_dropTexture slot session
    rw [hstate]
    exact ⟨[], carried_emptied rfl rfl rfl⟩
  | transition slot state => exact carried_transition h slot state
  | load slot region data pitch =>
    exact carried_copies h slot (fun texture => texture.load region data pitch)
      (Texture.copies_load hstreams _ region data pitch)
  | beginUpdate slot region data =>
    exact ⟨[], (still_beginUpdate hstreams slot region data).carried⟩
  | endUpdate slot region =>
    exact carried_copies h slot (fun texture => texture.endUpdate region)
      (Texture.copies_endUpdate _ _ region)
  | copyFromBuffer slot region rowPitch buffer offset =>
    exact carried_copies h slot
      (fun texture => texture.copyFromBuffer region rowPitch buffer offset)
      (Texture.copies_copyFromBuffer _ _ region rowPitch buffer offset)
  | createStaging slot width height format writable =>
    have hmade (context : Context SimulatedDevice) :
        (StagingTexture.create width height format writable).Keeps (Context.Steady context) :=
      StagingTexture.steady_create width height format writable
    have hstill : (createStaging slot width height format writable).Keeps (Still session) := by
      refine .bind (still_tryContext hmade) fun staging => ?_
      refine .bind (.lift (still_holdStaging slot staging)) fun _ => ?_
      exact .pure _
    exact ⟨[], (hstill session (.refl _)).carried⟩
  | writeStaging slot region data stride =>
    have hstill : (Session.writeStaging slot region data stride).Keeps (Still session) := by
      refine keeps_withStaging slot fun staging => ?_
      split
      · exact .pure _
      · exact .bind (fun _ hnow => ⟨hnow.textures, hnow.resources, hnow.commands⟩) fun _ => .pure _
    exact ⟨[], (hstill session (.refl _)).carried⟩
  | copyStaging slot source destination x y => exact carried_copyStaging slot source destination x y
  | copyStagingInto slot source target x y => exact carried_copyStagingInto slot source target x y
  | destroyStaging slot deferred =>
    have hstill : (Session.destroyStaging slot deferred).Keeps (Still session) :=
      keeps_withStaging slot fun staging =>
        .bind (fun _ hnow => ⟨hnow.textures, hnow.resources, hnow.commands⟩) fun _ =>
          still_onContext fun context => staging.steady_destroy deferred
    exact ⟨[], (hstill session (.refl _)).carried⟩
  | createResource slot desc state => exact ⟨[], carried_createResource slot desc state⟩
  | createBuffer slot size => exact ⟨[], carried_createBuffer slot size⟩
  | recordBarrier slot before after => cases hraw
  | destroyResource slot deferred =>
    exact ⟨[], carried_withResource slot _ fun id =>
      still_onContext fun context => steady_dispose _ deferred⟩
  | destroyDescriptor slot deferred =>
    have hsteady := steady_dispose (.descriptor slot) deferred session.context (.refl _)
    exact ⟨[], Still.carried ⟨rfl, rfl, hsteady.timeline.commands⟩⟩
  | destroyViews views deferred =>
    have hsteady := steady_destroySlots views.slots deferred session.context (.refl _)
    exact ⟨[], Still.carried ⟨rfl, rfl, hsteady.timeline.commands⟩⟩
  | deviceDestroy slot =>
    exact ⟨[], carried_withResource slot _ fun id => still_onContext fun context =>
      steady_onDevice (SimulatedDevice.keeps_destroyResource id)⟩
  | dropResource slot => exact ⟨[], carried_withResource slot _ fun id => .log _ _⟩
  | submit wait =>
    exact ⟨[], Still.carried ⟨rfl, rfl, (records_nothing_submit wait session.context).1⟩⟩
  | reap =>
    exact ⟨[], Still.carried ⟨rfl, rfl, (records_nothing_reapCompleted session.context).1⟩⟩
  | waitIdle => exact ⟨[], Still.carried ⟨rfl, rfl, rfl⟩⟩
  | setAutoComplete on => exact ⟨[], Still.carried ⟨rfl, rfl, rfl⟩⟩
  | failAllocations count => exact ⟨[], Still.carried ⟨rfl, rfl, rfl⟩⟩
  | failViews count => exact ⟨[], Still.carried ⟨rfl, rfl, rfl⟩⟩

/-- Identifiers that textures have taken over, each of them once. None is loose any more, and none
is yet to be given out. -/
structure Accounted (ids : List ResourceId) (session : Session SimulatedDevice) : Prop where
  nodup : ids.Nodup
  known : ∀ id ∈ ids, id.raw < session.context.device.nextId
  loose : ∀ slot id, session.resources.get? slot = some id → id ∉ ids

/-- What is loose or new was not taken over before. -/
theorem Accounted.unowned {ids : List ResourceId} (h : Accounted ids session)
    (hid : (∃ source, session.resources.get? source = some id) ∨
      id = ⟨session.context.device.nextId⟩) : id ∉ ids := by
  rcases hid with ⟨source, hsource⟩ | rfl
  · exact h.loose source id hsource
  · exact fun hmem => Nat.lt_irrefl _ (h.known _ hmem)

/-- What is acquired later was not acquired before. -/
theorem accounted_carried {ids : List ResourceId} {acquired : List (ResourceId × UsageState)}
    {new : List Command} (h : Accounted ids session) (hafter : next.InCustody conduct origin leaked)
    (hnextId : session.context.device.nextId ≤ next.context.device.nextId)
    (hcarried : Carried acquired new session next) :
    Accounted (ids ++ acquired.map Prod.fst) next where
  nodup := by
    refine List.nodup_append.mpr ⟨h.nodup, hcarried.single, ?_⟩
    rintro id hold _ hacquired rfl
    obtain ⟨entry, hentry, rfl⟩ := List.mem_map.mp hacquired
    exact h.unowned (hcarried.unowned entry hentry) hold
  known id hid := by
    rcases List.mem_append.mp hid with hold | hacquired
    · exact Nat.lt_of_lt_of_le (h.known id hold) hnextId
    · obtain ⟨entry, hentry, rfl⟩ := List.mem_map.mp hacquired
      obtain ⟨slot, hslot⟩ := hcarried.owned entry hentry
      have hheld := List.mem_append_left (next.resources.gather fun id => [.resource id])
        (mem_holdings_gather hafter.keyed (Texture.mem_holdings hslot))
      exact hafter.custody.ledger.fresh entry.1
        (Books.mem_owned.mpr (.inr (.inr (.inl (List.mem_append_right _ hheld)))))
  loose slot id hid hmem := by
    rcases List.mem_append.mp hmem with hold | hacquired
    · exact h.unowned (hcarried.loose slot id hid).2 hold
    · obtain ⟨entry, hentry, rfl⟩ := List.mem_map.mp hacquired
      obtain ⟨owner, howner⟩ := hcarried.owned entry hentry
      exact hafter.not_loose howner hid

/-- Nothing has been acquired at first. -/
theorem accounted_opened {config : Config} (h : Opened config session) : Accounted [] session := by
  obtain ⟨-, -, rfl⟩ := opened_iff.mp h
  exact ⟨List.nodup_nil, fun _ hid => absurd hid List.not_mem_nil,
    fun _ _ _ => List.not_mem_nil⟩

/-- Every operation adds what it acquires. -/
theorem accounted_operation {ids : List ResourceId} (h : Accounted ids session)
    (hcustody : session.InCustody conduct origin leaked) (hstreams : session.context.Streams)
    (operation : Operation) :
    Accounted (ids ++ (operation.acquires session).map Prod.fst) (operation.after session) := by
  have hnextId := (evolves_act hstreams operation session .refl).continues.nextId
  cases hraw : operation.isRawBarrier with
  | false =>
    obtain ⟨new, hcarried⟩ := carried_operation hcustody hstreams operation hraw
    exact accounted_carried h (hcustody.after hstreams operation) hnextId hcarried
  | true =>
    cases operation with
    | recordBarrier slot before after =>
      have hkeeps : (Operation.recordBarrier slot before after).act.Keeps fun now =>
          now.resources = session.resources :=
        .discard (keeps_withResource slot fun id => fun _ hnow => hnow)
      have hresources := hkeeps session rfl
      change Accounted (ids ++ []) _
      rw [List.append_nil]
      refine ⟨h.nodup, fun id hid => Nat.lt_of_lt_of_le (h.known id hid) hnextId,
        fun source id hid => h.loose source id ?_⟩
      rw [← hresources]
      exact hid
    | _ => cases hraw

end Session

end Texel
