import Texel.Proofs.Session.Carrying

namespace Texel

open Simulated Context

namespace Operation

/-- The slot of the texture that an operation copies into. -/
def copiesInto? : Operation → Option Nat
  | .load slot .. | .endUpdate slot _ | .copyFromBuffer slot .. => some slot
  | _ => none

/-- The operation copies into a texture, and it is accepted. -/
def isAccepted (operation : Operation) (session : Session SimulatedDevice) : Bool :=
  match operation with
  | .load slot region data pitch => ((Session.load slot region data pitch).run session).value.isOk
  | .endUpdate slot region => ((Session.endUpdate slot region).run session).value.isOk
  | .copyFromBuffer slot region rowPitch buffer offset =>
    ((Session.copyFromBuffer slot region rowPitch buffer offset).run session).value.isOk
  | _ => false

end Operation

namespace Session

variable {conduct : Conduct} {origin : Context SimulatedDevice}
  {session next : Session SimulatedDevice}
  {leaked : List Retired} {slot : Nat}

/-- The resource of every texture was acquired in a state from which the barriers recorded for it
lead to the state of the texture. No barriers were recorded for loose resources, which nobody
acquired. -/
structure Tracked (starts : List (ResourceId × UsageState))
    (session : Session SimulatedDevice) : Prop where
  accounted : Accounted (starts.map Prod.fst) session
  textures : ∀ slot id, (session.texture slot).resource = some id → ∃ start, (id, start) ∈ starts ∧
    start.Leads (movesOf id session.context.device.commands.toList) (session.texture slot).state
  loose : ∀ slot id, session.resources.get? slot = some id →
    movesOf id session.context.device.commands.toList = []

/-- No command names a resource that is yet to be made. -/
theorem InCustody.movesOf_new (h : session.InCustody conduct origin leaked) :
    movesOf ⟨session.context.device.nextId⟩ session.context.device.commands.toList = [] := by
  refine movesOf_eq_nil fun command hcommand hsame => ?_
  obtain ⟨index, hindex⟩ := List.getElem?_of_mem hcommand
  have hknown := h.custody.guarded.known index command (Array.getElem?_toList ▸ hindex)
  rw [hsame] at hknown
  exact Nat.lt_irrefl _ hknown

/-- What textures take over has no barriers yet. -/
theorem Tracked.unmoved {starts : List (ResourceId × UsageState)} {id : ResourceId}
    (h : Tracked starts session) (hcustody : session.InCustody conduct origin leaked)
    (hid : (∃ source, session.resources.get? source = some id) ∨
      id = ⟨session.context.device.nextId⟩) :
    movesOf id session.context.device.commands.toList = [] := by
  rcases hid with ⟨source, hsource⟩ | rfl
  · exact h.loose source id hsource
  · exact hcustody.movesOf_new

/-- Whatever is carried on stays tracked. -/
theorem tracked_operation {starts : List (ResourceId × UsageState)} (h : Tracked starts session)
    (hcustody : session.InCustody conduct origin leaked) (hstreams : session.context.Streams)
    {operation : Operation} (hraw : operation.isRawBarrier = false) :
    Tracked (starts ++ operation.acquires session) (operation.after session) := by
  obtain ⟨new, hcarried⟩ := carried_operation hcustody hstreams operation hraw
  have hcommands : (operation.after session).context.device.commands.toList =
      session.context.device.commands.toList ++ new := by simp [hcarried.commands]
  refine ⟨?_, fun slot id hid => ?_, fun slot id hid => ?_⟩
  · rw [List.map_append]
    exact accounted_operation h.accounted hcustody hstreams operation
  · rw [hcommands, movesOf_append]
    rcases hcarried.textures slot id hid with ⟨source, hsource, hleads⟩ | ⟨hacquired, hnone⟩
    · obtain ⟨start, hstart, hbefore⟩ := h.textures source id hsource
      exact ⟨start, List.mem_append_left _ hstart, hbefore.append hleads⟩
    · have hbefore := h.unmoved hcustody (hcarried.unowned _ hacquired)
      rw [hbefore, hnone]
      exact ⟨_, List.mem_append_right _ hacquired, rfl⟩
  · obtain ⟨hnone, hsource⟩ := hcarried.loose slot id hid
    rw [hcommands, movesOf_append, h.unmoved hcustody hsource, hnone, List.append_nil]

/-- Along a run without raw barriers, the state of every texture stays tracked. -/
theorem tracked_run {starts : List (ResourceId × UsageState)} (h : Tracked starts session)
    (hcustody : session.InCustody conduct origin leaked) (hstreams : session.context.Streams)
    (operations : List Operation)
    (hraw : ∀ operation ∈ operations, operation.isRawBarrier = false) :
    Tracked (starts ++ session.history Operation.acquires operations) (session.run operations) := by
  induction operations generalizing session starts conduct leaked with
  | nil =>
    rw [history, List.append_nil]
    exact h
  | cons operation rest ih =>
    obtain ⟨hfirst, hrest⟩ := List.forall_mem_cons.mp hraw
    have hrun := ih (tracked_operation h hcustody hstreams hfirst)
      (hcustody.after hstreams operation) (streams_after hstreams operation) hrest
    rw [List.append_assoc] at hrun
    exact hrun

/-- No texture has been acquired at first. -/
theorem tracked_opened {config : Config} (h : Opened config session) : Tracked [] session := by
  have haccounted := accounted_opened h
  obtain ⟨-, -, rfl⟩ := opened_iff.mp h
  refine ⟨haccounted, ?_, ?_⟩
  · intro slot id hid
    simp [texture, opening] at hid
  · intro slot id hid
    simp [opening] at hid

/-- A copy was recorded into the texture of a slot: alone if the texture is a copy destination, and
otherwise between the barrier that makes it one and the barrier that takes it back. -/
def RecordsCopy (session : Session SimulatedDevice) (slot : Nat)
    (next : Session SimulatedDevice) : Prop :=
  ∃ id request, (session.texture slot).resource = some id ∧ request.destination = id ∧
    next.context.device.commands = session.context.device.commands ++ List.toArray
      (if (session.texture slot).state = .copyDest then [.copy request]
      else [.barrier id (session.texture slot).state .copyDest, .copy request,
        .barrier id .copyDest (session.texture slot).state])

/-- An operation that copies into a texture leaves it as it was, and records nothing else. -/
theorem records_changeTexture {ε : Type}
    {change : Texture → Attempt ε (Context SimulatedDevice) Texture}
    (hcopies : (session.texture slot).Copies session.context (change (session.texture slot))) :
    let outcome := (changeTexture slot change).run session
    outcome.state.texture slot = session.texture slot ∧
      (outcome.value.isOk = true → session.RecordsCopy slot outcome.state) ∧
      (outcome.value.isOk = false →
        outcome.state.context.device.commands = session.context.device.commands) := by
  obtain ⟨hok, herror⟩ := Attempt.Meets.of_run hcopies rfl
  intro outcome
  cases hvalue : ((change (session.texture slot)).run session.context).value with
  | ok value =>
    obtain ⟨hanswer, hstate⟩ := changeTexture_ok hvalue
    obtain ⟨rfl, id, request, hid, hdestination, hcommands⟩ := hok value hvalue
    simp only [outcome, hanswer, hstate]
    refine ⟨texture_of_reinsert rfl slot, fun _ => ⟨id, request, hid, hdestination, ?_⟩,
      fun hrefused => nomatch hrefused⟩
    rw [← Texture.bracketed_copy]
    exact hcommands
  | error error =>
    obtain ⟨hanswer, hstate⟩ := changeTexture_error hvalue
    simp only [outcome, hanswer, hstate]
    exact ⟨rfl, fun haccepted => (nomatch haccepted), fun _ => herror error hvalue⟩

/-- An upload that is accepted records its copy between barriers, and a refused one records nothing.
-/
theorem records_operation (hstreams : session.context.Streams) {operation : Operation}
    (hslot : operation.copiesInto? = some slot) :
    (operation.after session).texture slot = session.texture slot ∧
      (operation.isAccepted session = true →
        session.RecordsCopy slot (operation.after session)) ∧
      (operation.isAccepted session = false →
        (operation.after session).context.device.commands =
          session.context.device.commands) := by
  cases operation with
  | load slot region data pitch =>
    obtain rfl := Option.some.inj hslot
    have hafter : (Operation.load slot region data pitch).after session =
        ((Session.load slot region data pitch).run session).state := Act.state_discard _ session
    rw [hafter]
    exact records_changeTexture (Texture.copies_load hstreams _ region data pitch)
  | endUpdate slot region =>
    obtain rfl := Option.some.inj hslot
    have hafter : (Operation.endUpdate slot region).after session =
        ((Session.endUpdate slot region).run session).state := Act.state_discard _ session
    rw [hafter]
    exact records_changeTexture (Texture.copies_endUpdate _ _ region)
  | copyFromBuffer slot region rowPitch buffer offset =>
    obtain rfl := Option.some.inj hslot
    have hafter : (Operation.copyFromBuffer slot region rowPitch buffer offset).after session =
        ((Session.copyFromBuffer slot region rowPitch buffer offset).run session).state :=
      Act.state_discard _ session
    rw [hafter]
    exact records_changeTexture (Texture.copies_copyFromBuffer _ _ region rowPitch buffer offset)
  | _ => cases hslot

/-- A copy is recorded where the barriers lead to a copy destination. -/
theorem leads_of_recordsCopy {starts : List (ResourceId × UsageState)} {index : Nat}
    {request : BufferCopy} (h : Tracked starts session) (hrecords : session.RecordsCopy slot next)
    (hindex : session.context.device.commands.size ≤ index)
    (hcopy : next.context.device.commands[index]? = some (.copy request)) :
    ∃ start, (request.destination, start) ∈ starts ∧
      start.Leads (movesOf request.destination (next.context.device.commands.toList.take index))
        .copyDest := by
  obtain ⟨id, own, hid, hdestination, hcommands⟩ := hrecords
  rw [← Texture.bracketed_copy] at hcommands
  rw [hcommands, Array.getElem?_append_right hindex, List.getElem?_toArray] at hcopy
  obtain ⟨rfl, hleads⟩ := Texture.leads_take_bracketed hcopy
  obtain ⟨start, hstart, hbefore⟩ := h.textures slot id hid
  have htake : next.context.device.commands.toList.take index =
      session.context.device.commands.toList ++ ((session.texture slot).bracketed id
        [.copy request]).take (index - session.context.device.commands.size) := by
    rw [hcommands, Array.toList_append, List.take_append,
      List.take_of_length_le (by simpa using hindex), Array.length_toList]
  subst hdestination
  refine ⟨start, hstart, ?_⟩
  rw [htake, movesOf_append]
  exact hbefore.append hleads

/-- Whatever an operation copies into a texture, it copies where the barriers lead to a copy
destination. -/
theorem leads_operation {starts : List (ResourceId × UsageState)} {index : Nat}
    {request : BufferCopy} (h : Tracked starts session) (hstreams : session.context.Streams)
    {operation : Operation} (hslot : operation.copiesInto? = some slot)
    (hindex : session.context.device.commands.size ≤ index)
    (hcopy : (operation.after session).context.device.commands[index]? = some (.copy request)) :
    ∃ start, (request.destination, start) ∈ starts ∧
      start.Leads (movesOf request.destination
        ((operation.after session).context.device.commands.toList.take index)) .copyDest := by
  obtain ⟨-, hrecords, hnothing⟩ := records_operation hstreams hslot
  cases haccepted : operation.isAccepted session with
  | true => exact leads_of_recordsCopy h (hrecords haccepted) hindex hcopy
  | false =>
    rw [hnothing haccepted, Array.getElem?_eq_none hindex] at hcopy
    cases hcopy

/-- Along a run in which nobody records barriers on the device itself, a resource is taken over by
one texture at most, and the barriers recorded for it lead from the state it was in then to the one
that its texture says. What copies into a texture leaves it as it was: if it is accepted, the copy
is recorded where the barriers have led to a copy destination, and if not, nothing is recorded. -/
theorem usage_states_are_exact {config : Config} {session : Session SimulatedDevice}
    (hopened : Opened config session) (operations : List Operation)
    (hraw : ∀ operation ∈ operations, operation.isRawBarrier = false) :
    let now := session.run operations
    let acquired := session.history Operation.acquires operations
    (acquired.map Prod.fst).Nodup ∧
    (∀ slot id, (now.texture slot).resource = some id → ∃ start, (id, start) ∈ acquired ∧
      start.Leads (movesOf id now.context.device.commands.toList) (now.texture slot).state) ∧
    ∀ before operation later slot, operations = before ++ operation :: later →
      operation.copiesInto? = some slot →
      let caller := session.run before
      let next := operation.after caller
      next.texture slot = caller.texture slot ∧
      (operation.isAccepted caller = true → caller.RecordsCopy slot next) ∧
      (operation.isAccepted caller = false →
        next.context.device.commands = caller.context.device.commands) ∧
      ∀ index request, caller.context.device.commands.size ≤ index →
        next.context.device.commands[index]? = some (.copy request) →
        ∃ start, (request.destination, start) ∈ session.history Operation.acquires before ∧
          start.Leads
            (movesOf request.destination (next.context.device.commands.toList.take index))
            .copyDest := by
  intro now acquired
  have hcustody := inCustody_opened hopened
  have hstreams := streams_opened hopened
  have htracked := tracked_opened hopened
  have hrun : Tracked acquired now := tracked_run htracked hcustody hstreams operations hraw
  refine ⟨hrun.accounted.nodup, hrun.textures, ?_⟩
  rintro before operation later slot rfl hslot
  have hbefore := tracked_run htracked hcustody hstreams before fun other hother =>
    hraw other (List.mem_append_left _ hother)
  have hcaller := (evolves_run hstreams before).streams hstreams
  obtain ⟨htexture, hrecords, hnothing⟩ := records_operation hcaller hslot
  exact ⟨htexture, hrecords, hnothing, fun _ _ => leads_operation hbefore hcaller hslot⟩

/-- A texture is uploaded into between the barriers that it takes; it is then made a copy
destination in another slot, where one more upload takes none. -/
theorem usage_states_are_exact_moved :
    let config : Config := { streamSize := 64, pitchAlignment := 4, placementAlignment := 8 }
    let upload (slot : Nat) : Operation :=
      .load slot ⟨0, 0, 2, 1⟩ ⟨#[1, 2, 3, 4, 5, 6, 7, 8]⟩ 8
    let before : List Operation := [
      .create 0 { width := 2, height := 1, layers := 1, levels := 1, samples := 1,
                  format := .rgba8Unorm } {},
      .transition 0 .copySource, upload 0, .takeTexture 0 1, .transition 1 .copyDest]
    (∃ start, (⟨2⟩, start) ∈ (opening config).history Operation.acquires (before ++ [upload 1]) ∧
      start.Leads
        (movesOf ⟨2⟩ ((opening config).run (before ++ [upload 1])).context.device.commands.toList)
        (((opening config).run (before ++ [upload 1])).texture 1).state) ∧
    ((opening config).run before).RecordsCopy 1
      ((upload 1).after ((opening config).run before)) := by
  intro config upload before
  have hopened : Opened config (opening config) :=
    opened_iff.mpr ⟨Config.validate_eq_ok_iff.mpr (by decide), by decide, rfl⟩
  have hraw : ∀ operation ∈ before ++ [upload 1], operation.isRawBarrier = false := by decide
  obtain ⟨-, hstates, hcopies⟩ := usage_states_are_exact hopened (before ++ [upload 1]) hraw
  obtain ⟨-, hrecords, -⟩ := hcopies before (upload 1) [] 1 rfl rfl
  exact ⟨hstates 1 ⟨2⟩ (by decide +kernel), hrecords (by decide +kernel)⟩

end Session

end Texel
