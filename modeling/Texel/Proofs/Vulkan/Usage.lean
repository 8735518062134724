import Texel.Proofs.Vulkan.Layout
import Texel.Proofs.Vulkan.Session

namespace Texel.Vulkan

/-- Command buffers can be had whenever commands are recorded and come to the queue, and callers of
staging textures make way for what they copy. -/
def Rules.recording : Rules where
  reliable operation := operation ∈ Operation.ofCommands
  careful := False
  tracked := True
  careful_idle := False.elim
  tracked_commands := fun _ _ hoperation => hoperation

/-- The commands for the image of a resource lead it to a layout in the order they run. Each barrier
starts from where it is, and each copy finds it a transfer destination. -/
def VulkanDevice.LeadsTo (device : VulkanDevice) (id : ResourceId) (layout : ImageLayout) : Prop :=
  ∃ image memory desc, device.resources.get? id = some (.image image (some memory) desc) ∧
    layoutAfter image device.commands = some layout

/-- The layout of a resource is followed from now on, until the device has it no longer. -/
def Followed (id : ResourceId) (work : Work) : Prop :=
  id.raw < work.device.nextId ∧ ∀ tenure, work.holding.roster.tenure? id = some tenure →
    tenure.gone = false → tenure.layout?.isSome

/-- What is known of one resource changes, but neither comes back nor is lost sight of. -/
private theorem Followed.amend {id other : ResourceId} {work : Work} {change : Tenure → Tenure}
    (h : Followed id work)
    (hchange : ∀ tenure, (tenure.gone = false → tenure.layout?.isSome) →
      (change tenure).gone = false → (change tenure).layout?.isSome)
    (tenure : Tenure) (hfound : (work.holding.roster.amend other change).tenure? id = some tenure) :
    tenure.gone = false → tenure.layout?.isSome := by
  rcases Roster.of_tenure?_amend hfound with ⟨-, hold⟩ | ⟨rfl, old, hold, rfl⟩
  · exact h.2 tenure hold
  · exact hchange old (h.2 old hold)

/-- Every step goes on following the image of a texture that was created. -/
theorem Followed.step {rules : Rules} {id : ResourceId} {before after : Work}
    (h : Followed id before) (hstep : Step rules before after) : Followed id after := by
  cases hstep with
  | barrier barrier =>
    refine ⟨h.1, h.amend fun tenure hbefore hthere => ?_⟩
    rw [Option.isSome_map]
    exact hbefore hthere
  | parked | removed => exact ⟨h.1, h.amend fun _ _ hthere => nomatch hthere⟩
  | retired => exact ⟨h.1, h.amend fun _ hbefore => hbefore⟩
  | vacated => exact ⟨h.1, fun _ hnone => nomatch hnone⟩
  | @registered device holding =>
    refine ⟨Nat.lt_succ_of_lt h.1, fun tenure hfound => ?_⟩
    have hne : id ≠ ⟨device.nextId⟩ := by
      rintro rfl
      exact Nat.lt_irrefl _ h.1
    rw [Roster.tenure?_enroll, if_neg hne] at hfound
    exact h.2 tenure hfound
  | _ => exact h

section Following

variable {rules : Rules} {start : Work} {roster : Roster} {session : Session VulkanDevice}
  {id : ResourceId}

/-- What is followed now is followed for as long as it is in some place. -/
theorem Held.followed (h : Held rules start roster session) (hid : (roster.layout? id).isSome)
    {turns : List SessionTurn} (hobeys : Obeying rules session turns) :
    ∃ after, Held rules start after (runSession session turns) ∧
      ∀ place, Place.resource? (runSession session turns) place = some id →
        (after.layout? id).isSome := by
  -- `Followed` begins here and not at `start`, where the resource was not there yet.
  have hhere : Held rules (Work.resting session.context.device roster) roster session :=
    { h with stands := { h.stands with rest := h.stands.rest.restart } }
  obtain ⟨after, hafter⟩ := holds_run hhere hobeys
  have hlater : Held rules start after (runSession session turns) :=
    { hafter with stands := { hafter.stands with rest := h.stands.rest.resume hafter.stands.rest } }
  refine ⟨after, hlater, fun place hplace => ?_⟩
  have hstart : Followed id (Work.resting session.context.device roster) := by
    obtain ⟨layout, hlayout⟩ := Option.isSome_iff_exists.mp hid
    obtain ⟨tenure, htenure, hknown⟩ := Option.bind_eq_some_iff.mp hlayout
    refine ⟨h.stands.rest.validNow.known id tenure htenure, fun other hother _ => ?_⟩
    obtain rfl := Option.some.inj (htenure.symm.trans hother)
    exact Option.isSome_iff_exists.mpr ⟨layout, hknown⟩
  have hend : Followed id ⟨(runSession session turns).context.device, _⟩ :=
    hafter.stands.rest.induction hstart fun _ _ => Followed.step
  obtain ⟨tenure, htenure, -, hthere⟩ := (hafter.borne place id hplace).1
  rw [Roster.layout?, htenure]
  exact hend.2 tenure htenure hthere

/-- What is followed is where the recorded commands lead. -/
theorem Held.leadsTo (h : Held rules start roster session) (htracked : rules.tracked)
    (haccounts : Accounts start) (himports : Imports start) (hlined : Lined start)
    (htraced : Traced start)
    {slot : Nat}
    (hid : (session.texture slot).resource = some id) (hfollowed : (roster.layout? id).isSome) :
    session.context.device.LeadsTo id (stateLayout (session.texture slot).state) := by
  obtain ⟨layout, hlayout⟩ := Option.isSome_iff_exists.mp hfollowed
  have hrest := h.stands.rest
  obtain ⟨-, image, memory, desc, hfound⟩ := hrest.validNow.imaged id layout hlayout
  have hstate : some (stateLayout (session.texture slot).state) = some layout :=
    (h.borne (.texture slot) id hid).2 layout hlayout
  have htracedNow := hrest.traced htracked haccounts himports hlined htraced
  have hleads := htracedNow.followed id layout image memory desc hlayout hfound
  rw [Work.commands_of_transit rfl, ← hstate] at hleads
  exact ⟨image, memory, desc, hfound, hleads⟩

end Following

/-- A session creates a texture and goes on. Whatever else fails, as long as command buffers can be
had and come to the queue, the image is led to the layout of the state of the texture, whoever has
it by then. -/
theorem layout_follows_created_texture {script : Operation → List ResultCode} {config : Config}
    {session : Session VulkanDevice} (h : SessionOpened script config session)
    (hscript : ∀ operation ∈ Operation.ofCommands,
      ∀ answer ∈ script operation, answer.failure? = none)
    (turns : List SessionTurn) (hturns : Obeying .recording session turns) (slot : Nat)
    (desc : TextureDesc) (formats : ViewFormats)
    (hmade : ((Session.create slot desc formats).run (runSession session turns)).value = .ok ()) :
    let created := ((Session.create slot desc formats).run (runSession session turns)).state
    ∃ id, (created.texture slot).resource = some id ∧
      ∀ later : List SessionTurn, Obeying .recording created later → ∀ owner,
        ((runSession created later).texture owner).resource = some id →
          (runSession created later).context.device.LeadsTo id
            (stateLayout ((runSession created later).texture owner).state) := by
  obtain ⟨device, context, hopened, hcontext, rfl⟩ := h
  have hvalid : Valid .recording (Work.opened device) := valid_opened hopened hscript
  obtain ⟨roster, hheld⟩ := holds_run (held_opened hvalid hcontext) hturns
  have hcreated := held_create hheld slot desc formats _ rfl
  rw [show ((Session.create slot desc formats).act.run _).value = _ from hmade] at hcreated
  obtain ⟨id, after, hid, hafter, hfollowed⟩ := hcreated
  refine ⟨id, hid, fun later hlater owner howner => ?_⟩
  obtain ⟨last, hlast, hstill⟩ := hafter.followed (hfollowed trivial) hlater
  exact hlast.leadsTo trivial (.opened hopened) (.opened hopened) (.opened hopened)
    (.opened hopened)
    howner (hstill (.texture owner) howner)

/-- The texture moves to another slot, the fence of a submission cannot be read, and a copy goes
in. -/
theorem layout_follows_created_texture_moved :
    let script : Operation → List ResultCode := fun operation =>
      match operation with
      | .getFenceStatus => [⟨-4⟩]
      | _ => []
    let config : Config :=
      { streamSize := 128, shaderResourceSlots := 4, renderTargetSlots := 4
        depthStencilSlots := 4 }
    let desc : TextureDesc :=
      { width := 2, height := 1, layers := 1, levels := 1, samples := 1, format := .rgba8Unorm }
    let session := openingSession script false config
    let turns : List SessionTurn := [.operation (.createBuffer 0 64)]
    let created := ((Session.create 0 desc {}).run (runSession session turns)).state
    let later : List SessionTurn := [.operation (.takeTexture 0 1), .operation (.submit false),
      .operation (.copyFromBuffer 1 ⟨0, 0, 2, 1⟩ 8 ⟨2⟩ 0), .operation (.transition 1 .copyDest)]
    SessionOpened script config session ∧
      (∀ operation ∈ Operation.ofCommands,
        ∀ answer ∈ script operation, answer.failure? = none) ∧
      Obeying .recording session turns ∧
      ((Session.create 0 desc {}).run (runSession session turns)).value = .ok () ∧
      Obeying .recording created later ∧
      ((runSession created later).texture 1).resource = some ⟨3⟩ ∧
      (runSession created later).context.device.LeadsTo ⟨3⟩ .transferDestination := by
  intro script config desc session turns created later
  have hopened : SessionOpened script config session := by
    subst session config script
    exact sessionOpened_opening rfl rfl
  have hscript : ∀ operation ∈ Operation.ofCommands,
      ∀ answer ∈ script operation, answer.failure? = none := by decide
  have hturns : Obeying .recording session turns := ⟨⟨False.elim, fun _ => trivial⟩, trivial⟩
  have hlater : Obeying .recording created later :=
    ⟨⟨False.elim, fun _ => trivial⟩, ⟨False.elim, fun _ => trivial⟩, ⟨False.elim, fun _ => trivial⟩,
      ⟨False.elim, fun _ => trivial⟩, trivial⟩
  have hmade : ((Session.create 0 desc {}).run (runSession session turns)).value = .ok () := by
    decide +kernel
  have hcreated : (created.texture 0).resource = some ⟨3⟩ := by decide +kernel
  have howner : ((runSession created later).texture 1).resource = some ⟨3⟩ := by decide +kernel
  have hstate :
      stateLayout ((runSession created later).texture 1).state = .transferDestination := by
    decide +kernel
  obtain ⟨id, hid, hleads⟩ := layout_follows_created_texture hopened hscript turns hturns 0 desc
    {} hmade
  obtain rfl : id = ⟨3⟩ := Option.some.inj (hid.symm.trans hcreated)
  rw [show ((Session.create 0 desc {}).run (runSession session turns)).state = created from rfl]
    at hleads
  have hends := hleads later hlater 1 howner
  rw [hstate] at hends
  exact ⟨hopened, hscript, hturns, hmade, hlater, howner, hends⟩

/-- Without a command buffer a barrier is left out, and the texture takes on the state all the
same. -/
theorem layout_stays_without_command_buffer :
    let config : Config :=
      { streamSize := 128, shaderResourceSlots := 4, renderTargetSlots := 4
        depthStencilSlots := 4 }
    let desc : TextureDesc :=
      { width := 2, height := 1, layers := 1, levels := 1, samples := 1, format := .rgba8Unorm }
    let session := openingSession (fun _ => []) false config
    let created := ((Session.create 0 desc {}).run session).state
    let now := runSession created [.operation (.submit false),
      .move (.plan .allocateCommandBuffers [⟨-2⟩]), .operation (.transition 0 .copyDest)]
    SessionOpened (fun _ => []) config session ∧
      ((Session.create 0 desc {}).run session).value = .ok () ∧
      (now.texture 0).resource = some ⟨2⟩ ∧ (now.texture 0).state = .copyDest ∧
      ¬now.context.device.LeadsTo ⟨2⟩ (stateLayout (now.texture 0).state) := by
  intro config desc session created now
  refine ⟨?_, by decide +kernel, by decide +kernel, by decide +kernel, ?_⟩
  · subst session config
    exact sessionOpened_opening rfl rfl
  rintro ⟨image, memory, made, hfound, hleads⟩
  have himage : (now.context.device.resources.get? ⟨2⟩).map Resource.object =
      some ⟨.image, 1⟩ := by decide +kernel
  have hstays : layoutAfter 1 now.context.device.commands = some .shaderReadOnly := by
    decide +kernel
  have hstate : stateLayout (now.texture 0).state = .transferDestination := by decide +kernel
  rw [hfound] at himage
  obtain rfl : image = 1 := (Object.mk.inj (Option.some.inj himage)).2
  rw [hstays, hstate] at hleads
  exact nomatch hleads

/-- A command buffer that does not reach the queue takes its barriers with it, and the texture keeps
the state all the same. -/
example :
    let config : Config :=
      { streamSize := 128, shaderResourceSlots := 4, renderTargetSlots := 4
        depthStencilSlots := 4 }
    let desc : TextureDesc :=
      { width := 2, height := 1, layers := 1, levels := 1, samples := 1, format := .rgba8Unorm }
    let created :=
      ((Session.create 0 desc {}).run (openingSession (fun _ => []) false config)).state
    let now := runSession created [.move (.plan .createFence [⟨-2⟩]), .operation (.submit false)]
    (now.texture 0).state = .pixelShaderResource ∧
      layoutAfter 1 created.context.device.commands = some .shaderReadOnly ∧
      layoutAfter 1 now.context.device.commands = some .undefined := by
  decide +kernel

end Texel.Vulkan
