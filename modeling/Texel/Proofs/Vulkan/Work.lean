import Mathlib.Logic.Relation
import Texel.Proofs.Table
import Texel.Proofs.Vulkan.History
import Texel.Proofs.Vulkan.Roster
import Texel.Vulkan.Device

namespace Texel.Vulkan

/-- The native objects that a resource owns, in the order they are freed. -/
def Resource.objects : Resource → List Object
  | .image _ none _ => []
  | .image handle (some memory) _ => [⟨.memory, memory⟩, ⟨.image, handle⟩]
  | .buffer handle memory _ => [⟨.memory, memory⟩, ⟨.buffer, handle⟩]

/-- The native object that commands refer to. -/
def Resource.object : Resource → Object
  | .image handle _ _ => ⟨.image, handle⟩
  | .buffer handle _ _ => ⟨.buffer, handle⟩

/-- A resource owns the object that commands refer to, unless it is an image of someone else. -/
theorem Resource.object_mem_objects {resource : Resource}
    (h : ∀ image desc, resource ≠ .image image none desc) : resource.object ∈ resource.objects := by
  cases resource with
  | image image memory desc =>
    cases memory with
    | none => exact absurd rfl (h image desc)
    | some memory => simp [object, objects]
  | buffer buffer memory size => simp [object, objects]

/-- The native objects that a submission owns, in the order they are freed. -/
def Submission.objects (submission : Submission) : List Object :=
  submission.fence.toList.map (Object.mk .fence) ++
    (submission.commandBuffer.toList.map (Object.mk .commandBuffer) ++
      submission.parked.flatMap Resource.objects)

namespace VulkanDevice

/-- The native objects that a device owns, its command pool apart. -/
def objects (device : VulkanDevice) : List Object :=
  device.resources.gather Resource.objects ++ device.views.gather (fun view => [⟨.view, view⟩]) ++
    device.recording.toList.map (Object.mk .commandBuffer) ++
    device.parked.flatMap Resource.objects ++ device.inFlight.flatMap Submission.objects

/-- The device after one more event. -/
def note (device : VulkanDevice) (event : Event) : VulkanDevice :=
  { device with native := device.native.note event }

/-- The device with one more resource that the recorded commands refer to. -/
def referTo (device : VulkanDevice) (id : ResourceId) : VulkanDevice :=
  { device with referenced := if id ∈ device.referenced then device.referenced
      else id :: device.referenced }

theorem mem_referenced_referTo (device : VulkanDevice) (id : ResourceId) :
    id ∈ (device.referTo id).referenced := by
  by_cases h : id ∈ device.referenced <;> simp [referTo, h]

theorem referenced_subset_referTo (device : VulkanDevice) (id : ResourceId) :
    device.referenced ⊆ (device.referTo id).referenced := by
  by_cases h : id ∈ device.referenced <;> simp [referTo, h]

/-- What was recorded, as work under the current fence value. -/
def recorded (device : VulkanDevice) : Submission where
  fenceValue := device.currentFence
  fence := none
  commandBuffer := device.recording
  parked := device.parked

/-- The device with what was recorded taken out, ready to record under the next fence value. -/
def turned (device : VulkanDevice) : VulkanDevice :=
  { device with
    currentFence := device.currentFence + 1, recording := none, referenced := [], parked := [] }

/-- The device with one more resource. -/
def holding (device : VulkanDevice) (resource : Resource) : VulkanDevice :=
  { device with
    nextId := device.nextId + 1
    resources := device.resources.insert ⟨device.nextId⟩ resource }

/-- The device with one resource less. -/
def without (device : VulkanDevice) (id : ResourceId) : VulkanDevice :=
  { device with resources := device.resources.erase id }

end VulkanDevice

/-- The operations of the implementation that commands need to be recorded and to run. -/
def Operation.ofCommands : List Operation :=
  [.allocateCommandBuffers, .beginCommandBuffer, .createFence, .queueSubmit]

/-- What may be taken for granted along a chain of steps. -/
structure Rules where
  /-- Operations of the implementation that are never told to fail. -/
  reliable : Operation → Prop
  /-- Resources are freed only after the work that was submitted with them, and no command refers to
  one that was given up. -/
  careful : Prop
  /-- Barriers start from the layout that is followed for their image. None is left out, and each
  comes to the queue. -/
  tracked : Prop
  careful_idle : careful → reliable .deviceWaitIdle
  tracked_commands : tracked → ∀ operation ∈ Operation.ofCommands, reliable operation

/-- What is on its way in the course of an operation, and what the callers know. -/
structure Holding where
  /-- Objects just made. -/
  hand : List Object
  /-- Objects to be freed, the next one first. -/
  waste : List Object := []
  /-- Recorded work on its way to the queue. -/
  transit : Option Submission := none
  roster : Roster

/-- A device in the course of an operation. -/
structure Work where
  device : VulkanDevice
  holding : Holding

/-- Every native object that is in someone's place. -/
def Work.objects (work : Work) : List Object :=
  work.holding.hand ++ work.holding.waste ++
    work.holding.transit.toList.flatMap Submission.objects ++ work.device.objects

/-- The implementation has the same history and fences, and fails no reliable operation that it did
not fail before. -/
structure Native.Resumes (rules : Rules) (before after : Native) : Prop where
  history : after.history = before.history
  waiting : after.waiting = before.waiting
  signalled : after.signalled = before.signalled
  last : ∀ kind, before.last kind ≤ after.last kind
  script : ∀ operation, rules.reliable operation →
    (∀ answer ∈ before.script operation, answer.failure? = none) →
    ∀ answer ∈ after.script operation, answer.failure? = none

/-- What the implementation does of its own accord is not in the history of objects. -/
theorem Native.Resumes.roles {rules : Rules} {before after : Native}
    (h : before.Resumes rules after) : after.roles = before.roles := by
  rw [Native.roles, h.history, Native.roles]

/-- An image that belongs to someone else is one that the implementation has made, but not for this
device. -/
def Native.Foreign (native : Native) (image : Nat) : Prop :=
  image ≤ native.images ∧ ⟨.image, image⟩ ∉ Role.made native.roles

/-- One step of a device. -/
inductive Step (rules : Rules) : Work → Work → Prop where
  /-- Answers are given and planned, and objects are made for others. -/
  | resumed {device holding} (native : Native) (h : device.native.Resumes rules native) :
    Step rules ⟨device, holding⟩ ⟨{ device with native }, holding⟩
  | noted {device holding} (event : Event) (h : event.role = .nothing) :
    Step rules ⟨device, holding⟩ ⟨device.note event, holding⟩
  | signalled {device holding} (fence : Nat) (h : fence ∈ device.native.waiting) :
    Step rules ⟨device, holding⟩
      ⟨{ device with native := { device.native with
          waiting := device.native.waiting.filter (· ≠ fence)
          signalled := device.native.signalled ++ [fence]
          history := device.native.history.push (.fenceSignalled fence) } }, holding⟩
  /-- A new object has the next handle of its kind. -/
  | made {device holding} (kind : ObjectKind) (event : Event)
      (h : event.role = .makes ⟨kind, device.native.last kind + 1⟩) :
    Step rules ⟨device, holding⟩
      ⟨{ device with native := (device.native.advance kind).note event },
        { holding with hand := ⟨kind, device.native.last kind + 1⟩ :: holding.hand }⟩
  /-- New objects that are of no use. -/
  | discarded {device holding rest} (objects : List Object) (h : holding.hand = objects ++ rest) :
    Step rules ⟨device, holding⟩
      ⟨device, { holding with hand := rest, waste := objects ++ holding.waste }⟩
  | freed {device holding object rest} (event : Event) (h : holding.waste = object :: rest)
      (hevent : event.role = .frees object) :
    Step rules ⟨device, holding⟩ ⟨device.note event, { holding with waste := rest }⟩
  /-- Objects are freed in any order. -/
  | sorted {device holding waste} (h : holding.waste.Perm waste) :
    Step rules ⟨device, holding⟩ ⟨device, { holding with waste }⟩
  /-- A new command buffer takes commands from now on. -/
  | begun {device holding commandBuffer rest} (event : Event) (hidle : device.recording = none)
      (h : holding.hand = ⟨.commandBuffer, commandBuffer⟩ :: rest)
      (hevent : event.role = .begins commandBuffer) :
    Step rules ⟨device, holding⟩
      ⟨{ device.note event with recording := some commandBuffer }, { holding with hand := rest }⟩
  /-- The command buffer being recorded is freed, and its commands are lost. -/
  | cancelled {device holding commandBuffer} (event : Event)
      (h : device.recording = some commandBuffer) (hlost : ¬rules.tracked)
      (hevent : event.role = .frees ⟨.commandBuffer, commandBuffer⟩) :
    Step rules ⟨device, holding⟩ ⟨{ device.note event with recording := none }, holding⟩
  | barrier {device holding commandBuffer id image memory desc} (barrier : ImageBarrier)
      (hrecording : device.recording = some commandBuffer)
      (hfound : device.resources.get? id = some (.image image memory desc))
      (himage : barrier.image = image) (hlive : rules.careful → holding.roster.Live id)
      (hlayout : rules.tracked → ∀ layout, holding.roster.layout? id = some layout →
        barrier.oldLayout = layout) :
    Step rules ⟨device, holding⟩
      ⟨(device.note (.call (.pipelineBarrier commandBuffer barrier))).referTo id,
        { holding with roster := holding.roster.move id barrier.newLayout }⟩
  | copied {device holding commandBuffer source destination buffer memory size image memory' desc}
      (copy : ImageCopy) (hrecording : device.recording = some commandBuffer)
      (hsource : device.resources.get? source = some (.buffer buffer memory size))
      (hdestination : device.resources.get? destination = some (.image image memory' desc))
      (hbuffer : copy.buffer = buffer) (himage : copy.image = image)
      (hlive : rules.careful → holding.roster.Live source ∧ holding.roster.Live destination)
      (hlayout : rules.tracked → ∀ layout, holding.roster.layout? destination = some layout →
        layout = .transferDestination) :
    Step rules ⟨device, holding⟩
      ⟨((device.note (.call (.copyBufferToImage commandBuffer copy))).referTo source).referTo
        destination, holding⟩
  /-- What was recorded leaves for the queue under the current fence value. -/
  | ended {device holding commandBuffer} (event : Event)
      (hrecording : device.recording = some commandBuffer)
      (hevent : event.role = .ends commandBuffer) (h : holding.transit = none) :
    Step rules ⟨device, holding⟩
      ⟨device.turned.note event, { holding with
        transit := some device.recorded
        roster := { holding.roster with fence := holding.roster.fence + 1 } }⟩
  /-- The same when no command buffer was begun. -/
  | turned {device holding} (hrecording : device.recording = none) (h : holding.transit = none) :
    Step rules ⟨device, holding⟩
      ⟨device.turned, { holding with
        transit := some device.recorded
        roster := { holding.roster with fence := holding.roster.fence + 1 } }⟩
  | submitted {device holding fence rest submission} (event : Event)
      (hhand : holding.hand = ⟨.fence, fence⟩ :: rest)
      (htransit : holding.transit = some submission) (hfence : submission.fence = none)
      (hevent : event.role = .submits submission.commandBuffer fence) :
    Step rules ⟨device, holding⟩
      ⟨{ device with
          native := { device.native.note event with waiting := device.native.waiting ++ [fence] }
          inFlight := device.inFlight ++ [{ submission with fence := some fence }] },
        { holding with
          hand := rest
          transit := none
          roster := { holding.roster with
            accepted := holding.roster.accepted ++ [(submission.fenceValue, fence)] } }⟩
  /-- Work that does not reach the queue is given up after all other work has finished. -/
  | abandoned {device holding submission} (htransit : holding.transit = some submission)
      (hlost : ¬rules.tracked)
      (hidle : rules.reliable .deviceWaitIdle → device.native.waiting = []) :
    Step rules ⟨device, holding⟩
      ⟨device, { holding with
        waste := submission.objects ++ holding.waste
        transit := none
        roster := { holding.roster.pass submission.fenceValue with lagging := true } }⟩
  /-- Work at the front of the queue that has finished is taken out. -/
  | popped {device holding submission rest} (h : device.inFlight = submission :: rest)
      (hfinished : (∃ fence, submission.fence = some fence ∧ fence ∈ device.native.signalled) ∨
        (rules.reliable .deviceWaitIdle → device.native.waiting = [])) :
    Step rules ⟨device, holding⟩
      ⟨{ device with inFlight := rest }, { holding with
        waste := submission.objects ++ holding.waste
        roster := holding.roster.pass submission.fenceValue }⟩
  | completed {device holding} (value : Nat) (h : value ≤ holding.roster.passed) :
    Step rules ⟨device, holding⟩
      ⟨{ device with completedFence := max device.completedFence value }, holding⟩
  /-- All submitted work is seen to have finished. -/
  | passed {device holding} (htransit : holding.transit = none)
      (hidle : rules.reliable .deviceWaitIdle → device.native.waiting = []) :
    Step rules ⟨device, holding⟩
      ⟨device, { holding with
        roster := { holding.roster.pass (holding.roster.fence - 1) with lagging := true } }⟩
  /-- No submission in the queue is known to have finished. -/
  | settled {device holding}
      (h : ∀ submission rest, device.inFlight = submission :: rest →
        holding.roster.passed < submission.fenceValue) :
    Step rules ⟨device, holding⟩
      ⟨device, { holding with roster := { holding.roster with lagging := false } }⟩
  /-- A resource is made of new objects or of an image that belongs to someone else. Only the layout
  of a new image is followed. -/
  | registered {device holding rest} (resource : Resource) (layout? : Option ImageLayout)
      (h : holding.hand = resource.objects ++ rest)
      (hforeign : rules.careful ∨ rules.tracked → ∀ image desc, resource = .image image none desc →
        device.native.Foreign image)
      (hlayout : ∀ layout, layout? = some layout → layout = .undefined ∧ rules.tracked ∧
        ∃ image memory desc, resource = .image image (some memory) desc) :
    Step rules ⟨device, holding⟩
      ⟨device.holding resource, { holding with
        hand := rest
        roster := holding.roster.enroll ⟨device.nextId⟩ layout? }⟩
  /-- A resource that the recorded commands refer to goes with them. -/
  | parked {device holding id resource} (hfound : device.resources.get? id = some resource)
      (hreferenced : id ∈ device.referenced)
      (htransit : holding.transit = none) (hsettled : rules.careful → holding.roster.Settled id) :
    Step rules ⟨device, holding⟩
      ⟨{ device.without id with parked := device.parked ++ [resource] },
        { holding with roster := holding.roster.expel id }⟩
  | removed {device holding id resource} (hfound : device.resources.get? id = some resource)
      (hreferenced : id ∉ device.referenced)
      (htransit : holding.transit = none) (hsettled : rules.careful → holding.roster.Settled id) :
    Step rules ⟨device, holding⟩
      ⟨device.without id, { holding with
        waste := resource.objects ++ holding.waste
        roster := holding.roster.expel id }⟩
  | viewed {device holding view rest} (slot : Slot) (h : holding.hand = ⟨.view, view⟩ :: rest) :
    Step rules ⟨device, holding⟩
      ⟨{ device with views := device.views.insert slot view }, { holding with
        hand := rest
        waste := (device.views.get? slot).toList.map (Object.mk .view) ++ holding.waste }⟩
  | unviewed {device holding view} (slot : Slot) (h : device.views.get? slot = some view) :
    Step rules ⟨device, holding⟩
      ⟨{ device with views := device.views.erase slot }, { holding with
        waste := ⟨.view, view⟩ :: holding.waste }⟩
  /-- The device gives up what was parked. -/
  | unparked {device holding} (h : device.recording = none) :
    Step rules ⟨device, holding⟩
      ⟨{ device with parked := [] }, { holding with
        waste := device.parked.flatMap Resource.objects ++ holding.waste }⟩
  /-- The device gives up its views. -/
  | blinded {device holding} :
    Step rules ⟨device, holding⟩
      ⟨{ device with views := {} }, { holding with
        waste := device.views.gather (fun view => [⟨.view, view⟩]) ++ holding.waste }⟩
  /-- The device gives up its resources. -/
  | vacated {device holding} (hrecording : device.recording = none)
      (hinFlight : device.inFlight = []) (htransit : holding.transit = none) :
    Step rules ⟨device, holding⟩
      ⟨{ device with resources := {} }, { holding with
        waste := device.resources.gather Resource.objects ++ holding.waste
        roster := { holding.roster with tenure? := fun _ => none } }⟩
  /-- A caller gives up a resource. -/
  | retired {device holding} (id : ResourceId) :
    Step rules ⟨device, holding⟩
      ⟨device, { holding with roster := holding.roster.retire id }⟩

/-- What has happened stays in the history. -/
theorem Step.roles_prefix {rules : Rules} {before after : Work} (h : Step rules before after) :
    before.device.native.roles <+: after.device.native.roles := by
  have hnote : ∀ (native : Native) (event : Event), native.roles <+: (native.note event).roles :=
    fun native event => Native.roles_note native event ▸ List.prefix_append _ _
  cases h with
  | resumed native hnative => exact hnative.roles ▸ List.prefix_refl _
  | noted event | freed event | begun event | cancelled event | ended event | submitted event =>
    exact hnote _ event
  | signalled fence => exact hnote _ (.fenceSignalled fence)
  | made kind event => exact Native.roles_advance _ kind ▸ hnote _ event
  | barrier | copied => exact hnote _ (.call _)
  | _ => exact List.prefix_refl _

/-- An image of someone else stays that. -/
theorem Step.foreign {rules : Rules} {before after : Work} {image : Nat}
    (h : Step rules before after) (hforeign : before.device.native.Foreign image) :
    after.device.native.Foreign image := by
  obtain ⟨hmade, hnot⟩ := hforeign
  have hnote : ∀ (native : Native) (event : Event), event.role.made? = none →
      image ≤ native.images → ⟨.image, image⟩ ∉ Role.made native.roles →
      (native.note event).Foreign image := by
    intro native event hevent hbound hunmade
    have hnone : Role.made [event.role] = [] := by simp [Role.made, hevent]
    refine ⟨hbound, ?_⟩
    rwa [Native.roles_note, Role.made_append, hnone, List.append_nil]
  cases h with
  | resumed native hnative =>
    exact ⟨Nat.le_trans hmade (hnative.last .image), hnative.roles.symm ▸ hnot⟩
  | noted event hevent => exact hnote _ event (by rw [hevent]; rfl) hmade hnot
  | freed event hwaste hevent => exact hnote _ event (by rw [hevent]; rfl) hmade hnot
  | begun event hidle hhand hevent => exact hnote _ event (by rw [hevent]; rfl) hmade hnot
  | cancelled event hrecording hlost hevent => exact hnote _ event (by rw [hevent]; rfl) hmade hnot
  | ended event hrecording hevent => exact hnote _ event (by rw [hevent]; rfl) hmade hnot
  | submitted event hhand htransit hfence hevent =>
    exact hnote _ event (by rw [hevent]; rfl) hmade hnot
  | signalled fence => exact hnote _ (.fenceSignalled fence) rfl hmade hnot
  | barrier | copied => exact hnote _ (.call _) rfl hmade hnot
  | @made device holding kind event hevent =>
    refine ⟨Nat.le_trans hmade ?_, ?_⟩
    · change device.native.last .image ≤ (device.native.advance kind).last .image
      exact Native.last_advance device.native kind .image ▸ Nat.le_add_right _ _
    · have hone : Role.made [event.role] = [⟨kind, device.native.last kind + 1⟩] := by
        simp [Role.made, hevent, Role.made?]
      rw [Native.roles_note, Role.made_append, hone, Native.roles_advance]
      intro hmem
      rcases List.mem_append.mp hmem with hold | hnew
      · exact hnot hold
      · obtain ⟨rfl, rfl⟩ := Object.mk.inj (List.mem_singleton.mp hnew)
        exact Nat.not_succ_le_self _ hmade
  | _ => exact ⟨hmade, hnot⟩

/-- What holds of every device, however it is used. -/
structure Valid (rules : Rules) (work : Work) : Prop where
  trusted : ∀ operation, rules.reliable operation →
    ∀ answer ∈ work.device.native.script operation, answer.failure? = none
  fenced : ∀ submission ∈ work.device.inFlight, ∃ fence, submission.fence = some fence ∧
    (fence ∈ work.device.native.waiting ∨ fence ∈ work.device.native.signalled)
  fence : work.holding.roster.fence = work.device.currentFence
  completed : work.device.completedFence ≤ work.holding.roster.passed
  known : ∀ id tenure, work.holding.roster.tenure? id = some tenure → id.raw < work.device.nextId
  listed : ∀ id, (∃ resource, work.device.resources.get? id = some resource) ↔
    ∃ tenure, work.holding.roster.tenure? id = some tenure ∧ tenure.gone = false
  imaged : ∀ id layout, work.holding.roster.layout? id = some layout → rules.tracked ∧
    ∃ image memory desc, work.device.resources.get? id = some (.image image (some memory) desc)

namespace Valid

variable {rules : Rules} {before after : Work}

/-- The next identifier is not in use. -/
theorem get?_nextId {work : Work} (h : Valid rules work) :
    work.device.resources.get? ⟨work.device.nextId⟩ = none := by
  refine Option.eq_none_iff_forall_ne_some.mpr fun resource hfound => ?_
  obtain ⟨tenure, htenure, -⟩ := (h.listed _).mp ⟨resource, hfound⟩
  exact Nat.lt_irrefl work.device.nextId (h.known _ tenure htenure)

/-- A change of what is known of a resource that leaves it in the device. -/
private theorem listed_amend {work : Work} (h : Valid rules work) {id : ResourceId}
    {change : Tenure → Tenure} (hgone : ∀ tenure, (change tenure).gone = tenure.gone)
    (other : ResourceId) :
    (∃ resource, work.device.resources.get? other = some resource) ↔
      ∃ tenure, (work.holding.roster.amend id change).tenure? other = some tenure ∧
        tenure.gone = false := by
  rw [h.listed other, Roster.tenure?_amend]
  split
  · cases work.holding.roster.tenure? other <;> simp [hgone]
  · rfl

private theorem known_amend {work : Work} (h : Valid rules work) {id : ResourceId}
    {change : Tenure → Tenure} (other : ResourceId) (tenure : Tenure)
    (hfound : (work.holding.roster.amend id change).tenure? other = some tenure) :
    other.raw < work.device.nextId := by
  rcases Roster.of_tenure?_amend hfound with ⟨-, hold⟩ | ⟨rfl, old, hold, -⟩
  · exact h.known other tenure hold
  · exact h.known other old hold

/-- A resource that the device has no longer. -/
private theorem expelled {device : VulkanDevice} {holding : Holding}
    (h : Valid rules ⟨device, holding⟩) {id : ResourceId} :
    Valid rules ⟨device.without id, { holding with roster := holding.roster.expel id }⟩ := by
  refine { h with known := known_amend h, listed := ?_, imaged := ?_ }
  · intro other
    rw [VulkanDevice.without, Table.get?_erase, Roster.expel, Roster.tenure?_amend]
    split
    · cases holding.roster.tenure? other <;> simp
    · exact h.listed other
  · intro other layout hother
    rw [Roster.layout?_expel] at hother
    rw [VulkanDevice.without, Table.get?_erase]
    split at hother
    · cases hother
    · next hne =>
      rw [if_neg hne]
      exact h.imaged other layout hother

/-- Every step keeps the work in order. -/
theorem step (h : Valid rules before) (hstep : Step rules before after) : Valid rules after := by
  cases hstep with
  | resumed native hnative =>
    refine { h with trusted := ?_, fenced := ?_ }
    · exact fun operation hreliable => hnative.script operation hreliable (h.trusted _ hreliable)
    · rw [hnative.waiting, hnative.signalled]
      exact h.fenced
  | noted | discarded | freed | sorted | begun | cancelled | settled | viewed | unviewed |
    unparked | blinded => exact { h with }
  | abandoned | passed =>
    exact { h with completed := Nat.le_trans h.completed (Nat.le_max_left _ _) }
  | completed value hvalue => exact { h with completed := Nat.max_le.mpr ⟨h.completed, hvalue⟩ }
  | signalled fence hfence =>
    refine { h with fenced := fun submission hsubmission => ?_ }
    obtain ⟨found, hfound, hstate⟩ := h.fenced submission hsubmission
    refine ⟨found, hfound, ?_⟩
    by_cases heq : found = fence
    · exact .inr (List.mem_append_right _ (heq ▸ List.mem_singleton_self _))
    · refine hstate.imp (fun hwaiting => List.mem_filter.mpr ⟨hwaiting, ?_⟩)
        (List.mem_append_left _)
      simpa using heq
  | made kind event hevent =>
    refine { h with trusted := ?_, fenced := ?_ }
    · simpa using h.trusted
    · simpa using h.fenced
  | barrier barrier hrecording hfound himage hlive hlayout =>
    refine { h with known := known_amend h, listed := listed_amend h fun _ => rfl, imaged := ?_ }
    intro other layout hother
    rw [Roster.layout?_move] at hother
    split at hother
    · next heq =>
      subst heq
      obtain ⟨_, hold, -⟩ := Option.map_eq_some_iff.mp hother
      exact h.imaged other _ hold
    · exact h.imaged other layout hother
  | copied => exact { h with }
  | ended | turned => exact { h with fence := congrArg (· + 1) h.fence }
  | submitted event hhand htransit hfence hevent =>
    refine { h with fenced := fun submission hsubmission => ?_ }
    rcases List.mem_append.mp hsubmission with hold | hnew
    · obtain ⟨found, hfound, hstate⟩ := h.fenced submission hold
      exact ⟨found, hfound, hstate.imp_left (List.mem_append_left _)⟩
    · obtain rfl := List.mem_singleton.mp hnew
      exact ⟨_, rfl, .inl (List.mem_append_right _ (List.mem_singleton_self _))⟩
  | popped hfront hfinished =>
    refine { h with
      completed := Nat.le_trans h.completed (Nat.le_max_left _ _)
      fenced := fun submission hsubmission => h.fenced submission ?_ }
    rw [hfront]
    exact List.mem_cons_of_mem _ hsubmission
  | @registered device holding rest resource layout? hhand hforeign hlayout =>
    refine { h with known := ?_, listed := ?_, imaged := ?_ }
    · intro other tenure hother
      rw [Roster.tenure?_enroll] at hother
      split at hother
      · next heq =>
        subst heq
        exact Nat.lt_succ_self device.nextId
      · exact Nat.lt_succ_of_lt (h.known other tenure hother)
    · intro other
      rw [VulkanDevice.holding, Table.get?_insert, Roster.tenure?_enroll]
      split
      · simp
      · exact h.listed other
    · intro other layout hother
      rw [Roster.layout?_enroll] at hother
      rw [VulkanDevice.holding, Table.get?_insert]
      split at hother
      · next heq =>
        obtain ⟨-, htracked, image, memory, desc, rfl⟩ := hlayout layout hother
        exact ⟨htracked, image, memory, desc, if_pos heq⟩
      · next hne =>
        rw [if_neg hne]
        exact h.imaged other layout hother
  | parked hfound hreferenced htransit hsettled => exact { expelled h with }
  | removed hfound hreferenced htransit hsettled => exact { expelled h with }
  | vacated =>
    refine { h with known := ?_, listed := fun other => ⟨?_, ?_⟩, imaged := ?_ }
    · rintro _ _ ⟨⟩
    · rintro ⟨_, ⟨⟩⟩
    · rintro ⟨_, ⟨⟩, _⟩
    · rintro _ _ ⟨⟩
  | retired id =>
    refine { h with known := known_amend h, listed := listed_amend h fun _ => rfl, imaged := ?_ }
    simpa using h.imaged

end Valid

/-- Images without memory of their own belong to someone else. -/
def Imports (work : Work) : Prop :=
  ∀ id image desc, work.device.resources.get? id = some (.image image none desc) →
    work.device.native.Foreign image

/-- Every step keeps imported images apart from those that the device made. -/
theorem Imports.step {rules : Rules} {before after : Work} (h : Imports before)
    (hrules : rules.careful ∨ rules.tracked) (hstep : Step rules before after) :
    Imports after := by
  intro id image desc hfound
  have hold : before.device.resources.get? id = some (.image image none desc) →
      after.device.native.Foreign image := fun hget => hstep.foreign (h id image desc hget)
  cases hstep with
  | @registered device holding rest resource layout? hhand himported =>
    rw [VulkanDevice.holding, Table.get?_insert] at hfound
    split at hfound
    · exact himported hrules image desc (Option.some.inj hfound)
    · exact hold hfound
  | parked | removed =>
    rw [VulkanDevice.without, Table.get?_erase] at hfound
    split at hfound
    · cases hfound
    · exact hold hfound
  | vacated => cases hfound
  | _ => exact hold hfound

/-- The device is reached from a valid start by steps. -/
structure Reaches (rules : Rules) (start : Work) (holding : Holding) (device : VulkanDevice) :
    Prop where
  valid : Valid rules start
  path : Relation.ReflTransGen (Step rules) start ⟨device, holding⟩

namespace Reaches

variable {rules : Rules} {start : Work} {holding after : Holding} {device next : VulkanDevice}

/-- No step is a chain. -/
theorem refl (h : Valid rules start) : Reaches rules start start.holding start.device :=
  ⟨h, .refl⟩

/-- One more step makes a longer chain. -/
theorem step (h : Reaches rules start holding device)
    (hstep : Step rules ⟨device, holding⟩ ⟨next, after⟩) : Reaches rules start after next :=
  ⟨h.valid, h.path.tail hstep⟩

/-- What each step preserves holds of all that is reached. -/
theorem induction {P : Work → Prop} (h : Reaches rules start holding device) (hstart : P start)
    (hstep : ∀ before after, P before → Step rules before after → P after) :
    P ⟨device, holding⟩ := by
  have hall : ∀ work, Relation.ReflTransGen (Step rules) start work → P work := by
    intro work path
    induction path with
    | refl => exact hstart
    | tail _ hlast ih => exact hstep _ _ ih hlast
  exact hall _ h.path

/-- The work is in order at the end of every chain. -/
theorem validNow (h : Reaches rules start holding device) : Valid rules ⟨device, holding⟩ :=
  h.induction h.valid fun _ _ => Valid.step

end Reaches

end Texel.Vulkan
