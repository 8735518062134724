import Texel.Proofs.Vulkan.Accounts
import Texel.Proofs.Vulkan.Completion

namespace Texel.Vulkan

/-- Commands go into the command buffer being recorded, and the queue holds those that may have yet
to run. -/
structure Commands (work : Work) : Prop where
  written : ∀ commandBuffer objects, .names commandBuffer objects ∈ work.device.native.roles →
    commandBuffer ≤ work.device.native.last .commandBuffer
  /-- A command buffer that was just made is empty. -/
  blank : ∀ commandBuffer objects, ⟨.commandBuffer, commandBuffer⟩ ∈ work.holding.hand →
    .names commandBuffer objects ∉ work.device.native.roles
  recording : ∀ commandBuffer, Role.Recording work.device.native.roles commandBuffer →
    work.device.recording = some commandBuffer
  submitted : ∀ commandBuffer fence,
    .submits (some commandBuffer) fence ∈ work.device.native.roles →
    .signals fence ∉ work.device.native.roles →
    ∃ submission ∈ work.device.inFlight,
      submission.commandBuffer = some commandBuffer ∧ submission.fence = some fence

namespace Commands

variable {rules : Rules} {device : VulkanDevice} {holding : Holding} {before after : Work}

/-- An event of no weight for commands. -/
theorem note (h : Commands ⟨device, holding⟩) (event : Event) (hevent : event.role.Idle) :
    Commands ⟨device.note event, holding⟩ := by
  have hroles : (device.note event).native.roles = device.native.roles ++ [event.role] :=
    Native.roles_note _ _
  have hold : ∀ role, ¬role.Idle → role ∈ (device.note event).native.roles →
      role ∈ device.native.roles := by
    intro role hrole hmem
    refine Role.mem_of_snoc (hroles ▸ hmem) ?_
    rintro rfl
    exact hrole hevent
  refine
    { written := fun commandBuffer objects hmem => h.written _ _ (hold _ id hmem)
      blank := fun commandBuffer objects hhand hmem => h.blank _ _ hhand (hold _ id hmem)
      recording := fun commandBuffer hrecording => h.recording commandBuffer ?_
      submitted := fun commandBuffer fence hmem hsignals =>
        h.submitted _ _ (hold _ id hmem) fun hearlier => hsignals ?_ }
  · rw [hroles] at hrecording
    exact Role.recording_of_snoc (fun heq => by rw [heq] at hevent; exact hevent) hrecording
  · exact hroles ▸ List.mem_append_left _ hearlier

/-- The command buffer being recorded takes one more command. -/
theorem record (h : Commands ⟨device, holding⟩) (haccounts : Accounts ⟨device, holding⟩)
    {commandBuffer : Nat} {objects : List Object} (event : Event)
    (hrecording : device.recording = some commandBuffer)
    (hevent : event.role = .names commandBuffer objects) :
    Commands ⟨device.note event, holding⟩ := by
  have hroles : (device.note event).native.roles =
      device.native.roles ++ [.names commandBuffer objects] := hevent ▸ Native.roles_note _ _
  have hplace : (⟨.commandBuffer, commandBuffer⟩ : Object) ∈
      device.recording.toList.map (Object.mk .commandBuffer) := by simp [hrecording]
  refine
    { written := fun other found hmem => ?_
      blank := fun other found hhand hmem => ?_
      recording := fun other hother => h.recording other ?_
      submitted := fun other fence hmem hsignals => h.submitted other fence ?_ fun hearlier =>
        hsignals (hroles ▸ List.mem_append_left _ hearlier) }
  · rcases List.mem_append.mp (hroles ▸ hmem) with hold | hnew
    · exact h.written other found hold
    · obtain ⟨rfl, -⟩ := Role.names.inj (List.mem_singleton.mp hnew)
      refine haccounts.numbered ⟨.commandBuffer, other⟩ (haccounts.mem_made ?_)
      exact List.mem_append_right _ (List.mem_append_left _ (List.mem_append_left _
        (List.mem_append_right _ hplace)))
  · rcases List.mem_append.mp (hroles ▸ hmem) with hold | hnew
    · exact h.blank other found hhand hold
    · obtain ⟨rfl, -⟩ := Role.names.inj (List.mem_singleton.mp hnew)
      exact haccounts.hand_apart hhand hplace
  · exact Role.recording_of_snoc Role.noConfusion (hroles ▸ hother)
  · exact Role.mem_of_snoc (hroles ▸ hmem) Role.noConfusion

/-- Every step keeps to those command buffers: one that begins is recorded next, and one that has
finished leaves the queue. -/
theorem step (h : Commands before) (hvalid : Valid rules before) (hclock : Clock before)
    (haccounts : Accounts before) (hreliable : rules.reliable .deviceWaitIdle)
    (hstep : Step rules before after) : Commands after := by
  cases hstep with
  | resumed native hnative =>
    refine
      { written := fun commandBuffer objects hmem =>
          Nat.le_trans (h.written _ _ (hnative.roles ▸ hmem)) (hnative.last _)
        blank := ?_
        recording := ?_
        submitted := ?_ }
    all_goals rw [hnative.roles]
    · exact h.blank
    · exact h.recording
    · exact h.submitted
  | noted event hevent => exact h.note event (by rw [hevent]; trivial)
  | signalled fence hfence => exact { h.note (.fenceSignalled fence) trivial with }
  | @made device holding kind event hevent =>
    have hadvanced : Commands ⟨{ device with native := device.native.advance kind }, holding⟩ := by
      refine
        { written := fun commandBuffer objects hmem => ?_
          blank := by simpa using h.blank
          recording := by simpa using h.recording
          submitted := by simpa using h.submitted }
      refine Nat.le_trans (h.written commandBuffer objects (by simpa using hmem)) ?_
      exact Native.last_advance device.native kind .commandBuffer ▸ Nat.le_add_right _ _
    have hnoted := hadvanced.note event (by rw [hevent]; trivial)
    refine { hnoted with blank := fun commandBuffer objects hhand hmem => ?_ }
    -- A new command buffer has a number above those of all commands so far.
    rcases List.mem_cons.mp hhand with heq | hrest
    · obtain ⟨rfl, rfl⟩ := Object.mk.inj heq
      have hroles : (((device.native.advance .commandBuffer).note event).roles) =
          device.native.roles ++ [event.role] := by simp
      have hold := Role.mem_of_snoc (hroles ▸ hmem) (by rw [hevent]; exact Role.noConfusion)
      exact absurd (h.written _ objects hold) (Nat.not_succ_le_self _)
    · exact hnoted.blank commandBuffer objects hrest hmem
  | discarded objects hhand =>
    refine { h with blank := fun commandBuffer found hmem => ?_ }
    exact h.blank commandBuffer found (hhand ▸ List.mem_append_right _ hmem)
  | freed event hwaste hevent => exact { h.note event (by rw [hevent]; trivial) with }
  | @begun device holding commandBuffer rest event hidle hhand hevent =>
    have hroles :
        (device.note event).native.roles = device.native.roles ++ [.begins commandBuffer] :=
      hevent ▸ Native.roles_note _ _
    have hold : ∀ role ∈ (device.note event).native.roles, role ≠ .begins commandBuffer →
        role ∈ device.native.roles := fun role hmem => Role.mem_of_snoc (hroles ▸ hmem)
    refine
      { written := fun other objects hmem => h.written _ _ (hold _ hmem Role.noConfusion)
        blank := fun other objects hrest hmem =>
          h.blank _ _ (hhand ▸ List.mem_cons_of_mem _ hrest) (hold _ hmem Role.noConfusion)
        recording := fun other hother => ?_
        submitted := fun other fence hmem hsignals =>
          h.submitted _ _ (hold _ hmem Role.noConfusion) fun hearlier => hsignals ?_ }
    · by_cases heq : other = commandBuffer
      · rw [heq]
      · have hearlier := Role.recording_of_snoc
          (fun hsame => heq (Role.begins.inj hsame).symm) (hroles ▸ hother)
        exact nomatch hidle.symm.trans (h.recording other hearlier)
    · exact hroles ▸ List.mem_append_left _ hearlier
  | @cancelled device holding commandBuffer event hrecording hlost hevent =>
    have hnoted := h.note event (by rw [hevent]; trivial)
    refine { hnoted with recording := fun other hother => ?_ }
    obtain rfl := Option.some.inj (hrecording.symm.trans (hnoted.recording other hother))
    exact absurd (Native.mem_roles_note hevent) hother.2.2
  | barrier barrier hrecording =>
    exact { h.record haccounts (.call (.pipelineBarrier _ barrier)) hrecording rfl with }
  | copied copy hrecording =>
    exact { h.record haccounts (.call (.copyBufferToImage _ copy)) hrecording rfl with }
  | @ended device holding commandBuffer event hrecording hevent htransit =>
    have hnoted := h.note event (by rw [hevent]; trivial)
    refine { hnoted with recording := fun other hother => ?_ }
    obtain rfl := Option.some.inj (hrecording.symm.trans (hnoted.recording other hother))
    exact absurd (Native.mem_roles_note hevent) hother.2.1
  | turned hrecording htransit =>
    refine { h with recording := fun commandBuffer hother => ?_ }
    exact nomatch hrecording.symm.trans (h.recording commandBuffer hother)
  | @submitted device holding fence rest submission event hhand htransit hfence hevent =>
    have hroles : Native.roles { device.native.note event with
        waiting := device.native.waiting ++ [fence] } =
          device.native.roles ++ [.submits submission.commandBuffer fence] :=
      hevent ▸ Native.roles_note _ _
    refine
      { written := fun other objects hmem =>
          h.written _ _ (Role.mem_of_snoc (hroles ▸ hmem) Role.noConfusion)
        blank := fun other objects hrest hmem =>
          h.blank _ _ (hhand ▸ List.mem_cons_of_mem _ hrest)
            (Role.mem_of_snoc (hroles ▸ hmem) Role.noConfusion)
        recording := fun other hother =>
          h.recording other (Role.recording_of_snoc Role.noConfusion (hroles ▸ hother))
        submitted := fun other found hmem hsignals => ?_ }
    rcases List.mem_append.mp (hroles ▸ hmem) with hold | hnew
    · obtain ⟨earlier, hearlier, hmatch⟩ :=
        h.submitted other found hold fun hdone => hsignals (hroles ▸ List.mem_append_left _ hdone)
      exact ⟨earlier, List.mem_append_left _ hearlier, hmatch⟩
    · obtain ⟨hsame, rfl⟩ := Role.submits.inj (List.mem_singleton.mp hnew)
      exact ⟨_, List.mem_append_right _ (List.mem_singleton_self _), hsame.symm, rfl⟩
  | @popped device holding submission rest hfront hfinished =>
    refine { h with submitted := fun other fence hmem hsignals => ?_ }
    obtain ⟨found, hfound, hcommands, hfence⟩ := h.submitted other fence hmem hsignals
    refine ⟨found, (List.mem_cons.mp (hfront ▸ hfound)).resolve_left ?_, hcommands, hfence⟩
    -- What is popped has finished, and `hsignals` asks about work whose fence has not signalled.
    rintro rfl
    obtain ⟨signalled, hsame, hdone⟩ := hfinished.elim id fun hidle =>
      Clock.finished hvalid (hidle hreliable) found hfound
    obtain rfl := Option.some.inj (hsame.symm.trans hfence)
    exact hsignals (hclock.signalled signalled hdone)
  | registered resource layout? hhand =>
    refine { h with blank := fun commandBuffer found hmem => ?_ }
    exact h.blank commandBuffer found (hhand ▸ List.mem_append_right _ hmem)
  | viewed slot hhand =>
    refine { h with blank := fun commandBuffer found hmem => ?_ }
    exact h.blank commandBuffer found (hhand ▸ List.mem_cons_of_mem _ hmem)
  | sorted | abandoned | completed | passed | settled | parked | removed | unviewed | unparked |
    blinded | vacated | retired => exact { h with }

end Commands

/-- Commands of a fence value that refer to an object know where it is: a resource in the table that
they may refer to owns it, or one that is parked with them, or it belongs to someone else. -/
def Work.Shelters (work : Work) (value : Nat) (within : ResourceId → Prop) (parked : List Resource)
    (object : Object) : Prop :=
  (∃ id resource, work.device.resources.get? id = some resource ∧ object ∈ resource.objects ∧
    work.holding.roster.Covers id value ∧ within id) ∨
    object ∈ parked.flatMap Resource.objects ∨
    ∃ image, object = ⟨.image, image⟩ ∧ work.device.native.Foreign image

/-- Whatever a pending command refers to is in the table of the device, is parked with the command,
or belongs to someone else. -/
structure Sheltered (work : Work) : Prop where
  since : ∀ id tenure, work.holding.roster.tenure? id = some tenure →
    tenure.since ≤ work.holding.roster.fence
  recorded : ∀ commandBuffer object, work.device.recording = some commandBuffer →
    Role.Names work.device.native.roles commandBuffer object →
    work.Shelters work.device.currentFence (· ∈ work.device.referenced) work.device.parked object
  queued : ∀ submission ∈ work.device.inFlight ++ work.holding.transit.toList,
    (∀ fence, submission.fence = some fence → fence ∉ work.device.native.signalled) →
    ∀ commandBuffer object, submission.commandBuffer = some commandBuffer →
    Role.Names work.device.native.roles commandBuffer object →
    work.Shelters submission.fenceValue (fun _ => True) submission.parked object

namespace Sheltered

variable {rules : Rules} {device : VulkanDevice} {holding : Holding} {before after : Work}

/-- The implementation goes on, with no command and no image more than before. -/
theorem resume (h : Sheltered ⟨device, holding⟩) (native : Native)
    (hnames : ∀ commandBuffer object, Role.Names native.roles commandBuffer object →
      Role.Names device.native.roles commandBuffer object)
    (hforeign : ∀ image, device.native.Foreign image → native.Foreign image)
    (hsignalled : device.native.signalled ⊆ native.signalled) :
    Sheltered ⟨{ device with native }, holding⟩ where
  since := h.since
  recorded commandBuffer object hrecording hobject :=
    (h.recorded commandBuffer object hrecording (hnames _ _ hobject)).imp_right fun hrest =>
      hrest.imp_right fun ⟨image, heq, himage⟩ => ⟨image, heq, hforeign image himage⟩
  queued submission hsubmission hwaits commandBuffer object hcommands hobject :=
    (h.queued submission hsubmission
      (fun fence hfence hdone => hwaits fence hfence (hsignalled hdone)) commandBuffer object
      hcommands (hnames _ _ hobject)).imp_right fun hrest =>
        hrest.imp_right fun ⟨image, heq, himage⟩ => ⟨image, heq, hforeign image himage⟩

/-- An event of no weight for commands. -/
theorem note (h : Sheltered ⟨device, holding⟩) (event : Event) (hevent : event.role.Idle)
    (hforeign : ∀ image, device.native.Foreign image → (device.native.note event).Foreign image) :
    Sheltered ⟨device.note event, holding⟩ := by
  refine h.resume (device.native.note event) (fun commandBuffer object hobject => ?_) hforeign
    (List.Subset.refl _)
  rw [Native.roles_note] at hobject
  refine Role.names_of_snoc (fun other objects heq => ?_) hobject
  rw [heq] at hevent
  exact hevent

/-- A resource in use shelters its object. -/
theorem shelters_of_live (h : Sheltered ⟨device, holding⟩) (himports : Imports ⟨device, holding⟩)
    {id : ResourceId} {resource : Resource} {within : ResourceId → Prop} {parked : List Resource}
    (hfence : holding.roster.fence = device.currentFence)
    (hfound : device.resources.get? id = some resource) (hlive : holding.roster.Live id)
    (hwithin : within id) :
    Work.Shelters ⟨device, holding⟩ device.currentFence within parked resource.object := by
  by_cases himported : ∃ image desc, resource = .image image none desc
  · obtain ⟨image, desc, rfl⟩ := himported
    exact .inr (.inr ⟨image, rfl, himports id image desc hfound⟩)
  · obtain ⟨tenure, htenure, hlast, -⟩ := hlive
    refine .inl ⟨id, resource, hfound, Resource.object_mem_objects fun image desc heq =>
      himported ⟨image, desc, heq⟩, ⟨tenure, htenure, ?_, fun last hsome => ?_⟩, hwithin⟩
    · exact hfence ▸ h.since id tenure htenure
    · exact nomatch hlast.symm.trans hsome

/-- The command buffer being recorded takes a command whose objects are sheltered. -/
theorem record (h : Sheltered ⟨device, holding⟩) (haccounts : Accounts ⟨device, holding⟩)
    {commandBuffer : Nat} {objects : List Object} {referenced : List ResourceId} (event : Event)
    (hrecording : device.recording = some commandBuffer)
    (hevent : event.role = .names commandBuffer objects)
    (hforeign : ∀ image, device.native.Foreign image → (device.native.note event).Foreign image)
    (hreferenced : device.referenced ⊆ referenced)
    (hobjects : ∀ object ∈ objects,
      Work.Shelters ⟨device, holding⟩ device.currentFence (· ∈ referenced) device.parked object) :
    Sheltered ⟨{ device.note event with referenced }, holding⟩ := by
  have hroles : (device.note event).native.roles =
      device.native.roles ++ [.names commandBuffer objects] := hevent ▸ Native.roles_note _ _
  have hmono : ∀ {value within within' parked object}, (∀ id, within id → within' id) →
      Work.Shelters ⟨device, holding⟩ value within parked object →
      Work.Shelters ⟨{ device.note event with referenced }, holding⟩ value within' parked
        object := by
    intro value within within' parked object hwithin hshelters
    refine hshelters.imp ?_ fun hrest => hrest.imp_right ?_
    · exact fun ⟨id, resource, hfound, hmem, hcovers, hid⟩ =>
        ⟨id, resource, hfound, hmem, hcovers, hwithin id hid⟩
    · exact fun ⟨image, heq, himage⟩ => ⟨image, heq, hforeign image himage⟩
  refine
    { since := h.since
      recorded := fun other object hother hobject => ?_
      queued := fun submission hsubmission hwaits other object hcommands hobject => ?_ }
  · rcases Role.names_snoc_names (hroles ▸ hobject) with hold | ⟨-, hnew⟩
    · exact hmono (fun id hid => hreferenced hid) (h.recorded other object hother hold)
    · exact hmono (fun id hid => hid) (hobjects object hnew)
  · rcases Role.names_snoc_names (hroles ▸ hobject) with hold | ⟨rfl, -⟩
    · exact hmono (fun _ _ => trivial)
        (h.queued submission hsubmission hwaits other object hcommands hold)
    · exact (haccounts.recording_apart hrecording hsubmission hcommands).elim

/-- What is known of the resources changes, but not when they may have been referred to. -/
theorem inform (h : Sheltered ⟨device, holding⟩) (hclock : Clock ⟨device, holding⟩)
    {roster : Roster}
    (hsince : ∀ id tenure, roster.tenure? id = some tenure → tenure.since ≤ roster.fence)
    (hcovers : ∀ id value, value ≤ device.currentFence → holding.roster.Covers id value →
      roster.Covers id value) :
    Sheltered ⟨device, { holding with roster }⟩ := by
  have hmono : ∀ {value within parked object}, value ≤ device.currentFence →
      Work.Shelters ⟨device, holding⟩ value within parked object →
      Work.Shelters ⟨device, { holding with roster }⟩ value within parked object := by
    intro value within parked object hvalue hshelters
    refine hshelters.imp_left ?_
    exact fun ⟨id, resource, hfound, hmem, hold, hid⟩ =>
      ⟨id, resource, hfound, hmem, hcovers id value hvalue hold, hid⟩
  refine { h with since := hsince, recorded := fun other object hother hobject => ?_, queued := ?_ }
  · exact hmono (Nat.le_refl _) (h.recorded other object hother hobject)
  · intro submission hsubmission hwaits other object hcommands hobject
    refine hmono (Nat.le_of_lt ?_)
      (h.queued submission hsubmission hwaits other object hcommands hobject)
    exact hclock.bounded _ (List.mem_map_of_mem hsubmission)

/-- What was recorded keeps its shelter on its way to the queue. -/
theorem turned (h : Sheltered ⟨device, holding⟩) :
    Sheltered ⟨device.turned, { holding with
      transit := some device.recorded
      roster := { holding.roster with fence := holding.roster.fence + 1 } }⟩ := by
  refine
    { since := fun id tenure htenure => Nat.le_succ_of_le (h.since id tenure htenure)
      recorded := fun _ _ hnone => nomatch hnone
      queued := fun submission hsubmission hwaits commandBuffer object hcommands hobject => ?_ }
  rcases List.mem_append.mp hsubmission with hold | hnew
  · refine h.queued submission ?_ hwaits commandBuffer object hcommands hobject
    exact List.mem_append_left _ hold
  · obtain rfl := List.mem_singleton.mp hnew
    refine (h.recorded commandBuffer object hcommands hobject).imp_left ?_
    exact fun ⟨id, resource, hfound, hmem, hcovers, _⟩ =>
      ⟨id, resource, hfound, hmem, hcovers, trivial⟩

/-- Work that the queue takes keeps its shelter. -/
theorem submitted {fence : Nat} {submission : Submission} {event : Event} {waiting : List Nat}
    (h : Sheltered ⟨device, holding⟩) (htransit : holding.transit = some submission)
    (hfence : submission.fence = none)
    (hevent : event.role = .submits submission.commandBuffer fence)
    (hforeign : ∀ image, device.native.Foreign image → (device.native.note event).Foreign image) :
    Sheltered ⟨{ device with
        native := { device.native.note event with waiting }
        inFlight := device.inFlight ++ [{ submission with fence := some fence }] },
      { holding with transit := none }⟩ := by
  have hresumed := h.resume { device.native.note event with waiting }
    (fun other object hobject => Role.names_of_snoc (fun _ _ heq => nomatch hevent.symm.trans heq)
      (Native.roles_note device.native event ▸ hobject)) hforeign (List.Subset.refl _)
  refine
    { hresumed with
      queued := fun found hfound hwaits commandBuffer object hcommands hobject => ?_ }
  rcases List.mem_append.mp (List.append_nil _ ▸ hfound) with hold | hnew
  · exact hresumed.queued found (List.mem_append_left _ hold) hwaits commandBuffer object hcommands
      hobject
  · obtain rfl := List.mem_singleton.mp hnew
    refine hresumed.queued submission ?_ (fun other hother => ?_) commandBuffer object hcommands
      hobject
    · exact List.mem_append_right _ (Option.mem_toList.mpr htransit)
    · exact nomatch hfence.symm.trans hother

/-- A new resource is no place that shelters anything yet. -/
theorem registered {resource : Resource} {rest : List Object} {layout? : Option ImageLayout}
    (h : Sheltered ⟨device, holding⟩) (hvalid : Valid rules ⟨device, holding⟩) :
    Sheltered ⟨device.holding resource, { holding with
      hand := rest
      roster := holding.roster.enroll ⟨device.nextId⟩ layout? }⟩ := by
  have hne : ∀ {id found}, device.resources.get? id = some found → id ≠ ⟨device.nextId⟩ := by
    rintro id found hfound rfl
    exact nomatch hvalid.get?_nextId.symm.trans hfound
  have hmono : ∀ {value within parked object},
      Work.Shelters ⟨device, holding⟩ value within parked object →
      Work.Shelters ⟨device.holding resource, { holding with
        hand := rest
        roster := holding.roster.enroll ⟨device.nextId⟩ layout? }⟩ value within parked object := by
    refine fun hshelters => hshelters.imp_left ?_
    rintro ⟨id, found, hfound, hmem, hcovers, hid⟩
    refine ⟨id, found, ?_, hmem, Roster.covers_enroll (hne hfound) hcovers, hid⟩
    rw [VulkanDevice.holding, Table.get?_insert, if_neg (hne hfound)]
    exact hfound
  refine
    { since := fun id tenure htenure => ?_
      recorded := fun other object hother hobject =>
        hmono (h.recorded other object hother hobject)
      queued := fun submission hsubmission hwaits other object hcommands hobject =>
        hmono (h.queued submission hsubmission hwaits other object hcommands hobject) }
  rw [Roster.tenure?_enroll] at htenure
  split at htenure
  · exact Option.some.inj htenure ▸ Nat.le_refl holding.roster.fence
  · exact h.since id tenure htenure

/-- A resource leaves the table once the work that was submitted with it has finished. The command
buffer being recorded may still refer to it if it is parked. -/
theorem expelled {id : ResourceId} {resource : Resource} {parked : List Resource}
    (h : Sheltered ⟨device, holding⟩) (hvalid : Valid rules ⟨device, holding⟩)
    (hclock : Clock ⟨device, holding⟩) (htransit : holding.transit = none)
    (hfound : device.resources.get? id = some resource) (hsettled : holding.roster.Settled id)
    (hparked : device.parked ⊆ parked) (hreferenced : id ∈ device.referenced → resource ∈ parked) :
    Sheltered ⟨{ device.without id with parked },
      { holding with roster := holding.roster.expel id }⟩ := by
  have hother : ∀ {other found}, other ≠ id → device.resources.get? other = some found →
      (device.without id).resources.get? other = some found := by
    intro other found hne hget
    rwa [VulkanDevice.without, Table.get?_erase, if_neg hne]
  have hcovers : ∀ {other value}, holding.roster.Covers other value →
      (holding.roster.expel id).Covers other value :=
    Roster.covers_expel.mpr
  have hfence : holding.roster.fence = device.currentFence := hvalid.fence
  refine
    { since := fun other tenure htenure => ?_
      recorded := fun commandBuffer object hrecording hobject => ?_
      queued := fun submission hsubmission hwaits commandBuffer object hcommands hobject => ?_ }
  · rcases Roster.of_tenure?_amend htenure with ⟨-, hold⟩ | ⟨rfl, old, hold, rfl⟩
    · exact h.since other tenure hold
    · exact h.since other old hold
  · rcases h.recorded commandBuffer object hrecording hobject with
      ⟨other, found, hget, hmem, hold, hwithin⟩ | hin | hforeign
    · by_cases heq : other = id
      · subst heq
        obtain rfl := Option.some.inj (hget.symm.trans hfound)
        exact .inr (.inl (List.mem_flatMap_of_mem (hreferenced hwithin) hmem))
      · exact .inl ⟨other, found, hother heq hget, hmem, hcovers hold, hwithin⟩
    · obtain ⟨kept, hkept, hmem⟩ := List.mem_flatMap.mp hin
      exact .inr (.inl (List.mem_flatMap_of_mem (hparked hkept) hmem))
    · exact .inr (.inr hforeign)
  · rcases h.queued submission hsubmission hwaits commandBuffer object hcommands hobject with
      ⟨other, found, hget, hmem, hold, -⟩ | hrest
    · by_cases heq : other = id
      · -- Its fence value has not passed, but all that the resource settled for has.
        subst heq
        have hqueued : submission ∈ device.inFlight :=
          (List.mem_append.mp hsubmission).resolve_right (by simp [htransit])
        have hbound := hclock.bounded _ (List.mem_map_of_mem hsubmission)
        have hlate := (hclock.behind submission hqueued).resolve_right (by
          rintro ⟨fence, hsome, hdone⟩
          exact hwaits fence hsome hdone)
        have hpassed := hsettled _ hold (hfence ▸ hbound)
        exact absurd hlate (Nat.not_lt.mpr hpassed)
      · exact .inl ⟨other, found, hother heq hget, hmem, hcovers hold, trivial⟩
    · exact .inr hrest

/-- Every step of careful callers keeps it so: a resource that leaves the table while commands may
need it is parked. -/
theorem step (h : Sheltered before) (hvalid : Valid rules before) (hclock : Clock before)
    (haccounts : Accounts before) (himports : Imports before) (hcommands : Commands before)
    (hcareful : rules.careful) (hstep : Step rules before after) : Sheltered after := by
  have hforeign : ∀ image, before.device.native.Foreign image →
      after.device.native.Foreign image := fun image => hstep.foreign
  cases hstep with
  | resumed native hnative =>
    refine h.resume native (fun _ _ hobject => ?_) hforeign ?_
    · rwa [hnative.roles] at hobject
    · rw [hnative.signalled]
      exact List.Subset.refl _
  | noted event hevent => exact h.note event (by rw [hevent]; trivial) hforeign
  | signalled fence hfence =>
    refine h.resume _ (fun _ _ hobject => ?_) hforeign (List.subset_append_left _ _)
    exact Role.names_of_snoc (fun _ _ => Role.noConfusion)
      (Native.roles_note _ (.fenceSignalled fence) ▸ hobject)
  | @made device holding kind event hevent =>
    have hresumed := h.resume ((device.native.advance kind).note event) (fun _ _ hobject => ?_)
      hforeign (by simp)
    · exact { hresumed with }
    · rw [Native.roles_note, Native.roles_advance, hevent] at hobject
      exact Role.names_of_snoc (fun _ _ => Role.noConfusion) hobject
  | freed event hwaste hevent =>
    exact { h.note event (by rw [hevent]; trivial) hforeign with }
  | @begun device holding commandBuffer rest event hidle hhand hevent =>
    have hnames : ∀ other object, Role.Names (device.native.note event).roles other object →
        Role.Names device.native.roles other object := by
      intro other object hobject
      rw [Native.roles_note, hevent] at hobject
      exact Role.names_of_snoc (fun _ _ => Role.noConfusion) hobject
    have hresumed := h.resume (device.native.note event) hnames hforeign (List.Subset.refl _)
    refine { hresumed with recorded := fun other object hother hobject => ?_ }
    -- No command names a command buffer that is still in hand.
    obtain rfl := Option.some.inj hother
    obtain ⟨objects, hmem, -⟩ := hnames _ object hobject
    exact absurd hmem (hcommands.blank _ objects (hhand ▸ List.mem_cons_self))
  | cancelled event hrecording hlost hevent =>
    have hnoted := h.note event (by rw [hevent]; trivial) hforeign
    exact { hnoted with recorded := fun _ _ hnone => nomatch hnone }
  | @barrier device holding commandBuffer id image memory desc barrier hrecording hfound himage
      hlive =>
    let event : Event := .call (.pipelineBarrier commandBuffer barrier)
    have hrecord : Sheltered ⟨{ device.note event with
        referenced := (device.referTo id).referenced }, holding⟩ := by
      refine h.record haccounts event hrecording rfl hforeign
        (device.referenced_subset_referTo id) fun object hobject => ?_
      rw [List.mem_singleton.mp hobject, himage]
      exact h.shelters_of_live himports hvalid.fence hfound (hlive hcareful)
        (device.mem_referenced_referTo id)
    refine hrecord.inform { hclock.note event rfl with } (fun other tenure htenure => ?_)
      fun other value _ => Roster.covers_move.mpr
    rcases Roster.of_tenure?_amend htenure with ⟨-, hold⟩ | ⟨rfl, old, hold, rfl⟩
    · exact h.since other tenure hold
    · exact h.since other old hold
  | @copied device holding commandBuffer source destination buffer memory size image memory' desc
      copy hrecording hsource hdestination hbuffer himage hlive =>
    let event : Event := .call (.copyBufferToImage commandBuffer copy)
    have hboth := hlive hcareful
    refine h.record haccounts event hrecording rfl hforeign
      (List.Subset.trans (device.referenced_subset_referTo source)
        ((device.referTo source).referenced_subset_referTo destination)) fun object hobject => ?_
    rcases List.mem_cons.mp hobject with rfl | hlast
    · rw [hbuffer]
      exact h.shelters_of_live himports hvalid.fence hsource hboth.1
        ((device.referTo source).referenced_subset_referTo destination
          (device.mem_referenced_referTo source))
    · rw [List.mem_singleton.mp hlast, himage]
      exact h.shelters_of_live himports hvalid.fence hdestination hboth.2
        ((device.referTo source).mem_referenced_referTo destination)
  | @ended device holding commandBuffer event hrecording hevent htransit =>
    exact h.turned.note event (by rw [hevent]; trivial) hforeign
  | turned hrecording htransit => exact h.turned
  | submitted event hhand htransit hfence hevent =>
    exact { h.submitted htransit hfence hevent hforeign with }
  | abandoned htransit hlost hidle =>
    refine { h with queued := fun found hfound => h.queued found ?_ }
    exact List.mem_append_left _ ((List.mem_append.mp hfound).resolve_right List.not_mem_nil)
  | @popped device holding submission rest hfront hfinished =>
    refine { h with queued := fun found hfound => h.queued found ?_ }
    refine (List.mem_append.mp hfound).elim (fun hrest => List.mem_append_left _ ?_)
      (List.mem_append_right _)
    exact hfront ▸ List.mem_cons_of_mem _ hrest
  | registered resource layout? hhand himported hlayout =>
    exact h.registered hvalid
  | parked hfound hreferenced htransit hsettled =>
    exact h.expelled hvalid hclock htransit hfound (hsettled hcareful)
      (List.subset_append_left _ _) fun _ => List.mem_append_right _ (List.mem_singleton_self _)
  | removed hfound hreferenced htransit hsettled =>
    exact { h.expelled hvalid hclock htransit hfound (hsettled hcareful) (List.Subset.refl _)
      fun hmem => absurd hmem hreferenced with }
  | unparked hrecording =>
    exact { h with recorded := fun _ _ hsome => nomatch hrecording.symm.trans hsome }
  | @vacated device holding hrecording hinFlight htransit =>
    refine
      { since := fun _ _ hnone => nomatch hnone
        recorded := fun _ _ hsome => nomatch hrecording.symm.trans hsome
        queued := fun submission hsubmission => ?_ }
    simp [hinFlight, htransit] at hsubmission
  | @retired device holding id =>
    have hfence : holding.roster.fence = device.currentFence := hvalid.fence
    refine h.inform hclock (fun other tenure htenure => ?_) fun other value hvalue =>
      Roster.covers_retire (hfence ▸ hvalue)
    rcases Roster.of_tenure?_amend htenure with ⟨-, hold⟩ | ⟨rfl, old, hold, rfl⟩
    · exact h.since other tenure hold
    · exact h.since other old hold
  | discarded | sorted | completed | passed | settled | viewed | unviewed | blinded =>
    exact { h with }

end Sheltered

/-- Nothing is freed that a command refers to which may have yet to run. -/
structure Guarded (work : Work) : Prop where
  clock : Clock work
  accounts : Accounts work
  imports : Imports work
  commands : Commands work
  sheltered : Sheltered work
  spares : Role.SparesPending work.device.native.roles

namespace Guarded

variable {rules : Rules} {work before after : Work}

/-- What is sheltered is in its place, so it is neither about to be freed nor the command buffer
being recorded. -/
theorem not_sheltered (h : Guarded work) {value : Nat} {within : ResourceId → Prop}
    {parked : List Resource} {object : Object}
    (hloose : object ∈ work.holding.waste ++
      work.device.recording.toList.map (Object.mk .commandBuffer))
    (hparked : object ∈ parked.flatMap Resource.objects →
      object ∈ work.device.parked.flatMap Resource.objects ++
        work.device.inFlight.flatMap Submission.objects) :
    ¬work.Shelters value within parked object := by
  have hone := h.accounts.count_objects_le_one object
  have hfirst := List.count_pos_iff.mpr hloose
  rw [List.count_append] at hfirst
  have hobject : object ∈ work.objects := by
    refine List.count_pos_iff.mp ?_
    rw [Accounts.count_objects]
    omega
  rw [Accounts.count_objects] at hone
  rintro (⟨id, resource, hfound, hmem, -⟩ | hin | ⟨image, rfl, hforeign⟩)
  · have hsecond := List.count_pos_iff.mpr (Table.mem_gather h.accounts.resourceKeys hfound hmem)
    omega
  · have hsecond := List.count_pos_iff.mpr (hparked hin)
    rw [List.count_append] at hsecond
    omega
  · exact hforeign.2 (h.accounts.mem_made hobject)

/-- What is about to be freed is referred to by no pending command. -/
theorem unreferenced (h : Guarded work) {object : Object}
    (hloose : object ∈ work.holding.waste ++
      work.device.recording.toList.map (Object.mk .commandBuffer))
    {commandBuffer : Nat} (hpending : Role.Pending work.device.native.roles commandBuffer) :
    ¬Role.Names work.device.native.roles commandBuffer object := by
  intro hnames
  rcases hpending with hrecording | ⟨fence, hsubmits, hwaits⟩
  · have hsome := h.commands.recording commandBuffer hrecording
    exact h.not_sheltered hloose (List.mem_append_left _)
      (h.sheltered.recorded commandBuffer object hsome hnames)
  · obtain ⟨submission, hqueued, hcommands, hfence⟩ :=
      h.commands.submitted commandBuffer fence hsubmits hwaits
    refine h.not_sheltered hloose (fun hin => List.mem_append_right _ ?_)
      (h.sheltered.queued submission (List.mem_append_left _ hqueued) (fun other hother hdone => ?_)
        commandBuffer object hcommands hnames)
    · exact List.mem_flatMap_of_mem hqueued (List.mem_append_right _ (List.mem_append_right _ hin))
    · obtain rfl := Option.some.inj (hother.symm.trans hfence)
      exact hwaits (h.clock.signalled other hdone)

/-- Every step of careful callers keeps pending commands guarded. -/
theorem step (h : Guarded before) (hvalid : Valid rules before) (hcareful : rules.careful)
    (hstep : Step rules before after) : Guarded after := by
  have hreliable := rules.careful_idle hcareful
  refine
    { clock := h.clock.step hvalid hreliable hstep
      accounts := h.accounts.step hvalid hstep
      imports := h.imports.step (.inl hcareful) hstep
      commands := h.commands.step hvalid h.clock h.accounts hreliable hstep
      sheltered := h.sheltered.step hvalid h.clock h.accounts h.imports h.commands hcareful hstep
      spares := ?_ }
  have hspares := h.spares
  have hnote : ∀ (native : Native) (event : Event), Role.SparesPending native.roles →
      (∀ object, event.role ≠ .frees object) → Role.SparesPending (native.note event).roles := by
    intro native event hold hevent
    rw [Native.roles_note]
    exact hold.snoc fun object hfrees => absurd hfrees (hevent object)
  have hfree : ∀ (event : Event) (object : Object), event.role = .frees object →
      object ∈ before.holding.waste ++
        before.device.recording.toList.map (Object.mk .commandBuffer) →
      Role.SparesPending (before.device.native.note event).roles := by
    intro event object hevent hloose
    rw [Native.roles_note, hevent]
    refine hspares.snoc fun freed hfrees commandBuffer hpending => ?_
    obtain rfl := Role.frees.inj hfrees
    exact h.unreferenced hloose hpending
  cases hstep with
  | resumed native hnative => exact hnative.roles.symm ▸ hspares
  | noted event hevent => exact hnote _ event hspares (by simp [hevent])
  | signalled fence => exact hnote _ (.fenceSignalled fence) hspares fun _ => Role.noConfusion
  | made kind event hevent =>
    exact hnote _ event (by simpa using hspares) (by simp [hevent])
  | freed event hwaste hevent =>
    exact hfree event _ hevent (List.mem_append_left _ (hwaste ▸ List.mem_cons_self))
  | cancelled event hrecording hlost hevent =>
    exact hfree event _ hevent (List.mem_append_right _ (by simp [hrecording]))
  | begun event hidle hhand hevent => exact hnote _ event hspares (by simp [hevent])
  | ended event hrecording hevent => exact hnote _ event hspares (by simp [hevent])
  | submitted event hhand htransit hfence hevent => exact hnote _ event hspares (by simp [hevent])
  | barrier | copied => exact hnote _ (.call _) hspares fun _ => Role.noConfusion
  | _ => exact hspares

/-- No command is pending when a device opens. -/
theorem opened {script : Operation → List ResultCode} {device : VulkanDevice}
    (h : VulkanDevice.Opened script device) : Guarded (Work.opened device) := by
  have hclock := Clock.opened h
  have haccounts := Accounts.opened h
  have himports := Imports.opened h
  obtain ⟨refuses, signalsAtOnce, family, rfl⟩ := h.eq_withPool
  have hroles : (VulkanDevice.withPool script refuses signalsAtOnce family).native.roles =
      [.makes ⟨.pool, 1⟩] := rfl
  have hnone : ∀ role,
      role ∈ (VulkanDevice.withPool script refuses signalsAtOnce family).native.roles →
      role = .makes ⟨.pool, 1⟩ := fun role hmem => List.mem_singleton.mp (hroles ▸ hmem)
  exact
    { clock := hclock
      accounts := haccounts
      imports := himports
      commands :=
        { written := fun _ _ hmem => nomatch hnone _ hmem
          blank := fun _ _ hhand => nomatch List.mem_singleton.mp hhand
          recording := fun _ hrecording => nomatch hnone _ hrecording.1
          submitted := fun _ _ hmem _ => nomatch hnone _ hmem }
      sheltered :=
        { since := fun _ _ hnone => nomatch hnone
          recorded := fun _ _ hnone => nomatch hnone
          queued := fun _ hnone => nomatch hnone }
      spares := Role.each_nil.snoc fun _ heq => nomatch heq }

end Guarded

/-- Pending commands stay guarded along every chain of steps of careful callers. -/
theorem Reaches.guarded {rules : Rules} {start : Work} {holding : Holding} {device : VulkanDevice}
    (h : Reaches rules start holding device) (hcareful : rules.careful) (hstart : Guarded start) :
    Guarded ⟨device, holding⟩ := by
  have hboth : Valid rules ⟨device, holding⟩ ∧ Guarded ⟨device, holding⟩ :=
    h.induction (P := fun work => Valid rules work ∧ Guarded work) ⟨h.valid, hstart⟩
      fun _ _ hbefore hstep => ⟨hbefore.1.step hstep, hbefore.2.step hbefore.1 hcareful hstep⟩
  exact hboth.2

end Texel.Vulkan
