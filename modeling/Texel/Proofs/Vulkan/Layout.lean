import Texel.Proofs.Vulkan.Execution

namespace Texel.Vulkan

/-- Where a call leaves an image that is in a layout; none if the call needs it in another one. A
barrier takes its image from one layout to another, and a copy needs its image to be a transfer
destination. -/
def Call.moves (image : Nat) (layout : ImageLayout) : Call → Option ImageLayout
  | .pipelineBarrier _ barrier =>
    if barrier.image = image then
      if barrier.oldLayout = layout then some barrier.newLayout else none
    else some layout
  | .copyBufferToImage _ copy =>
    if copy.image = image ∧ layout ≠ .transferDestination then none else some layout
  | _ => some layout

/-- The layout that a new image has come to when the commands have run, one after the other. -/
def layoutAfter (image : Nat) (calls : List Call) : Option ImageLayout :=
  calls.foldlM (Call.moves image) .undefined

/-- One more call moves the image from where the others left it. -/
theorem layoutAfter_snoc (image : Nat) (calls : List Call) (call : Call) :
    layoutAfter image (calls ++ [call]) =
      (layoutAfter image calls).bind fun layout => call.moves image layout := by
  rw [layoutAfter, List.foldlM_append, layoutAfter]
  simp

/-- Where the commands lead somewhere, each barrier for the image starts from where those before it
lead, and each copy into the image finds it a transfer destination. -/
theorem command_of_layoutAfter {image : Nat} {first rest : List Call} {call : Call}
    {last : ImageLayout} (h : layoutAfter image (first ++ call :: rest) = some last) :
    ∃ before, layoutAfter image first = some before ∧
      (∀ commandBuffer barrier, call = .pipelineBarrier commandBuffer barrier →
        barrier.image = image → barrier.oldLayout = before) ∧
      ∀ commandBuffer copy, call = .copyBufferToImage commandBuffer copy →
        copy.image = image → before = .transferDestination := by
  rw [layoutAfter, List.foldlM_append] at h
  obtain ⟨before, hbefore, hrest⟩ := Option.bind_eq_some_iff.mp h
  rw [List.foldlM_cons] at hrest
  obtain ⟨after, hafter, -⟩ := Option.bind_eq_some_iff.mp hrest
  refine ⟨before, hbefore, ?_, ?_⟩
  · rintro commandBuffer barrier rfl rfl
    by_contra hne
    simp [Call.moves, hne] at hafter
  · rintro commandBuffer copy rfl rfl
    by_contra hne
    simp [Call.moves, hne] at hafter

/-- The followed layouts are those that the commands lead to. -/
structure Traced (work : Work) : Prop where
  followed : ∀ id layout image memory desc, work.holding.roster.layout? id = some layout →
    work.device.resources.get? id = some (.image image (some memory) desc) →
    layoutAfter image work.commands = some layout
  /-- No command refers to an image before it is part of a resource. -/
  untouched : ∀ image, work.device.native.images < image ∨ ⟨.image, image⟩ ∈ work.holding.hand →
    layoutAfter image work.commands = some .undefined

namespace Traced

variable {rules : Rules} {device : VulkanDevice} {holding : Holding} {before after : Work}

/-- The commands are the same, and no image is followed that was not. -/
theorem moved (h : Traced before) (hcommands : after.commands = before.commands)
    (hfollowed : ∀ id layout image memory desc, after.holding.roster.layout? id = some layout →
      after.device.resources.get? id = some (.image image (some memory) desc) →
      before.holding.roster.layout? id = some layout ∧
        before.device.resources.get? id = some (.image image (some memory) desc))
    (hnew : ∀ image,
      after.device.native.images < image ∨ ⟨.image, image⟩ ∈ after.holding.hand →
      before.device.native.images < image ∨ ⟨.image, image⟩ ∈ before.holding.hand) :
    Traced after where
  followed id layout image memory desc hlayout hfound := by
    obtain ⟨hlayout, hfound⟩ := hfollowed id layout image memory desc hlayout hfound
    rw [hcommands]
    exact h.followed id layout image memory desc hlayout hfound
  untouched image hlater := by
    rw [hcommands]
    exact h.untouched image (hnew image hlater)

/-- The commands, the table and the layouts that are followed are the same. -/
theorem kept (h : Traced before) (hcommands : after.commands = before.commands)
    (hlayouts : after.holding.roster.layout? = before.holding.roster.layout?)
    (hresources : after.device.resources = before.device.resources)
    (hnew : ∀ image,
      after.device.native.images < image ∨ ⟨.image, image⟩ ∈ after.holding.hand →
      before.device.native.images < image ∨ ⟨.image, image⟩ ∈ before.holding.hand) :
    Traced after := by
  refine h.moved hcommands ?_ hnew
  intro id layout image memory desc hlayout hfound
  rw [hlayouts] at hlayout
  rw [hresources] at hfound
  exact ⟨hlayout, hfound⟩

/-- An entry that neither records nor submits leaves every image where it is. -/
theorem note (h : Traced ⟨device, holding⟩) (event : Event)
    (hrecorded : event.role.recorded? = none) (hsubmitted : event.role.submitted? = none) :
    Traced ⟨device.note event, holding⟩ :=
  h.kept
    (Work.commands_of_line (Work.line_note event hsubmitted)
      (Native.commandsIn_note_of_recorded? hrecorded))
    rfl rfl fun _ hnew => hnew

/-- The image of a resource in the table is neither in hand nor yet to be made. -/
theorem placed (haccounts : Accounts ⟨device, holding⟩) (himports : Imports ⟨device, holding⟩)
    {id : ResourceId} {image : Nat} {memory : Option Nat} {desc : TextureDesc}
    (hfound : device.resources.get? id = some (.image image memory desc)) :
    ¬(device.native.images < image ∨ ⟨.image, image⟩ ∈ holding.hand) := by
  cases memory with
  | none =>
    obtain ⟨hmade, hforeign⟩ := himports id image desc hfound
    exact not_or.mpr ⟨Nat.not_lt.mpr hmade, fun hmem => hforeign (haccounts.mem_made_of_hand hmem)⟩
  | some memory =>
    have hgather := Table.mem_gather haccounts.resourceKeys hfound
      (Resource.object_mem_objects fun _ _ heq => nomatch heq)
    have hplace := List.count_pos_iff.mpr hgather
    have hone := haccounts.count_objects_le_one ⟨.image, image⟩
    rw [Accounts.count_objects] at hone
    refine not_or.mpr ⟨Nat.not_lt.mpr ?_, fun hmem => ?_⟩
    · refine haccounts.numbered ⟨.image, image⟩ (haccounts.mem_made ?_)
      exact List.mem_append_right _ (List.mem_append_left _ (List.mem_append_left _
        (List.mem_append_left _ (List.mem_append_left _ hgather))))
    · have hfirst := List.count_pos_iff.mpr hmem
      change 0 < (device.resources.gather Resource.objects).count ⟨.image, image⟩ at hplace
      simp only at hone
      omega

/-- No other resource has an image that belongs to one. -/
theorem apart (haccounts : Accounts ⟨device, holding⟩) (himports : Imports ⟨device, holding⟩)
    {id other : ResourceId} {image memory : Nat} {memory' : Option Nat} {desc desc' : TextureDesc}
    (hfound : device.resources.get? id = some (.image image (some memory) desc))
    (hother : device.resources.get? other = some (.image image memory' desc')) : id = other := by
  have hobject : ⟨.image, image⟩ ∈ Resource.objects (.image image (some memory) desc) :=
    Resource.object_mem_objects fun _ _ heq => nomatch heq
  cases memory' with
  | none =>
    refine absurd (haccounts.mem_made ?_) (himports other image desc' hother).2
    exact List.mem_append_right _ (List.mem_append_left _ (List.mem_append_left _
      (List.mem_append_left _ (List.mem_append_left _
        (Table.mem_gather haccounts.resourceKeys hfound hobject)))))
  | some memory' =>
    exact haccounts.resource_unique hfound hother hobject
      (Resource.object_mem_objects fun _ _ heq => nomatch heq)

/-- The command buffer being recorded gets a command on the image of one resource. -/
theorem record (h : Traced ⟨device, holding⟩) (hlined : Lined ⟨device, holding⟩)
    (haccounts : Accounts ⟨device, holding⟩) (himports : Imports ⟨device, holding⟩)
    {commandBuffer : Nat} {id : ResourceId} {image : Nat} {memory : Option Nat}
    {desc : TextureDesc} (roster : Roster) (call : Call)
    (hrecording : device.recording = some commandBuffer)
    (hrecorded : call.role.recorded? = some commandBuffer)
    (hsubmitted : call.role.submitted? = none)
    (hfound : device.resources.get? id = some (.image image memory desc))
    (hothers : ∀ other layout, other ≠ image → call.moves other layout = some layout)
    (hroster : ∀ other layout, other ≠ id → roster.layout? other = some layout →
      holding.roster.layout? other = some layout)
    (hhere : ∀ after, roster.layout? id = some after → ∃ before,
      holding.roster.layout? id = some before ∧ call.moves image before = some after) :
    Traced ⟨device.note (.call call), { holding with roster }⟩ := by
  have hcommands : Work.commands ⟨device.note (.call call), { holding with roster }⟩ =
      Work.commands ⟨device, holding⟩ ++ [call] :=
    hlined.commands_record hrecording hrecorded hsubmitted
  refine
    { followed := fun other layout found memory' desc' hlayout hget => ?_
      untouched := fun other hnew => ?_ }
  · rw [hcommands, layoutAfter_snoc]
    by_cases heq : other = id
    · subst heq
      obtain ⟨before, hbefore, hmoves⟩ := hhere layout hlayout
      obtain ⟨rfl, rfl, rfl⟩ := Resource.image.inj (Option.some.inj (hget.symm.trans hfound))
      rw [h.followed other before _ _ _ hbefore hget]
      exact hmoves
    · have hne : found ≠ image := by
        rintro rfl
        exact heq (apart haccounts himports hget hfound)
      rw [h.followed other layout _ _ _ (hroster other layout heq hlayout) hget]
      exact hothers found layout hne
  · have hne : other ≠ image := by
      rintro rfl
      exact placed haccounts himports hfound hnew
    rw [hcommands, layoutAfter_snoc, h.untouched other hnew]
    exact hothers other _ hne

/-- Every step keeps the layouts that are followed: a barrier is recorded from the layout the image
is in, and commands are lost only where nothing is followed. -/
theorem step (h : Traced before) (haccounts : Accounts before) (himports : Imports before)
    (hlined : Lined before) (htracked : rules.tracked) (hstep : Step rules before after) :
    Traced after := by
  cases hstep with
  | @resumed device holding native hnative =>
    have hhistory := hnative.history
    refine h.kept ?_ rfl rfl fun image hnew =>
      hnew.imp_left (Nat.lt_of_le_of_lt (hnative.last .image))
    exact Work.commands_of_line (Work.line_of_history hhistory _)
      (Native.commandsIn_of_history hhistory)
  | noted event hevent => exact h.note event (by rw [hevent]; rfl) (by rw [hevent]; rfl)
  | signalled fence => exact { h.note (.fenceSignalled fence) rfl rfl with }
  | @made device holding kind event hevent =>
    have hhistory := Native.history_advance device.native kind
    have hadvanced : Traced ⟨{ device with native := device.native.advance kind },
        { holding with hand := ⟨kind, device.native.last kind + 1⟩ :: holding.hand }⟩ := by
      refine h.kept ?_ rfl rfl fun image hnew => ?_
      · exact Work.commands_of_line (Work.line_of_history hhistory _)
          (Native.commandsIn_of_history hhistory)
      · rcases hnew with hlater | hhand
        · change (device.native.advance kind).last .image < image at hlater
          rw [Native.last_advance] at hlater
          exact .inl (Nat.lt_of_le_of_lt (Nat.le_add_right _ _) hlater)
        · rcases List.mem_cons.mp hhand with heq | hrest
          · obtain ⟨rfl, rfl⟩ := Object.mk.inj heq
            exact .inl (Nat.lt_succ_self device.native.images)
          · exact .inr hrest
    exact hadvanced.note event (by rw [hevent]; rfl) (by rw [hevent]; rfl)
  | discarded objects hhand =>
    refine { h with
      untouched := fun image hnew => h.untouched image (hnew.imp_right fun hmem => ?_) }
    exact hhand ▸ List.mem_append_right _ hmem
  | freed event hwaste hevent =>
    exact { h.note event (by rw [hevent]; rfl) (by rw [hevent]; rfl) with }
  | begun event hidle hhand hevent =>
    exact h.kept (hlined.commands_begun event hidle hhand hevent) rfl rfl fun image hnew =>
      hnew.imp_right fun hmem => hhand ▸ List.mem_cons_of_mem _ hmem
  | cancelled event hrecording hlost => exact absurd htracked hlost
  | @barrier device holding commandBuffer id image memory desc barrier hrecording hfound himage
      hlive hlayout =>
    subst himage
    have hrecord := h.record hlined haccounts himports (holding.roster.move id barrier.newLayout)
      (.pipelineBarrier commandBuffer barrier) hrecording rfl rfl hfound
      (fun other layout hne => if_neg (Ne.symm hne)) (fun other layout hne hfollowed => ?_)
      fun after hafter => ?_
    · exact { hrecord with }
    · rwa [Roster.layout?_move, if_neg hne] at hfollowed
    · rw [Roster.layout?_move, if_pos rfl] at hafter
      obtain ⟨before, hbefore, rfl⟩ := Option.map_eq_some_iff.mp hafter
      refine ⟨before, hbefore, ?_⟩
      simp only [Call.moves, if_pos, if_pos (hlayout htracked before hbefore)]
  | @copied device holding commandBuffer source destination buffer memory size image memory' desc
      copy hrecording hsource hdestination hbuffer himage hlive hlayout =>
    subst himage
    have hrecord := h.record hlined haccounts himports holding.roster
      (.copyBufferToImage commandBuffer copy) hrecording rfl rfl hdestination
      (fun other layout hne => if_neg fun hboth => hne hboth.1.symm) (fun _ _ _ hsame => hsame)
      fun after hafter => ⟨after, hafter, if_neg fun hboth => ?_⟩
    · exact { hrecord with }
    · exact hboth.2 (hlayout htracked after hafter)
  | @ended device holding commandBuffer event hrecording hevent htransit =>
    have hturned : Traced ⟨device.turned, { holding with
        transit := some device.recorded
        roster := { holding.roster with fence := holding.roster.fence + 1 } }⟩ :=
      h.kept (Work.commands_of_line (Work.line_turned htransit _) rfl) rfl rfl fun _ hnew => hnew
    exact hturned.note event (by rw [hevent]; rfl) (by rw [hevent]; rfl)
  | turned hrecording htransit =>
    exact h.kept (Work.commands_of_line (Work.line_turned htransit _) rfl) rfl rfl
      fun _ hnew => hnew
  | submitted event hhand htransit hfence hevent =>
    refine h.kept ?_ rfl rfl fun image hnew =>
      hnew.imp_right fun hmem => hhand ▸ List.mem_cons_of_mem _ hmem
    exact Work.commands_of_line (Work.line_submitted event htransit hevent _ _ _ _)
      (Native.commandsIn_note_of_recorded? (by rw [hevent]; rfl))
  | abandoned htransit hlost => exact absurd htracked hlost
  | @registered device holding rest resource layout? hhand himported hlayout =>
    refine
      { followed := fun id layout image memory desc hfollowed hget => ?_
        untouched := fun image hnew => h.untouched image (hnew.imp_right fun hmem => ?_) }
    · rw [Roster.layout?_enroll] at hfollowed
      rw [VulkanDevice.holding, Table.get?_insert] at hget
      split at hget
      · next heq =>
        rw [if_pos heq] at hfollowed
        obtain rfl := Option.some.inj hget
        -- Only a new image is followed, and no command has named it yet.
        obtain ⟨rfl, -⟩ := hlayout layout hfollowed
        refine h.untouched image (.inr (hhand ▸ List.mem_append_left _ ?_))
        refine Resource.object_mem_objects ?_
        rintro _ _ ⟨⟩
      · next hne =>
        rw [if_neg hne] at hfollowed
        exact h.followed id layout image memory desc hfollowed hget
    · exact hhand ▸ List.mem_append_right _ hmem
  | parked | removed =>
    refine { h with followed := fun other layout image memory desc hfollowed hget => ?_ }
    rw [Roster.layout?_expel] at hfollowed
    rw [VulkanDevice.without, Table.get?_erase] at hget
    split at hget
    · cases hget
    · next hne =>
      rw [if_neg hne] at hfollowed
      exact h.followed other layout image memory desc hfollowed hget
  | viewed slot hhand =>
    refine { h with
      untouched := fun image hnew => h.untouched image (hnew.imp_right fun hmem => ?_) }
    exact hhand ▸ List.mem_cons_of_mem _ hmem
  | vacated =>
    refine { h with followed := ?_ }
    rintro _ _ _ _ _ ⟨⟩
  | retired id =>
    refine h.moved rfl (fun other layout image memory desc hlayout hfound => ⟨?_, hfound⟩)
      fun _ hnew => hnew
    simpa using hlayout
  | sorted | popped | completed | passed | settled | unviewed | unparked | blinded =>
    exact { h with }

/-- No layout is followed when a device opens. -/
theorem opened {script : Operation → List ResultCode} {device : VulkanDevice}
    (h : VulkanDevice.Opened script device) : Traced (Work.opened device) := by
  obtain ⟨refuses, signalsAtOnce, family, rfl⟩ := h.eq_withPool
  exact
    { followed := fun _ _ _ _ _ hnone => nomatch hnone
      untouched := fun _ _ => rfl }

end Traced

/-- Along every chain of steps, an image whose layout is followed is in it once the commands have
run. -/
theorem Reaches.traced {rules : Rules} {start : Work} {holding : Holding} {device : VulkanDevice}
    (h : Reaches rules start holding device) (htracked : rules.tracked) (haccounts : Accounts start)
    (himports : Imports start) (hlined : Lined start) (htraced : Traced start) :
    Traced ⟨device, holding⟩ := by
  have hall : Valid rules ⟨device, holding⟩ ∧ Accounts ⟨device, holding⟩ ∧
      Imports ⟨device, holding⟩ ∧ Lined ⟨device, holding⟩ ∧ Traced ⟨device, holding⟩ :=
    h.induction
      (P := fun work => Valid rules work ∧ Accounts work ∧ Imports work ∧ Lined work ∧ Traced work)
      ⟨h.valid, haccounts, himports, hlined, htraced⟩
      fun _ _ ⟨hvalid, hbooks, himported, hline, hbefore⟩ hstep =>
        ⟨hvalid.step hstep, hbooks.step hvalid hstep, himported.step (.inr htracked) hstep,
          hline.step hbooks hstep, hbefore.step hbooks himported hline htracked hstep⟩
  exact hall.2.2.2.2

end Texel.Vulkan
