import Texel.Proofs.Context.Upkeep
import Texel.Proofs.Vulkan.Layout

namespace Texel.Vulkan

/-- The copy that a call records, if it is one. -/
def Call.copy? : Call → Option ImageCopy
  | .copyBufferToImage _ copy => some copy
  | _ => none

/-- The copy that an event records, if it is one. -/
def Event.copy? (event : Event) : Option ImageCopy := event.call?.bind Call.copy?

namespace Native

/-- The copies recorded so far, in order. -/
def copies (native : Native) : List ImageCopy := native.calls.filterMap Call.copy?

/-- Calls were added, but no copy. -/
structure Proceeds (before after : Native) : Prop where
  calls : before.calls <+: after.calls
  copies : after.copies = before.copies

variable {origin native : Native}

theorem Proceeds.refl (native : Native) : native.Proceeds native := ⟨List.prefix_rfl, rfl⟩

/-- What is recorded is read off the history alone. -/
theorem Proceeds.of_history (h : origin.Proceeds native) {after : Native}
    (hhistory : after.history = native.history) : origin.Proceeds after := by
  have hcalls : after.calls = native.calls := by rw [Native.calls, hhistory, Native.calls]
  refine ⟨hcalls ▸ h.calls, ?_⟩
  rw [Native.copies, hcalls]
  exact h.copies

theorem Proceeds.consume (h : origin.Proceeds native) (operation : Operation) :
    origin.Proceeds (native.consume operation) :=
  h.of_history rfl

theorem Proceeds.advance (h : origin.Proceeds native) (kind : ObjectKind) :
    origin.Proceeds (native.advance kind) :=
  h.of_history (history_advance native kind)

/-- Calls are only added. -/
theorem calls_prefix_note (native : Native) (event : Event) :
    native.calls <+: (native.note event).calls := by
  cases event with
  | call made =>
    rw [calls_note_call]
    exact List.prefix_append _ _
  | memoryAllocated | memoryFreed | fenceSignalled =>
    exact ⟨[], by rw [calls_note_of_call? rfl, List.append_nil]⟩

/-- An entry in the history adds at most the one copy that it is. -/
theorem copies_note (native : Native) (event : Event) :
    (native.note event).copies = native.copies ++ event.copy?.toList := by
  cases event with
  | call made =>
    rw [copies, calls_note_call, List.filterMap_append]
    cases hcopy : made.copy? <;> simp [Event.copy?, Event.call?, copies, hcopy]
  | memoryAllocated | memoryFreed | fenceSignalled =>
    rw [copies, calls_note_of_call? rfl]
    exact (List.append_nil _).symm

/-- An entry that is no copy adds none. -/
theorem Proceeds.note (h : origin.Proceeds native) {event : Event} (hevent : event.copy? = none) :
    origin.Proceeds (native.note event) := by
  refine ⟨h.calls.trans (calls_prefix_note native event), ?_⟩
  rw [copies_note, hevent, h.copies]
  exact List.append_nil _

/-- Recording anything but a copy adds none. -/
theorem keeps_record_proceeds {event : Event} (hevent : event.copy? = none) :
    (record event).Keeps origin.Proceeds :=
  fun _ h => h.note hevent

theorem keeps_nextAnswer (operation : Operation) :
    (nextAnswer operation).Keeps origin.Proceeds := by
  intro native h
  rw [run_nextAnswer]
  exact h.consume operation

/-- A call that can fail adds no copy if it is none, whatever the answer. -/
theorem keeps_attempt (operation : Operation) {call : Option ResultCode → Call}
    (hcall : ∀ told, (Event.call (call told)).copy? = none) :
    (attempt operation call).Keeps origin.Proceeds := by
  intro native h
  rw [run_attempt]
  exact (h.consume operation).note (hcall _)

/-- A call that makes an object adds no copy if it is none, whatever the answer. -/
theorem keeps_make (operation : Operation) {call : Except ResultCode Nat → Call}
    (kind : ObjectKind) (hcall : ∀ answer, (Event.call (call answer)).copy? = none) :
    (make operation call fun native => (native.last kind + 1, native.advance kind)).Keeps
      origin.Proceeds := by
  intro native h
  rw [run_make]
  cases native.failure? operation with
  | some failure => exact (h.consume operation).note (hcall _)
  | none => exact ((h.consume operation).advance kind).note (hcall _)

theorem keeps_signal (fence : Nat) : (signal fence).Keeps origin.Proceeds := by
  intro native h
  rw [run_signal]
  by_cases hwaiting : fence ∈ native.waiting
  · simp only [if_pos hwaiting]
    have hnoted : origin.Proceeds (native.note (.fenceSignalled fence)) := h.note rfl
    exact hnoted.of_history rfl
  · simp only [if_neg hwaiting]
    exact h

theorem keeps_signalEach_proceeds (fences : List Nat) :
    (signalEach fences).Keeps origin.Proceeds := by
  induction fences with
  | nil => exact .pure ()
  | cons fence rest ih => exact .bind (keeps_signal fence) fun _ => ih

theorem keeps_queueSubmit (commandBuffer : Option Nat) (fence : Nat) :
    (queueSubmit commandBuffer fence).Keeps origin.Proceeds := by
  refine .bind (keeps_attempt _ fun _ => rfl) fun failure => ?_
  cases failure with
  | some failure => exact .pure _
  | none =>
    refine .bind (fun _ h => h.of_history rfl) fun _ => .bind .get fun native => ?_
    split
    · exact .bind (keeps_signal fence) fun _ => .pure _
    · exact .pure _

theorem keeps_waitForFence (fence timeout : Nat) :
    (waitForFence fence timeout).Keeps origin.Proceeds := by
  refine .bind (keeps_attempt _ fun _ => rfl) fun failure => ?_
  cases failure with
  | some failure => exact .pure _
  | none => exact .bind (keeps_signal fence) fun _ => .pure _

theorem keeps_deviceWaitIdle_proceeds : deviceWaitIdle.Keeps origin.Proceeds := by
  refine .bind (keeps_attempt _ fun _ => rfl) fun failure => ?_
  cases failure with
  | some failure => exact .pure _
  | none => exact .bind (.bind .get fun native => keeps_signalEach_proceeds _) fun _ => .pure _

theorem keeps_isSignalled (fence : Nat) : (isSignalled fence).Keeps origin.Proceeds := by
  refine .bind (keeps_nextAnswer _) fun answer => ?_
  cases answer with
  | none => exact fun _ h => h
  | some answer =>
    dsimp only
    split
    · exact .pure _
    · exact .bind (keeps_signal fence) fun _ => .pure _

theorem keeps_isMapped : isMapped.Keeps origin.Proceeds :=
  .bind (keeps_nextAnswer _) fun _ => .pure _

theorem keeps_allocate (operation : Operation) (request : MemoryRequest) :
    (allocate operation request).Keeps origin.Proceeds := by
  refine .bind (keeps_nextAnswer _) fun told => ?_
  intro native h
  simp only [Act.run_bind, Act.run_get]
  cases native.allocatorRefusal? told request with
  | some refusal => exact h
  | none =>
    have hnoted : origin.Proceeds ((native.advance .memory).note
      (.memoryAllocated (native.allocations + 1))) := (h.advance .memory).note rfl
    exact hnoted

end Native

namespace VulkanDevice

/-- The copies recorded so far, in order. -/
def copies (device : VulkanDevice) : List ImageCopy := device.native.copies

/-- What a device can have come to: calls were added, identifiers used up and resources freed, but
what is left of the resources is what it was. -/
structure Follows (before after : VulkanDevice) : Prop where
  calls : before.calls <+: after.calls
  nextId : before.nextId ≤ after.nextId
  found : ∀ id resource, id.raw < before.nextId → after.resources.get? id = some resource →
    before.resources.get? id = some resource

/-- The same, without a copy being recorded. -/
structure Proceeds (before after : VulkanDevice) : Prop extends Follows before after where
  copies : after.copies = before.copies

variable {α : Type} {origin device before after : VulkanDevice}

theorem Follows.refl (device : VulkanDevice) : device.Follows device :=
  ⟨List.prefix_rfl, Nat.le_refl _, fun _ _ _ h => h⟩

theorem Follows.trans {first second third : VulkanDevice} (h : first.Follows second)
    (h' : second.Follows third) : first.Follows third where
  calls := h.calls.trans h'.calls
  nextId := Nat.le_trans h.nextId h'.nextId
  found id resource hid hfound :=
    h.found id resource hid (h'.found id resource (Nat.lt_of_lt_of_le hid h.nextId) hfound)

theorem Proceeds.refl (device : VulkanDevice) : device.Proceeds device :=
  ⟨.refl device, rfl⟩

theorem Proceeds.trans {first second third : VulkanDevice} (h : first.Proceeds second)
    (h' : second.Proceeds third) : first.Proceeds third :=
  ⟨h.toFollows.trans h'.toFollows, h'.copies.trans h.copies⟩

/-- The books other than the resources are of no account. -/
theorem Proceeds.of_eq (h : origin.Proceeds before) (hnative : after.native = before.native)
    (hnextId : after.nextId = before.nextId) (hresources : after.resources = before.resources) :
    origin.Proceeds after := by
  refine ⟨⟨?_, hnextId ▸ h.nextId, hresources ▸ h.found⟩, ?_⟩
  · rw [VulkanDevice.calls, VulkanDevice.calls, hnative]
    exact h.calls
  · rw [VulkanDevice.copies, hnative]
    exact h.copies

/-- A device proceeds as its implementation does while its tables stay as they are. -/
theorem Proceeds.native {native : Native} (h : origin.Proceeds device)
    (hnative : device.native.Proceeds native) : origin.Proceeds { device with native } :=
  ⟨⟨h.calls.trans hnative.calls, h.nextId, h.found⟩, hnative.copies.trans h.copies⟩

/-- A new resource takes the place of none. -/
theorem Proceeds.holding (h : origin.Proceeds device) (resource : Resource) :
    origin.Proceeds (device.holding resource) := by
  refine ⟨⟨h.calls, Nat.le_succ_of_le h.nextId, fun id found hid hfound => ?_⟩, h.copies⟩
  have hnext := h.nextId
  rw [VulkanDevice.holding, Table.get?_insert, if_neg] at hfound
  · exact h.found id found hid hfound
  · rintro rfl
    simp only at hid
    omega

/-- A resource that goes takes nothing from what is behind the others. -/
theorem Proceeds.without (h : origin.Proceeds device) (id : ResourceId) :
    origin.Proceeds (device.without id) := by
  refine ⟨⟨h.calls, h.nextId, fun other found hother hfound => ?_⟩, h.copies⟩
  rw [VulkanDevice.without, Table.get?_erase] at hfound
  split at hfound
  · cases hfound
  · exact h.found other found hother hfound

/-- Calls that add no copy let the device proceed. -/
theorem proceeds_onNative {act : Act Native α}
    (h : ∀ native : Native, act.Keeps native.Proceeds) : (onNative act).Keeps origin.Proceeds :=
  fun device hdevice => hdevice.native (h device.native device.native (.refl _))

theorem proceeds_call {made : Call} (h : (Event.call made).copy? = none) :
    (onNative (Native.call made)).Keeps origin.Proceeds :=
  proceeds_onNative fun _ => Native.keeps_record_proceeds h

/-- A call that can fail lets the device proceed if it is no copy, whatever the answer. -/
theorem proceeds_attempt (operation : Operation) {call : Option ResultCode → Call}
    (hcall : ∀ told, (Event.call (call told)).copy? = none) :
    (onNative (Native.attempt operation call)).Keeps origin.Proceeds :=
  proceeds_onNative fun _ => Native.keeps_attempt operation hcall

/-- So does a call that makes an object. -/
theorem proceeds_make (operation : Operation) {call : Except ResultCode Nat → Call}
    (kind : ObjectKind) (hcall : ∀ answer, (Event.call (call answer)).copy? = none) :
    (onNative (Native.make operation call fun native =>
      (native.last kind + 1, native.advance kind))).Keeps origin.Proceeds :=
  proceeds_onNative fun _ => Native.keeps_make operation kind hcall

/-- So does an allocation of memory. -/
theorem proceeds_allocate (operation : Operation) (request : MemoryRequest) :
    (onNative (Native.allocate operation request)).Keeps origin.Proceeds :=
  proceeds_onNative fun _ => Native.keeps_allocate operation request

theorem proceeds_freeMemory (memory : Nat) :
    (onNative (Native.freeMemory memory)).Keeps origin.Proceeds :=
  proceeds_onNative fun _ => Native.keeps_record_proceeds rfl

theorem proceeds_destroyNative (resource : Resource) :
    (destroyNative resource).Keeps origin.Proceeds := by
  unfold destroyNative
  split
  · exact .pure ()
  · exact .bind (proceeds_freeMemory _) fun _ => proceeds_call rfl
  · exact .bind (proceeds_freeMemory _) fun _ => proceeds_call rfl

theorem proceeds_destroyEach (resources : List Resource) :
    (destroyEach resources).Keeps origin.Proceeds := by
  induction resources with
  | nil => exact .pure ()
  | cons resource rest ih => exact .bind (proceeds_destroyNative resource) fun _ => ih

theorem proceeds_commandBuffer : commandBuffer?.Keeps origin.Proceeds := by
  refine .bind .get fun device => ?_
  split
  · exact .pure _
  · refine .bind (proceeds_onNative fun _ => Native.keeps_make _ .commandBuffer fun _ => rfl)
      fun answer => ?_
    cases answer with
    | error failure => exact .bind (.log _ _) fun _ => .pure _
    | ok commandBuffer =>
      refine .bind (proceeds_onNative fun _ => Native.keeps_attempt _ fun _ => rfl)
        fun failure => ?_
      cases failure with
      | some failure => exact .bind (.log _ _) fun _ => .bind (proceeds_call rfl) fun _ => .pure _
      | none => exact .bind (fun _ h => h.of_eq rfl rfl rfl) fun _ => .pure _

theorem proceeds_transitionImage (id : ResourceId) (oldLayout : ImageLayout)
    (sourceAccess sourceStage : Nat) (after : UsageState) :
    (transitionImage id oldLayout sourceAccess sourceStage after).Keeps origin.Proceeds := by
  refine .bind .get fun device => ?_
  split
  · exact .log _ _
  · refine .bind proceeds_commandBuffer fun commandBuffer => ?_
    split
    · exact .pure ()
    · exact .bind (proceeds_call rfl) fun _ _ h => h.of_eq rfl rfl rfl

/-- A new resource leaves what is behind the others as it is. -/
theorem proceeds_register (resource : Resource) : (register resource).Keeps origin.Proceeds :=
  fun _ h => h.holding resource

/-- Making an image adds no copy, whichever call fails. -/
theorem proceeds_createImage (format : ImageFormat) (desc : TextureDesc) :
    (createImage format desc).Keeps origin.Proceeds := by
  refine .bind (.lift (proceeds_make _ .image fun _ => rfl)) fun answer => ?_
  cases answer with
  | error failure => exact .refuse _
  | ok image =>
    refine .bind (.lift (proceeds_allocate _ _)) fun answer => ?_
    cases answer with
    | error refusal =>
      refine .bind (.lift (proceeds_call rfl)) fun _ => ?_
      exact .refuse _
    | ok memory =>
      refine .bind (.lift (proceeds_attempt _ fun _ => rfl)) fun failure => ?_
      cases failure with
      | some failure =>
        refine .bind (.lift (proceeds_freeMemory _)) fun _ => ?_
        refine .bind (.lift (proceeds_call rfl)) fun _ => ?_
        exact .refuse _
      | none => exact .lift (proceeds_register _)

/-- Making a texture adds no copy, whether its format is known or not. -/
theorem proceeds_createTexture (desc : TextureDesc) (state : UsageState) :
    (createTexture desc state).Keeps origin.Proceeds := by
  unfold createTexture
  dsimp only
  split
  · exact .refuse _
  · split
    · refine .bind (proceeds_createImage _ _) fun id => ?_
      refine .bind (.lift (proceeds_transitionImage _ _ _ _ _)) fun _ => ?_
      exact .pure id
    · exact .refuse _

theorem proceeds_createView (resource : ResourceId) (view : ViewDesc) (slot : Slot) :
    (createView resource view slot).Keeps origin.Proceeds := by
  refine .bind .get fun device => ?_
  split
  · exact .refuse _
  · refine .bind (.lift (proceeds_make _ .view fun _ => rfl)) fun answer => ?_
    cases answer with
    | error failure => exact .refuse _
    | ok made =>
      refine .bind .get fun device => ?_
      refine .bind (.lift fun _ h => h.of_eq rfl rfl rfl) fun _ => ?_
      refine .lift ?_
      cases device.views.get? slot with
      | none => exact .pure ()
      | some previous => exact proceeds_call rfl

theorem proceeds_releaseView (slot : Slot) : (releaseView slot).Keeps origin.Proceeds := by
  refine Act.Meets.get fun device => ?_
  split
  · exact .pure fun _ h => h.2
  · next view _ =>
    refine .through (fun _ => origin.Proceeds) ?_ fun _ => proceeds_call rfl
    rintro _ ⟨rfl, h⟩
    exact h.of_eq rfl rfl rfl

theorem proceeds_awaitIdle : awaitIdle.Keeps origin.Proceeds := by
  refine .bind (proceeds_onNative fun _ => Native.keeps_deviceWaitIdle_proceeds) fun failure => ?_
  cases failure with
  | none => exact .pure true
  | some failure => exact .bind (.log _ _) fun _ => .pure false

theorem proceeds_retire (submission : Submission) :
    (retire submission).Keeps origin.Proceeds := by
  refine .bind ?_ fun _ => ?_
  · cases submission.fence with
    | none => exact .pure ()
    | some fence => exact proceeds_call rfl
  refine .bind ?_ fun _ => ?_
  · cases submission.commandBuffer with
    | none => exact .pure ()
    | some commandBuffer => exact proceeds_call rfl
  refine .bind (proceeds_destroyEach _) fun _ => ?_
  exact fun _ h => h.of_eq rfl rfl rfl

theorem proceeds_pollEach (submissions : List Submission) :
    (pollEach submissions).Keeps origin.Proceeds := by
  induction submissions with
  | nil => exact .pure ()
  | cons submission rest ih =>
    refine .bind ?_ fun seen => ?_
    · unfold hasSignalled
      split
      · exact .pure false
      · exact proceeds_onNative fun _ => Native.keeps_isSignalled _
    · cases seen with
      | false => exact .pure ()
      | true =>
        refine .bind (fun _ h => h.of_eq rfl rfl rfl) fun _ => ?_
        exact .bind (proceeds_retire _) fun _ => ih

/-- Polling adds no copy, whatever the fences say. -/
theorem proceeds_pollCompleted : pollCompleted.Keeps origin.Proceeds :=
  .bind .get fun device => proceeds_pollEach device.inFlight

theorem proceeds_endRecording : endRecording.Keeps origin.Proceeds := by
  have hended (commandBuffer : Nat) :
      (endCommandBuffer commandBuffer).Keeps origin.Proceeds := by
    refine .bind (proceeds_attempt _ fun _ => rfl) fun failure => ?_
    cases failure with
    | none => exact .pure ()
    | some failure => exact .log _ _
  refine Act.Meets.get fun device => ?_
  refine .through (fun _ => origin.Proceeds) ?_ fun _ => show Act.Keeps _ _ from ?_
  · rintro _ ⟨rfl, h⟩
    exact h.of_eq rfl rfl rfl
  refine .bind ?_ fun _ => ?_
  · cases device.recording with
    | none => exact .pure ()
    | some commandBuffer => exact hended commandBuffer
  refine .bind (fun _ h => h.of_eq rfl rfl rfl) fun _ => ?_
  exact .pure _

theorem proceeds_abandon (submission : Submission) (failure : ResultCode) :
    (abandon submission failure).Keeps origin.Proceeds := by
  refine .bind (.log _ _) fun _ => ?_
  refine .bind ?_ fun _ => ?_
  · cases submission.fence with
    | none => exact .pure ()
    | some fence => exact proceeds_call rfl
  refine .bind ?_ fun _ => ?_
  · refine .bind proceeds_awaitIdle fun idle => ?_
    cases idle with
    | true => exact .pure ()
    | false => exact .log _ _
  exact proceeds_retire _

theorem proceeds_awaitFence (fence : Nat) : (awaitFence fence).Keeps origin.Proceeds := by
  refine .bind (proceeds_onNative fun _ => Native.keeps_waitForFence _ _) fun failure => ?_
  cases failure with
  | none => exact .pure ()
  | some failure =>
    dsimp only
    split <;> exact .log _ _

theorem proceeds_submitEnded (fenceValue : Nat) (ended : Option Nat × List Resource)
    (wait : Bool) : (submitEnded fenceValue ended wait).Keeps origin.Proceeds := by
  refine .bind (proceeds_make _ .fence fun _ => rfl) fun answer => ?_
  cases answer with
  | error failure => exact proceeds_abandon _ _
  | ok fence =>
    refine .bind (proceeds_onNative fun _ => Native.keeps_queueSubmit _ _) fun failure => ?_
    cases failure with
    | some failure => exact proceeds_abandon _ _
    | none =>
      refine .bind (fun _ h => h.of_eq rfl rfl rfl) fun _ => ?_
      cases wait with
      | true => exact proceeds_awaitFence fence
      | false => exact .pure ()

/-- A submission adds no copy to those that were recorded. -/
theorem proceeds_submit (wait : Bool) : (submit wait).Keeps origin.Proceeds := by
  refine Act.Meets.get fun device => ?_
  refine .through (fun _ => origin.Proceeds) ?_ fun _ => show Act.Keeps _ _ from ?_
  · rintro _ ⟨rfl, h⟩
    exact h.of_eq rfl rfl rfl
  refine .bind proceeds_endRecording fun ended => ?_
  refine .bind (proceeds_submitEnded _ ended wait) fun _ => ?_
  refine .bind proceeds_pollCompleted fun _ => ?_
  exact .pure _

/-- Destroying a resource adds no copy, whether it is freed now or parked. -/
theorem proceeds_destroyResource (id : ResourceId) :
    (destroyResource id).Keeps origin.Proceeds := by
  refine Act.Meets.get fun device => ?_
  split
  · exact .log fun _ h => h.2
  · refine .through (fun _ => origin.Proceeds) ?_ fun _ => show Act.Keeps _ _ from ?_
    · rintro _ ⟨rfl, h⟩
      exact h.without id
    · split
      · exact .bind (.log _ _) fun _ _ h => h.of_eq rfl rfl rfl
      · exact proceeds_destroyNative _

/-- What outlasts everything but a copy outlasts an operation without one. -/
theorem keeps_of_proceeds {good : VulkanDevice → Prop}
    (hgood : ∀ before after, good before → before.Proceeds after → good after)
    {act : Act VulkanDevice α} (hact : ∀ origin : VulkanDevice, act.Keeps origin.Proceeds) :
    act.Keeps good :=
  fun device hdevice => hgood device _ hdevice (hact device device (.refl device))

/-- The resource is a buffer, which Vulkan has made with `size` bytes. -/
def IsBuffer (device : VulkanDevice) (id : ResourceId) (buffer size : Nat) : Prop :=
  (∃ memory, device.resources.get? id = some (.buffer buffer memory size)) ∧
    .createBuffer size (.ok buffer) ∈ device.calls

/-- The identifier is that of a buffer of `size` bytes, for as long as it is there. -/
structure Backs (device : VulkanDevice) (id : ResourceId) (size : Nat) : Prop where
  used : id.raw < device.nextId
  buffer : ∀ resource, device.resources.get? id = some resource →
    ∃ handle memory, resource = .buffer handle memory size ∧
      .createBuffer size (.ok handle) ∈ device.calls

/-- A buffer with these bytes is behind its identifier in every device that follows. -/
theorem Backs.follows {id : ResourceId} {size : Nat} (h : before.Backs id size)
    (hfollows : before.Follows after) : after.Backs id size := by
  refine ⟨Nat.lt_of_lt_of_le h.used hfollows.nextId, fun resource hfound => ?_⟩
  obtain ⟨handle, memory, heq, hmade⟩ :=
    h.buffer resource (hfollows.found id resource h.used hfound)
  exact ⟨handle, memory, heq, hfollows.calls.subset hmade⟩

/-- What is found later under an identifier is the buffer that was there. -/
theorem Backs.isBuffer {id : ResourceId} {size handle : Nat} (h : before.Backs id size)
    (hfollows : before.Follows after) (hbuffer : after.buffer? id = some handle) :
    before.IsBuffer id handle size := by
  obtain ⟨memory, found, hfound⟩ := (buffer?_eq_some_iff).mp hbuffer
  have hearlier := hfollows.found id _ h.used hfound
  obtain ⟨handle, memory, heq, hmade⟩ := h.buffer _ hearlier
  cases heq
  exact ⟨⟨memory, hearlier⟩, hmade⟩

/-- Vulkan has made a buffer on the way, and no copy was recorded. -/
def Made (origin : VulkanDevice) (size handle : Nat) (device : VulkanDevice) : Prop :=
  origin.Proceeds device ∧ .createBuffer size (.ok handle) ∈ device.calls

/-- A handle that was just made is not used up by calls without a copy. -/
theorem keeps_made {size handle : Nat} {act : Act VulkanDevice α}
    (hact : ∀ origin : VulkanDevice, act.Keeps origin.Proceeds) :
    act.Keeps (Made origin size handle) := by
  refine keeps_of_proceeds ?_ hact
  rintro before after ⟨hbefore, hmade⟩ hafter
  exact ⟨hbefore.trans hafter, hafter.calls.subset hmade⟩

/-- A buffer that is made has a handle of its own, with the bytes asked for. -/
theorem meets_createBuffer (size : Nat) :
    (onNative (Native.createBuffer size)).Meets origin.Proceeds fun answer device =>
      origin.Proceeds device ∧ ∀ handle, answer = .ok handle → Made origin size handle device := by
  intro device h
  have hafter : origin.Proceeds ((onNative (Native.createBuffer size)).run device).state :=
    proceeds_onNative (fun _ => Native.keeps_make _ .buffer fun _ => rfl) device h
  refine ⟨hafter, fun handle hvalue => ⟨hafter, ?_⟩⟩
  have hrun : (Native.createBuffer size).run device.native = _ :=
    Native.run_make .createBuffer (.createBuffer size) .buffer device.native
  change ((Native.createBuffer size).run device.native).value = _ at hvalue
  change _ ∈ ((Native.createBuffer size).run device.native).state.calls
  rw [hrun] at hvalue ⊢
  cases hfailure : device.native.failure? .createBuffer with
  | some failure =>
    rw [hfailure] at hvalue
    cases hvalue
  | none =>
    rw [hfailure] at hvalue
    cases hvalue
    rw [Native.calls_note_call]
    exact List.mem_append_right _ (List.mem_singleton_self _)

/-- What Vulkan has made is entered under the next identifier. -/
theorem meets_register_buffer {size handle : Nat} (memory : Nat) :
    (register (.buffer handle memory size)).Meets (Made origin size handle) fun id device =>
      origin.Proceeds device ∧ device.Backs id size := by
  rintro device ⟨h, hmade⟩
  refine ⟨h.holding _, Nat.lt_succ_self device.nextId, fun resource hfound => ?_⟩
  change (device.resources.insert ⟨device.nextId⟩ (.buffer handle memory size)).get?
    ⟨device.nextId⟩ = some resource at hfound
  rw [Table.get?_insert, if_pos rfl] at hfound
  obtain rfl := Option.some.inj hfound
  exact ⟨handle, memory, rfl, hmade⟩

/-- A buffer that is granted is zeroed and has the size asked for. -/
theorem meets_createHostBuffer_backs (size : Nat) :
    (createHostBuffer size).Meets origin.Proceeds (fun buffer device => origin.Proceeds device ∧
      buffer.memory = .zeroed size ∧ device.Backs buffer.resource size)
      fun _ => origin.Proceeds := by
  refine .bind (.lift (meets_createBuffer size)) fun answer => ?_
  cases answer with
  | error failure => exact .refuse fun _ h => h.1
  | ok handle =>
    refine .narrow ?_ (fun _ h => h.2 handle rfl)
    let made := Made origin size handle
    refine .through (fun _ => made) (.lift (keeps_made fun _ => proceeds_allocate _ _))
      fun answer => ?_
    cases answer with
    | error refusal =>
      refine .through (fun _ => made) (.lift (keeps_made fun _ => proceeds_call rfl)) fun _ => ?_
      exact .refuse fun _ h => h.1
    | ok memory =>
      refine .through (fun _ => made)
        (.lift (keeps_made fun _ => proceeds_attempt _ fun _ => rfl)) fun failure => ?_
      have hmapped : (onNative Native.isMapped).Keeps made :=
        keeps_made fun _ => proceeds_onNative fun _ => Native.keeps_isMapped
      refine .through (fun _ => made) (.lift hmapped) fun isMapped => ?_
      have hgivenUp {error : TextureError} :
          (do
            .lift (destroyNative (.buffer handle memory size))
            .refuse error : Attempt TextureError VulkanDevice HostBuffer).Meets
            (Made origin size handle) (fun buffer device => origin.Proceeds device ∧
              buffer.memory = .zeroed size ∧ device.Backs buffer.resource size)
            fun _ => origin.Proceeds := by
        refine .through (fun _ => made) (.lift (keeps_made fun _ => proceeds_destroyNative _)) ?_
        exact fun _ => .refuse fun _ h => h.1
      cases failure with
      | some failure => exact hgivenUp
      | none =>
        cases isMapped with
        | false => exact hgivenUp
        | true =>
          exact .bind (.lift (meets_register_buffer memory)) fun id =>
            .pure fun _ h => ⟨h.1, rfl, h.2⟩

/-- Making a buffer for the host adds no copy, whichever call fails. -/
theorem proceeds_createHostBuffer (size : Nat) :
    (createHostBuffer size).Keeps origin.Proceeds :=
  .of_meets (.answering (meets_createHostBuffer_backs size) (fun _ _ h => h.1))

/-- What outlasts everything but a copy is preserved by the device. -/
theorem preserves_of_proceeds {good : VulkanDevice → Prop}
    (hgood : ∀ before after, good before → before.Proceeds after → good after) :
    Device.Preserves good where
  createTexture desc state := keeps_of_proceeds hgood fun _ => proceeds_createTexture desc state
  createHostBuffer size := keeps_of_proceeds hgood fun _ => proceeds_createHostBuffer size
  createView id view slot := keeps_of_proceeds hgood fun _ => proceeds_createView id view slot
  releaseView slot := keeps_of_proceeds hgood fun _ => proceeds_releaseView slot
  recordBarrier id _ _ := keeps_of_proceeds hgood fun _ => proceeds_transitionImage id _ _ _ _
  submit wait := keeps_of_proceeds hgood fun _ => proceeds_submit wait
  completedFence := keeps_of_proceeds hgood fun _ =>
    .bind proceeds_pollCompleted fun _ => fun _ h => h
  waitIdle := keeps_of_proceeds hgood fun _ =>
    .bind proceeds_awaitIdle fun _ => proceeds_pollCompleted
  destroyResource id := keeps_of_proceeds hgood fun _ => proceeds_destroyResource id

/-- The copy is what was asked for, from what was behind the source when it was recorded. -/
structure Encodes (origin : VulkanDevice) (request : BufferCopy) (copy : ImageCopy) : Prop where
  source : ∃ now : VulkanDevice, origin.Follows now ∧
    now.buffer? request.source = some copy.buffer
  offset : copy.offset = request.sourceOffset
  rowLength : copy.rowLength = request.rowPitch / max request.format.bytesPerPixel 1
  width : copy.width = request.region.width
  height : copy.height = request.region.height

/-- At most one copy was recorded beyond those of `origin`, and it is as in `good`. -/
def Records (origin device : VulkanDevice) (good : ImageCopy → Prop) : Prop :=
  ∃ made, device.copies = origin.copies ++ made ∧ made.length ≤ 1 ∧ ∀ copy ∈ made, good copy

/-- Without a copy, all that were recorded are good. -/
theorem Proceeds.records (h : origin.Proceeds device) {good : ImageCopy → Prop} :
    origin.Records device good :=
  ⟨[], by rw [List.append_nil, h.copies], Nat.zero_le 1, by simp⟩

theorem Records.mono {good good' : ImageCopy → Prop} (h : origin.Records device good)
    (hgood : ∀ copy, good copy → good' copy) : origin.Records device good' := by
  obtain ⟨made, hmade, hlength, hall⟩ := h
  exact ⟨made, hmade, hlength, fun copy hcopy => hgood copy (hall copy hcopy)⟩

/-- Copies that were recorded before or after stay what they are. -/
theorem Records.between {good : ImageCopy → Prop} (hbefore : origin.Proceeds before)
    (h : before.Records device good) (hafter : device.Proceeds after) :
    origin.Records after good := by
  obtain ⟨made, hmade, hall⟩ := h
  exact ⟨made, hbefore.copies ▸ hafter.copies.trans hmade, hall⟩

/-- At most the copy that was asked for was recorded. -/
structure Copied (origin : VulkanDevice) (request : BufferCopy) (device : VulkanDevice) :
    Prop extends Follows origin device where
  copies : origin.Records device (origin.Encodes request)

variable {request : BufferCopy}

/-- A copy that encodes a request reads the buffer behind the source asked for. -/
theorem Encodes.isBuffer {copy : ImageCopy} {size : Nat} (h : origin.Encodes request copy)
    (hsource : origin.Backs request.source size) :
    origin.IsBuffer request.source copy.buffer size := by
  obtain ⟨now, hfollows, hbuffer⟩ := h.source
  exact hsource.isBuffer hfollows hbuffer

/-- A request may come to nothing. -/
theorem Copied.of_proceeds (h : origin.Proceeds device) : Copied origin request device :=
  ⟨h.toFollows, h.records⟩

/-- What is done after a copy adds no other. -/
theorem Copied.proceeds (h : Copied origin request before) (hafter : before.Proceeds after) :
    Copied origin request after :=
  ⟨h.toFollows.trans hafter.toFollows, .between (.refl origin) h.copies hafter⟩

/-- One copy is recorded. -/
theorem Copied.note {copy : ImageCopy} (h : origin.Proceeds device)
    (hcopy : origin.Encodes request copy) (commandBuffer : Nat) :
    Copied origin request (device.note (.call (.copyBufferToImage commandBuffer copy))) where
  calls := h.calls.trans (Native.calls_prefix_note device.native _)
  nextId := h.nextId
  found := h.found
  copies := by
    refine ⟨[copy], ?_, Nat.le_refl 1, by simpa using hcopy⟩
    rw [← h.copies]
    exact Native.copies_note device.native _

/-- A copy is recorded as it was asked for, if it is recorded at all. -/
theorem meets_recordCopy_copied (request : BufferCopy) :
    (recordCopy request).Meets origin.Proceeds fun _ => Copied origin request := by
  refine .get fun now => ?_
  split
  · exact .log fun _ h => .of_proceeds h.2
  · next buffer hbuffer =>
    split
    · exact .log fun _ h => .of_proceeds h.2
    · next image desc _ =>
      refine .through (fun _ device => origin.Proceeds device ∧ origin.Follows now) ?_
        fun answer => ?_
      · rintro device ⟨rfl, h⟩
        exact ⟨proceeds_commandBuffer device h, h.toFollows⟩
      · split
        · exact .pure fun _ h => .of_proceeds h.1
        · next commandBuffer =>
          have hrefer (id : ResourceId) : (refer id).Keeps (Copied origin request) :=
            fun _ h => h.proceeds (.of_eq (.refl _) rfl rfl rfl)
          refine .through (fun _ => Copied origin request) ?_ fun _ =>
            .bind (hrefer request.source) fun _ => hrefer request.destination
          rintro device ⟨h, hnow⟩
          exact .note h ⟨⟨now, hnow, hbuffer⟩, rfl, rfl, rfl, rfl⟩ commandBuffer

/-- What is behind identifiers stays as it is when a copy is recorded. -/
theorem follows_recordCopy (request : BufferCopy) : (recordCopy request).Keeps origin.Follows :=
  fun device h => h.trans (meets_recordCopy_copied request device (.refl device)).toFollows

end VulkanDevice

end Texel.Vulkan
