import Texel.Proofs.Twins.Device
import Texel.Proofs.Twins.Native
import Texel.Proofs.Vulkan.Operations

namespace Texel.Vulkan

open VulkanDevice

/-- The shape of a resource, if it is an image. -/
def Resource.desc? : Resource → Option TextureDesc
  | .image _ _ desc => some desc
  | .buffer .. => none

/-- A device on Vulkan describes a resource if it holds it and it is an image. -/
theorem VulkanDevice.textureDesc?_eq (device : VulkanDevice) (id : ResourceId) :
    device.textureDesc? id = (device.resources.get? id).bind Resource.desc? := by
  unfold VulkanDevice.textureDesc? image?
  cases device.resources.get? id with
  | none => rfl
  | some resource => cases resource <;> rfl

/-- The device once its only submission in flight is complete. -/
def VulkanDevice.landed (device : VulkanDevice) (fenceValue : Nat) : VulkanDevice :=
  { device with inFlight := [], completedFence := max device.completedFence fenceValue }

/-- The books are those of `books`, and the implementation obliges. -/
structure Keeping (books device : VulkanDevice) : Prop where
  nextId : device.nextId = books.nextId
  resources : device.resources = books.resources
  inFlight : device.inFlight = books.inFlight
  currentFence : device.currentFence = books.currentFence
  completedFence : device.completedFence = books.completedFence
  obliges : device.native.Obliges

variable {α : Type} {books : VulkanDevice}

namespace Keeping

/-- Calls that leave the implementation obliging leave the books of the device as they are. -/
theorem of_native {good : α → Prop} {act : Act Native α}
    (h : act.Meets Native.Obliges fun value native => good value ∧ native.Obliges) :
    (onNative act).Meets (Keeping books) fun value device => good value ∧ Keeping books device := by
  refine meets_onNative fun device native hkeeping => ?_
  obtain ⟨hgood, hobliges⟩ := h native hkeeping.obliges
  exact ⟨hgood, { hkeeping with obliges := hobliges }⟩

theorem keeps_onNative {act : Act Native α} (h : act.Keeps Native.Obliges) :
    (onNative act).Keeps (Keeping books) :=
  meets_onNative fun _ native hkeeping => { hkeeping with obliges := h native hkeeping.obliges }

theorem keeps_call (made : Call) : (onNative (Native.call made)).Keeps (Keeping books) :=
  keeps_onNative (Native.keeps_record _)

/-- Destroying the objects of a resource keeps the books, which name it no more. -/
theorem keeps_destroyNative (resource : Resource) :
    (destroyNative resource).Keeps (Keeping books) := by
  unfold destroyNative
  split
  · exact .pure ()
  · exact .bind (keeps_onNative (Native.keeps_record _)) fun _ => keeps_call _
  · exact .bind (keeps_onNative (Native.keeps_record _)) fun _ => keeps_call _

theorem keeps_destroyEach (resources : List Resource) :
    (destroyEach resources).Keeps (Keeping books) := by
  induction resources with
  | nil => exact .pure ()
  | cons resource rest ih => exact .bind (keeps_destroyNative resource) fun _ => ih

theorem keeps_commandBuffer : commandBuffer?.Keeps (Keeping books) := by
  refine .bind .get fun device => ?_
  split
  · exact .pure _
  · refine .bind (keeps_onNative ?_) fun answer => ?_
    · exact .mono (Native.meets_make_obliging _ _ .commandBuffer) (fun _ h => h) fun _ _ h => h.2
    · cases answer with
      | error failure => exact .bind (.log _ _) fun _ => .pure _
      | ok commandBuffer =>
        refine .bind (keeps_onNative (Native.keeps_attempt_obliging _ _)) fun failure => ?_
        cases failure with
        | some failure => exact .bind (.log _ _) fun _ => .bind (keeps_call _) fun _ => .pure _
        | none => exact .bind (fun _ h => { h with }) fun _ => .pure _

theorem keeps_transitionImage (id : ResourceId) (oldLayout : ImageLayout)
    (sourceAccess sourceStage : Nat) (after : UsageState) :
    (transitionImage id oldLayout sourceAccess sourceStage after).Keeps (Keeping books) := by
  refine .bind .get fun device => ?_
  split
  · exact .log _ _
  · refine .bind keeps_commandBuffer fun commandBuffer => ?_
    split
    · exact .pure ()
    · exact .bind (keeps_call _) fun _ _ h => { h with }

theorem keeps_recordCopy (copy : BufferCopy) : (recordCopy copy).Keeps (Keeping books) := by
  refine .bind .get fun device => ?_
  split
  · exact .log _ _
  · split
    · exact .log _ _
    · refine .bind keeps_commandBuffer fun commandBuffer => ?_
      split
      · exact .pure ()
      · exact .bind (keeps_call _) fun _ => .bind (fun _ h => { h with }) fun _ _ h => { h with }

/-- Destroying a view keeps the books, in which views do not stand. -/
theorem keeps_releaseView (slot : Slot) : (releaseView slot).Keeps (Keeping books) := by
  refine Act.Meets.get fun device => ?_
  split
  · exact .pure fun _ h => h.2
  · next view hview =>
    refine .through (fun _ => Keeping books) ?_ fun _ => keeps_call (.destroyImageView view)
    rintro _ ⟨rfl, hkeeping⟩
    exact { hkeeping with }

theorem keeps_endCommandBuffer (commandBuffer : Nat) :
    (endCommandBuffer commandBuffer).Keeps (Keeping books) := by
  refine .bind (keeps_onNative (Native.keeps_attempt_obliging _ _)) fun failure => ?_
  cases failure with
  | none => exact .pure ()
  | some failure => exact .log _ _

theorem keeps_endRecording : endRecording.Keeps (Keeping books) := by
  refine Act.Meets.get fun device => .through (fun _ => Keeping books) ?_ fun _ =>
    show Act.Keeps _ (Keeping books) from ?_
  · rintro _ ⟨rfl, hkeeping⟩
    exact { hkeeping with }
  · refine .bind ?_ fun _ => .bind (fun _ hkeeping => { hkeeping with }) fun _ => .pure _
    cases device.recording with
    | none => exact .pure ()
    | some commandBuffer => exact keeps_endCommandBuffer commandBuffer

theorem keeps_awaitIdle : awaitIdle.Keeps (Keeping books) := by
  refine .bind (keeps_onNative Native.keeps_deviceWaitIdle) fun failure => ?_
  cases failure with
  | none => exact .pure true
  | some failure => exact .bind (.log _ _) fun _ => .pure false

/-- A registered resource stands in the books under the next identifier. -/
theorem meets_register (resource : Resource) :
    (register resource).Meets (Keeping books) fun id device =>
      id = ⟨books.nextId⟩ ∧ Keeping (books.holding resource) device := by
  intro device h
  refine ⟨congrArg ResourceId.mk h.nextId, ?_⟩
  obtain ⟨hnextId, hresources, hinFlight, hcurrent, hcompleted, hobliges⟩ := h
  exact ⟨congrArg (· + 1) hnextId, by simp [register, VulkanDevice.holding, hnextId, hresources],
    hinFlight, hcurrent, hcompleted, hobliges⟩

section Succeeding

variable {ε δ β : Type} {final : β → VulkanDevice → Prop} {refused : ε → VulkanDevice → Prop}

/-- Going on after a call that makes something. -/
theorem after_ok {call : Act Native (Except δ α)} {next : Except δ α → Attempt ε VulkanDevice β}
    (h : call.Meets Native.Obliges fun answer native =>
      (∃ value, answer = .ok value) ∧ native.Obliges)
    (hnext : ∀ value, (next (.ok value)).Meets (Keeping books) final refused) :
    (Attempt.lift (onNative call) >>= next).Meets (Keeping books) final refused := by
  refine .bind (.lift (of_native h)) fun answer => ?_
  rintro device ⟨⟨value, rfl⟩, hkeeping⟩
  exact hnext value device hkeeping

/-- Going on after a call whose answer is known. -/
theorem after_eq {known : α} {call : Act Native α} {next : α → Attempt ε VulkanDevice β}
    (h : call.Meets Native.Obliges fun answer native => answer = known ∧ native.Obliges)
    (hnext : (next known).Meets (Keeping books) final refused) :
    (Attempt.lift (onNative call) >>= next).Meets (Keeping books) final refused := by
  refine .bind (.lift (of_native h)) fun answer => ?_
  rintro device ⟨rfl, hkeeping⟩
  exact hnext device hkeeping

end Succeeding

/-- Making an image never fails on an implementation that obliges, and puts it in the books. -/
theorem meets_createImage (format : ImageFormat) (desc : TextureDesc) :
    (createImage format desc).Meets (Keeping books) (fun id device => id = ⟨books.nextId⟩ ∧
      ∃ image memory, Keeping (books.holding (.image image (some memory) desc)) device)
      fun _ _ => False := by
  refine after_ok (Native.meets_make_obliging _ _ .image) fun image => ?_
  refine after_ok (Native.meets_allocate_obliging (fun _ h => h.imageMemory) (by simp))
    fun memory => after_eq (Native.meets_attempt_obliging _ _) (.lift ?_)
  refine .mono (meets_register _) (fun _ h => h) fun id device h => ?_
  exact ⟨h.1, image, memory, h.2⟩

/-- Making a common texture never fails on an implementation that obliges. -/
theorem meets_createTexture {desc : TextureDesc} (hdesc : desc.IsCommon) (state : UsageState) :
    (createTexture desc state).Meets (Keeping books) (fun id device => id = ⟨books.nextId⟩ ∧
      ∃ image memory, Keeping (books.holding (.image image (some memory) desc)) device)
      fun _ _ => False := by
  have hformat : imageFormat desc.format ≠ .undefined := by
    have hknown := hdesc.format
    cases hnative : desc.format with
    | unknown => exact absurd hnative hknown
    | _ => simp [imageFormat]
  unfold createTexture
  simp only [if_neg hformat, if_pos (And.intro hdesc.samples hdesc.samples_le)]
  refine .bind (meets_createImage _ desc) fun id => ?_
  rintro device ⟨rfl, image, memory, hkeeping⟩
  exact ⟨rfl, image, memory, keeps_transitionImage _ _ _ _ _ device hkeeping⟩

/-- Making a buffer with at least one byte never fails on an implementation that obliges. -/
theorem meets_createHostBuffer {size : Nat} (hpositive : 0 < size) :
    (createHostBuffer size).Meets (Keeping books) (fun made device =>
      made = ⟨⟨books.nextId⟩, .zeroed size⟩ ∧
        ∃ buffer memory, Keeping (books.holding (.buffer buffer memory size)) device)
      fun _ _ => False := by
  have hrequest : MemoryRequest.buffer size ≠ .buffer 0 := fun hempty =>
    Nat.ne_of_gt hpositive (MemoryRequest.buffer.inj hempty)
  refine after_ok (Native.meets_make_obliging _ _ .buffer) fun buffer => ?_
  refine after_ok (Native.meets_allocate_obliging (fun _ h => h.bufferMemory) hrequest)
    fun memory => after_eq (Native.meets_attempt_obliging _ _) ?_
  refine after_eq Native.meets_isMapped_obliging (.bind (.lift (meets_register _)) fun id => ?_)
  rintro device ⟨rfl, hkeeping⟩
  exact ⟨rfl, buffer, memory, hkeeping⟩

/-- A view of an image is made. -/
theorem meets_createView {id : ResourceId} (himage : (books.textureDesc? id).isSome)
    (view : ViewDesc) (slot : Slot) :
    (createView id view slot).Meets (Keeping books) (fun _ => Keeping books) fun _ _ => False := by
  refine .get fun device => ?_
  split
  · next hnone =>
    rintro _ ⟨rfl, hkeeping⟩
    rw [textureDesc?_eq, ← hkeeping.resources, ← textureDesc?_eq, VulkanDevice.textureDesc?,
      hnone] at himage
    cases himage
  · next image desc hsome =>
    refine .narrow (after_ok (Native.meets_make_obliging _ _ .view)
      fun made => .get fun device => ?_)
      (fun _ h => h.2)
    refine .through (fun _ => Keeping books) (.lift ?_) fun _ => .lift ?_
    · rintro now ⟨-, hkeeping⟩
      exact { hkeeping with }
    · cases device.views.get? slot with
      | none => exact fun _ hkeeping => hkeeping
      | some previous => exact keeps_call (.destroyImageView previous)

/-- The books without a resource, which may be there or not. -/
theorem meets_destroyResource (id : ResourceId) :
    (destroyResource id).Meets (Keeping books) fun _ device =>
      ∃ resources : Table ResourceId Resource, Keeping { books with resources } device ∧
        ∀ other, resources.get? other =
          if other = id then none else books.resources.get? other := by
  refine .get fun origin => ?_
  split
  · next hnone =>
    refine .log ?_
    rintro _ ⟨rfl, hkeeping⟩
    refine ⟨books.resources, hkeeping, fun other => ?_⟩
    rw [hkeeping.resources] at hnone
    split
    · next heq => rw [heq, hnone]
    · rfl
  · next resource hsome =>
    refine .through (fun _ => Keeping { books with resources := books.resources.erase id }) ?_
      fun _ => .mono (show Act.Keeps _ _ from ?_) (fun _ hkeeping => hkeeping)
        fun _ _ hkeeping => ⟨_, hkeeping, books.resources.get?_erase id⟩
    · rintro _ ⟨rfl, hkeeping⟩
      exact { hkeeping with resources := congrArg (Table.erase · id) hkeeping.resources }
    · split
      · exact .bind (.log _ _) fun _ _ hkeeping => { hkeeping with }
      · exact keeps_destroyNative resource

/-- Retiring a submission raises the completed fence of the books to its own. -/
theorem meets_retire (submission : Submission) :
    (retire submission).Meets (Keeping books) fun _ => Keeping
      { books with completedFence := max books.completedFence submission.fenceValue } := by
  refine .through (fun _ => Keeping books) ?_ fun _ => ?_
  · cases submission.fence with
    | none => exact fun _ hkeeping => hkeeping
    | some fence => exact keeps_call _
  refine .through (fun _ => Keeping books) ?_ fun _ => ?_
  · cases submission.commandBuffer with
    | none => exact fun _ hkeeping => hkeeping
    | some commandBuffer => exact keeps_call _
  refine .bind (keeps_destroyEach _) fun _ => ?_
  intro device hkeeping
  exact { hkeeping with completedFence := congrArg (max · _) hkeeping.completedFence }

/-- Polling with nothing in flight keeps the books. -/
theorem keeps_pollCompleted (hidle : books.inFlight = []) :
    pollCompleted.Keeps (Keeping books) := by
  refine Act.Meets.get fun device => ?_
  rintro _ ⟨rfl, hkeeping⟩
  rw [hkeeping.inFlight, hidle]
  exact hkeeping

/-- A submission whose fence has signalled is retired. -/
theorem meets_pollEach {submission : Submission} {fence : Nat}
    (hfence : submission.fence = some fence) :
    (pollEach [submission]).Meets
      (fun device => Keeping books device ∧ fence ∈ device.native.signalled)
      fun _ => Keeping (books.landed submission.fenceValue) := by
  refine .through (fun seen device => seen = true ∧ Keeping books device) ?_ fun seen => ?_
  · unfold hasSignalled
    rw [hfence]
    refine meets_onNative fun device native h => ?_
    obtain ⟨hseen, hobliges⟩ := Native.meets_isSignalled_obliging fence native ⟨h.1.obliges, h.2⟩
    exact ⟨hseen, { h.1 with obliges := hobliges }⟩
  · rintro device ⟨rfl, hkeeping⟩
    have hpopped : Keeping { books with inFlight := [] } { device with inFlight := [] } :=
      { hkeeping with inFlight := rfl }
    exact meets_retire submission _ hpopped

/-- Polling retires the one submission in flight once its fence has signalled. -/
theorem meets_pollCompleted {submission : Submission} {fence : Nat}
    (hfence : submission.fence = some fence) (hflight : books.inFlight = [submission]) :
    pollCompleted.Meets
      (fun device => Keeping books device ∧ fence ∈ device.native.signalled)
      fun _ => Keeping (books.landed submission.fenceValue) := by
  refine .get fun device => ?_
  rintro _ ⟨rfl, hkeeping, hsignalled⟩
  rw [hkeeping.inFlight, hflight]
  exact meets_pollEach hfence _ ⟨hkeeping, hsignalled⟩

theorem keeps_awaitFence (fence : Nat) :
    (awaitFence fence).Keeps fun device =>
      Keeping books device ∧ fence ∈ device.native.signalled := by
  refine .through (fun failure device => failure = none ∧ Keeping books device ∧
    fence ∈ device.native.signalled) (meets_onNative fun device native h => ?_) fun failure => ?_
  · obtain ⟨hnone, hobliges, hsignalled⟩ :=
      Native.meets_waitForFence_obliging fence fenceTimeout native ⟨h.1.obliges, h.2⟩
    exact ⟨hnone, { h.1 with obliges := hobliges }, hsignalled⟩
  · rintro device ⟨rfl, h⟩
    exact h

/-- Handing over work puts its submission in flight, and its fence signals at once. -/
theorem meets_handOver (hidle : books.inFlight = []) (submission : Submission) (fence : Nat)
    (wait : Bool) :
    (handOver submission fence wait).Meets (Keeping books) fun _ device =>
      Keeping { books with inFlight := [submission] } device ∧ fence ∈ device.native.signalled := by
  refine .through (fun failure device => failure = none ∧ Keeping books device ∧
    fence ∈ device.native.signalled) (meets_onNative fun device native hkeeping => ?_)
    fun failure => ?_
  · obtain ⟨hnone, hobliges, hsignalled⟩ :=
      Native.meets_queueSubmit_obliging submission.commandBuffer fence native hkeeping.obliges
    exact ⟨hnone, { hkeeping with obliges := hobliges }, hsignalled⟩
  · cases failure with
    | some failure =>
      rintro device ⟨hnone, -⟩
      cases hnone
    | none =>
      refine .through (fun _ device => Keeping { books with inFlight := [submission] } device ∧
        fence ∈ device.native.signalled) ?_ fun _ => ?_
      · rintro device ⟨-, hkeeping, hsignalled⟩
        refine ⟨{ hkeeping with inFlight := ?_ }, hsignalled⟩
        exact (congrArg (· ++ [submission]) hkeeping.inFlight).trans (by rw [hidle]; rfl)
      · cases wait
        · exact .pure fun _ h => h
        · exact keeps_awaitFence fence

/-- Submitting ended work puts one submission in flight, with a fence that has signalled. -/
theorem meets_submitEnded (hidle : books.inFlight = []) (fenceValue : Nat)
    (ended : Option Nat × List Resource) (wait : Bool) :
    (submitEnded fenceValue ended wait).Meets (Keeping books) fun _ device => ∃ fence,
      Keeping { books with inFlight := [⟨fenceValue, some fence, ended.1, ended.2⟩] } device ∧
        fence ∈ device.native.signalled := by
  refine .bind (of_native (Native.meets_make_obliging _ _ .fence)) fun answer => ?_
  rintro device ⟨⟨fence, rfl⟩, hkeeping⟩
  exact ⟨fence, meets_handOver hidle _ fence wait device hkeeping⟩

/-- What follows when the next fence value has been taken. -/
theorem meets_submitAs (hidle : books.inFlight = []) (fenceValue : Nat) (wait : Bool) :
    (do
      let ended ← endRecording
      submitEnded fenceValue ended wait
      pollCompleted
      pure fenceValue : Act VulkanDevice Nat).Meets (Keeping books) fun fence device =>
        fence = fenceValue ∧ Keeping (books.landed fenceValue) device := by
  refine .bind keeps_endRecording fun ended => ?_
  refine .bind (meets_submitEnded hidle fenceValue ended wait) fun _ => ?_
  refine .through (fun _ => Keeping (books.landed fenceValue)) ?_
    fun _ => .pure fun _ hkeeping => ⟨rfl, hkeeping⟩
  rintro device ⟨fence, hflying⟩
  exact meets_pollCompleted rfl rfl device hflying

/-- Submitted work is complete when the submission returns. -/
theorem meets_submit_obliging (hidle : books.inFlight = []) (wait : Bool) :
    (submit wait).Meets (Keeping books) fun fence device => fence = books.currentFence ∧ Keeping
      ({ books with currentFence := books.currentFence + 1 }.landed books.currentFence)
      device := by
  intro device hkeeping
  -- the next fence value is taken first, so the books of the rest have moved on by one
  have hturned : Keeping { books with currentFence := books.currentFence + 1 }
      { device with currentFence := device.currentFence + 1 } :=
    { hkeeping with currentFence := congrArg (· + 1) hkeeping.currentFence }
  have hsubmitted := @meets_submitAs { books with currentFence := books.currentFence + 1 } hidle
    device.currentFence wait _ hturned
  rw [← hkeeping.currentFence] at hsubmitted ⊢
  exact hsubmitted

end Keeping

end Texel.Vulkan
