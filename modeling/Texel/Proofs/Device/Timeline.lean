import Texel.Device.Simulated
import Texel.Proofs.Act

namespace Texel

open Simulated

namespace SimulatedDevice

/-- The fence of the submission that contains a command. A command that is not submitted yet will be
part of the next submission. -/
def fenceOf (device : SimulatedDevice) (index : Nat) : Nat :=
  ((device.submissions.toList.find? fun submission => index < submission.2).map Prod.fst).getD
    device.currentFence

/-- The submission that contains a command is not known to be complete. -/
def IsPending (device : SimulatedDevice) (index : Nat) : Prop :=
  device.completedFence < device.fenceOf index

/-- Submissions lie in the past of what is being recorded. -/
structure Dated (device : SimulatedDevice) : Prop where
  completed : device.completedFence < device.currentFence
  fences : ∀ submission ∈ device.submissions.toList, submission.1 < device.currentFence
  counts : ∀ submission ∈ device.submissions.toList, submission.2 ≤ device.commands.size

/-- No command belongs to a later submission than the next one. -/
theorem fenceOf_le_currentFence {device : SimulatedDevice} (h : device.Dated) (index : Nat) :
    device.fenceOf index ≤ device.currentFence := by
  unfold fenceOf
  cases hfind : device.submissions.toList.find? fun submission => index < submission.2 with
  | none => exact Nat.le_refl _
  | some submission =>
    exact Nat.le_of_lt (h.fences submission (List.mem_of_find?_eq_some hfind))

/-- A command recorded after the last submission waits for the next one. -/
theorem fenceOf_eq_currentFence {device : SimulatedDevice} (h : device.Dated) {index : Nat}
    (hindex : device.commands.size ≤ index) : device.fenceOf index = device.currentFence := by
  unfold fenceOf
  rw [List.find?_eq_none.mpr]
  · rfl
  · intro submission hsubmission
    have := h.counts submission hsubmission
    simp only [decide_eq_true_eq]
    omega

/-- The device after a submission of what was recorded. -/
def submitted (device : SimulatedDevice) (wait : Bool) : SimulatedDevice :=
  { device with
    currentFence := device.currentFence + 1
    submissions := device.submissions.push (device.currentFence, device.commands.size)
    completedFence :=
      if device.autoComplete || wait then device.currentFence else device.completedFence }

/-- The device with more commands recorded. -/
def recorded (device : SimulatedDevice) (commands : List Command) : SimulatedDevice :=
  { device with commands := device.commands ++ commands.toArray }

/-- What recording a barrier leaves. -/
theorem state_recordBarrier (device : SimulatedDevice) (resource : ResourceId)
    (before after : UsageState) :
    ((Device.recordBarrier resource before after).run device).state =
      device.recorded [.barrier resource before after] := by
  exact congrArg (fun commands => { device with commands }) Array.push_eq_append

/-- What recording a copy leaves. -/
theorem state_recordCopy (device : SimulatedDevice) (request : BufferCopy) :
    ((Device.recordCopy request).run device).state = device.recorded [.copy request] := by
  exact congrArg (fun commands => { device with commands }) Array.push_eq_append

/-- What freeing a resource leaves; one that is not there cannot be freed. -/
theorem state_destroyResource (device : SimulatedDevice) (id : ResourceId) :
    ((Device.destroyResource id).run device).state =
      if device.resources.contains id then
        { device with
          resources := device.resources.erase id, destroyedCount := device.destroyedCount + 1 }
      else device := by
  by_cases hlive : device.resources.contains id <;>
    simp [Device.destroyResource, destroyResource, hlive]

/-- Recording nothing changes nothing. -/
@[simp] theorem recorded_nil (device : SimulatedDevice) : device.recorded [] = device := by
  simp [recorded]

/-- Commands recorded later come behind those recorded before. -/
@[simp] theorem recorded_recorded (device : SimulatedDevice) (first second : List Command) :
    (device.recorded first).recorded second = device.recorded (first ++ second) := by
  simp [recorded, Array.append_assoc]

/-- A submission gives no command another fence. -/
theorem fenceOf_submitted {device : SimulatedDevice} (wait : Bool) {index : Nat}
    (hindex : index < device.commands.size) :
    (device.submitted wait).fenceOf index = device.fenceOf index := by
  unfold fenceOf submitted
  simp only [Array.toList_push, List.find?_append, List.find?_cons, List.find?_nil]
  cases device.submissions.toList.find? fun submission => index < submission.2 with
  | none => simp [hindex]
  | some submission => simp

/-- A submission is dated like those before it. -/
theorem dated_submitted {device : SimulatedDevice} (h : device.Dated) (wait : Bool) :
    (device.submitted wait).Dated := by
  obtain ⟨hcompleted, hfences, hcounts⟩ := h
  refine ⟨?_, ?_, ?_⟩
  · simp only [submitted]
    split <;> omega
  · intro submission hsubmission
    simp only [submitted, Array.toList_push, List.mem_append, List.mem_singleton] at hsubmission
    simp only [submitted]
    rcases hsubmission with hold | rfl
    · have := hfences submission hold
      omega
    · exact Nat.lt_succ_self _
  · intro submission hsubmission
    simp only [submitted, Array.toList_push, List.mem_append, List.mem_singleton] at hsubmission
    rcases hsubmission with hold | rfl
    · exact hcounts submission hold
    · exact Nat.le_refl _

/-- Recording commands dates nothing. -/
theorem dated_recorded {device : SimulatedDevice} (h : device.Dated) (commands : List Command) :
    (device.recorded commands).Dated where
  completed := h.completed
  fences := h.fences
  counts submission hsubmission := by
    have := h.counts submission hsubmission
    simp only [recorded, Array.size_append]
    omega

/-- Submissions stay dated when their work completes. -/
theorem dated_completeAll {device : SimulatedDevice} (h : device.Dated) :
    device.completeAll.Dated where
  completed := by
    have := h.completed
    simp only [completeAll]
    omega
  fences := h.fences
  counts := h.counts

/-- A device goes on completing what it has submitted. -/
theorem completedFence_le_submitted {device : SimulatedDevice} (h : device.Dated) (wait : Bool) :
    device.completedFence ≤ (device.submitted wait).completedFence := by
  have := h.completed
  simp only [submitted]
  split <;> omega

/-- Completing all work takes no fence back. -/
theorem completedFence_le_completeAll {device : SimulatedDevice} (h : device.Dated) :
    device.completedFence ≤ device.completeAll.completedFence := by
  have := h.completed
  simp only [completeAll]
  omega

/-- The same was recorded, submitted and completed, and no identifier is used again. -/
structure SameTimeline (origin device : SimulatedDevice) : Prop where
  commands : device.commands = origin.commands
  submissions : device.submissions = origin.submissions
  currentFence : device.currentFence = origin.currentFence
  completedFence : device.completedFence = origin.completedFence
  nextId : origin.nextId ≤ device.nextId

/-- A device is on its own timeline. -/
theorem SameTimeline.refl (device : SimulatedDevice) : SameTimeline device device :=
  ⟨rfl, rfl, rfl, rfl, Nat.le_refl _⟩

/-- Two devices on the timeline of a third are on the same one. -/
theorem SameTimeline.trans {first second third : SimulatedDevice} (h : SameTimeline first second)
    (h' : SameTimeline second third) : SameTimeline first third :=
  ⟨h'.commands.trans h.commands, h'.submissions.trans h.submissions,
    h'.currentFence.trans h.currentFence, h'.completedFence.trans h.completedFence,
    Nat.le_trans h.nextId h'.nextId⟩

/-- On one timeline a command belongs to one submission. -/
theorem SameTimeline.fenceOf {origin device : SimulatedDevice} (h : SameTimeline origin device) :
    device.fenceOf = origin.fenceOf := by
  funext index
  unfold SimulatedDevice.fenceOf
  rw [h.submissions, h.currentFence]

/-- On the timeline of a dated device every device is dated. -/
theorem SameTimeline.dated {origin device : SimulatedDevice} (h : SameTimeline origin device)
    (hdated : origin.Dated) : device.Dated where
  completed := h.completedFence ▸ h.currentFence ▸ hdated.completed
  fences := h.submissions ▸ h.currentFence ▸ hdated.fences
  counts := h.submissions ▸ h.commands ▸ hdated.counts

variable {origin : SimulatedDevice}

theorem keeps_failAllocation : failAllocation.Keeps (SameTimeline origin) := by
  intro device h
  unfold failAllocation
  by_cases hfailing : device.failingAllocations = 0
  · simpa [hfailing] using h
  · simp only [Act.run_bind, Act.run_get, hfailing, if_false]
    exact h.trans ⟨rfl, rfl, rfl, rfl, Nat.le_refl _⟩

theorem keeps_register (resource : Simulated.Resource) :
    (register resource).Keeps (SameTimeline origin) := fun _ h =>
  h.trans ⟨rfl, rfl, rfl, rfl, Nat.le_succ _⟩

theorem keeps_createTexture (desc : TextureDesc) (state : UsageState) :
    (Device.createTexture desc state : Attempt TextureError SimulatedDevice ResourceId).Keeps
      (SameTimeline origin) := by
  refine .bind (.lift keeps_failAllocation) fun failing => ?_
  cases failing
  · refine .bind (.lift (keeps_register _)) fun id => ?_
    refine .bind (.log _ _) fun _ => ?_
    exact .pure _
  · exact .refuse _

theorem keeps_createHostBuffer (size : Nat) :
    (Device.createHostBuffer size : Attempt TextureError SimulatedDevice HostBuffer).Keeps
      (SameTimeline origin) := by
  refine .bind (.lift keeps_failAllocation) fun failing => ?_
  cases failing
  · refine .bind (.lift (keeps_register _)) fun id => ?_
    refine .bind (.log _ _) fun _ => ?_
    exact .pure _
  · exact .refuse _

theorem keeps_createView (resource : ResourceId) (view : ViewDesc) (slot : Slot) :
    (Device.createView resource view slot : Attempt TextureError SimulatedDevice Unit).Keeps
      (SameTimeline origin) := by
  refine .bind .get fun device => ?_
  split
  · exact .bind (.log _ _) fun _ => .lift fun _ h => h.trans ⟨rfl, rfl, rfl, rfl, Nat.le_refl _⟩
  · exact .bind (.lift fun _ h => h.trans ⟨rfl, rfl, rfl, rfl, Nat.le_refl _⟩) fun _ => .refuse _

theorem keeps_releaseView (slot : Slot) :
    (Device.releaseView slot : Act SimulatedDevice Unit).Keeps (SameTimeline origin) :=
  fun _ h => h.trans ⟨rfl, rfl, rfl, rfl, Nat.le_refl _⟩

theorem keeps_destroyResource (id : ResourceId) :
    (Device.destroyResource id : Act SimulatedDevice Unit).Keeps (SameTimeline origin) := by
  intro device h
  rw [state_destroyResource]
  split
  · exact h.trans ⟨rfl, rfl, rfl, rfl, Nat.le_refl _⟩
  · exact h

end SimulatedDevice

end Texel
