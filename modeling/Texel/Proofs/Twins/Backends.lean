import Texel.Proofs.Device.Objects
import Texel.Proofs.Twins.Vulkan

namespace Texel

/-- The shape of a resource, if it is a texture. -/
def Simulated.Resource.desc? : Simulated.Resource → Option TextureDesc
  | .texture desc _ => some desc
  | .buffer _ => none

namespace SimulatedDevice

/-- Submissions complete at once, and no allocation or view is to fail. -/
structure Willing (device : SimulatedDevice) : Prop where
  autoComplete : device.autoComplete = true
  failingAllocations : device.failingAllocations = 0
  failingViews : device.failingViews = 0

variable {device : SimulatedDevice}

/-- The simulated device describes a resource if it holds it and it is a texture. -/
theorem textureDesc?_eq (device : SimulatedDevice) (id : ResourceId) :
    device.textureDesc? id = (device.resources.get? id).bind Simulated.Resource.desc? := by
  unfold textureDesc?
  cases device.resources.get? id with
  | none => rfl
  | some resource => cases resource <;> rfl

/-- The device without a resource, which may be there or not. -/
theorem state_destroyResource_eq (device : SimulatedDevice) (id : ResourceId) :
    ∃ (resources : Table ResourceId Simulated.Resource) (destroyedCount : Nat),
      ((Device.destroyResource id).run device).state =
        { device with resources, destroyedCount } ∧
      ∀ other, resources.get? other = if other = id then none else device.resources.get? other := by
  rw [state_destroyResource]
  split
  · exact ⟨_, _, rfl, device.resources.get?_erase id⟩
  · next hdead =>
    refine ⟨device.resources, device.destroyedCount, rfl, fun other => ?_⟩
    split
    · next heq =>
      subst heq
      simpa [Table.contains] using hdead
    · rfl

/-- A texture that was just registered is one under the identifier it was given. -/
theorem isTexture_registered (device : SimulatedDevice) (desc : TextureDesc) (state : UsageState) :
    Device.IsTexture (device.registered (.texture desc state)) ⟨device.nextId⟩ := by
  change (textureDesc? _ _).isSome
  rw [textureDesc?_eq, registered, Table.get?_insert, if_pos rfl]
  rfl

end SimulatedDevice

namespace Vulkan

/-- Both devices are about to hand out the same identifier and the same fence value, know the same
textures, and have completed all that was submitted. -/
structure Alike (left : SimulatedDevice) (right : VulkanDevice) : Prop where
  nextId : left.nextId = right.nextId
  shapes : ∀ id, (left.resources.get? id).bind Simulated.Resource.desc? =
    (right.resources.get? id).bind Resource.desc?
  currentFence : left.currentFence = right.currentFence
  completedFence : left.completedFence = right.completedFence
  caughtUp : left.completedFence + 1 = left.currentFence
  idle : right.inFlight = []
  willing : left.Willing
  obliges : right.native.Obliges

namespace Alike

variable {left : SimulatedDevice} {right device : VulkanDevice}

/-- The device on Vulkan keeps its own books. -/
theorem keeping (h : Alike left right) : Keeping right right :=
  ⟨rfl, rfl, rfl, rfl, rfl, h.obliges⟩

/-- Devices stay alike while the one on Vulkan keeps its books and the other stays as it is. -/
theorem of_keeping (h : Alike left right) (hkeeping : Keeping right device) :
    Alike left device where
  nextId := h.nextId.trans hkeeping.nextId.symm
  shapes := hkeeping.resources ▸ h.shapes
  currentFence := h.currentFence.trans hkeeping.currentFence.symm
  completedFence := h.completedFence.trans hkeeping.completedFence.symm
  caughtUp := h.caughtUp
  idle := hkeeping.inFlight.trans h.idle
  willing := h.willing
  obliges := hkeeping.obliges

/-- Devices that are alike describe the same textures under the same identifiers. -/
theorem textureDesc (h : Alike left right) :
    Device.textureDesc left = Device.textureDesc right := by
  funext id
  change left.textureDesc? id = right.textureDesc? id
  rw [SimulatedDevice.textureDesc?_eq, VulkanDevice.textureDesc?_eq]
  exact h.shapes id

/-- Resources of the same shape under the next identifier. -/
theorem registered (h : Alike left right) {resource : Simulated.Resource} {resource' : Resource}
    (hshape : resource.desc? = resource'.desc?)
    (hkeeping : Keeping (right.holding resource') device) :
    Alike (left.registered resource) device := by
  have hheld : Alike (left.registered resource) (right.holding resource') :=
    { h with
      nextId := congrArg (· + 1) h.nextId
      shapes := fun id => by
        simp only [SimulatedDevice.registered, VulkanDevice.holding, Table.get?_insert, h.nextId]
        split
        · exact hshape
        · exact h.shapes id
      willing := { h.willing with } }
  exact hheld.of_keeping hkeeping

/-- A contract from the books of a device is one from the device itself. -/
theorem from_books {α ε : Type} (h : Alike left right) {attempt : Attempt ε VulkanDevice α}
    {after : α → VulkanDevice → Prop} {refused : ε → VulkanDevice → Prop}
    (hmeets : attempt.Meets (Keeping right) after refused) :
    attempt.Meets (fun now => now = right) after refused := by
  refine .narrow hmeets ?_
  rintro _ rfl
  exact h.keeping

end Alike

/-- The device on Vulkan keeps its books, and so does the simulated one. -/
theorem mirrors_of_keeps {α : Type} {first : Act SimulatedDevice α} {second : Act VulkanDevice α}
    (hvalue : ∀ left right, (first.run left).value = (second.run right).value)
    (hfirst : ∀ left right, Alike left right → Alike (first.run left).state right)
    (hsecond : ∀ books, second.Keeps (Keeping books)) : first.Mirrors second Alike :=
  fun left right h => ⟨hvalue left right,
    (hfirst left right h).of_keeping (hsecond right right h.keeping)⟩

/-- A common texture is made on both devices and gets the same identifier. -/
theorem matches_createTexture {desc : TextureDesc} (hdesc : desc.IsCommon) (state : UsageState) :
    (SimulatedDevice.createTexture desc state).Matches (VulkanDevice.createTexture desc state) Alike
      (fun id left right => Alike left right ∧ Device.IsTexture left id) Alike := by
  refine .of_answers fun left right h =>
    -- neither side refuses: no allocation is to fail on the left, and Vulkan obliges on the right
    ⟨⟨left.nextId⟩, left.registered (.texture desc state), ?_, ?_⟩
  · exact .mono (left.meets_createTexture desc state) (fun _ hnow => hnow)
      (fun _ _ hmade => hmade.2) fun _ _ hrefused => hrefused.1 h.willing.failingAllocations
  · refine .answering (h.from_books (Keeping.meets_createTexture hdesc state)) ?_
    rintro id device ⟨rfl, image, memory, hkeeping⟩
    exact ⟨congrArg ResourceId.mk h.nextId.symm, h.registered rfl hkeeping,
      left.isTexture_registered desc state⟩

/-- A buffer with at least one byte is made on both devices, with the same identifier and zeroed
memory. -/
theorem mirrors_createHostBuffer {size : Nat} (hpositive : 0 < size) :
    (SimulatedDevice.createHostBuffer size).Mirrors (VulkanDevice.createHostBuffer size) Alike := by
  refine .of_matches (.of_answers fun left right h =>
    ⟨⟨⟨left.nextId⟩, .zeroed size⟩, left.registered (.buffer size), ?_, ?_⟩)
  · exact .mono (left.meets_createHostBuffer size) (fun _ hnow => hnow)
      (fun _ _ hmade => hmade.2) fun _ _ hrefused => hrefused.1 h.willing.failingAllocations
  · refine .answering (h.from_books (Keeping.meets_createHostBuffer hpositive))
      ?_
    rintro made device ⟨rfl, buffer, memory, hkeeping⟩
    exact ⟨by rw [h.nextId], h.registered rfl hkeeping⟩

/-- A view of a texture that both devices hold is accepted by both. -/
theorem mirrors_createView (id : ResourceId) (view : ViewDesc) (slot : Slot) :
    (SimulatedDevice.createView id view slot).Mirrors (VulkanDevice.createView id view slot)
      fun left right => Alike left right ∧ Device.IsTexture left id := by
  refine .of_matches (.of_answers fun left right h => ⟨(), left.viewed slot id view, ?_, ?_⟩)
  · exact .mono (left.meets_createView id view slot) (fun _ hnow => hnow)
      (fun _ _ hmade => ⟨rfl, hmade⟩) fun _ _ hrefused => hrefused.1 h.1.willing.failingViews
  · have himage : (right.textureDesc? id).isSome := by
      have htexture : (Device.textureDesc left id).isSome := h.2
      rw [h.1.textureDesc] at htexture
      exact htexture
    have hviewed : Alike (left.viewed slot id view) right :=
      { h.1 with willing := { h.1.willing with } }
    exact .answering (h.1.from_books (Keeping.meets_createView himage view slot))
      (fun _ _ hkeeping => ⟨rfl, hviewed.of_keeping hkeeping, h.2⟩)

/-- A submission is complete on both sides when it returns. -/
theorem mirrors_submit (wait : Bool) :
    (SimulatedDevice.submit wait).Mirrors (VulkanDevice.submit wait) Alike := by
  intro left right h
  obtain ⟨hvalue, hkeeping⟩ := Keeping.meets_submit_obliging h.idle wait right h.keeping
  -- everything before was complete, so the highest complete fence value is that of the submission
  have hlatest : max right.completedFence right.currentFence = right.currentFence := by
    have hcaughtUp := h.caughtUp
    rw [← h.currentFence, ← h.completedFence]
    omega
  have hsubmitted : Alike (left.submitted wait)
      (VulkanDevice.landed { right with currentFence := right.currentFence + 1 }
        right.currentFence) :=
    { h with
      currentFence := congrArg (· + 1) h.currentFence
      completedFence := by
        simp [SimulatedDevice.submitted, VulkanDevice.landed, h.willing.autoComplete,
          h.currentFence, hlatest]
      caughtUp := by simp [SimulatedDevice.submitted, h.willing.autoComplete]
      idle := rfl
      willing := { h.willing with } }
  exact ⟨h.currentFence.trans hvalue.symm, hsubmitted.of_keeping hkeeping⟩

/-- Both devices have completed the same fence. -/
theorem mirrors_completedFence :
    (Act.gets SimulatedDevice.completedFence).Mirrors VulkanDevice.pollFence Alike := by
  intro left right h
  have hpolled := h.of_keeping (Keeping.keeps_pollCompleted h.idle right h.keeping)
  exact ⟨hpolled.completedFence, hpolled⟩

/-- Nothing is left to wait for on either side. -/
theorem mirrors_waitIdle :
    (Act.modify SimulatedDevice.completeAll).Mirrors VulkanDevice.waitIdle Alike := by
  intro left right h
  have hcompleted : left.completeAll = left := by
    have hlatest : left.currentFence - 1 = left.completedFence := by
      rw [← h.caughtUp, Nat.add_sub_cancel]
    rw [SimulatedDevice.completeAll, hlatest]
  have hawaited := Keeping.keeps_awaitIdle right h.keeping
  have hpolled := Keeping.keeps_pollCompleted h.idle _ hawaited
  refine ⟨rfl, ?_⟩
  rw [Act.run_modify, hcompleted]
  exact h.of_keeping hpolled

/-- A resource that is destroyed is gone from both devices; asking for one that neither holds does
nothing. -/
theorem mirrors_destroyResource (id : ResourceId) :
    (SimulatedDevice.destroyResource id).Mirrors (VulkanDevice.destroyResource id) Alike := by
  intro left right h
  obtain ⟨_, hkeeping, hright⟩ := Keeping.meets_destroyResource id right h.keeping
  obtain ⟨_, _, hstate, hleft⟩ := left.state_destroyResource_eq id
  refine ⟨rfl, .of_keeping ?_ hkeeping⟩
  change Alike ((Device.destroyResource id).run left).state _
  rw [hstate]
  refine { h with shapes := fun other => ?_, willing := { h.willing with } }
  rw [hleft, hright]
  split
  · rfl
  · exact h.shapes other

/-- The two kinds of device are twins. -/
theorem twins_backends : Device.Twins Alike where
  textureDesc := fun _ _ h => h.textureDesc
  currentFence := fun _ _ h => h.currentFence
  createTexture := fun _ state hdesc => matches_createTexture hdesc state
  createHostBuffer := fun _ hpositive => mirrors_createHostBuffer hpositive
  createView := mirrors_createView
  releaseView := fun slot => mirrors_of_keeps (fun _ _ => rfl)
    (fun _ _ h => { h with willing := { h.willing with } }) fun _ => Keeping.keeps_releaseView slot
  recordBarrier := fun _ _ _ => mirrors_of_keeps (fun _ _ => rfl)
    (fun _ _ h => { h with willing := { h.willing with } })
    fun _ => Keeping.keeps_transitionImage _ _ _ _ _
  recordCopy := fun copy => mirrors_of_keeps (fun _ _ => rfl)
    (fun _ _ h => { h with willing := { h.willing with } }) fun _ => Keeping.keeps_recordCopy copy
  submit := mirrors_submit
  completedFence := mirrors_completedFence
  waitIdle := mirrors_waitIdle
  destroyResource := mirrors_destroyResource

end Vulkan

end Texel
