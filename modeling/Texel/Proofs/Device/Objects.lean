import Texel.Proofs.Device.Timeline

namespace Texel

open Simulated

namespace SimulatedDevice

/-- The device with one more resource, under the next identifier. -/
def registered (device : SimulatedDevice) (resource : Simulated.Resource) : SimulatedDevice :=
  { device with
    nextId := device.nextId + 1
    resources := device.resources.insert ⟨device.nextId⟩ resource }

/-- The device after an allocation that it was asked to fail. -/
def refusedAllocation (device : SimulatedDevice) : SimulatedDevice :=
  { device with failingAllocations := device.failingAllocations - 1 }

/-- The device with a view at a slot. -/
def viewed (device : SimulatedDevice) (slot : Slot) (resource : ResourceId) (view : ViewDesc) :
    SimulatedDevice :=
  { device with views := device.views.insert slot (resource, view) }

/-- The device after a view that it was asked to fail. -/
def refusedView (device : SimulatedDevice) : SimulatedDevice :=
  { device with failingViews := device.failingViews - 1 }

/-- A failure that was asked for is spent, if there is one. -/
theorem meets_failAllocation (origin : SimulatedDevice) :
    failAllocation.Meets (fun device => device = origin) fun failing device => match failing with
      | true => origin.failingAllocations ≠ 0 ∧ device = origin.refusedAllocation
      | false => origin.failingAllocations = 0 ∧ device = origin := by
  rintro device rfl
  unfold failAllocation
  by_cases hfailing : device.failingAllocations = 0
  · simp [hfailing]
  · simp only [Act.run_bind, Act.run_get, hfailing, if_false]
    exact ⟨hfailing, rfl⟩

/-- A texture takes the next identifier, or one of the failures asked for is spent. -/
theorem meets_createTexture (origin : SimulatedDevice) (desc : TextureDesc) (state : UsageState) :
    (Device.createTexture desc state :
      Attempt TextureError SimulatedDevice ResourceId).Meets (fun device => device = origin)
      (fun id device => origin.failingAllocations = 0 ∧ id = ⟨origin.nextId⟩ ∧
        device = origin.registered (.texture desc state))
      fun _ device => origin.failingAllocations ≠ 0 ∧ device = origin.refusedAllocation := by
  refine .bind (.lift (meets_failAllocation origin)) fun failing => ?_
  cases failing
  · refine .through (fun id device => origin.failingAllocations = 0 ∧ id = ⟨origin.nextId⟩ ∧
      device = origin.registered (.texture desc state)) (.lift ?_) fun id => ?_
    · rintro device ⟨hnone, rfl⟩
      exact ⟨hnone, rfl, rfl⟩
    · exact .after_log (.pure fun _ h => h)
  · exact .refuse fun _ h => h

/-- A host buffer takes the next identifier and starts as zero, or one of the failures asked for is
spent. -/
theorem meets_createHostBuffer (origin : SimulatedDevice) (size : Nat) :
    (Device.createHostBuffer size :
      Attempt TextureError SimulatedDevice HostBuffer).Meets (fun device => device = origin)
      (fun buffer device => origin.failingAllocations = 0 ∧
        buffer = ⟨⟨origin.nextId⟩, .zeroed size⟩ ∧ device = origin.registered (.buffer size))
      fun _ device => origin.failingAllocations ≠ 0 ∧ device = origin.refusedAllocation := by
  refine .bind (.lift (meets_failAllocation origin)) fun failing => ?_
  cases failing
  · refine .through (fun id device => origin.failingAllocations = 0 ∧ id = ⟨origin.nextId⟩ ∧
      device = origin.registered (.buffer size)) (.lift ?_) fun id => ?_
    · rintro device ⟨hnone, rfl⟩
      exact ⟨hnone, rfl, rfl⟩
    · refine .after_log (.pure ?_)
      rintro device ⟨hnone, rfl, rfl⟩
      exact ⟨hnone, rfl, rfl⟩
  · exact .refuse fun _ h => h

/-- A view is shown at its slot, or one of the failures asked for is spent. -/
theorem meets_createView (origin : SimulatedDevice) (resource : ResourceId) (view : ViewDesc)
    (slot : Slot) :
    (Device.createView resource view slot :
      Attempt TextureError SimulatedDevice Unit).Meets (fun device => device = origin)
      (fun _ device => device = origin.viewed slot resource view)
      fun _ device => origin.failingViews ≠ 0 ∧ device = origin.refusedView := by
  apply Attempt.Meets.get_of_eq
  split
  · refine .after_log (.lift ?_)
    rintro device rfl
    rfl
  · next hfailing =>
    refine .through (fun _ device => device = origin.refusedView) (.lift ?_) fun _ =>
      .refuse fun _ h => ⟨hfailing, h⟩
    rintro device rfl
    rfl

end SimulatedDevice

end Texel
