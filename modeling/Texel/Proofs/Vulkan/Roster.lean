import Texel.Resource
import Texel.Vulkan.Encoding

namespace Texel.Vulkan

/-- The life of one resource. -/
structure Tenure where
  /-- The fence value that was current when it was made. -/
  since : Nat
  /-- The fence value that was current when it was given up. No command refers to it after that. -/
  last? : Option Nat := none
  /-- The layout that the commands recorded up to now leave its image in, if someone follows it. -/
  layout? : Option ImageLayout := none
  /-- The device has it no longer. -/
  gone : Bool := false

/-- What the callers of a device know of the resources that they own: since when each exists,
whether it has been given up, and the layout that its image is in. The device itself keeps no such
record. -/
structure Roster where
  tenure? : ResourceId → Option Tenure := fun _ => none
  /-- The fence value of the commands being recorded. -/
  fence : Nat := 1
  /-- No work of this fence value or a lower one has yet to finish. -/
  passed : Nat := 0
  /-- A submission that is still in the queue may be known to have finished. -/
  lagging : Bool := false
  /-- The submissions that reached the queue: their fence values and their fences. -/
  accepted : List (Nat × Nat) := []

namespace Roster

/-- Work is submitted and finishes; what is known of the resources stays. -/
structure Lapses (before after : Roster) : Prop where
  tenure? : after.tenure? = before.tenure?
  fence : before.fence ≤ after.fence
  passed : before.passed ≤ after.passed

/-- The layout that is followed for a resource. -/
def layout? (roster : Roster) (id : ResourceId) : Option ImageLayout :=
  (roster.tenure? id).bind Tenure.layout?

/-- The resource is there and has not been given up. -/
def Live (roster : Roster) (id : ResourceId) : Prop :=
  ∃ tenure, roster.tenure? id = some tenure ∧ tenure.last? = none ∧ tenure.gone = false

/-- Commands that refer to the resource may have been recorded under the fence value. -/
def Covers (roster : Roster) (id : ResourceId) (value : Nat) : Prop :=
  ∃ tenure, roster.tenure? id = some tenure ∧ tenure.since ≤ value ∧
    ∀ last, tenure.last? = some last → value ≤ last

/-- All work that was submitted with commands for the resource has finished. -/
def Settled (roster : Roster) (id : ResourceId) : Prop :=
  ∀ value, roster.Covers id value → value < roster.fence → value ≤ roster.passed

/-- Enters a new resource. -/
def enroll (roster : Roster) (id : ResourceId) (layout? : Option ImageLayout) : Roster :=
  { roster with tenure? := fun other =>
      if other = id then some { since := roster.fence, layout? } else roster.tenure? other }

/-- Changes what is known of one resource. -/
def amend (roster : Roster) (id : ResourceId) (change : Tenure → Tenure) : Roster :=
  { roster with tenure? := fun other =>
      if other = id then (roster.tenure? id).map change else roster.tenure? other }

/-- A barrier leaves the image of a resource in a layout. -/
def move (roster : Roster) (id : ResourceId) (layout : ImageLayout) : Roster :=
  roster.amend id fun tenure => { tenure with layout? := tenure.layout?.map fun _ => layout }

/-- The resource is given up. -/
def retire (roster : Roster) (id : ResourceId) : Roster :=
  roster.amend id fun tenure => { tenure with last? := some roster.fence }

/-- The device has the resource no longer. -/
def expel (roster : Roster) (id : ResourceId) : Roster :=
  roster.amend id fun tenure => { tenure with layout? := none, gone := true }

/-- All work up to a fence value has finished. -/
def pass (roster : Roster) (value : Nat) : Roster :=
  { roster with passed := max roster.passed value }

/-- A new resource is known from the current fence on, and of the others the same is known. -/
theorem tenure?_enroll (roster : Roster) (id other : ResourceId) (layout? : Option ImageLayout) :
    (roster.enroll id layout?).tenure? other =
      if other = id then some { since := roster.fence, layout? } else roster.tenure? other :=
  rfl

/-- A change reaches one resource, if it is known. -/
theorem tenure?_amend (roster : Roster) (id other : ResourceId) (change : Tenure → Tenure) :
    (roster.amend id change).tenure? other =
      if other = id then (roster.tenure? other).map change else roster.tenure? other := by
  change (if other = id then (roster.tenure? id).map change else roster.tenure? other) = _
  split
  · next h => rw [h]
  · rfl

theorem live_enroll (roster : Roster) (id : ResourceId) (layout? : Option ImageLayout) :
    (roster.enroll id layout?).Live id :=
  ⟨_, if_pos rfl, rfl, rfl⟩

/-- The layout of a new resource is followed if it is said to be. -/
theorem layout?_enroll (roster : Roster) (id other : ResourceId) (layout? : Option ImageLayout) :
    (roster.enroll id layout?).layout? other =
      if other = id then layout? else roster.layout? other := by
  rw [Roster.layout?, tenure?_enroll]
  split <;> rfl

theorem layout?_amend (roster : Roster) (id other : ResourceId) (change : Tenure → Tenure) :
    (roster.amend id change).layout? other =
      if other = id then (roster.tenure? id).bind fun tenure => (change tenure).layout?
      else roster.layout? other := by
  rw [Roster.layout?, tenure?_amend]
  split
  · next h => rw [h, Option.bind_map]; rfl
  · rfl

theorem layout?_move (roster : Roster) (id other : ResourceId) (layout : ImageLayout) :
    (roster.move id layout).layout? other =
      if other = id then (roster.layout? id).map fun _ => layout else roster.layout? other := by
  rw [move, layout?_amend, Roster.layout?, Roster.layout?, Option.map_bind]
  rfl

theorem layout?_expel (roster : Roster) (id other : ResourceId) :
    (roster.expel id).layout? other = if other = id then none else roster.layout? other := by
  rw [expel, layout?_amend]
  cases roster.tenure? id <;> rfl

@[simp] theorem layout?_retire (roster : Roster) (id other : ResourceId) :
    (roster.retire id).layout? other = roster.layout? other := by
  rw [retire, layout?_amend]
  split
  · next h => rw [h]; rfl
  · rfl

/-- A change that changes nothing known of the resource changes nothing. -/
theorem amend_eq_self {roster : Roster} {id : ResourceId} {change : Tenure → Tenure}
    (h : ∀ tenure, roster.tenure? id = some tenure → change tenure = tenure) :
    roster.amend id change = roster := by
  have htenure : (roster.amend id change).tenure? = roster.tenure? := by
    funext other
    rw [tenure?_amend]
    split
    · next heq =>
      subst heq
      cases hfound : roster.tenure? other with
      | none => rfl
      | some tenure => exact congrArg some (h tenure hfound)
    · rfl
  calc roster.amend id change = { roster with tenure? := (roster.amend id change).tenure? } := rfl
    _ = roster := by rw [htenure]

/-- A move to the layout that an image is in, or of an image that nobody follows. -/
theorem move_eq_self {roster : Roster} {id : ResourceId} {layout : ImageLayout}
    (h : ∀ now, roster.layout? id = some now → now = layout) : roster.move id layout = roster := by
  refine amend_eq_self fun tenure htenure => ?_
  obtain ⟨since, last?, now?, gone⟩ := tenure
  cases now? with
  | none => rfl
  | some now =>
    obtain rfl := h now (by rw [Roster.layout?, htenure]; rfl)
    rfl

/-- A resource that is gone, and whose layout is not followed, is not handed over again. -/
theorem expel_eq_self {roster : Roster} {id : ResourceId}
    (h : ∀ tenure, roster.tenure? id = some tenure → tenure.layout? = none ∧ tenure.gone = true) :
    roster.expel id = roster := by
  refine amend_eq_self fun tenure htenure => ?_
  obtain ⟨since, last?, now?, gone⟩ := tenure
  obtain ⟨rfl, rfl⟩ := h _ htenure
  rfl

/-- A new image that moves at once is new in the layout it moves to. -/
theorem move_enroll (roster : Roster) (id : ResourceId) (first? : Option ImageLayout)
    (second : ImageLayout) :
    (roster.enroll id first?).move id second =
      roster.enroll id (first?.map fun _ => second) := by
  have htenure : ((roster.enroll id first?).move id second).tenure? =
      (roster.enroll id (first?.map fun _ => second)).tenure? := by
    funext other
    rw [move, tenure?_amend, tenure?_enroll, tenure?_enroll]
    split <;> rfl
  calc (roster.enroll id first?).move id second
      = { roster with tenure? := ((roster.enroll id first?).move id second).tenure? } := rfl
    _ = roster.enroll id (first?.map fun _ => second) := by rw [htenure]; rfl

/-- What is known after a change was known before, or is what the change made of it. -/
theorem of_tenure?_amend {roster : Roster} {id other : ResourceId} {change : Tenure → Tenure}
    {tenure : Tenure} (h : (roster.amend id change).tenure? other = some tenure) :
    (other ≠ id ∧ roster.tenure? other = some tenure) ∨
      other = id ∧ ∃ old, roster.tenure? id = some old ∧ tenure = change old := by
  rw [tenure?_amend] at h
  split at h
  · next heq =>
    obtain ⟨old, hold, rfl⟩ := Option.map_eq_some_iff.mp h
    exact .inr ⟨heq, old, heq ▸ hold, rfl⟩
  · next hne => exact .inl ⟨hne, h⟩

/-- A change that keeps when a resource was made and given up. -/
theorem covers_amend {roster : Roster} {id other : ResourceId} {change : Tenure → Tenure}
    {value : Nat} (hsince : ∀ tenure, (change tenure).since = tenure.since)
    (hlast : ∀ tenure, (change tenure).last? = tenure.last?) :
    (roster.amend id change).Covers other value ↔ roster.Covers other value := by
  rw [Covers, Covers, tenure?_amend]
  split
  · cases roster.tenure? other <;> simp [hsince, hlast]
  · rfl

theorem covers_move {roster : Roster} {id other : ResourceId} {layout : ImageLayout}
    {value : Nat} : (roster.move id layout).Covers other value ↔ roster.Covers other value :=
  covers_amend (fun _ => rfl) fun _ => rfl

theorem covers_expel {roster : Roster} {id other : ResourceId} {value : Nat} :
    (roster.expel id).Covers other value ↔ roster.Covers other value :=
  covers_amend (fun _ => rfl) fun _ => rfl

/-- What is given up may have been referred to until now. -/
theorem covers_retire {roster : Roster} {id other : ResourceId} {value : Nat}
    (hvalue : value ≤ roster.fence) (h : roster.Covers other value) :
    (roster.retire id).Covers other value := by
  obtain ⟨tenure, htenure, hfrom, huntil⟩ := h
  by_cases heq : other = id
  · refine ⟨{ tenure with last? := some roster.fence }, ?_, hfrom, fun last hlast => ?_⟩
    · rw [retire, tenure?_amend, if_pos heq, htenure]
      rfl
    · exact Option.some.inj hlast ▸ hvalue
  · refine ⟨tenure, ?_, hfrom, huntil⟩
    rwa [retire, tenure?_amend, if_neg heq]

theorem covers_enroll {roster : Roster} {id other : ResourceId} {layout? : Option ImageLayout}
    {value : Nat} (hne : other ≠ id) (h : roster.Covers other value) :
    (roster.enroll id layout?).Covers other value := by
  obtain ⟨tenure, htenure, hcovers⟩ := h
  exact ⟨tenure, by rwa [tenure?_enroll, if_neg hne], hcovers⟩

end Roster

end Texel.Vulkan
