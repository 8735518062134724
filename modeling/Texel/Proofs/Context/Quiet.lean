import Texel.Proofs.Context.Disposal
import Texel.Proofs.Log

namespace Texel

open Simulated

namespace SimulatedDevice

variable {before : SimulatedDevice → Prop}

/-- Spending a failure is not logged. -/
theorem quiet_failAllocation : failAllocation.Quiet before := by
  refine .get fun device => ?_
  split <;> exact .silent fun _ => rfl

/-- Making a texture is no reason for a complaint. -/
theorem quiet_createTexture (desc : TextureDesc) (state : UsageState) :
    (Device.createTexture desc state : Attempt TextureError SimulatedDevice ResourceId).Quiet
      before := by
  refine .andThen (.lift quiet_failAllocation) fun failed => ?_
  split
  · exact .refuse
  · refine .andThen (.lift (.silent fun _ => rfl)) fun id => ?_
    exact .after (.note (by decide)) .pure

/-- Making a host buffer is no reason for a complaint. -/
theorem quiet_createHostBuffer (size : Nat) :
    (Device.createHostBuffer size : Attempt TextureError SimulatedDevice HostBuffer).Quiet
      before := by
  refine .andThen (.lift quiet_failAllocation) fun failed => ?_
  split
  · exact .refuse
  · refine .andThen (.lift (.silent fun _ => rfl)) fun id => ?_
    exact .after (.note (by decide)) .pure

/-- Making a view is no reason for a complaint. -/
theorem quiet_createView (resource : ResourceId) (view : ViewDesc) (slot : Slot) :
    (Device.createView resource view slot : Attempt TextureError SimulatedDevice Unit).Quiet
      before := by
  refine .get fun device => ?_
  split
  · exact .after (.note (by decide)) (.lift (.silent fun _ => rfl))
  · exact .andThen (.lift (.silent fun _ => rfl)) fun _ => .refuse

/-- Recording a barrier is no reason for a complaint. -/
theorem quiet_recordBarrier (id : ResourceId) (old new : UsageState) :
    (Device.recordBarrier id old new : Act SimulatedDevice Unit).Quiet before :=
  .after (.note (by decide)) (.silent fun _ => rfl)

/-- Recording a copy is no reason for a complaint. -/
theorem quiet_recordCopy (copy : BufferCopy) :
    (Device.recordCopy copy : Act SimulatedDevice Unit).Quiet before :=
  .after (.note (by decide)) (.silent fun _ => rfl)

/-- Submitting is no reason for a complaint. -/
theorem quiet_submit (wait : Bool) :
    (Device.submit wait : Act SimulatedDevice Nat).Quiet before := by
  refine .get fun _ => ?_
  refine .andThen (.silent fun _ => rfl) fun _ => ?_
  exact .after (.note (by decide)) (.silent fun _ => rfl)

/-- A device does not complain of destroying what it has. -/
theorem quiet_destroyResource (id : ResourceId) :
    (Device.destroyResource id : Act SimulatedDevice Unit).Quiet fun device =>
      device.isLive id = true := by
  intro device hlive line hline
  rw [log_destroyResource, if_pos hlive] at hline
  rw [List.mem_singleton.mp hline]
  exact LogLine.not_complains_of_mild (by decide)

end SimulatedDevice

namespace ViewPool

/-- A heap does not complain of a slot that it has handed out. -/
theorem quiet_release (slot : Slot) :
    (release slot : Act (ViewPool SimulatedDevice) Unit).Quiet fun pool =>
      pool.heaps.Sound ∧ pool.heaps.isTaken slot = true := by
  rintro pool ⟨hsound, htaken⟩ line hline
  obtain ⟨rest, hrelease, -, -⟩ := Heap.release_spec (hsound slot.kind) rfl htaken
  have hviews : (onDevice (Device.releaseView slot)).run pool =
      ⟨(), ⟨{ pool.device with views := pool.device.views.erase slot }, pool.heaps⟩, []⟩ := rfl
  have hback : (onHeap slot.kind (Heap.takeBack slot)).run
      ⟨{ pool.device with views := pool.device.views.erase slot }, pool.heaps⟩ =
      ⟨true, _, []⟩ := run_takeBack hrelease
  unfold release at hline
  simp only [Act.run_bind, hviews, hback, if_true, Act.run_pure, List.append_nil] at hline
  cases hline

end ViewPool

namespace Context

/-- Somebody owns these items, and nobody else does. -/
def Holds (items : List Retired) (context : Context SimulatedDevice) : Prop :=
  ∃ rest, context.viewPool.Ledger True (items ++ rest)

variable {conduct : Conduct} {origin context : Context SimulatedDevice}
  {held unnamed : List Retired}
  {item : Retired} {items : List Retired}

/-- Who holds many items holds the first of them. -/
theorem Holds.prefix {more : List Retired} (h : context.Holds (items ++ more)) :
    context.Holds items := by
  obtain ⟨rest, hledger⟩ := h
  exact ⟨more ++ rest, List.append_assoc items more rest ▸ hledger⟩

/-- An item that is there is released without a complaint. -/
theorem quiet_release (item : Retired) :
    (release item : Act (Context SimulatedDevice) Unit).Quiet (Holds [item]) := by
  rintro context ⟨rest, hledger⟩
  cases item with
  | resource id =>
    exact SimulatedDevice.quiet_destroyResource id context.device
      ((hledger.live id).mpr List.mem_cons_self)
  | descriptor slot =>
    exact ViewPool.quiet_release slot context.viewPool
      ⟨hledger.heaps, (hledger.taken trivial slot).mpr List.mem_cons_self⟩

/-- What is given up after an item is still there when the item is. -/
theorem holds_disposed (h : context.Holds (item :: items)) (deferred : Bool) :
    (context.disposed deferred item).Holds items := by
  obtain ⟨rest, hledger⟩ := h
  cases deferred with
  | true => exact ⟨item :: rest, hledger.perm List.perm_middle.symm⟩
  | false =>
    have hfreed : context.disposed false item =
        context.setViewPool (context.viewPool.freed item) := state_release item context
    rw [hfreed]
    exact ⟨rest, ViewPool.ledger_freed hledger⟩

/-- An item that is there is given up without a complaint, at once or deferred. -/
theorem quiet_dispose (item : Retired) (deferred : Bool) :
    (dispose item deferred : Act (Context SimulatedDevice) Unit).Quiet (Holds [item]) := by
  unfold dispose
  split
  · exact .silent fun _ => rfl
  · exact quiet_release item

/-- Items that are there are released without a complaint, one after the other. -/
theorem quiet_releaseAll (items : List Retired) :
    (releaseAll items : Act (Context SimulatedDevice) Unit).Quiet (Holds items) := by
  induction items with
  | nil => exact .silent fun _ => rfl
  | cons item rest ih =>
    refine .bind ((quiet_release item).mono fun _ h => Holds.prefix h)
      (fun context h => ?_) fun _ => ih
    exact holds_disposed h false

/-- A report is no complaint. -/
theorem quiet_reportReaped (count completed : Nat) {before : Context SimulatedDevice → Prop} :
    (reportReaped count completed : Act (Context SimulatedDevice) Unit).Quiet before := by
  unfold reportReaped
  split
  · exact .silent fun _ => rfl
  · exact .note (by decide)

namespace InCustody

variable {rest : List Retired}

/-- Whatever is on the books is there to be given up, as long as slots are linear. -/
theorem holds_of_perm (h : InCustody conduct origin held unnamed context)
    (hlinear : conduct.linear)
    (hperm : (unnamed ++ (held ++ context.retirement.entries.map Prod.snd)).Perm (items ++ rest)) :
    context.Holds items :=
  ⟨.resource context.stream.resource :: rest,
    (h.ledger.perm (.trans (.cons _ hperm) List.perm_middle.symm)).weaken fun _ => hlinear⟩

/-- What has a named owner is there. -/
theorem holds (h : InCustody conduct origin (items ++ rest) unnamed context)
    (hlinear : conduct.linear) : context.Holds items := by
  have hperm := @List.perm_append_comm_assoc Retired unnamed items
    (rest ++ context.retirement.entries.map Prod.snd)
  rw [← List.append_assoc items] at hperm
  exact h.holds_of_perm hlinear hperm

/-- What has an unnamed owner is there. -/
theorem holds_unnamed (h : InCustody conduct origin held (items ++ rest) context)
    (hlinear : conduct.linear) : context.Holds items :=
  h.holds_of_perm hlinear (.of_eq (List.append_assoc ..))

end InCustody

/-- What waits in the queue is there to be freed. -/
def HoldsQueue (context : Context SimulatedDevice) : Prop :=
  context.Holds (context.retirement.entries.map Prod.snd)

/-- What is queued is there. -/
theorem InCustody.holdsQueue (h : InCustody conduct origin held unnamed context)
    (hlinear : conduct.linear) : context.HoldsQueue := by
  have hperm := @List.perm_append_comm Retired (unnamed ++ held)
    (context.retirement.entries.map Prod.snd)
  rw [List.append_assoc] at hperm
  exact h.holds_of_perm hlinear hperm

/-- A reap frees what is queued, and so without a complaint. -/
theorem quiet_reapCompleted :
    (reapCompleted : Act (Context SimulatedDevice) Nat).Quiet HoldsQueue := by
  refine .through (fun _ => HoldsQueue) (.silent fun _ => rfl) (fun _ h => h) fun completed => ?_
  refine .through (fun _ => HoldsQueue) (.silent fun _ => rfl) (fun _ h => h) fun _ => ?_
  refine .get fun context => ?_
  refine .through (fun _ => Holds (context.retirement.reap completed).1) (.silent fun _ => rfl) ?_
    fun _ => ?_
  · rintro _ ⟨rfl, hqueue⟩
    apply Holds.prefix
    rw [RetirementQueue.reap, ← List.map_append, List.takeWhile_append_dropWhile]
    exact hqueue
  refine .andThen (quiet_releaseAll _) fun _ => ?_
  refine .andThen (quiet_reportReaped _ _) fun _ => ?_
  exact .silent fun _ => rfl

/-- Reaping and submitting log no complaint: whatever is freed has an owner who gives it up. -/
theorem quiet_submit (wait : Bool) :
    (submit wait : Act (Context SimulatedDevice) Nat).Quiet HoldsQueue := by
  refine .through (fun _ => HoldsQueue) (.focus fun _ _ => SimulatedDevice.quiet_submit wait) ?_
    fun fence => ?_
  · rintro context ⟨rest, hledger⟩
    exact ⟨rest, hledger.congr rfl rfl rfl rfl rfl⟩
  · refine .through (fun _ => HoldsQueue) (.silent fun _ => rfl) (fun _ h => h) fun _ => ?_
    exact .andThen quiet_reapCompleted fun _ => .silent fun _ => rfl

end Context

end Texel
