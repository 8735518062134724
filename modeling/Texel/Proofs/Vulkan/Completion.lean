import Texel.Proofs.Vulkan.Run

namespace Texel.Vulkan

/-- The fence values of the work in the queue and of the work on its way there. -/
def Work.values (work : Work) : List Nat :=
  (work.device.inFlight ++ work.holding.transit.toList).map Submission.fenceValue

/-- Fence values keep the order in which work is submitted, and only finished work is passed. -/
structure Clock (work : Work) : Prop where
  ordered : work.values.Pairwise (· < ·)
  bounded : ∀ value ∈ work.values, value < work.device.currentFence
  passed : work.holding.roster.passed < work.device.currentFence
  behind : ∀ submission ∈ work.device.inFlight,
    work.holding.roster.passed < submission.fenceValue ∨
      ∃ fence, submission.fence = some fence ∧ fence ∈ work.device.native.signalled
  transit : ∀ submission, work.holding.transit = some submission →
    work.holding.roster.passed < submission.fenceValue
  ahead : work.holding.roster.lagging = false → ∀ submission ∈ work.device.inFlight,
    work.holding.roster.passed < submission.fenceValue
  signalled : ∀ fence ∈ work.device.native.signalled, .signals fence ∈ work.device.native.roles
  accepted : Role.accepted work.device.native.roles = work.holding.roster.accepted.map Prod.snd
  landed : ∀ entry ∈ work.holding.roster.accepted,
    entry.2 ∈ work.device.native.signalled ∨ ∃ submission ∈ work.device.inFlight,
      submission.fenceValue = entry.1 ∧ submission.fence = some entry.2

namespace Clock

variable {rules : Rules} {device : VulkanDevice} {holding : Holding} {before after : Work}

/-- An event of no weight for fences. -/
theorem note (h : Clock ⟨device, holding⟩) (event : Event) (hevent : event.role.accepted? = none) :
    Clock ⟨device.note event, holding⟩ := by
  refine { h with signalled := fun fence hfence => ?_, accepted := ?_ }
  · exact Native.roles_note _ _ ▸ List.mem_append_left _ (h.signalled fence hfence)
  · have hnone : Role.accepted [event.role] = [] := by simp [Role.accepted, hevent]
    change Role.accepted (device.native.note event).roles = _
    rw [Native.roles_note, Role.accepted_append, hnone, List.append_nil]
    exact h.accepted

/-- All work in the queue has finished when no fence waits. -/
theorem finished (hvalid : Valid rules ⟨device, holding⟩) (hidle : device.native.waiting = []) :
    ∀ submission ∈ device.inFlight,
      ∃ fence, submission.fence = some fence ∧ fence ∈ device.native.signalled := by
  intro submission hsubmission
  obtain ⟨fence, hfence, hstate⟩ := hvalid.fenced submission hsubmission
  have hnot : fence ∉ device.native.waiting := by
    rw [hidle]
    exact List.not_mem_nil
  exact ⟨fence, hfence, hstate.resolve_left hnot⟩

/-- What was recorded takes the current fence value. -/
theorem turned (h : Clock ⟨device, holding⟩) (htransit : holding.transit = none) :
    Clock ⟨device.turned, { holding with
      transit := some device.recorded
      roster := { holding.roster with fence := holding.roster.fence + 1 } }⟩ := by
  have hvalues : Work.values ⟨device.turned, { holding with
      transit := some device.recorded
      roster := { holding.roster with fence := holding.roster.fence + 1 } }⟩ =
        Work.values ⟨device, holding⟩ ++ [device.currentFence] := by
    simp [Work.values, htransit, VulkanDevice.turned, VulkanDevice.recorded]
  refine { h with
    ordered := ?_, bounded := ?_, passed := Nat.lt_succ_of_lt h.passed, transit := ?_ }
  · rw [hvalues, List.pairwise_append]
    refine ⟨h.ordered, List.pairwise_singleton _ _, fun value hvalue last hlast => ?_⟩
    rw [List.mem_singleton.mp hlast]
    exact h.bounded value hvalue
  · rw [hvalues]
    intro value hvalue
    rcases List.mem_append.mp hvalue with hold | hnew
    · exact Nat.lt_succ_of_lt (h.bounded value hold)
    · exact (List.mem_singleton.mp hnew) ▸ Nat.lt_succ_self _
  · intro submission hsubmission
    rw [← Option.some.inj hsubmission]
    exact h.passed

/-- The oldest submission leaves the queue once it has finished. -/
theorem popped {submission : Submission} {rest : List Submission} (h : Clock ⟨device, holding⟩)
    (hfront : device.inFlight = submission :: rest)
    (hfinished : ∃ fence, submission.fence = some fence ∧ fence ∈ device.native.signalled) :
    Clock ⟨{ device with inFlight := rest }, { holding with
      waste := submission.objects ++ holding.waste
      roster := holding.roster.pass submission.fenceValue }⟩ := by
  have hvalues : Work.values ⟨device, holding⟩ = submission.fenceValue ::
      Work.values ⟨{ device with inFlight := rest }, { holding with
        waste := submission.objects ++ holding.waste
        roster := holding.roster.pass submission.fenceValue }⟩ := by
    simp [Work.values, hfront]
  obtain ⟨hfirst, hordered⟩ := List.pairwise_cons.mp (hvalues ▸ h.ordered)
  have hbounded := List.forall_mem_cons.mp (hvalues ▸ h.bounded)
  have hlater : ∀ other ∈ rest, submission.fenceValue < other.fenceValue := fun other hother =>
    hfirst _ (List.mem_map_of_mem (List.mem_append_left _ hother))
  have hsub : ∀ other ∈ rest, other ∈ device.inFlight := fun other hother =>
    hfront ▸ List.mem_cons_of_mem _ hother
  refine
    { h with
      ordered := hordered
      bounded := hbounded.2
      passed := Nat.max_lt.mpr ⟨h.passed, hbounded.1⟩
      behind := fun other hother => ?_
      transit := fun other hother => ?_
      ahead := fun hlagging other hother => ?_
      landed := fun entry hentry => ?_ }
  · exact (h.behind other (hsub other hother)).imp_left fun hpassed =>
      Nat.max_lt.mpr ⟨hpassed, hlater other hother⟩
  · refine Nat.max_lt.mpr ⟨h.transit other hother, hfirst _ (List.mem_map_of_mem ?_)⟩
    exact List.mem_append_right _ (Option.mem_toList.mpr hother)
  · exact Nat.max_lt.mpr ⟨h.ahead hlagging other (hsub other hother), hlater other hother⟩
  · rcases h.landed entry hentry with hsignalled | ⟨other, hother, hvalue, hfence⟩
    · exact .inl hsignalled
    · rcases List.mem_cons.mp (hfront ▸ hother) with rfl | hrest
      · obtain ⟨fence, hsome, hsignalled⟩ := hfinished
        obtain rfl := Option.some.inj (hsome.symm.trans hfence)
        exact .inl hsignalled
      · exact .inr ⟨other, hrest, hvalue, hfence⟩

/-- A fence signals; what had signalled still has. -/
theorem signal (h : Clock ⟨device, holding⟩) (fence : Nat) :
    Clock ⟨{ device with native := { device.native with
      waiting := device.native.waiting.filter (· ≠ fence)
      signalled := device.native.signalled ++ [fence]
      history := device.native.history.push (.fenceSignalled fence) } }, holding⟩ := by
  have hroles : Native.roles { device.native with
      waiting := device.native.waiting.filter (· ≠ fence)
      signalled := device.native.signalled ++ [fence]
      history := device.native.history.push (.fenceSignalled fence) } =
        device.native.roles ++ [.signals fence] := Native.roles_note _ _
  refine
    { h with
      behind := fun submission hsubmission => (h.behind submission hsubmission).imp_right ?_
      signalled := fun other hother => ?_
      accepted := ?_
      landed := fun entry hentry => (h.landed entry hentry).imp_left (List.mem_append_left _) }
  · exact fun ⟨found, hfound, hsignalled⟩ => ⟨found, hfound, List.mem_append_left _ hsignalled⟩
  · rw [hroles]
    refine (List.mem_append.mp hother).elim
      (fun hold => List.mem_append_left _ (h.signalled other hold))
      fun hnew => List.mem_append_right _ ?_
    rw [List.mem_singleton.mp hnew]
    exact List.mem_singleton_self _
  · rw [hroles, Role.accepted_append]
    exact (List.append_nil _).trans h.accepted

/-- The queue takes the work on its way. -/
theorem submitted {fence : Nat} {rest : List Object} {submission : Submission} {event : Event}
    (h : Clock ⟨device, holding⟩) (htransit : holding.transit = some submission)
    (hevent : event.role = .submits submission.commandBuffer fence) :
    Clock ⟨{ device with
        native := { device.native.note event with waiting := device.native.waiting ++ [fence] }
        inFlight := device.inFlight ++ [{ submission with fence := some fence }] },
      { holding with
        hand := rest
        transit := none
        roster := { holding.roster with
          accepted := holding.roster.accepted ++ [(submission.fenceValue, fence)] } }⟩ := by
  have hroles : Native.roles { device.native.note event with
      waiting := device.native.waiting ++ [fence] } = device.native.roles ++ [event.role] :=
    Native.roles_note _ _
  have hvalues : Work.values ⟨{ device with
        native := { device.native.note event with waiting := device.native.waiting ++ [fence] }
        inFlight := device.inFlight ++ [{ submission with fence := some fence }] },
      { holding with
        hand := rest
        transit := none
        roster := { holding.roster with
          accepted := holding.roster.accepted ++ [(submission.fenceValue, fence)] } }⟩ =
        Work.values ⟨device, holding⟩ := by
    simp [Work.values, htransit]
  refine
    { ordered := hvalues ▸ h.ordered
      bounded := hvalues ▸ h.bounded
      passed := h.passed
      behind := fun other hother => ?_
      transit := fun _ hnone => nomatch hnone
      ahead := fun hlagging other hother => ?_
      signalled := fun other hother => hroles ▸ List.mem_append_left _ (h.signalled other hother)
      accepted := ?_
      landed := fun entry hentry => ?_ }
  · rcases List.mem_append.mp hother with hold | hnew
    · exact h.behind other hold
    · rw [List.mem_singleton.mp hnew]
      exact .inl (h.transit submission htransit)
  · rcases List.mem_append.mp hother with hold | hnew
    · exact h.ahead hlagging other hold
    · rw [List.mem_singleton.mp hnew]
      exact h.transit submission htransit
  · rw [hroles, hevent, Role.accepted_append, h.accepted, List.map_append]
    rfl
  · rcases List.mem_append.mp hentry with hold | hnew
    · exact (h.landed entry hold).imp_right fun ⟨other, hother, hmatch⟩ =>
        ⟨other, List.mem_append_left _ hother, hmatch⟩
    · rw [List.mem_singleton.mp hnew]
      exact .inr ⟨_, List.mem_append_right _ (List.mem_singleton_self _), rfl, rfl⟩

/-- Work that does not reach the queue is passed when all that is there has finished. -/
theorem abandoned {submission : Submission} (h : Clock ⟨device, holding⟩)
    (htransit : holding.transit = some submission)
    (hfinished : ∀ submission ∈ device.inFlight,
      ∃ fence, submission.fence = some fence ∧ fence ∈ device.native.signalled) :
    Clock ⟨device, { holding with
      waste := submission.objects ++ holding.waste
      transit := none
      roster := { holding.roster.pass submission.fenceValue with lagging := true } }⟩ := by
  have hvalues : Work.values ⟨device, holding⟩ =
      Work.values ⟨device, { holding with
        waste := submission.objects ++ holding.waste
        transit := none
        roster := { holding.roster.pass submission.fenceValue with lagging := true } }⟩ ++
          [submission.fenceValue] := by
    simp [Work.values, htransit]
  have hbounded := List.forall_mem_append.mp (hvalues ▸ h.bounded)
  exact
    { h with
      ordered := (List.pairwise_append.mp (hvalues ▸ h.ordered)).1
      bounded := hbounded.1
      passed := Nat.max_lt.mpr ⟨h.passed, hbounded.2 _ (List.mem_singleton_self _)⟩
      behind := fun other hother => .inr (hfinished other hother)
      transit := fun _ hnone => (nomatch hnone)
      ahead := fun hlagging => nomatch hlagging }

/-- Every step keeps the clock, if waiting for the device can be relied on: work that never got to
the queue is given up only after all that did has finished. -/
theorem step (h : Clock before) (hvalid : Valid rules before)
    (hreliable : rules.reliable .deviceWaitIdle) (hstep : Step rules before after) :
    Clock after := by
  cases hstep with
  | resumed native hnative =>
    exact
      { h with
        behind := by
          rw [hnative.signalled]
          exact h.behind
        signalled := by
          rw [hnative.signalled, hnative.roles]
          exact h.signalled
        accepted := hnative.roles ▸ h.accepted
        landed := by
          rw [hnative.signalled]
          exact h.landed }
  | noted event hevent => exact h.note event (by rw [hevent]; rfl)
  | signalled fence hfence => exact h.signal fence
  | @made device holding kind event hevent =>
    have hadvanced : Clock ⟨{ device with native := device.native.advance kind }, holding⟩ :=
      { h with
        behind := by simpa using h.behind
        signalled := by simpa using h.signalled
        accepted := by simpa using h.accepted
        landed := by simpa using h.landed }
    exact { hadvanced.note event (by rw [hevent]; rfl) with }
  | freed event hwaste hevent => exact { h.note event (by rw [hevent]; rfl) with }
  | begun event hidle hhand hevent => exact { h.note event (by rw [hevent]; rfl) with }
  | cancelled event hrecording hlost hevent => exact { h.note event (by rw [hevent]; rfl) with }
  | barrier barrier => exact { h.note (.call (.pipelineBarrier _ barrier)) rfl with }
  | copied copy => exact { h.note (.call (.copyBufferToImage _ copy)) rfl with }
  | ended event hrecording hevent htransit =>
    exact { (h.turned htransit).note event (by rw [hevent]; rfl) with }
  | turned hrecording htransit => exact h.turned htransit
  | submitted event hhand htransit hfence hevent => exact h.submitted htransit hevent
  | abandoned htransit hlost hidle =>
    exact h.abandoned htransit (finished hvalid (hidle hreliable))
  | popped hfront hfinished =>
    refine h.popped hfront (hfinished.elim id fun hidle => ?_)
    exact finished hvalid (hidle hreliable) _ (hfront ▸ List.mem_cons_self)
  | @passed device holding htransit hidle =>
    have hfence : holding.roster.fence = device.currentFence := hvalid.fence
    have hbelow : holding.roster.passed < device.currentFence := h.passed
    have hlast : holding.roster.fence - 1 < device.currentFence := by omega
    exact
      { h with
        passed := Nat.max_lt.mpr ⟨hbelow, hlast⟩
        behind := fun other hother => .inr (finished hvalid (hidle hreliable) other hother)
        transit := fun _ hsome => (nomatch htransit.symm.trans hsome)
        ahead := fun hlagging => nomatch hlagging }
  | @settled device holding hfront =>
    refine { h with ahead := fun _ submission hsubmission => ?_ }
    cases hqueue : device.inFlight with
    | nil => exact nomatch hqueue ▸ hsubmission
    | cons front rest =>
      have hfirst := hfront front rest hqueue
      rcases List.mem_cons.mp (hqueue ▸ hsubmission) with rfl | hrest
      · exact hfirst
      · have hordered := h.ordered
        simp only [Work.values, hqueue, List.cons_append, List.map_cons, List.pairwise_cons]
          at hordered
        exact Nat.lt_trans hfirst
          (hordered.1 _ (List.mem_map_of_mem (List.mem_append_left _ hrest)))
  | discarded | sorted | completed | registered | parked | removed | viewed | unviewed | unparked |
    blinded | vacated | retired => exact { h with }

/-- The clock is right when a device opens, with nothing submitted. -/
theorem opened {script : Operation → List ResultCode} {device : VulkanDevice}
    (h : VulkanDevice.Opened script device) : Clock (Work.opened device) := by
  obtain ⟨refuses, signalsAtOnce, family, rfl⟩ := h.eq_withPool
  exact
    { ordered := .nil
      bounded := fun _ hnone => nomatch hnone
      passed := Nat.one_pos
      behind := fun _ hnone => nomatch hnone
      transit := fun _ hnone => nomatch hnone
      ahead := fun _ _ hnone => nomatch hnone
      signalled := fun _ hnone => nomatch hnone
      accepted := rfl
      landed := fun _ hnone => nomatch hnone }

end Clock

namespace Reaches

variable {rules : Rules} {start : Work} {holding : Holding} {device : VulkanDevice}

/-- The clock stays right along every chain of steps. -/
theorem clock (h : Reaches rules start holding device) (hreliable : rules.reliable .deviceWaitIdle)
    (hstart : Clock start) : Clock ⟨device, holding⟩ := by
  have hboth : Valid rules ⟨device, holding⟩ ∧ Clock ⟨device, holding⟩ :=
    h.induction (P := fun work => Valid rules work ∧ Clock work) ⟨h.valid, hstart⟩
      fun _ _ hbefore hstep =>
        ⟨hbefore.1.step hstep, hbefore.2.step hbefore.1 hreliable hstep⟩
  exact hboth.2

/-- What is complete stays complete. -/
theorem completedFence_le (h : Reaches rules start holding device) :
    start.device.completedFence ≤ device.completedFence :=
  h.induction (P := fun work => start.device.completedFence ≤ work.device.completedFence)
    (Nat.le_refl _) fun _ _ hbefore hstep => by
      cases hstep with
      | completed value hvalue => exact Nat.le_trans hbefore (Nat.le_max_left _ _)
      | _ => exact hbefore

/-- What the queue took stays on record. -/
theorem accepted_subset (h : Reaches rules start holding device) :
    start.holding.roster.accepted ⊆ holding.roster.accepted :=
  h.induction (P := fun work => start.holding.roster.accepted ⊆ work.holding.roster.accepted)
    (List.Subset.refl _) fun _ _ hbefore hstep => by
      cases hstep with
      | submitted event hhand htransit hfence hevent =>
        exact fun entry hentry => List.mem_append_left _ (hbefore hentry)
      | _ => exact hbefore

/-- The history only grows. -/
theorem roles_prefix (h : Reaches rules start holding device) :
    start.device.native.roles <+: device.native.roles :=
  h.induction (P := fun work => start.device.native.roles <+: work.device.native.roles)
    (List.prefix_refl _) fun _ _ hbefore hstep => hbefore.trans hstep.roles_prefix

end Reaches

/-- The fence values in the queue increase and lie between the complete and the current one. -/
structure VulkanDevice.InOrder (device : VulkanDevice) : Prop where
  increasing : (device.inFlight.map Submission.fenceValue).Pairwise (· < ·)
  between : ∀ submission ∈ device.inFlight, device.completedFence < submission.fenceValue ∧
    submission.fenceValue < device.currentFence
  complete : device.completedFence < device.currentFence

section Resting

variable {reliable : Operation → Prop} {start : Work} {roster : Roster} {device : VulkanDevice}

/-- Nothing is on its way, and no work that is still in the queue is known to have finished. -/
structure CaughtUp (reliable : Operation → Prop) (start : Work) (roster : Roster)
    (device : VulkanDevice) : Prop where
  rest : Rest (Rules.free reliable) start roster device
  ahead : roster.lagging = false

/-- The queue is caught up with when its front waits. -/
theorem caughtUp_of_frontWaits (hidle : reliable .deviceWaitIdle) (hstart : Clock start)
    (h : Rest (Rules.free reliable) start roster device) (hfront : device.FrontWaits) :
    CaughtUp reliable start { roster with lagging := false } device := by
  refine ⟨h.step (.settled fun submission rest hqueue => ?_), rfl⟩
  have hclock := Reaches.clock h hidle hstart
  refine (hclock.behind submission (hqueue ▸ List.mem_cons_self)).resolve_right ?_
  rintro ⟨fence, hfence, hsignalled⟩
  obtain ⟨found, hfound, hwaits⟩ := hfront submission rest hqueue
  obtain rfl := Option.some.inj (hfound.symm.trans hfence)
  exact hwaits hsignalled

/-- Every request leaves a device that has caught up so. -/
theorem caughtUp_request (hidle : reliable .deviceWaitIdle) (hstatus : reliable .getFenceStatus)
    (hstart : Clock start) (h : CaughtUp reliable start roster device) (request : Request) :
    ∃ after, CaughtUp reliable start after (device.after (.request request)) := by
  obtain ⟨after, hrest, hsame | hfront⟩ := rest_request request device h.rest
  · exact ⟨after, hrest, hsame.trans h.ahead⟩
  · exact ⟨_, caughtUp_of_frontWaits hidle hstart hrest (hfront hstatus)⟩

/-- A device has caught up after every run that spares what has to be reliable. -/
theorem caughtUp_run (hidle : reliable .deviceWaitIdle) (hstatus : reliable .getFenceStatus)
    (hstart : Clock start) {turns : List Turn} (hturns : ∀ turn ∈ turns, turn.Spares reliable)
    (h : CaughtUp reliable start roster device) :
    ∃ after, CaughtUp reliable start after (device.run turns) := by
  induction turns generalizing device roster with
  | nil => exact ⟨roster, h⟩
  | cons turn turns ih =>
    obtain ⟨hturn, hrest⟩ := List.forall_mem_cons.mp hturns
    cases turn with
    | request request =>
      obtain ⟨after, hafter⟩ := caughtUp_request hidle hstatus hstart h request
      exact ih hrest hafter
    | move move =>
      have hmove : move.Spares (Rules.free reliable).reliable := hturn
      exact ih hrest ⟨rest_move hmove device h.rest, h.ahead⟩

/-- Where a run has come to is a start for the rest of it. -/
theorem CaughtUp.restart (h : CaughtUp reliable start roster device)
    (hidle : reliable .deviceWaitIdle) (hstart : Clock start) :
    Clock (Work.resting device roster) ∧
      CaughtUp reliable (Work.resting device roster) roster device :=
  ⟨{ Reaches.clock h.rest hidle hstart with }, h.rest.restart, h.ahead⟩

/-- Work that the queue takes is on record under the fence value that the caller is told. -/
theorem CaughtUp.submit (h : CaughtUp reliable start roster device)
    (hidle : reliable .deviceWaitIdle) (hstatus : reliable .getFenceStatus) (hstart : Clock start)
    (wait : Bool) :
    ∃ origin after, Clock origin ∧
      CaughtUp reliable origin after (device.after (.request (.submit wait))) ∧
      ∀ commandBuffer fence, .submits commandBuffer fence ∈
          (device.after (.request (.submit wait))).native.roles.drop device.native.roles.length →
        (((VulkanDevice.submit wait).run device).value, fence) ∈ after.accepted := by
  obtain ⟨horigin, hagain⟩ := h.restart hidle hstart
  obtain ⟨hvalue, after, -, -, hreached, hrest, hfront⟩ :=
    VulkanDevice.meets_submit wait rfl device hagain.rest
  refine ⟨_, _, horigin, caughtUp_of_frontWaits hidle horigin hrest (hfront hstatus), ?_⟩
  intro commandBuffer fence hfence
  obtain ⟨events, hevents⟩ := hrest.roles_prefix
  have hnew : .submits commandBuffer fence ∈ events := by
    change _ ∈ ((VulkanDevice.submit wait).run device).state.native.roles.drop _ at hfence
    rwa [← hevents, Work.device_resting, List.drop_left] at hfence
  have haccepted := (Reaches.clock hrest hidle horigin).accepted
  rw [← hevents, Role.accepted_append, horigin.accepted] at haccepted
  rcases hreached with hsame | ⟨found, hone⟩
  · have hnone : Role.accepted events = [] := by simpa [hsame] using haccepted
    exact nomatch hnone ▸ Role.mem_accepted hnew
  · have hsingle : Role.accepted events = [found] := by simpa [hone] using haccepted
    obtain rfl := List.mem_singleton.mp (hsingle ▸ Role.mem_accepted hnew)
    rw [hvalue]
    exact hone ▸ List.mem_append_right _ (List.mem_singleton_self _)

/-- What the device answers is complete has signalled. -/
theorem CaughtUp.signalled_of_polled (h : CaughtUp reliable start roster device)
    (hidle : reliable .deviceWaitIdle) (hstart : Clock start) {value fence : Nat}
    (haccepted : (value, fence) ∈ roster.accepted)
    (hvalue : value ≤ (VulkanDevice.pollFence.run device).value) :
    .signals fence ∈ (VulkanDevice.pollFence.run device).state.native.roles := by
  obtain ⟨-, passed, -, hpassed, hreaches, -⟩ := VulkanDevice.meets_pollFence device h.rest
  have hclock := Reaches.clock hreaches hidle hstart
  rcases hclock.landed _ haccepted with hsignalled | ⟨submission, hqueued, rfl, hfence⟩
  · exact hclock.signalled fence hsignalled
  · have hlate : ¬passed < submission.fenceValue := Nat.not_lt.mpr (Nat.le_trans hvalue hpassed)
    obtain ⟨found, hfound, hsignalled⟩ :=
      (hclock.behind submission hqueued).resolve_left hlate
    obtain rfl := Option.some.inj (hfound.symm.trans hfence)
    exact hclock.signalled found hsignalled

/-- A device that has caught up takes work for finished in the order it was submitted. -/
theorem CaughtUp.inOrder (h : CaughtUp reliable start roster device)
    (hidle : reliable .deviceWaitIdle) (hstart : Clock start) : device.InOrder := by
  have hclock := Reaches.clock h.rest hidle hstart
  have hcompleted : device.completedFence ≤ roster.passed := (Reaches.validNow h.rest).completed
  have hordered := hclock.ordered
  have hbounded := hclock.bounded
  simp only [Work.values, Option.toList_none, List.append_nil] at hordered hbounded
  exact
    { increasing := hordered
      between := fun submission hsubmission =>
        ⟨Nat.lt_of_le_of_lt hcompleted (hclock.ahead h.ahead submission hsubmission),
          hbounded _ (List.mem_map_of_mem hsubmission)⟩
      complete := Nat.lt_of_le_of_lt hcompleted hclock.passed }

end Resting

namespace VulkanDevice

/-- The answers that tell which work has finished. -/
def completionQueries : List Operation := [.deviceWaitIdle, .getFenceStatus]

/-- Fences may signal in any order and calls may fail, apart from those that tell which work has
finished. Fence values stay in order, and a value that is answered to be complete stands for work
that has signalled, from the first submission on; the front of the queue has not. -/
theorem pollFence_answers_finished_work {script : Operation → List ResultCode}
    {device : VulkanDevice} (h : Opened script device)
    (hscript : ∀ operation ∈ completionQueries, ∀ answer ∈ script operation,
      answer.failure? = none)
    (turns : List Turn) (hturns : ∀ turn ∈ turns, turn.Spares (· ∈ completionQueries)) :
    (device.run turns).InOrder ∧
      (∀ first rest, turns = first ++ rest →
        (device.run first).completedFence ≤ (device.run turns).completedFence) ∧
      (∀ first wait rest, turns = first ++ .request (.submit wait) :: rest →
        ∀ commandBuffer fence,
          .submits commandBuffer fence ∈
            (device.run (first ++ [.request (.submit wait)])).native.roles.drop
              (device.run first).native.roles.length →
          ((submit wait).run (device.run first)).value ≤ (pollFence.run (device.run turns)).value →
          .signals fence ∈ (pollFence.run (device.run turns)).state.native.roles) ∧
      (pollFence.run (device.run turns)).state.FrontWaits := by
  have hidle : .deviceWaitIdle ∈ completionQueries := by decide
  have hstatus : .getFenceStatus ∈ completionQueries := by decide
  have hclock := Clock.opened h
  have hvalid : Valid (Rules.free (· ∈ completionQueries)) (Work.opened device) :=
    valid_opened h hscript
  have hopened : CaughtUp (· ∈ completionQueries) (Work.opened device) {} device :=
    ⟨rest_opened hvalid, rfl⟩
  obtain ⟨roster, hrun⟩ := caughtUp_run hidle hstatus hclock hturns hopened
  refine ⟨hrun.inOrder hidle hclock, ?_, ?_, ?_⟩
  · rintro first rest rfl
    obtain ⟨hfirst, hrest⟩ := List.forall_mem_append.mp hturns
    obtain ⟨_, hmiddle⟩ := caughtUp_run hidle hstatus hclock hfirst hopened
    obtain ⟨horigin, hagain⟩ := hmiddle.restart hidle hclock
    obtain ⟨_, hend⟩ := caughtUp_run hidle hstatus horigin hrest hagain
    rw [run_append]
    exact hend.rest.completedFence_le
  · rintro first wait rest rfl commandBuffer fence hfence
    obtain ⟨hfirst, hrest⟩ := List.forall_mem_append.mp hturns
    obtain ⟨_, hmiddle⟩ := caughtUp_run hidle hstatus hclock hfirst hopened
    obtain ⟨origin, after, horigin, hsubmitted, haccepted⟩ :=
      hmiddle.submit hidle hstatus hclock wait
    rw [run_append] at hfence
    have hlanded := haccepted commandBuffer fence hfence
    obtain ⟨hagainClock, hagain⟩ := hsubmitted.restart hidle horigin
    obtain ⟨last, hend⟩ :=
      caughtUp_run hidle hstatus hagainClock (List.forall_mem_cons.mp hrest).2 hagain
    rw [run_append]
    exact hend.signalled_of_polled hidle hagainClock (hend.rest.accepted_subset hlanded)
  · obtain ⟨-, passed, -, -, -, hfront⟩ := meets_pollFence _ hrun.rest
    exact hfront hstatus

/-- The second of four submissions fails, the wait for the third times out, and the fence of the
last one signals before it. The value 2 is complete: the fence of the first has signalled. -/
theorem pollFence_answers_finished_work_out_of_order :
    let script : Operation → List ResultCode := fun operation =>
      match operation with
      | .queueSubmit => [⟨0⟩, ⟨-4⟩]
      | .waitForFences => [.timeout]
      | _ => []
    let turns : List Turn := [.request (.submit false), .request (.submit false),
      .request (.submit true), .request (.submit false), .move (.signal 4)]
    let device := withPool script (fun _ => none) false 0
    Opened script device ∧
      (∀ operation ∈ completionQueries, ∀ answer ∈ script operation, answer.failure? = none) ∧
      (∀ turn ∈ turns, turn.Spares (· ∈ completionQueries)) ∧
      (device.run turns).InOrder ∧
      (device.run turns).inFlight.map Submission.fenceValue = [3, 4] ∧
      4 ∈ (device.run turns).native.signalled ∧
      (pollFence.run (device.run turns)).value = 2 ∧
      .signals 1 ∈ (pollFence.run (device.run turns)).state.native.roles := by
  intro script turns device
  have hopened : Opened script device := opened_withPool _ false 0 rfl
  have hscript : ∀ operation ∈ completionQueries, ∀ answer ∈ script operation,
      answer.failure? = none := by simp [completionQueries, script]
  have hturns : ∀ turn ∈ turns, turn.Spares (· ∈ completionQueries) := by
    simp [turns, Turn.Spares, Move.Spares]
  obtain ⟨horder, -, hfinished, -⟩ :=
    pollFence_answers_finished_work hopened hscript turns hturns
  refine ⟨hopened, hscript, hturns, horder, by decide +kernel, by decide +kernel,
    by decide +kernel, ?_⟩
  exact hfinished [] false _ rfl none 1 (by decide +kernel) (by decide +kernel)

end VulkanDevice

end Texel.Vulkan
