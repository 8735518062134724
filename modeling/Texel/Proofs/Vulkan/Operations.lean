import Texel.Proofs.Vulkan.Work

namespace Texel.Vulkan

variable {α : Type} {rules : Rules} {start : Work} {holding : Holding} {device : VulkanDevice}

namespace Reaches

/-- Using up an answer is no step of its own. -/
theorem consume (h : Reaches rules start holding device) (operation : Operation) :
    Reaches rules start holding
      { device with native := device.native.consume operation } :=
  h.step (.resumed _
    { history := rfl
      waiting := rfl
      signalled := rfl
      last := fun kind => by cases kind <;> exact Nat.le_refl _
      script := fun _ _ hall answer hanswer =>
        hall answer (Native.script_consume_subset _ _ _ hanswer) })

/-- A call that neither makes, frees, names nor submits anything changes only the history. -/
theorem note (h : Reaches rules start holding device) (event : Event)
    (hevent : event.role = .nothing) : Reaches rules start holding (device.note event) :=
  h.step (.noted event hevent)

/-- A reliable operation is not told to fail. -/
theorem failure?_eq_none (h : Reaches rules start holding device) (operation : Operation)
    (hreliable : rules.reliable operation) : device.native.failure? operation = none := by
  rw [Native.failure?]
  cases hhead : (device.native.script operation).head? with
  | none => rfl
  | some answer => exact h.validNow.trusted operation hreliable answer (List.mem_of_mem_head? hhead)

end Reaches

/-- What a call that makes an object leaves: the object in hand, or a failure that is not
`excluded`. -/
def Yields (rules : Rules) (start : Work) (holding : Holding) (kind : ObjectKind) (excluded : Prop)
    {ε : Type} (answer : Except ε Nat) (device : VulkanDevice) : Prop :=
  match answer with
  | .ok handle =>
    Reaches rules start { holding with hand := ⟨kind, handle⟩ :: holding.hand } device
  | .error _ => Reaches rules start holding device ∧ ¬excluded

section Calls

open Native

/-- What holds of the implementation in every device holds of the device. -/
theorem meets_onNative {act : Act Native α} {before : VulkanDevice → Prop}
    {after : α → VulkanDevice → Prop}
    (h : ∀ device : VulkanDevice, act.Meets (fun native => before { device with native })
      fun value native => after value { device with native }) :
    (VulkanDevice.onNative act).Meets before after :=
  fun device hdevice => h device device.native hdevice

/-- A call that can fail and moves no object is a chain of steps, and does not fail if it is
reliable. -/
theorem meets_attempt (operation : Operation) (call : Option ResultCode → Call)
    (hrole : ∀ told, (call told).role = .nothing) :
    (VulkanDevice.onNative (attempt operation call)).Meets (Reaches rules start holding)
      fun answer device =>
        Reaches rules start holding device ∧ (rules.reliable operation → answer = none) := by
  refine meets_onNative fun device native h => ?_
  rw [run_attempt]
  exact ⟨(h.consume operation).note _ (hrole _), h.failure?_eq_none operation⟩

/-- A call that makes an object puts it in hand or fails. -/
theorem meets_make (operation : Operation) (call : Except ResultCode Nat → Call) (kind : ObjectKind)
    (hrole : ∀ answer, (call answer).role = .ofAnswer kind answer) :
    (VulkanDevice.onNative
      (make operation call fun native => (native.last kind + 1, native.advance kind))).Meets
      (Reaches rules start holding)
      (Yields rules start holding kind (rules.reliable operation)) := by
  refine meets_onNative fun device native h => ?_
  rw [run_make]
  cases hfailure : native.failure? operation with
  | some failure =>
    refine ⟨(h.consume operation).note _ (hrole _), fun hreliable => ?_⟩
    exact Option.some_ne_none failure (hfailure.symm.trans (h.failure?_eq_none operation hreliable))
  | none =>
    have hlast : (native.consume operation).last kind = native.last kind := by cases kind <;> rfl
    have hmade := (h.consume operation).step
      (.made kind (.call (call (.ok (native.last kind + 1)))) (hlast ▸ hrole _))
    rwa [hlast] at hmade

/-- An object that is freed goes off the list of those to be freed. -/
theorem meets_free {event : Event} {object : Object} (hevent : event.role = .frees object)
    (rest : List Object) :
    (VulkanDevice.onNative (record event)).Meets
      (Reaches rules start { holding with waste := object :: rest })
      fun _ => Reaches rules start { holding with waste := rest } :=
  fun _ h => h.step (.freed event rfl hevent)

theorem meets_isMapped :
    (VulkanDevice.onNative isMapped).Keeps (Reaches rules start holding) := by
  refine meets_onNative fun device native h => ?_
  simp only [isMapped, Act.run_bind, run_nextAnswer, Act.run_pure]
  exact h.consume .hostMapping

/-- Memory that is allocated is in hand. -/
theorem meets_allocate (operation : Operation) (request : MemoryRequest) :
    (VulkanDevice.onNative (allocate operation request)).Meets (Reaches rules start holding)
      (Yields rules start holding .memory False) := by
  refine meets_onNative fun device native h => ?_
  have hconsumed := h.consume operation
  simp only [allocate, Act.run_bind, run_nextAnswer, Act.run_get]
  cases (native.consume operation).allocatorRefusal? _ request with
  | some refusal => exact ⟨hconsumed, not_false⟩
  | none => exact hconsumed.step (.made .memory (.memoryAllocated _) rfl)

/-- A fence that signals is a step of the implementation. -/
theorem reaches_signal (h : Reaches rules start holding device) (fence : Nat) :
    Reaches rules start holding
      { device with native := ((Native.signal fence).run device.native).state } := by
  rw [run_signal]
  by_cases hwaiting : fence ∈ device.native.waiting
  · simp only [if_pos hwaiting]
    exact h.step (.signalled fence hwaiting)
  · simpa only [if_neg hwaiting] using h

theorem meets_signal (fence : Nat) :
    (VulkanDevice.onNative (signal fence)).Keeps (Reaches rules start holding) :=
  fun _ h => reaches_signal h fence

/-- Fences that signal are waiting no more. -/
theorem not_mem_waiting_signal (fence : Nat) (native : Native) :
    fence ∉ ((signal fence).run native).state.waiting := by
  rw [run_signal]
  by_cases hwaiting : fence ∈ native.waiting <;> simp [hwaiting]

/-- A fence that signals makes nothing wait. -/
theorem waiting_signal_subset (fence : Nat) (native : Native) :
    ((signal fence).run native).state.waiting ⊆ native.waiting := by
  rw [run_signal]
  by_cases hwaiting : fence ∈ native.waiting
  · simpa only [if_pos hwaiting] using List.filter_sublist.subset
  · simp [hwaiting]

/-- When all the fences that waited have signalled, none waits. -/
theorem meets_signalEach (fences : List Nat) :
    (VulkanDevice.onNative (signalEach fences)).Meets
      (fun device => Reaches rules start holding device ∧ device.native.waiting ⊆ fences)
      fun _ device => Reaches rules start holding device ∧ device.native.waiting = [] := by
  induction fences with
  | nil => exact fun device h => ⟨h.1, List.subset_nil.mp h.2⟩
  | cons fence rest ih =>
    intro device h
    refine ih _ ⟨meets_signal fence device h.1, fun other hother => ?_⟩
    have hne : other ≠ fence := fun heq =>
      not_mem_waiting_signal fence device.native (heq ▸ hother)
    exact (List.mem_cons.mp (h.2 (waiting_signal_subset fence device.native hother))).resolve_left
      hne

/-- A reliable wait for the device leaves no fence waiting. -/
theorem meets_deviceWaitIdle :
    (VulkanDevice.onNative deviceWaitIdle).Meets (Reaches rules start holding) fun _ device =>
      Reaches rules start holding device ∧
        (rules.reliable .deviceWaitIdle → device.native.waiting = []) := by
  intro device h
  have hattempt := meets_attempt .deviceWaitIdle .deviceWaitIdle (fun _ => rfl) device h
  simp only [deviceWaitIdle, VulkanDevice.onNative, Act.run_focus, Act.run_bind]
  cases hvalue : ((attempt .deviceWaitIdle .deviceWaitIdle).run device.native).value with
  | some failure =>
    exact ⟨hattempt.1, fun hreliable => nomatch hvalue.symm.trans (hattempt.2 hreliable)⟩
  | none =>
    have hall := meets_signalEach _ _ ⟨hattempt.1, List.Subset.refl _⟩
    exact ⟨hall.1, fun _ => hall.2⟩

theorem meets_waitForFence (fence timeout : Nat) :
    (VulkanDevice.onNative (waitForFence fence timeout)).Keeps (Reaches rules start holding) := by
  intro device h
  have hattempt :=
    meets_attempt .waitForFences (.waitForFence fence timeout) (fun _ => rfl) device h
  change Reaches _ _ _ { device with native := ((waitForFence fence timeout).run _).state }
  simp only [waitForFence, Act.run_bind]
  cases
    hvalue : ((attempt .waitForFences (.waitForFence fence timeout)).run device.native).value with
  | some failure => exact hattempt.1
  | none => exact meets_signal fence _ hattempt.1

/-- A fence that is said to have signalled has, if it is one of submitted work. A reliable query
says so of every fence that has. -/
theorem meets_isSignalled (fence : Nat) :
    (VulkanDevice.onNative (isSignalled fence)).Meets
      (fun device => Reaches rules start holding device ∧
        (fence ∈ device.native.waiting ∨ fence ∈ device.native.signalled))
      fun answer device => Reaches rules start holding device ∧
        (answer = true → fence ∈ device.native.signalled) ∧
        (answer = false → rules.reliable .getFenceStatus → fence ∉ device.native.signalled) := by
  rintro device ⟨h, hfence⟩
  have hconsumed := h.consume .getFenceStatus
  have hreliable := h.failure?_eq_none .getFenceStatus
  rw [Native.failure?] at hreliable
  simp only [isSignalled, VulkanDevice.onNative, Act.run_focus, Act.run_bind, run_nextAnswer]
  cases hhead : (device.native.script .getFenceStatus).head? with
  | none =>
    refine ⟨hconsumed, fun hvalue => of_decide_eq_true hvalue, fun hvalue _ => ?_⟩
    exact of_decide_eq_false hvalue
  | some answer =>
    rw [hhead, Option.bind_some] at hreliable
    cases hfailure : answer.failure? with
    | some failure =>
      simp only [hfailure, Act.run_pure]
      refine ⟨hconsumed, fun hvalue => absurd hvalue Bool.false_ne_true, fun _ hsure => ?_⟩
      rw [hfailure] at hreliable
      exact absurd (hreliable hsure) (Option.some_ne_none failure)
    | none =>
      simp only [hfailure, Act.run_bind, Act.run_pure]
      refine ⟨meets_signal fence _ hconsumed, fun _ => ?_,
        fun hvalue => absurd hvalue.symm Bool.false_ne_true⟩
      rw [run_signal]
      by_cases hwaiting : fence ∈ (device.native.consume .getFenceStatus).waiting
      · simp only [if_pos hwaiting]
        exact List.mem_append_right _ (List.mem_singleton_self _)
      · simp only [if_neg hwaiting]
        exact hfence.resolve_left hwaiting

end Calls

namespace VulkanDevice

/-- Destroying a resource frees its objects out of the waste. -/
theorem meets_destroyNative (holding : Holding) (resource : Resource) (rest : List Object) :
    (destroyNative resource).Meets
      (Reaches rules start { holding with waste := resource.objects ++ rest })
      fun _ => Reaches rules start { holding with waste := rest } := by
  cases resource with
  | image image memory desc =>
    cases memory with
    | none => exact .pure fun _ h => h
    | some memory => exact .bind (meets_free rfl _) fun _ => meets_free rfl _
  | buffer buffer memory size => exact .bind (meets_free rfl _) fun _ => meets_free rfl _

theorem meets_destroyEach (holding : Holding) (resources : List Resource) (rest : List Object) :
    (destroyEach resources).Meets
      (Reaches rules start { holding with waste := resources.flatMap Resource.objects ++ rest })
      fun _ => Reaches rules start { holding with waste := rest } := by
  induction resources with
  | nil => exact .pure fun _ h => h
  | cons resource resources ih =>
    rw [List.flatMap_cons, List.append_assoc]
    exact .bind (meets_destroyNative holding resource _) fun _ => ih

theorem meets_destroyViews (holding : Holding) (views : List Nat) (rest : List Object) :
    (destroyViews views).Meets
      (Reaches rules start { holding with waste := views.map (Object.mk .view) ++ rest })
      fun _ => Reaches rules start { holding with waste := rest } := by
  induction views with
  | nil => exact .pure fun _ h => h
  | cons view views ih => exact .bind (meets_free rfl _) fun _ => ih

/-- An object that may be missing. -/
theorem meets_forM (holding : Holding) {free : Nat → Act VulkanDevice Unit} {kind : ObjectKind}
    (hfree : ∀ handle rest, (free handle).Meets
      (Reaches rules start { holding with waste := ⟨kind, handle⟩ :: rest })
      fun _ => Reaches rules start { holding with waste := rest })
    (handle? : Option Nat) (rest : List Object) :
    (handle?.forM free).Meets
      (Reaches rules start
        { holding with waste := handle?.toList.map (Object.mk kind) ++ rest })
      fun _ => Reaches rules start { holding with waste := rest } := by
  cases handle? with
  | none => exact .pure fun _ h => h
  | some handle => exact hfree handle rest

/-- A submission is retired that has finished. -/
theorem meets_retire (holding : Holding) (submission : Submission) (rest : List Object)
    (hpassed : submission.fenceValue ≤ holding.roster.passed) :
    (retire submission).Meets
      (Reaches rules start { holding with waste := submission.objects ++ rest })
      fun _ => Reaches rules start { holding with waste := rest } := by
  rw [Submission.objects, List.append_assoc, List.append_assoc]
  refine .bind (meets_forM holding (fun _ _ => meets_free rfl _) submission.fence _) fun _ => ?_
  refine .bind
    (meets_forM holding (fun _ _ => meets_free rfl _) submission.commandBuffer _) fun _ => ?_
  refine .bind (meets_destroyEach holding submission.parked rest) fun _ => ?_
  exact .modify fun _ h => h.step (.completed submission.fenceValue hpassed)

theorem meets_retireEach (holding : Holding) (submissions : List Submission) (rest : List Object)
    (hpassed : ∀ submission ∈ submissions, submission.fenceValue ≤ holding.roster.passed) :
    (retireEach submissions).Meets
      (Reaches rules start
        { holding with waste := submissions.flatMap Submission.objects ++ rest })
      fun _ => Reaches rules start { holding with waste := rest } := by
  induction submissions with
  | nil => exact .pure fun _ h => h
  | cons submission submissions ih =>
    obtain ⟨hfirst, hrest⟩ := List.forall_mem_cons.mp hpassed
    rw [List.flatMap_cons, List.append_assoc]
    exact .bind (meets_retire holding submission _ hfirst) fun _ => ih hrest

section Frame

variable {P : VulkanDevice → Prop}

/-- A call leaves all but the implementation alone. -/
theorem keeps_onNative (hnative : ∀ device native, P device → P { device with native })
    (act : Act Native α) : (onNative act).Keeps P :=
  fun device h => hnative device _ h

/-- Destroying objects changes only the implementation. -/
theorem keeps_destroyNative (hnative : ∀ device native, P device → P { device with native })
    (resource : Resource) : (destroyNative resource).Keeps P := by
  cases resource with
  | image image memory desc =>
    cases memory with
    | none => exact .pure _
    | some memory => exact .bind (keeps_onNative hnative _) fun _ => keeps_onNative hnative _
  | buffer buffer memory size =>
    exact .bind (keeps_onNative hnative _) fun _ => keeps_onNative hnative _

theorem keeps_destroyEach (hnative : ∀ device native, P device → P { device with native })
    (resources : List Resource) : (destroyEach resources).Keeps P := by
  induction resources with
  | nil => exact .pure _
  | cons resource resources ih => exact .bind (keeps_destroyNative hnative resource) fun _ => ih

theorem keeps_forM {free : Nat → Act VulkanDevice Unit} (hfree : ∀ handle, (free handle).Keeps P)
    (handle? : Option Nat) : (handle?.forM free).Keeps P := by
  cases handle? with
  | none => exact .pure _
  | some handle => exact hfree handle

theorem keeps_destroyViews (hnative : ∀ device native, P device → P { device with native })
    (views : List Nat) : (destroyViews views).Keeps P := by
  induction views with
  | nil => exact .pure _
  | cons view views ih => exact .bind (keeps_onNative hnative _) fun _ => ih

theorem keeps_retire (hnative : ∀ device native, P device → P { device with native })
    (hcompleted : ∀ device completedFence, P device → P { device with completedFence })
    (submission : Submission) : (retire submission).Keeps P := by
  refine .bind (keeps_forM (fun _ => keeps_onNative hnative _) _) fun _ => ?_
  refine .bind (keeps_forM (fun _ => keeps_onNative hnative _) _) fun _ => ?_
  exact .bind (keeps_destroyEach hnative _) fun _ => fun _ h => hcompleted _ _ h

theorem keeps_retireEach (hnative : ∀ device native, P device → P { device with native })
    (hcompleted : ∀ device completedFence, P device → P { device with completedFence })
    (submissions : List Submission) : (retireEach submissions).Keeps P := by
  induction submissions with
  | nil => exact .pure _
  | cons submission submissions ih =>
    exact .bind (keeps_retire hnative hcompleted submission) fun _ => ih

end Frame

/-- After waiting for the device no fence waits, if the wait can be relied on. -/
theorem meets_awaitIdle :
    awaitIdle.Meets (Reaches rules start holding) fun _ device =>
      Reaches rules start holding device ∧
        (rules.reliable .deviceWaitIdle → device.native.waiting = []) := by
  refine .bind meets_deviceWaitIdle fun answer => ?_
  cases answer with
  | none => exact .pure fun _ h => h
  | some failure => exact .after_log (.pure fun _ h => h)

/-- Waiting for the device changes only the implementation. -/
theorem keeps_awaitIdle {P : VulkanDevice → Prop}
    (hnative : ∀ device native, P device → P { device with native }) : awaitIdle.Keeps P := by
  refine .bind (keeps_onNative hnative _) fun answer => ?_
  cases answer with
  | none => exact .pure _
  | some failure => exact .bind (.log _ _) fun _ => .pure _

theorem meets_awaitFence (fence : Nat) :
    (awaitFence fence).Keeps (Reaches rules start holding) := by
  refine .bind (meets_waitForFence fence fenceTimeout) fun answer => ?_
  cases answer with
  | none => exact .pure _
  | some failure =>
    by_cases h : failure = .timeout
    · simpa only [if_pos h] using .log _ _
    · simpa only [if_neg h] using .log _ _

/-- The submission at the front of the queue has not finished. -/
def FrontWaits (device : VulkanDevice) : Prop :=
  ∀ submission rest, device.inFlight = submission :: rest →
    ∃ fence, submission.fence = some fence ∧ fence ∉ device.native.signalled

/-- After a look at the fences in flight more work may have passed. The front of the queue has not,
if the queries can be relied on. -/
def Polled (rules : Rules) (start : Work) (holding : Holding) (device : VulkanDevice) : Prop :=
  ∃ passed, holding.roster.passed ≤ passed ∧
    Reaches rules start { holding with roster := { holding.roster with passed } } device ∧
    (rules.reliable .getFenceStatus → device.FrontWaits)

/-- The submissions at the front whose fences have signalled are retired, up to the first that
waits. -/
theorem meets_pollEach (submissions : List Submission) (holding : Holding) :
    (pollEach submissions).Meets
      (fun device => Reaches rules start holding device ∧ device.inFlight = submissions)
      fun _ => Polled rules start holding := by
  induction submissions generalizing holding with
  | nil =>
    rintro device ⟨h, hqueue⟩
    refine ⟨holding.roster.passed, Nat.le_refl _, h, fun _ submission rest hfront => ?_⟩
    exact nomatch hfront.symm.trans hqueue
  | cons submission rest ih =>
    rintro device ⟨h, hqueue⟩
    obtain ⟨fence, hfence, hstate⟩ :=
      h.validNow.fenced submission (hqueue ▸ List.mem_cons_self)
    obtain ⟨hasked, hyes, hno⟩ := meets_isSignalled fence device ⟨h, hstate⟩
    simp only [pollEach, hasSignalled, hfence, Act.run_bind]
    cases hanswer : ((onNative (Native.isSignalled fence)).run device).value with
    | false =>
      refine ⟨holding.roster.passed, Nat.le_refl _, hasked, fun hreliable front behind hfront => ?_⟩
      obtain ⟨rfl, -⟩ := List.cons_eq_cons.mp (hqueue.symm.trans hfront)
      exact ⟨fence, hfence, hno hanswer hreliable⟩
    | true =>
      have hpopped := hasked.step
        (.popped hqueue (.inl ⟨fence, hfence, hyes hanswer⟩))
      have hretired := meets_retire
        { holding with roster := holding.roster.pass submission.fenceValue } submission
        holding.waste (Nat.le_max_right _ _) _ hpopped
      have hqueue := keeps_retire (P := fun device => device.inFlight = rest) (fun _ _ h => h)
        (fun _ _ h => h) submission
        { ((onNative (Native.isSignalled fence)).run device).state with inFlight := rest } rfl
      obtain ⟨passed, hpassed, hpolled⟩ := ih _ _ ⟨hretired, hqueue⟩
      exact ⟨passed, Nat.le_trans (Nat.le_max_left _ _) hpassed, hpolled⟩

/-- Polling retires what has finished, from the front of the queue. -/
theorem meets_pollCompleted :
    pollCompleted.Meets (Reaches rules start holding) fun _ => Polled rules start holding :=
  fun device h => meets_pollEach device.inFlight holding device ⟨h, rfl⟩

/-- An object just made that is given up again. -/
theorem meets_giveUp (holding : Holding) {object : Object} (event : Event)
    (hevent : event.role = .frees object) :
    (onNative (Native.record event)).Meets
      (Reaches rules start { holding with hand := object :: holding.hand })
      fun _ => Reaches rules start holding :=
  fun _ h => (h.step (.discarded [object] rfl)).step (.freed event rfl hevent)

/-- A call that has an effect if it is not told to fail. -/
theorem role_ofTold_of_failure? {native : Native} {operation : Operation} {effect : Role}
    (h : native.failure? operation = none) :
    Role.ofTold (native.script operation).head? effect = effect :=
  if_pos h

/-- A call that was told it failed has no effect. -/
theorem role_ofTold_of_failure?_some {native : Native} {operation : Operation} {effect : Role}
    {failure : ResultCode} (h : native.failure? operation = some failure) :
    Role.ofTold (native.script operation).head? effect = .nothing :=
  if_neg fun hnone => Option.some_ne_none failure (h.symm.trans hnone)

/-- A command buffer that is begun takes commands from now on. -/
theorem meets_beginCommandBuffer (commandBuffer : Nat) :
    (onNative (Native.beginCommandBuffer commandBuffer)).Meets
      (fun device => Reaches rules start
        { holding with hand := ⟨.commandBuffer, commandBuffer⟩ :: holding.hand } device ∧
          device.recording = none)
      fun answer device =>
        match answer with
        | some _ => Reaches rules start
            { holding with hand := ⟨.commandBuffer, commandBuffer⟩ :: holding.hand } device ∧
              device.recording = none ∧ ¬rules.tracked
        | none => Reaches rules start holding { device with recording := some commandBuffer } := by
  rintro device ⟨h, hidle⟩
  have hconsumed := h.consume .beginCommandBuffer
  have hreliable := h.failure?_eq_none .beginCommandBuffer
  simp only [onNative, Native.beginCommandBuffer, Act.run_focus, Native.run_attempt]
  cases hfailure : device.native.failure? .beginCommandBuffer with
  | some failure =>
    have hnoted := hconsumed.note (.call (.beginCommandBuffer commandBuffer _))
      (role_ofTold_of_failure?_some hfailure)
    refine ⟨hnoted, hidle, fun htracked => ?_⟩
    have hbegin := rules.tracked_commands htracked .beginCommandBuffer (by decide)
    exact nomatch hfailure.symm.trans (hreliable hbegin)
  | none =>
    exact hconsumed.step (.begun (.call (.beginCommandBuffer commandBuffer _)) hidle rfl
      (role_ofTold_of_failure? hfailure))

/-- The command buffer being recorded, over a table of resources. It is missing only if the
implementation failed to make or begin one. -/
structure Began (rules : Rules) (start : Work) (holding : Holding)
    (table : Table ResourceId Resource) (answer : Option Nat) (device : VulkanDevice) : Prop where
  reaches : Reaches rules start holding device
  recording : device.recording = answer
  untracked : answer = none → ¬rules.tracked
  resources : device.resources = table

/-- A command buffer is open or was begun, or could not be had, and then nothing is recorded. -/
theorem meets_commandBuffer? (table : Table ResourceId Resource) :
    commandBuffer?.Meets
      (fun device => Reaches rules start holding device ∧ device.resources = table)
      (Began rules start holding table) := by
  refine .get fun origin => ?_
  cases hrecording : origin.recording with
  | some commandBuffer =>
    refine .pure ?_
    rintro device ⟨rfl, h, htable⟩
    exact ⟨h, hrecording, fun hnone => (nomatch hnone), htable⟩
  | none =>
    refine .through (fun answer device =>
      (Yields rules start holding .commandBuffer (rules.reliable .allocateCommandBuffers) answer
        device ∧ device.recording = none) ∧ device.resources = table) ?_ fun answer => ?_
    · rintro device ⟨rfl, h, htable⟩
      exact ⟨⟨meets_make .allocateCommandBuffers (.allocateCommandBuffer device.pool) .commandBuffer
        (fun _ => rfl) device h, hrecording⟩, htable⟩
    · cases answer with
      | error failure =>
        refine .after_log (.pure ?_)
        rintro device ⟨⟨⟨h, hfailed⟩, hidle⟩, htable⟩
        have hallocate (htracked : rules.tracked) :=
          rules.tracked_commands htracked .allocateCommandBuffers (by decide)
        exact ⟨h, hidle, fun _ htracked => hfailed (hallocate htracked), htable⟩
      | ok commandBuffer =>
        refine .bind (.keeping (meets_beginCommandBuffer commandBuffer)
          (keeps_onNative (fun _ _ h => h) _)) fun answer => ?_
        cases answer with
        | some failure =>
          refine .after_log (.through (fun _ device =>
            (Reaches rules start holding device ∧ device.recording = none ∧ ¬rules.tracked) ∧
              device.resources = table) ?_ fun _ => .pure ?_)
          · rintro device ⟨⟨h, hidle, huntracked⟩, htable⟩
            exact ⟨⟨meets_giveUp _ _ rfl device h, hidle, huntracked⟩, htable⟩
          · rintro device ⟨⟨h, hidle, huntracked⟩, htable⟩
            exact ⟨h, hidle, fun _ => huntracked, htable⟩
        | none =>
          refine .through (fun _ device => (Reaches rules start holding device ∧
            device.recording = some commandBuffer) ∧ device.resources = table)
            (.modify fun device h => ⟨⟨h.1, rfl⟩, h.2⟩) fun _ => .pure ?_
          rintro device ⟨⟨h, hrecording⟩, htable⟩
          exact ⟨h, hrecording, fun hnone => (nomatch hnone), htable⟩

/-- A device knows an image if there is one in its table. -/
theorem image?_eq_some_iff {device : VulkanDevice} {id : ResourceId} {image : Nat}
    {desc : TextureDesc} :
    device.image? id = some (image, desc) ↔
      ∃ memory, device.resources.get? id = some (.image image memory desc) := by
  rw [image?]
  split
  · next handle memory found hfound =>
    simp only [hfound, Option.some.injEq, Prod.mk.injEq, Resource.image.injEq]
    constructor
    · rintro ⟨hhandle, hdesc⟩
      exact ⟨memory, hhandle, rfl, hdesc⟩
    · rintro ⟨_, hhandle, -, hdesc⟩
      exact ⟨hhandle, hdesc⟩
  · next hnone =>
    constructor
    · intro h
      cases h
    · rintro ⟨memory, hfound⟩
      exact absurd hfound (hnone image memory desc)

theorem buffer?_eq_some_iff {device : VulkanDevice} {id : ResourceId} {buffer : Nat} :
    device.buffer? id = some buffer ↔
      ∃ memory size, device.resources.get? id = some (.buffer buffer memory size) := by
  rw [buffer?]
  split
  · next handle memory size hfound =>
    simp only [hfound, Option.some.injEq, Resource.buffer.injEq]
    constructor
    · exact fun hhandle => ⟨memory, size, hhandle, rfl, rfl⟩
    · rintro ⟨_, _, hhandle, -, -⟩
      exact hhandle
  · next hnone =>
    constructor
    · intro h
      cases h
    · rintro ⟨memory, size, hfound⟩
      exact absurd hfound (hnone buffer memory size)

/-- A barrier moves the image; one that is left out is for an image whose layout nobody follows. -/
theorem meets_transitionImage (id : ResourceId) (oldLayout : ImageLayout)
    (sourceAccess sourceStage : Nat) (after : UsageState)
    (hlive : rules.careful → holding.roster.Live id)
    (hlayout : rules.tracked → ∀ layout, holding.roster.layout? id = some layout →
      oldLayout = layout) :
    (transitionImage id oldLayout sourceAccess sourceStage after).Meets
      (Reaches rules start holding) fun _ => Reaches rules start
        { holding with roster := holding.roster.move id (stateLayout after) } := by
  refine .get fun origin => ?_
  cases himage : origin.image? id with
  | none =>
    refine .log ?_
    rintro device ⟨rfl, h⟩
    rw [Roster.move_eq_self]
    · exact h
    · intro layout hfollowed
      obtain ⟨-, image, memory, desc, hfound⟩ := h.validNow.imaged id layout hfollowed
      exact nomatch himage.symm.trans (image?_eq_some_iff.mpr ⟨_, hfound⟩)
  | some found =>
    obtain ⟨image, desc⟩ := found
    obtain ⟨memory, hfound⟩ := image?_eq_some_iff.mp himage
    refine .through (Began rules start holding origin.resources) ?_ fun answer => ?_
    · rintro device ⟨rfl, h⟩
      exact meets_commandBuffer? _ device ⟨h, rfl⟩
    · cases answer with
      | none =>
        refine .pure fun device hbegan => ?_
        rw [Roster.move_eq_self]
        · exact hbegan.reaches
        · exact fun layout hfollowed => absurd
            (hbegan.reaches.validNow.imaged id layout hfollowed).1 (hbegan.untracked rfl)
      | some commandBuffer =>
        intro device hbegan
        exact hbegan.reaches.step (.barrier _ hbegan.recording (hbegan.resources ▸ hfound) rfl
          hlive hlayout)

/-- A copy is recorded or left out; either way every image stays in its layout. -/
theorem meets_recordCopy (copy : BufferCopy)
    (hlive : rules.careful → holding.roster.Live copy.destination)
    (hlayout : rules.tracked → ∀ layout, holding.roster.layout? copy.destination = some layout →
      layout = .transferDestination) :
    (recordCopy copy).Meets
      (fun device => Reaches rules start holding device ∧ (rules.careful →
        ∀ resource, device.resources.get? copy.source = some resource →
          holding.roster.Live copy.source))
      fun _ => Reaches rules start holding := by
  refine .get fun origin => ?_
  cases hbuffer : origin.buffer? copy.source with
  | none =>
    refine .log ?_
    rintro device ⟨-, h, -⟩
    exact h
  | some buffer =>
    obtain ⟨memory, size, hsource⟩ := buffer?_eq_some_iff.mp hbuffer
    cases himage : origin.image? copy.destination with
    | none =>
      refine .log ?_
      rintro device ⟨-, h, -⟩
      exact h
    | some found =>
      obtain ⟨image, desc⟩ := found
      obtain ⟨memory', hdestination⟩ := image?_eq_some_iff.mp himage
      refine .through (fun answer device =>
        Began rules start holding origin.resources answer device ∧
          (rules.careful → holding.roster.Live copy.source)) ?_ fun answer => ?_
      · rintro device ⟨rfl, h, hsafe⟩
        exact ⟨meets_commandBuffer? _ device ⟨h, rfl⟩, fun hcareful => hsafe hcareful _ hsource⟩
      · cases answer with
        | none => exact .pure fun device hbegan => hbegan.1.reaches
        | some commandBuffer =>
          rintro device ⟨hbegan, hsafe⟩
          exact hbegan.reaches.step (.copied _ hbegan.recording (hbegan.resources ▸ hsource)
            (hbegan.resources ▸ hdestination) rfl rfl
            (fun hcareful => ⟨hsafe hcareful, hlive hcareful⟩) hlayout)

/-- A new resource is known to its owner from now on. -/
def Enrolls (rules : Rules) (start : Work) (holding : Holding) (layout? : Option ImageLayout)
    (id : ResourceId) (device : VulkanDevice) : Prop :=
  Reaches rules start { holding with roster := holding.roster.enroll id layout? } device ∧
    holding.roster.tenure? id = none

/-- The objects in hand become a resource under an identifier that nobody has. -/
theorem meets_register (resource : Resource) (layout? : Option ImageLayout)
    (hlayout : ∀ layout, layout? = some layout → layout = .undefined ∧ rules.tracked ∧
      ∃ image memory desc, resource = .image image (some memory) desc) :
    (register resource).Meets
      (fun device =>
        Reaches rules start
          { holding with hand := resource.objects ++ holding.hand } device ∧
        (rules.careful ∨ rules.tracked → ∀ image desc, resource = .image image none desc →
          device.native.Foreign image))
      (Enrolls rules start holding layout?) := by
  rintro device ⟨h, hforeign⟩
  refine ⟨h.step (.registered resource layout? rfl hforeign hlayout), ?_⟩
  change holding.roster.tenure? ⟨device.nextId⟩ = none
  cases hknown : holding.roster.tenure? ⟨device.nextId⟩ with
  | none => rfl
  | some tenure => exact absurd (h.validNow.known _ tenure hknown) (Nat.lt_irrefl device.nextId)

/-- An image that belongs to someone else. -/
theorem meets_importImage (image : Nat) (desc : TextureDesc) :
    (importImage image desc).Meets
      (fun device => Reaches rules start holding device ∧
        (rules.careful ∨ rules.tracked → device.native.Foreign image))
      (Enrolls rules start holding none) := by
  rintro device ⟨h, hforeign⟩
  refine meets_register (.image image none desc) none (fun _ hnone => nomatch hnone) device
    ⟨h, fun hrules other _ heq => ?_⟩
  exact (Resource.image.inj heq).1 ▸ hforeign hrules

/-- An image is bound to its memory and registered; if that fails both are freed. -/
theorem meets_bindImage (image memory : Nat) (desc : TextureDesc) (layout? : Option ImageLayout)
    (hlayout : ∀ layout, layout? = some layout → layout = .undefined ∧ rules.tracked) :
    (bindImage image memory desc).Meets
      (Reaches rules start
        { holding with hand := ⟨.memory, memory⟩ :: ⟨.image, image⟩ :: holding.hand })
      (Enrolls rules start holding layout?) fun _ => Reaches rules start holding := by
  refine .bind (.lift (meets_attempt .bindImageMemory (.bindImageMemory image) fun _ => rfl))
    fun answer => ?_
  cases answer with
  | some failure =>
    refine .through (fun _ => Reaches rules start
      { holding with hand := ⟨.image, image⟩ :: holding.hand })
      (.lift fun device h => meets_giveUp _ _ rfl device h.1) fun _ => ?_
    exact .through (fun _ => Reaches rules start holding) (.lift (meets_giveUp _ _ rfl)) fun _ =>
      .refuse fun _ h => h
  | none =>
    refine .lift fun device h => meets_register (.image image (some memory) desc) layout? ?_ device
      ⟨h.1, fun _ _ _ heq => nomatch heq⟩
    intro layout hsome
    obtain ⟨hundefined, htracked⟩ := hlayout layout hsome
    exact ⟨hundefined, htracked, image, memory, desc, rfl⟩

/-- An image is made with its memory and registered, or nothing is left of it. -/
theorem meets_createImage (format : ImageFormat) (desc : TextureDesc)
    (layout? : Option ImageLayout)
    (hlayout : ∀ layout, layout? = some layout → layout = .undefined ∧ rules.tracked) :
    (createImage format desc).Meets (Reaches rules start holding)
      (Enrolls rules start holding layout?) fun _ => Reaches rules start holding := by
  refine .bind (.lift (meets_make .createImage (.createImage _) .image fun _ => rfl))
    fun answer => ?_
  cases answer with
  | error failure => exact .refuse fun _ h => h.1
  | ok image =>
    refine .bind (.lift (meets_allocate _ _)) fun answer => ?_
    cases answer with
    | error refusal =>
      exact .through (fun _ => Reaches rules start holding)
        (.lift fun device h => meets_giveUp _ _ rfl device h.1) fun _ => .refuse fun _ h => h
    | ok memory => exact meets_bindImage image memory desc layout? hlayout

/-- A buffer is bound to its memory, mapped and registered; if that fails both are freed. -/
theorem meets_bindBuffer (buffer memory size : Nat) :
    (bindBuffer buffer memory size).Meets
      (Reaches rules start
        { holding with hand := ⟨.memory, memory⟩ :: ⟨.buffer, buffer⟩ :: holding.hand })
      (fun made => Enrolls rules start holding none made.resource)
      fun _ => Reaches rules start holding := by
  have hgiveUp : (destroyNative (.buffer buffer memory size)).Meets
      (Reaches rules start
        { holding with hand := ⟨.memory, memory⟩ :: ⟨.buffer, buffer⟩ :: holding.hand })
      fun _ => Reaches rules start holding := fun device h =>
    meets_destroyNative holding (.buffer buffer memory size) holding.waste device
      (h.step (.discarded [⟨.memory, memory⟩, ⟨.buffer, buffer⟩] rfl))
  refine .through (fun _ => Reaches rules start
    { holding with hand := ⟨.memory, memory⟩ :: ⟨.buffer, buffer⟩ :: holding.hand })
    (.lift fun device h => (meets_attempt .bindBufferMemory (.bindBufferMemory buffer)
      (fun _ => rfl) device h).1) fun failure? => ?_
  refine .bind (.lift meets_isMapped) fun isMapped => ?_
  cases failure? with
  | some failure => exact .bind (.lift hgiveUp) fun _ => .refuse fun _ h => h
  | none =>
    cases isMapped with
    | true =>
      refine .through (fun id => Enrolls rules start holding none id) (.lift fun device h => ?_)
        fun id => .pure fun _ h => h
      exact meets_register (.buffer buffer memory size) none (fun _ hnone => nomatch hnone) device
        ⟨h, fun _ _ _ heq => nomatch heq⟩
    | false => exact .bind (.lift hgiveUp) fun _ => .refuse fun _ h => h

/-- A buffer is made with its memory and registered, or nothing is left of it. -/
theorem meets_createHostBuffer (size : Nat) :
    (createHostBuffer size).Meets (Reaches rules start holding)
      (fun made => Enrolls rules start holding none made.resource)
      fun _ => Reaches rules start holding := by
  refine .bind (.lift (meets_make .createBuffer (.createBuffer size) .buffer fun _ => rfl))
    fun answer => ?_
  cases answer with
  | error failure => exact .refuse fun _ h => h.1
  | ok buffer =>
    refine .bind (.lift (meets_allocate _ _)) fun answer => ?_
    cases answer with
    | error refusal =>
      exact .through (fun _ => Reaches rules start holding)
        (.lift fun device h => meets_giveUp _ _ rfl device h.1) fun _ => .refuse fun _ h => h
    | ok memory => exact meets_bindBuffer buffer memory size

/-- A new image is in the layout of its first usage state, if someone follows it. -/
theorem meets_createTexture (desc : TextureDesc) (initialState : UsageState)
    (layout? : Option ImageLayout)
    (hlayout : ∀ layout, layout? = some layout → layout = .undefined ∧ rules.tracked) :
    (createTexture desc initialState).Meets (Reaches rules start holding)
      (Enrolls rules start holding (layout?.map fun _ => stateLayout initialState))
      fun _ => Reaches rules start holding := by
  unfold createTexture
  by_cases hformat : imageFormat desc.format = .undefined
  · simp only [if_pos hformat]
    exact .refuse fun _ h => h
  by_cases hsamples : desc.samples.isPowerOfTwo ∧ desc.samples ≤ 64
  · simp only [if_neg hformat, if_pos hsamples]
    refine .bind (meets_createImage _ desc layout? hlayout) fun id => ?_
    refine .through (fun _ =>
      Enrolls rules start holding (layout?.map fun _ => stateLayout initialState) id)
      (.lift ?_) fun _ => .pure fun _ h => h
    rintro device ⟨h, hnew⟩
    rw [Enrolls, ← Roster.move_enroll]
    refine ⟨meets_transitionImage id .undefined 0 topOfPipe initialState
      (fun _ => Roster.live_enroll _ _ _) (fun _ layout hfollowed => ?_) device h, hnew⟩
    rw [Roster.layout?_enroll, if_pos rfl] at hfollowed
    exact (hlayout layout hfollowed).1.symm
  · simp only [if_neg hformat, if_neg hsamples]
    exact .refuse fun _ h => h

/-- A view that was at the slot before is freed. -/
theorem keeps_createView (resource : ResourceId) (view : ViewDesc) (slot : Slot) :
    (createView resource view slot).Keeps (Reaches rules start holding) := by
  refine .bind .get fun origin => ?_
  cases origin.image? resource with
  | none => exact .refuse _
  | some found =>
    refine .of_meets (.bind (.lift
      (meets_make .createImageView (.createImageView _) .view fun _ => rfl)) fun answer => ?_)
    cases answer with
    | error failure => exact .refuse fun _ h => h.1
    | ok made =>
      refine .get fun known => ?_
      refine .through (fun _ => Reaches rules start { holding with
        waste := (known.views.get? slot).toList.map (Object.mk .view) ++ holding.waste })
        (.lift (.modify ?_)) fun _ => ?_
      · rintro device ⟨rfl, h⟩
        exact h.step (.viewed slot rfl)
      exact .lift (meets_forM holding (fun _ _ => meets_free rfl _) _ _)

/-- Releasing a view takes it off the device and frees it. -/
theorem keeps_releaseView (slot : Slot) :
    (releaseView slot).Keeps (Reaches rules start holding) := by
  refine Act.Meets.get fun origin => ?_
  cases hview : origin.views.get? slot with
  | none => exact .pure fun _ h => h.2
  | some view =>
    refine .through (fun _ => Reaches rules start
      { holding with waste := ⟨.view, view⟩ :: holding.waste }) ?_ fun _ => meets_free rfl _
    rintro device ⟨rfl, h⟩
    exact h.step (.unviewed slot hview)

/-- A command buffer is ended once, and goes on to the queue whatever the answer. -/
theorem state_endCommandBuffer (commandBuffer : Nat) (device : VulkanDevice) :
    ((endCommandBuffer commandBuffer).run device).state =
      VulkanDevice.note { device with native := device.native.consume .endCommandBuffer }
        (.call (.endCommandBuffer commandBuffer
          (device.native.script .endCommandBuffer).head?)) := by
  simp only [endCommandBuffer, onNative, Native.endCommandBuffer, Act.run_bind, Act.run_focus,
    Native.run_attempt]
  cases device.native.failure? .endCommandBuffer <;> rfl

/-- What was recorded is on its way to the queue, under the fence value that was current. -/
theorem reaches_endRecording (h : Reaches rules start holding device)
    (htransit : holding.transit = none) :
    (endRecording.run { device with currentFence := device.currentFence + 1 }).value =
        (device.recording, device.parked) ∧
      Reaches rules start
        { holding with
          transit := some device.recorded
          roster := { holding.roster with fence := holding.roster.fence + 1 } }
        (endRecording.run { device with currentFence := device.currentFence + 1 }).state := by
  simp only [endRecording, Act.run_bind, Act.run_get, Act.run_set]
  refine ⟨rfl, ?_⟩
  cases hrecording : device.recording with
  | none => exact h.step (.turned hrecording htransit)
  | some commandBuffer =>
    have hforM : (some commandBuffer).forM endCommandBuffer = endCommandBuffer commandBuffer := rfl
    rw [hforM, state_endCommandBuffer]
    exact (h.consume .endCommandBuffer).step
      (.ended (.call (.endCommandBuffer commandBuffer _)) hrecording rfl htransit)

/-- The queue takes the work on its way, or fails and leaves it there. -/
theorem meets_queueSubmit (submission : Submission) (fence : Nat)
    (hfence : submission.fence = none) :
    (onNative (Native.queueSubmit submission.commandBuffer fence)).Meets
      (Reaches rules start { holding with
        hand := ⟨.fence, fence⟩ :: holding.hand
        transit := some submission })
      fun answer device =>
        match answer with
        | some _ => Reaches rules start { holding with
            hand := ⟨.fence, fence⟩ :: holding.hand
            transit := some submission } device ∧ ¬rules.tracked
        | none => Reaches rules start { holding with
            transit := none
            roster := { holding.roster with
              accepted := holding.roster.accepted ++ [(submission.fenceValue, fence)] } }
            { device with
              inFlight := device.inFlight ++ [{ submission with fence := some fence }] } := by
  intro device h
  obtain ⟨hvalue, hstate⟩ :=
    Native.outcome_queueSubmit submission.commandBuffer fence device.native
  have hconsumed := h.consume .queueSubmit
  have hreliable := h.failure?_eq_none .queueSubmit
  simp only [onNative, Act.run_focus, hvalue, hstate]
  cases hfailure : device.native.failure? .queueSubmit with
  | some failure =>
    refine ⟨hconsumed.note _ (role_ofTold_of_failure?_some hfailure), fun htracked => ?_⟩
    have hsubmit := rules.tracked_commands htracked .queueSubmit (by decide)
    rw [hreliable hsubmit] at hfailure
    cases hfailure
  | none =>
    have haccepted : Reaches rules start { holding with
        transit := none
        roster := { holding.roster with
          accepted := holding.roster.accepted ++ [(submission.fenceValue, fence)] } }
        { device with
          native := device.native.accept submission.commandBuffer fence
          inFlight := device.inFlight ++ [{ submission with fence := some fence }] } :=
      hconsumed.step (.submitted (.call (.queueSubmit submission.commandBuffer fence
        (device.native.script .queueSubmit).head?)) rfl rfl hfence
        (role_ofTold_of_failure? hfailure))
    have hsignalled := reaches_signal haccepted fence
    by_cases hsignals : device.native.signalsAtOnce = true
    · simp only [if_pos hsignals]
      exact hsignalled
    · simp only [if_neg hsignals]
      exact haccepted

/-- Work that does not reach the queue is freed once the device is idle. -/
theorem meets_abandon (hlost : ¬rules.tracked) (submission : Submission) (fence? : Option Nat)
    (hfence : submission.fence = none) (failure : ResultCode) :
    (abandon { submission with fence := fence? } failure).Meets
      (Reaches rules start { holding with
        hand := fence?.toList.map (Object.mk .fence) ++ holding.hand
        transit := some submission })
      fun _ => Reaches rules start { holding with
        transit := none
        roster := { holding.roster.pass submission.fenceValue with lagging := true } } := by
  refine .after_log (.through (fun _ => Reaches rules start
    { holding with transit := some submission }) ?_ fun _ => ?_)
  · exact fun device h => meets_forM { holding with transit := some submission }
      (fun _ _ => meets_free rfl _) fence? holding.waste device
      (h.step (.discarded (fence?.toList.map (Object.mk .fence)) rfl))
  · refine .through (fun _ device => Reaches rules start
      { holding with transit := some submission } device ∧
        (rules.reliable .deviceWaitIdle → device.native.waiting = [])) ?_ fun _ => ?_
    · refine .bind meets_awaitIdle fun idle => ?_
      cases idle with
      | true => exact .pure fun _ h => h
      | false => exact .log fun _ h => h
    · rintro device ⟨h, hidle⟩
      have hretired := meets_retire
        { holding with
          transit := none
          roster := { holding.roster.pass submission.fenceValue with lagging := true } }
        submission holding.waste (Nat.le_max_right _ _) device (h.step (.abandoned rfl hlost hidle))
      have heq : { submission with fence := none } = submission := by rw [← hfence]
      rwa [← heq] at hretired

/-- A submission on its way has reached the queue, as `reached` says, or was given up. -/
def HandedOver (rules : Rules) (start : Work) (holding : Holding) (submission : Submission)
    (device : VulkanDevice) : Prop :=
  ∃ passed lagging reached, holding.roster.passed ≤ passed ∧
    (reached = [] ∨ ∃ fence, reached = [(submission.fenceValue, fence)]) ∧
    Reaches rules start { holding with
      transit := none
      roster := { holding.roster with
        passed, lagging, accepted := holding.roster.accepted ++ reached } } device

/-- Work that was given up counts as handed over: it was passed without getting to the queue. -/
theorem handedOver_of_abandoned {submission : Submission}
    (h : Reaches rules start { holding with
      transit := none
      roster := { holding.roster.pass submission.fenceValue with lagging := true } } device) :
    HandedOver rules start holding submission device := by
  refine ⟨_, true, [], Nat.le_max_left _ submission.fenceValue, .inl rfl, ?_⟩
  rw [List.append_nil]
  exact h

/-- Work with a fence reaches the queue or is given up. -/
theorem meets_handOver (submission : Submission) (fence : Nat) (wait : Bool)
    (hfence : submission.fence = none) :
    (handOver { submission with fence := some fence } fence wait).Meets
      (Reaches rules start { holding with
        hand := ⟨.fence, fence⟩ :: holding.hand
        transit := some submission })
      fun _ => HandedOver rules start holding submission := by
  refine .bind (meets_queueSubmit submission fence hfence) fun answer => ?_
  cases answer with
  | some failure =>
    rintro device ⟨h, hlost⟩
    exact handedOver_of_abandoned
      (meets_abandon hlost submission (some fence) hfence failure device h)
  | none =>
    refine .through (fun _ => Reaches rules start { holding with
      transit := none
      roster := { holding.roster with
        accepted := holding.roster.accepted ++ [(submission.fenceValue, fence)] } })
      (.modify fun _ h => h) fun _ => ?_
    have hdone : ∀ device, Reaches rules start { holding with
        transit := none
        roster := { holding.roster with
          accepted := holding.roster.accepted ++ [(submission.fenceValue, fence)] } } device →
        HandedOver rules start holding submission device := fun device h =>
      ⟨_, _, _, Nat.le_refl _, .inr ⟨fence, rfl⟩, h⟩
    cases wait with
    | true => exact fun device h => hdone _ (meets_awaitFence fence device h)
    | false => exact .pure hdone

/-- Work that was ended gets a fence and reaches the queue, or is given up. -/
theorem meets_submitEnded (holding : Holding) (submission : Submission) (wait : Bool)
    (hfence : submission.fence = none) :
    (submitEnded submission.fenceValue (submission.commandBuffer, submission.parked) wait).Meets
      (Reaches rules start { holding with transit := some submission })
      fun _ => HandedOver rules start holding submission := by
  refine .bind (meets_make .createFence .createFence .fence fun _ => rfl) fun answer => ?_
  cases answer with
  | error failure =>
    rintro device ⟨h, hfailed⟩
    have hlost (htracked : rules.tracked) : False :=
      hfailed (rules.tracked_commands htracked .createFence (by decide))
    exact handedOver_of_abandoned (meets_abandon hlost submission none hfence failure device h)
  | ok fence => exact meets_handOver submission fence wait hfence

/-- What was recorded is submitted under the fence value that was current, or given up. -/
theorem meets_submit (wait : Bool) (htransit : holding.transit = none) :
    (submit wait).Meets (Reaches rules start holding) fun value device =>
      value = holding.roster.fence ∧ ∃ roster : Roster, holding.roster.Lapses roster ∧
        roster.fence = holding.roster.fence + 1 ∧
        (roster.accepted = holding.roster.accepted ∨ ∃ fence,
          roster.accepted = holding.roster.accepted ++ [(holding.roster.fence, fence)]) ∧
        Reaches rules start { holding with roster } device ∧
        (rules.reliable .getFenceStatus → device.FrontWaits) := by
  obtain ⟨hand, waste, transit, roster⟩ := holding
  cases htransit
  intro device h
  obtain ⟨hvalue, hended⟩ := reaches_endRecording h rfl
  simp only [submit, Act.run_bind, Act.run_get, Act.run_set, hvalue]
  obtain ⟨passed, lagging, reached, hpassed, hreached, hhanded⟩ := meets_submitEnded
    ⟨hand, waste, none, { roster with fence := roster.fence + 1 }⟩ device.recorded wait rfl _ hended
  obtain ⟨polled, hpolled, hreaches, hfront⟩ := meets_pollCompleted _ hhanded
  refine ⟨h.validNow.fence.symm, { roster with
    fence := roster.fence + 1, passed := polled, lagging, accepted := roster.accepted ++ reached },
    ⟨rfl, Nat.le_succ _, Nat.le_trans hpassed hpolled⟩, rfl, ?_, hreaches, hfront⟩
  rcases hreached with rfl | ⟨fence, rfl⟩
  · exact .inl (List.append_nil _)
  · exact .inr ⟨fence, by rw [h.validNow.fence]; rfl⟩

/-- What is answered has finished. -/
theorem meets_pollFence :
    pollFence.Meets (Reaches rules start holding) fun value device =>
      value = device.completedFence ∧ ∃ passed, holding.roster.passed ≤ passed ∧ value ≤ passed ∧
        Reaches rules start { holding with roster := { holding.roster with passed } } device ∧
        (rules.reliable .getFenceStatus → device.FrontWaits) := by
  refine .bind meets_pollCompleted fun _ => ?_
  rintro device ⟨passed, hpassed, h, hfront⟩
  exact ⟨rfl, passed, hpassed, h.validNow.completed, h, hfront⟩

/-- All submitted work has passed. -/
theorem meets_waitIdle (htransit : holding.transit = none) :
    waitIdle.Meets (Reaches rules start holding) fun _ device =>
      ∃ roster : Roster, holding.roster.Lapses roster ∧ roster.fence = holding.roster.fence ∧
        roster.accepted = holding.roster.accepted ∧ roster.fence ≤ roster.passed + 1 ∧
        Reaches rules start { holding with roster } device ∧
        (rules.reliable .getFenceStatus → device.FrontWaits) := by
  refine .bind meets_awaitIdle fun _ => ?_
  rintro device ⟨h, hidle⟩
  obtain ⟨passed, hpassed, hreaches, hfront⟩ :=
    meets_pollCompleted device (h.step (.passed htransit hidle))
  have hmax : max holding.roster.passed (holding.roster.fence - 1) ≤ passed := hpassed
  refine ⟨{ holding.roster with passed, lagging := true },
    ⟨rfl, Nat.le_refl _, Nat.le_trans (Nat.le_max_left _ _) hmax⟩, rfl, rfl, ?_, hreaches, hfront⟩
  have hlast := Nat.le_trans (Nat.le_max_right _ _) hmax
  change holding.roster.fence ≤ passed + 1
  omega

/-- A resource is freed, or parked if recorded commands refer to it. -/
theorem meets_destroyResource (id : ResourceId) (htransit : holding.transit = none)
    (hsettled : rules.careful → holding.roster.Settled id) :
    (destroyResource id).Meets (Reaches rules start holding) fun _ =>
      Reaches rules start { holding with roster := holding.roster.expel id } := by
  refine .get fun origin => ?_
  cases hfound : origin.resources.get? id with
  | none =>
    refine .log ?_
    rintro device ⟨rfl, h⟩
    rw [Roster.expel_eq_self]
    · exact h
    · intro tenure htenure
      constructor
      · refine Option.eq_none_iff_forall_ne_some.mpr fun layout hlayout => ?_
        have hfollowed : holding.roster.layout? id = some layout := by
          rw [Roster.layout?, htenure]
          exact hlayout
        obtain ⟨-, _, _, _, himage⟩ := h.validNow.imaged id layout hfollowed
        rw [hfound] at himage
        cases himage
      · by_contra hgone
        obtain ⟨resource, hresource⟩ :=
          (h.validNow.listed id).mpr ⟨tenure, htenure, Bool.eq_false_iff.mpr hgone⟩
        rw [hfound] at hresource
        cases hresource
  | some resource =>
    rintro device ⟨rfl, h⟩
    simp only [Act.run_bind, Act.run_set]
    by_cases hreferenced : id ∈ device.referenced
    · simp only [if_pos hreferenced]
      exact h.step (.parked hfound hreferenced htransit hsettled)
    · simp only [if_neg hreferenced]
      exact meets_destroyNative { holding with roster := holding.roster.expel id } resource
        holding.waste _ (h.step (.removed hfound hreferenced htransit hsettled))

/-- Submissions are taken out of the queue one after the other. -/
theorem reaches_popAll (submissions : List Submission) (holding : Holding)
    (h : Reaches rules start holding { device with inFlight := submissions })
    (hidle : rules.reliable .deviceWaitIdle → device.native.waiting = []) :
    ∃ passed, (∀ submission ∈ submissions, submission.fenceValue ≤ passed) ∧
      holding.roster.passed ≤ passed ∧
      Reaches rules start { holding with
        waste := submissions.flatMap Submission.objects ++ holding.waste
        roster := { holding.roster with passed } } { device with inFlight := [] } := by
  induction submissions generalizing holding with
  | nil => exact ⟨_, fun _ hnone => (nomatch hnone), Nat.le_refl _, h⟩
  | cons submission rest ih =>
    obtain ⟨passed, hrest, hpassed, hreaches⟩ := ih _ (h.step (.popped rfl (.inr hidle)))
    have hmax : max holding.roster.passed submission.fenceValue ≤ passed := hpassed
    refine ⟨passed, List.forall_mem_cons.mpr ⟨Nat.le_trans (Nat.le_max_right _ _) hmax, hrest⟩,
      Nat.le_trans (Nat.le_max_left _ _) hmax, hreaches.step (.sorted ?_)⟩
    rw [List.flatMap_cons, List.append_assoc]
    exact List.perm_append_comm_assoc _ _ _

/-- A device that is being closed records nothing and frees what is in `waste`. What it has left
are these submissions, parked resources, views and resources. -/
structure Closing (rules : Rules) (start : Work) (pool : Nat) (waste : List Object)
    (inFlight : List Submission) (parked : List Resource) (views : Table Slot Nat)
    (resources : Table ResourceId Resource) (roster : Roster) (device : VulkanDevice) : Prop where
  reaches : Reaches rules start { hand := [⟨.pool, pool⟩], waste, roster } device
  recording : device.recording = none
  inFlight : device.inFlight = inFlight
  parked : device.parked = parked
  views : device.views = views
  resources : device.resources = resources

namespace Closing

variable {pool : Nat} {waste : List Object} {inFlight : List Submission} {parked : List Resource}
  {views : Table Slot Nat} {resources : Table ResourceId Resource} {roster : Roster}

/-- Freeing changes nothing else that matters here. -/
theorem meets_of_frees {act : Act VulkanDevice Unit}
    (hfrees : act.Meets
      (Reaches rules start { hand := [⟨.pool, pool⟩], waste := waste ++ [], roster })
      fun _ => Reaches rules start { hand := [⟨.pool, pool⟩], waste := [], roster })
    (hkeeps : ∀ {P : VulkanDevice → Prop}, (∀ device native, P device → P { device with native }) →
      (∀ device completedFence, P device → P { device with completedFence }) → act.Keeps P) :
    act.Meets (Closing rules start pool waste inFlight parked views resources roster)
      fun _ => Closing rules start pool [] inFlight parked views resources roster := fun device h =>
  { reaches := hfrees device (by rw [List.append_nil]; exact h.reaches)
    recording := hkeeps (P := fun device => device.recording = none)
      (fun _ _ h => h) (fun _ _ h => h) device h.recording
    inFlight := hkeeps (P := fun device => device.inFlight = inFlight)
      (fun _ _ h => h) (fun _ _ h => h) device h.inFlight
    parked := hkeeps (P := fun device => device.parked = parked)
      (fun _ _ h => h) (fun _ _ h => h) device h.parked
    views := hkeeps (P := fun device => device.views = views)
      (fun _ _ h => h) (fun _ _ h => h) device h.views
    resources := hkeeps (P := fun device => device.resources = resources)
      (fun _ _ h => h) (fun _ _ h => h) device h.resources }

/-- All submissions leave the queue for the waste, finished if the wait can be relied on. -/
theorem popAll (h : Closing rules start pool [] inFlight parked views resources roster device)
    (hidle : rules.reliable .deviceWaitIdle → device.native.waiting = []) :
    ∃ roster : Roster, (∀ submission ∈ inFlight, submission.fenceValue ≤ roster.passed) ∧
      Closing rules start pool (inFlight.flatMap Submission.objects) [] parked views resources
        roster { device with inFlight := [] } := by
  obtain ⟨h, hrecording, rfl, hparked, hviews, hresources⟩ := h
  obtain ⟨passed, hpassed, -, hreaches⟩ := reaches_popAll device.inFlight _ h hidle
  rw [List.append_nil] at hreaches
  exact ⟨_, hpassed, hreaches, hrecording, rfl, hparked, hviews, hresources⟩

/-- Parked resources go into the waste. -/
theorem unpark (h : Closing rules start pool [] inFlight parked views resources roster device) :
    Closing rules start pool (parked.flatMap Resource.objects) inFlight [] views resources roster
      { device with parked := [] } := by
  obtain ⟨h, hrecording, hinFlight, rfl, hviews, hresources⟩ := h
  have hunparked := h.step (.unparked hrecording)
  rw [List.append_nil] at hunparked
  exact ⟨hunparked, hrecording, hinFlight, rfl, hviews, hresources⟩

/-- Views go into the waste. -/
theorem blind (h : Closing rules start pool [] inFlight parked views resources roster device) :
    Closing rules start pool (views.values.map (Object.mk .view)) inFlight parked {} resources
      roster { device with views := {} } := by
  obtain ⟨h, hrecording, hinFlight, hparked, rfl, hresources⟩ := h
  have hblinded := h.step .blinded
  rw [List.append_nil, Table.gather, ← List.map_eq_flatMap] at hblinded
  exact ⟨hblinded, hrecording, hinFlight, hparked, rfl, hresources⟩

/-- Once nothing is in flight the resources go into the waste. -/
theorem vacate (h : Closing rules start pool [] [] parked views resources roster device) :
    ∃ roster, Closing rules start pool (resources.values.flatMap Resource.objects) [] parked views
      {} roster { device with resources := {} } := by
  obtain ⟨h, hrecording, hinFlight, hparked, hviews, rfl⟩ := h
  have hvacated := h.step (.vacated hrecording hinFlight rfl)
  rw [List.append_nil] at hvacated
  exact ⟨_, hvacated, hrecording, hinFlight, hparked, hviews, rfl⟩

end Closing

/-- Everything that the device owns is freed. -/
theorem meets_close (hlost : ¬rules.tracked) (pool : Nat) (roster : Roster) :
    close.Meets
      (fun device => Reaches rules start { hand := [⟨.pool, pool⟩], roster } device ∧
        device.pool = pool)
      fun _ device => ∃ roster, Reaches rules start { hand := [], roster } device ∧
        device.objects = [] := by
  refine .through (fun _ device =>
    (Reaches rules start { hand := [⟨.pool, pool⟩], roster } device ∧
      (rules.reliable .deviceWaitIdle → device.native.waiting = [])) ∧ device.pool = pool)
    (.keeping meets_awaitIdle (keeps_awaitIdle fun _ _ h => h)) fun _ => .get fun origin => ?_
  refine .knowing (fun _ h => (h.1 ▸ h.2.2 : origin.pool = pool)) ?_
  rintro rfl
  -- the command buffer being recorded is freed
  refine .through (fun _ device => device = { origin with recording := none } ∧
    Reaches rules start { hand := [⟨.pool, origin.pool⟩], roster } origin ∧
      (rules.reliable .deviceWaitIdle → origin.native.waiting = [])) ?_ fun _ => ?_
  · rintro device ⟨rfl, ⟨h, hidle⟩, -⟩
    exact ⟨rfl, h, hidle⟩
  refine .through (fun _ device => Closing rules start origin.pool [] origin.inFlight origin.parked
    origin.views origin.resources roster device ∧
      (rules.reliable .deviceWaitIdle → device.native.waiting = [])) ?_ fun _ => ?_
  · rintro device ⟨rfl, h, hidle⟩
    cases hrecording : origin.recording with
    | none =>
      have hsame : { origin with recording := none } = origin := by rw [← hrecording]
      rw [hsame]
      exact ⟨⟨h, hrecording, rfl, rfl, rfl, rfl⟩, hidle⟩
    | some commandBuffer =>
      have hcancelled := h.step
        (.cancelled (.call (.freeCommandBuffer commandBuffer)) hrecording hlost rfl)
      exact ⟨⟨hcancelled, rfl, rfl, rfl, rfl, rfl⟩, hidle⟩
  -- submissions, parked resources, views and resources go into the waste in turn and are freed
  refine .through (fun _ device => ∃ roster : Roster,
    (∀ submission ∈ origin.inFlight, submission.fenceValue ≤ roster.passed) ∧
      Closing rules start origin.pool (origin.inFlight.flatMap Submission.objects) [] origin.parked
        origin.views origin.resources roster device) (.modify ?_) fun _ => ?_
  · rintro device ⟨h, hidle⟩
    exact h.popAll hidle
  refine .through (fun _ device => ∃ roster, Closing rules start origin.pool [] [] origin.parked
    origin.views origin.resources roster device) (.of_forall fun roster => ?_) fun _ => ?_
  · refine .knowing (fun _ h => h.1) fun hpassed => ?_
    refine .mono (Closing.meets_of_frees
      (meets_retireEach { hand := [⟨.pool, origin.pool⟩], roster } _ [] hpassed)
      fun hnative hcompleted => keeps_retireEach hnative hcompleted _) ?_ fun _ _ h => h
    exact fun _ h => h.2
  refine .through (fun _ device => ∃ roster, Closing rules start origin.pool
    (origin.parked.flatMap Resource.objects) [] [] origin.views origin.resources roster device)
    (.modify ?_) fun _ => ?_
  · rintro device ⟨roster, h⟩
    exact ⟨roster, h.unpark⟩
  refine .through (fun _ device => ∃ roster, Closing rules start origin.pool [] [] [] origin.views
    origin.resources roster device) (.of_forall fun roster => ?_) fun _ => ?_
  · exact Closing.meets_of_frees
      (meets_destroyEach { hand := [⟨.pool, origin.pool⟩], roster } _ [])
      fun hnative _ => keeps_destroyEach hnative _
  refine .through (fun _ device => ∃ roster, Closing rules start origin.pool
    (origin.views.values.map (Object.mk .view)) [] [] {} origin.resources roster device)
    (.modify ?_) fun _ => ?_
  · rintro device ⟨roster, h⟩
    exact ⟨roster, h.blind⟩
  refine .through (fun _ device => ∃ roster, Closing rules start origin.pool [] [] [] {}
    origin.resources roster device) (.of_forall fun roster => ?_) fun _ => ?_
  · exact Closing.meets_of_frees
      (meets_destroyViews { hand := [⟨.pool, origin.pool⟩], roster } _ [])
      fun hnative _ => keeps_destroyViews hnative _
  refine .through (fun _ device => ∃ roster, Closing rules start origin.pool [] [] [] {}
    origin.resources roster device) ?_ fun _ => ?_
  · unfold warnLive
    split
    · exact .pure fun _ h => h
    · exact .log fun _ h => h
  refine .through (fun _ device => ∃ roster, Closing rules start origin.pool
    (origin.resources.values.flatMap Resource.objects) [] [] {} {} roster device) (.modify ?_)
    fun _ => ?_
  · rintro device ⟨roster, h⟩
    exact h.vacate
  refine .through (fun _ device => ∃ roster, Closing rules start origin.pool [] [] [] {} {} roster
    device) (.of_forall fun roster => ?_) fun _ => ?_
  · exact Closing.meets_of_frees
      (meets_destroyEach { hand := [⟨.pool, origin.pool⟩], roster } _ [])
      fun hnative _ => keeps_destroyEach hnative _
  rintro device ⟨roster, h, hrecording, hinFlight, hparked, hviews, hresources⟩
  have hempty : device.objects = [] := by
    simp [objects, hrecording, hinFlight, hparked, hviews, hresources, Table.gather, Table.values]
  have hfreed :=
    meets_giveUp { hand := [], roster } (.call (.destroyCommandPool origin.pool)) rfl device h
  exact ⟨roster, hfreed, hempty⟩

end VulkanDevice

end Texel.Vulkan
