import Texel.Proofs.Vulkan.History

namespace Texel.Vulkan

namespace Native

/-- No call is told to fail, submissions signal at once, and every request for memory is granted
that asks for any; an answer that is told about memory is never to grant it. -/
structure Obliges (native : Native) : Prop where
  signalsAtOnce : native.signalsAtOnce = true
  succeeds : ∀ operation, ∀ answer ∈ native.script operation, answer.failure? = none
  grants : ∀ request, request ≠ .buffer 0 → native.refuses request = none
  imageMemory : native.script .imageMemory = []
  bufferMemory : native.script .bufferMemory = []
  hostMapping : native.script .hostMapping = []

namespace Obliges

variable {native : Native}

theorem consume (h : native.Obliges) (operation : Operation) :
    (native.consume operation).Obliges where
  signalsAtOnce := h.signalsAtOnce
  succeeds := fun other answer hanswer =>
    h.succeeds other answer (script_consume_subset native operation other hanswer)
  grants := h.grants
  imageMemory := List.subset_nil.mp (h.imageMemory ▸ script_consume_subset native operation _)
  bufferMemory := List.subset_nil.mp (h.bufferMemory ▸ script_consume_subset native operation _)
  hostMapping := List.subset_nil.mp (h.hostMapping ▸ script_consume_subset native operation _)

theorem note (h : native.Obliges) (event : Event) : (native.note event).Obliges :=
  { h with }

theorem advance (h : native.Obliges) (kind : ObjectKind) : (native.advance kind).Obliges := by
  cases kind <;> exact { h with }

/-- No call fails on an implementation that obliges. -/
theorem failure?_eq_none (h : native.Obliges) (operation : Operation) :
    native.failure? operation = none := by
  rw [failure?]
  cases hhead : (native.script operation).head? with
  | none => rfl
  | some answer => exact h.succeeds operation answer (List.mem_of_mem_head? hhead)

/-- An implementation obliges when a fence has signalled. -/
theorem signal (h : native.Obliges) (fence : Nat) :
    ((Native.signal fence).run native).state.Obliges := by
  rw [run_signal]
  split
  · exact { h with }
  · exact h

end Obliges

theorem keeps_record (event : Event) : (record event).Keeps Obliges :=
  fun _ h => h.note event

/-- A call that can fail succeeds on an implementation that obliges. -/
theorem meets_attempt_obliging (operation : Operation) (call : Option ResultCode → Call) :
    (attempt operation call).Meets Obliges
      fun failure native => failure = none ∧ native.Obliges := by
  intro native h
  rw [run_attempt]
  exact ⟨h.failure?_eq_none operation, (h.consume operation).note _⟩

theorem keeps_attempt_obliging (operation : Operation) (call : Option ResultCode → Call) :
    (attempt operation call).Keeps Obliges :=
  .mono (meets_attempt_obliging operation call) (fun _ h => h) fun _ _ h => h.2

/-- A call that makes an object succeeds on an implementation that obliges, with a handle of it. -/
theorem meets_make_obliging (operation : Operation) (call : Except ResultCode Nat → Call)
    (kind : ObjectKind) :
    (make operation call fun native => (native.last kind + 1, native.advance kind)).Meets Obliges
      fun answer native => (∃ handle, answer = .ok handle) ∧ native.Obliges := by
  intro native h
  rw [run_make, h.failure?_eq_none operation]
  exact ⟨⟨_, rfl⟩, ((h.consume operation).advance kind).note _⟩

/-- Memory is mapped on an implementation that obliges. -/
theorem meets_isMapped_obliging :
    isMapped.Meets Obliges fun mapped native => mapped = true ∧ native.Obliges := by
  intro native h
  simp only [isMapped, Act.run_bind, run_nextAnswer, Act.run_pure, h.hostMapping]
  exact ⟨rfl, h.consume .hostMapping⟩

/-- Memory is granted to a request that asks for any. -/
theorem meets_allocate_obliging {operation : Operation} {request : MemoryRequest}
    (hoperation : ∀ native : Native, native.Obliges → native.script operation = [])
    (hrequest : request ≠ .buffer 0) :
    (allocate operation request).Meets Obliges
      fun answer native => (∃ memory, answer = .ok memory) ∧ native.Obliges := by
  intro native h
  have hconsumed := h.consume operation
  have hgranted : (native.consume operation).allocatorRefusal? none request = none := by
    simp [allocatorRefusal?, hrequest, hconsumed.grants request hrequest]
  simp only [allocate, Act.run_bind, run_nextAnswer, hoperation native h, Act.run_get,
    List.head?_nil, hgranted]
  exact ⟨⟨_, rfl⟩, { hconsumed with }⟩

/-- The fence of submitted work has signalled when the call returns. -/
theorem meets_queueSubmit_obliging (commandBuffer : Option Nat) (fence : Nat) :
    (queueSubmit commandBuffer fence).Meets Obliges fun failure native =>
      failure = none ∧ native.Obliges ∧ fence ∈ native.signalled := by
  intro native h
  obtain ⟨hvalue, hstate⟩ := outcome_queueSubmit commandBuffer fence native
  rw [h.failure?_eq_none .queueSubmit] at hvalue hstate
  simp only [h.signalsAtOnce, if_true] at hstate
  have haccepted : (native.accept commandBuffer fence).Obliges := { h.consume .queueSubmit with }
  have hwaiting : fence ∈ (native.accept commandBuffer fence).waiting :=
    List.mem_append_right _ (List.mem_singleton_self fence)
  rw [hvalue, hstate]
  refine ⟨rfl, haccepted.signal fence, ?_⟩
  rw [run_signal, if_pos hwaiting]
  exact List.mem_append_right _ (List.mem_singleton_self fence)

/-- Fences that have signalled stay so when another does. -/
theorem signalled_subset_signal (fence : Nat) (native : Native) :
    native.signalled ⊆ ((signal fence).run native).state.signalled := by
  rw [run_signal]
  split
  · exact List.subset_append_left ..
  · exact List.Subset.refl _

/-- Waiting for a fence that has signalled succeeds. -/
theorem meets_waitForFence_obliging (fence timeout : Nat) :
    (waitForFence fence timeout).Meets
      (fun native => native.Obliges ∧ fence ∈ native.signalled)
      fun failure native => failure = none ∧ native.Obliges ∧ fence ∈ native.signalled := by
  rintro native ⟨h, hfence⟩
  have hconsumed := (h.consume .waitForFences).note
    (.call (.waitForFence fence timeout (native.script .waitForFences).head?))
  simp only [waitForFence, Act.run_bind, run_attempt, h.failure?_eq_none, Act.run_pure]
  exact ⟨trivial, hconsumed.signal fence, signalled_subset_signal fence _ hfence⟩

theorem keeps_signalEach (fences : List Nat) : (signalEach fences).Keeps Obliges := by
  induction fences with
  | nil => exact .pure ()
  | cons fence rest ih => exact .bind (fun native h => h.signal fence) fun _ => ih

theorem keeps_deviceWaitIdle : deviceWaitIdle.Keeps Obliges := by
  refine .bind (keeps_attempt_obliging _ _) fun failure => ?_
  cases failure with
  | none => exact .bind (.bind .get fun native => keeps_signalEach _) fun _ => .pure _
  | some failure => exact .pure _

/-- A fence that has signalled is seen to have. -/
theorem meets_isSignalled_obliging (fence : Nat) :
    (isSignalled fence).Meets (fun native => native.Obliges ∧ fence ∈ native.signalled)
      fun signalled native => signalled = true ∧ native.Obliges := by
  rintro native ⟨h, hfence⟩
  have hconsumed := h.consume .getFenceStatus
  simp only [isSignalled, Act.run_bind, run_nextAnswer]
  cases hhead : (native.script .getFenceStatus).head? with
  | none => exact ⟨decide_eq_true hfence, hconsumed⟩
  | some answer =>
    simp only [h.succeeds .getFenceStatus answer (List.mem_of_mem_head? hhead), Act.run_bind,
      Act.run_pure]
    exact ⟨trivial, hconsumed.signal fence⟩

end Native

end Texel.Vulkan
