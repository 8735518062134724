import Texel.Proofs.Context.Steady

namespace Texel

open SimulatedDevice

namespace Context

/-- The context with more commands recorded. -/
def recorded (context : Context SimulatedDevice) (commands : List Simulated.Command) :
    Context SimulatedDevice :=
  { context with device := context.device.recorded commands }

/-- The context after a submission, with nothing reaped yet. -/
def submitted (context : Context SimulatedDevice) (wait : Bool) : Context SimulatedDevice :=
  { context with
    device := context.device.submitted wait
    stream := context.stream.track context.device.currentFence }

/-- The context with the stream buffer's space back that completed work has read. -/
def reclaimed (context : Context SimulatedDevice) : Context SimulatedDevice :=
  { context with stream := context.stream.reclaim context.device.completedFence }

/-- The context with other positions in the ring of its stream buffer. -/
def withRing (context : Context SimulatedDevice) (ring : Ring) : Context SimulatedDevice :=
  { context with stream := { context.stream with ring } }

/-- The context with other bytes in its stream buffer. -/
def withMemory (context : Context SimulatedDevice) (memory : Memory) : Context SimulatedDevice :=
  { context with stream := { context.stream with memory } }

/-- One small change of a context, as far as uploads are concerned: something is recorded, submitted
or completed, or the stream buffer reserves, takes what was written or gets space back. A
reservation may be written only where it lies. -/
inductive Change : Context SimulatedDevice → Context SimulatedDevice → Prop where
  | steady {context next : Context SimulatedDevice} (h : Steady context next) : Change context next
  | record (context : Context SimulatedDevice) (commands : List Simulated.Command) :
    Change context (context.recorded commands)
  | submit (context : Context SimulatedDevice) (wait : Bool) :
    Change context (context.submitted wait)
  | reclaim (context : Context SimulatedDevice) : Change context context.reclaimed
  | complete (context : Context SimulatedDevice) :
    Change context { context with device := context.device.completeAll }
  | reserve {context : Context SimulatedDevice} {ring : Ring} {size : Nat}
    (h : context.stream.ring.reserve size context.config.placementAlignment = .granted ring) :
    Change context (context.withRing ring)
  | write {context : Context SimulatedDevice} {memory : Memory} {size : Nat}
    (hreserved : context.stream.ring.reserved = some size)
    (hsize : memory.size = context.stream.memory.size)
    (houtside : ∀ index < memory.size,
      index < context.stream.ring.cursor ∨ context.stream.ring.cursor + size ≤ index →
      memory.byteAt index = context.stream.memory.byteAt index) :
    Change context (context.withMemory memory)
  | commit {context : Context SimulatedDevice} {ring : Ring} {size : Nat}
    (h : context.stream.ring.commit? size = some ring) : Change context (context.withRing ring)

/-- A chain of changes. Every operation is one, so that what each small change preserves is
preserved by all operations. -/
inductive Evolves (origin : Context SimulatedDevice) : Context SimulatedDevice → Prop where
  | refl : Evolves origin origin
  | step {context next : Context SimulatedDevice} (h : Evolves origin context)
    (change : Change context next) : Evolves origin next

/-- One chain of changes after another is a chain of changes. -/
theorem Evolves.trans {first second third : Context SimulatedDevice} (h : Evolves first second)
    (h' : Evolves second third) : Evolves first third := by
  induction h' with
  | refl => exact h
  | step _ change ih => exact ih.step change

/-- A context that stays steady for uploads has not changed as far as they are concerned. -/
theorem Evolves.of_steady {origin context : Context SimulatedDevice}
    (h : Steady origin context) : Evolves origin context :=
  .step .refl (.steady h)

/-- A condition that outlasts each change which leaves the write side of the stream buffer alone. -/
structure Lasts (P : Context SimulatedDevice → Prop) : Prop where
  steady : ∀ {context next}, P context → Steady context next → P next
  record : ∀ {context} commands, P context → P (context.recorded commands)
  submit : ∀ {context} wait, P context → P (context.submitted wait)
  reclaim : ∀ {context}, P context → P context.reclaimed
  complete : ∀ {context}, P context → P { context with device := context.device.completeAll }

/-- Going on from where a chain of changes leads lengthens the chain. -/
theorem lasts_evolves (origin : Context SimulatedDevice) : Lasts (Evolves origin) where
  steady h hsteady := h.step (.steady hsteady)
  record commands h := h.step (.record _ commands)
  submit wait h := h.step (.submit _ wait)
  reclaim h := h.step (.reclaim _)
  complete h := h.step (.complete _)

/-- An operation that is steady from every state keeps what lasts. -/
theorem Lasts.keeps_of_steady {P : Context SimulatedDevice → Prop} {α : Type} (h : Lasts P)
    {act : Act (Context SimulatedDevice) α} (hact : ∀ context, act.Keeps (Steady context)) :
    act.Keeps P :=
  fun context hcontext => h.steady hcontext (hact context context (.refl context))

variable {origin : Context SimulatedDevice}

/-- A report changes nothing. -/
theorem state_reportReaped (count completed : Nat) (context : Context SimulatedDevice) :
    ((reportReaped count completed : Act (Context SimulatedDevice) Unit).run context).state =
      context := by
  unfold reportReaped
  split <;> rfl

/-- A reap frees the items that are due and gets back what completed work has read of the ring. -/
theorem state_reapCompleted (context : Context SimulatedDevice) :
    ((reapCompleted : Act (Context SimulatedDevice) Nat).run context).state =
      ((releaseAll (context.retirement.reap context.device.completedFence).1).run
        { context.reclaimed with
          retirement := (context.retirement.reap context.device.completedFence).2 }).state := by
  exact state_reportReaped _ _ _

/-- A reap completes nothing. -/
theorem completedFence_reapCompleted (context : Context SimulatedDevice) :
    ((reapCompleted : Act (Context SimulatedDevice) Nat).run context).state.device.completedFence =
      context.device.completedFence := by
  rw [state_reapCompleted]
  exact (steady_releaseAll _ _ ⟨.refl _, rfl, rfl⟩).1.completedFence

/-- A submission is followed by a reap. -/
theorem state_submit (context : Context SimulatedDevice) (wait : Bool) :
    ((submit wait : Act (Context SimulatedDevice) Nat).run context).state =
      ((reapCompleted : Act (Context SimulatedDevice) Nat).run (context.submitted wait)).state :=
  rfl

/-- What every small change preserves is preserved by a reap. -/
theorem Lasts.keeps_reapCompleted {P : Context SimulatedDevice → Prop} (h : Lasts P) :
    (reapCompleted : Act (Context SimulatedDevice) Nat).Keeps P := by
  intro context hcontext
  rw [state_reapCompleted]
  refine h.steady (h.reclaim hcontext) ?_
  exact steady_releaseAll _ _ ⟨.refl _, rfl, rfl⟩

/-- What every small change preserves is preserved by a submission. -/
theorem Lasts.keeps_submit {P : Context SimulatedDevice → Prop} (h : Lasts P) (wait : Bool) :
    (Context.submit wait : Act (Context SimulatedDevice) Nat).Keeps P := by
  intro context hcontext
  rw [state_submit]
  exact h.keeps_reapCompleted (context.submitted wait) (h.submit wait hcontext)

/-- The stream buffer stays the same buffer, what was recorded stays recorded for the same
submission, and fences do not go back. -/
structure Continues (origin context : Context SimulatedDevice) : Prop where
  dated : origin.device.Dated → context.device.Dated
  config : context.config = origin.config
  resource : context.stream.resource = origin.stream.resource
  capacity : context.stream.memory.size = origin.stream.memory.size
  commands : ∃ later, context.device.commands = origin.device.commands ++ later
  fenceOf : ∀ index < origin.device.commands.size,
    context.device.fenceOf index = origin.device.fenceOf index
  currentFence : origin.device.currentFence ≤ context.device.currentFence
  completedFence : origin.device.Dated →
    origin.device.completedFence ≤ context.device.completedFence
  nextId : origin.device.nextId ≤ context.device.nextId

/-- A context continues itself. -/
theorem Continues.refl (context : Context SimulatedDevice) : Continues context context where
  dated h := h
  config := rfl
  resource := rfl
  capacity := rfl
  commands := ⟨#[], by simp⟩
  fenceOf _ _ := rfl
  currentFence := Nat.le_refl _
  completedFence _ := Nat.le_refl _
  nextId := Nat.le_refl _

/-- What continues a continuation continues the start. -/
theorem Continues.trans {first second third : Context SimulatedDevice} (h : Continues first second)
    (h' : Continues second third) : Continues first third where
  dated hdated := h'.dated (h.dated hdated)
  config := h'.config.trans h.config
  resource := h'.resource.trans h.resource
  capacity := h'.capacity.trans h.capacity
  commands := by
    obtain ⟨later, hlater⟩ := h.commands
    obtain ⟨last, hlast⟩ := h'.commands
    exact ⟨later ++ last, by rw [hlast, hlater, Array.append_assoc]⟩
  fenceOf index hindex := by
    obtain ⟨later, hlater⟩ := h.commands
    rw [h'.fenceOf index (by rw [hlater, Array.size_append]; omega), h.fenceOf index hindex]
  currentFence := Nat.le_trans h.currentFence h'.currentFence
  completedFence hdated :=
    Nat.le_trans (h.completedFence hdated) (h'.completedFence (h.dated hdated))
  nextId := Nat.le_trans h.nextId h'.nextId

/-- The stream buffer may change behind its resource and its size. -/
theorem Continues.of_stream {context : Context SimulatedDevice} {stream : StreamBuffer}
    (hresource : stream.resource = context.stream.resource)
    (hcapacity : stream.memory.size = context.stream.memory.size) :
    Continues context { context with stream } :=
  ⟨fun h => h, rfl, hresource, hcapacity, ⟨#[], Array.append_empty.symm⟩, fun _ _ => rfl,
    Nat.le_refl _, fun _ => Nat.le_refl _, Nat.le_refl _⟩

/-- Every small change continues the context. -/
theorem continues_change {context next : Context SimulatedDevice} (change : Change context next) :
    Continues context next := by
  cases change with
  | steady h =>
    refine ⟨h.timeline.dated, h.config, by rw [h.stream], by rw [h.stream], ⟨#[], ?_⟩, ?_, ?_, ?_,
      h.timeline.nextId⟩
    · rw [h.timeline.commands, Array.append_empty]
    · intro index _
      rw [h.timeline.fenceOf]
    · exact Nat.le_of_eq h.timeline.currentFence.symm
    · exact fun _ => Nat.le_of_eq h.timeline.completedFence.symm
  | record commands =>
    exact ⟨fun hdated => dated_recorded hdated commands, rfl, rfl, rfl, ⟨commands.toArray, rfl⟩,
      fun _ _ => rfl, Nat.le_refl _, fun _ => Nat.le_refl _, Nat.le_refl _⟩
  | submit wait =>
    exact ⟨fun hdated => dated_submitted hdated wait, rfl, rfl, rfl, ⟨#[], Array.append_empty.symm⟩,
      fun _ hindex => fenceOf_submitted wait hindex, Nat.le_succ _,
      fun hdated => completedFence_le_submitted hdated wait, Nat.le_refl _⟩
  | complete =>
    exact ⟨dated_completeAll, rfl, rfl, rfl, ⟨#[], Array.append_empty.symm⟩, fun _ _ => rfl,
      Nat.le_refl _, completedFence_le_completeAll, Nat.le_refl _⟩
  | write hreserved hsize houtside =>
    exact .of_stream rfl hsize
  | reclaim => exact .of_stream rfl rfl
  | reserve h => exact .of_stream rfl rfl
  | commit h => exact .of_stream rfl rfl

/-- Every chain of small changes continues the context. -/
theorem Evolves.continues {context : Context SimulatedDevice} (h : Evolves origin context) :
    Continues origin context := by
  induction h with
  | refl => exact .refl origin
  | step _ change ih => exact ih.trans (continues_change change)

end Context

end Texel
