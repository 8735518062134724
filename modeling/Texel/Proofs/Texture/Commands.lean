import Texel.Proofs.Context.Evolution
import Texel.Texture.Upload

namespace Texel

open Simulated SimulatedDevice

/-- The resource that a command moves to another usage state or copies into. -/
def Simulated.Command.target : Command → ResourceId
  | .barrier resource _ _ => resource
  | .copy request => request.destination

/-- The copy that a command makes, if it makes one. -/
def Simulated.Command.copy? : Command → Option BufferCopy
  | .barrier .. => none
  | .copy request => some request

namespace Context

/-- Recording nothing changes nothing. -/
@[simp] theorem recorded_nil (context : Context SimulatedDevice) :
    context.recorded [] = context := by
  simp [recorded]

/-- Commands recorded later come behind those recorded before. -/
@[simp] theorem recorded_recorded (context : Context SimulatedDevice)
    (first second : List Command) :
    (context.recorded first).recorded second = context.recorded (first ++ second) := by
  simp [recorded]

/-- What recording a barrier leaves. -/
theorem state_recordBarrier (context : Context SimulatedDevice) (resource : ResourceId)
    (before after : UsageState) :
    ((onDevice (Device.recordBarrier resource before after)).run context).state =
      context.recorded [.barrier resource before after] :=
  congrArg (fun device => { context with device })
    (SimulatedDevice.state_recordBarrier context.device resource before after)

/-- What recording a copy leaves. -/
theorem state_recordCopy (context : Context SimulatedDevice) (request : BufferCopy) :
    ((onDevice (Device.recordCopy request)).run context).state =
      context.recorded [.copy request] :=
  congrArg (fun device => { context with device })
    (SimulatedDevice.state_recordCopy context.device request)

end Context

namespace Texture

/-- The barrier that takes a texture to a usage state, if it is in another. -/
def barriersTo (texture : Texture) (resource : ResourceId) (state : UsageState) : List Command :=
  if texture.state = state then [] else [.barrier resource texture.state state]

/-- Commands between the barriers that open a texture for copies and take it back. -/
def bracketed (texture : Texture) (resource : ResourceId) (commands : List Command) :
    List Command :=
  texture.barriersTo resource .copyDest ++ commands ++
    { texture with state := .copyDest }.barriersTo resource texture.state

variable {texture : Texture} {resource : ResourceId}

/-- A transition records a barrier if the state is another one, and the texture is in that state
then. -/
theorem run_transition (hresource : texture.resource = some resource) (state : UsageState)
    (context : Context SimulatedDevice) :
    ((texture.transition state).run context).value = { texture with state } ∧
      ((texture.transition state).run context).state =
        context.recorded (texture.barriersTo resource state) := by
  unfold transition barriersTo
  rw [hresource]
  by_cases hstate : texture.state = state
  · subst hstate
    simp only [if_true, Act.run_pure, Context.recorded_nil, and_true]
    rw [← hresource]
  · simp only [if_neg hstate, Act.run_bind, Act.run_pure]
    exact ⟨trivial, Context.state_recordBarrier _ _ _ _⟩

/-- An empty texture has no transitions. -/
theorem run_transition_of_none (hresource : texture.resource = none) (state : UsageState)
    (context : Context SimulatedDevice) :
    (texture.transition state).run context = ⟨texture, context, []⟩ := by
  unfold transition
  rw [hresource]
  rfl

/-- The texture ends in the state it was in. -/
theorem run_asCopyDestination (hresource : texture.resource = some resource)
    {act : Act (Context SimulatedDevice) Unit} {commands : List Command}
    (hact : ∀ context, (act.run context).state = context.recorded commands)
    (context : Context SimulatedDevice) :
    ((texture.asCopyDestination act).run context).value = texture ∧
      ((texture.asCopyDestination act).run context).state =
        context.recorded (texture.bracketed resource commands) := by
  obtain ⟨hopened, hopen⟩ := run_transition hresource .copyDest context
  have hclose := @run_transition { texture with state := .copyDest } resource hresource
    texture.state ((context.recorded (texture.barriersTo resource .copyDest)).recorded commands)
  unfold asCopyDestination
  simp only [Act.run_bind, hopened, hopen, hact]
  refine ⟨hclose.1, ?_⟩
  rw [hclose.2]
  simp [bracketed]

/-- A copy into a texture stands between the barriers that open the texture for copies and take it
back. -/
theorem run_copyFromBuffer (hresource : texture.resource = some resource) (region : Region)
    (rowPitch : Nat) (buffer : ResourceId) (offset : Nat) (context : Context SimulatedDevice) :
    ((texture.copyFromBuffer region rowPitch buffer offset).run context).value = .ok texture ∧
      ((texture.copyFromBuffer region rowPitch buffer offset).run context).state =
        context.recorded (texture.bracketed resource
          [.copy ⟨buffer, offset, rowPitch, texture.nativeFormat, resource, region⟩]) := by
  obtain ⟨hvalue, hstate⟩ := run_asCopyDestination hresource
    (Context.state_recordCopy · ⟨buffer, offset, rowPitch, texture.nativeFormat, resource, region⟩)
    context
  unfold copyFromBuffer
  rw [hresource]
  simp only [Attempt.run_lift]
  exact ⟨congrArg Except.ok hvalue, hstate⟩

/-- Nothing is copied into an empty texture. -/
theorem run_copyFromBuffer_of_none (hresource : texture.resource = none) (region : Region)
    (rowPitch : Nat) (buffer : ResourceId) (offset : Nat) (context : Context SimulatedDevice) :
    (texture.copyFromBuffer region rowPitch buffer offset).run context =
      ⟨.error .invalidTexture, context, []⟩ := by
  unfold copyFromBuffer
  rw [hresource]
  rfl

/-- The barriers of a texture are about its own resource. -/
theorem target_of_mem_bracketed {commands : List Command} {command : Command}
    (h : command ∈ texture.bracketed resource commands) :
    command.target = resource ∨ command ∈ commands := by
  unfold bracketed barriersTo at h
  rcases List.mem_append.mp h with hfront | hclose
  · rcases List.mem_append.mp hfront with hopen | hmiddle
    · split at hopen
      · cases hopen
      · rw [List.mem_singleton.mp hopen]
        exact .inl rfl
    · exact .inr hmiddle
  · split at hclose
    · cases hclose
    · rw [List.mem_singleton.mp hclose]
      exact .inl rfl

/-- The barriers of a texture copy nothing. -/
theorem copies_bracketed (commands : List Command) :
    (texture.bracketed resource commands).filterMap Command.copy? =
      commands.filterMap Command.copy? := by
  have hbarriers (texture : Texture) (state : UsageState) :
      (texture.barriersTo resource state).filterMap Command.copy? = [] := by
    unfold barriersTo
    split <;> rfl
  simp only [bracketed, List.filterMap_append, hbarriers, List.nil_append, List.append_nil]

/-- A copy found among commands recorded later is the one that stands between the barriers. -/
theorem copy_of_bracketed {commands : Array Command} {copy request : BufferCopy} {index : Nat}
    (hindex : commands.size ≤ index)
    (h : (commands ++ (texture.bracketed resource [.copy copy]).toArray)[index]? =
      some (.copy request)) : request = copy := by
  rw [Array.getElem?_append_right hindex, List.getElem?_toArray] at h
  have hmem : request ∈ (texture.bracketed resource [.copy copy]).filterMap Command.copy? :=
    List.mem_filterMap.mpr ⟨_, List.mem_of_getElem? h, rfl⟩
  rw [copies_bracketed] at hmem
  exact List.mem_singleton.mp hmem

end Texture

end Texel
