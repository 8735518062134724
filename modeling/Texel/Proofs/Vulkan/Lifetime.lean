import Texel.Proofs.Vulkan.Pending
import Texel.Proofs.Vulkan.Session

namespace Texel.Vulkan

/-- Callers defer what they destroy. Of the implementation, only a wait for the device is relied
on. -/
def Rules.deferring : Rules where
  reliable operation := operation = .deviceWaitIdle
  careful := True
  tracked := False
  careful_idle := fun _ => rfl
  tracked_commands := False.elim

/-- Whatever fails and in whatever order fences signal, no image and no buffer is freed while the
command buffer being recorded, or one whose fence has not signalled, has a command that refers to
it: not in the course of a run, and not by the end of the context. -/
theorem frees_wait_for_pending_work {script : Operation → List ResultCode} {config : Config}
    {session : Session VulkanDevice} (h : SessionOpened script config session)
    (hscript : ∀ answer ∈ script .deviceWaitIdle, answer.failure? = none)
    (turns : List SessionTurn) (hturns : Obeying .deferring session turns) :
    Role.SparesPending (runSession session turns).context.device.native.roles ∧
      ∀ ending : Ending, Role.SparesPending
        (ending.act.run (runSession session turns).context).state.device.native.roles := by
  obtain ⟨device, context, hopened, hcontext, rfl⟩ := h
  have hvalid : Valid .deferring (Work.opened device) :=
    valid_opened hopened fun _ hreliable => hreliable ▸ hscript
  obtain ⟨roster, hheld⟩ := holds_run (held_opened hvalid hcontext) hturns
  refine ⟨(hheld.stands.rest.guarded trivial (.opened hopened)).spares, fun ending => ?_⟩
  obtain ⟨holding, hended⟩ := reaches_end False.elim ending _ hheld.stands
  exact (hended.guarded trivial (.opened hopened)).spares

/-- A staging buffer is freed right after its copy, a second submission does not reach the queue and
the wait for the device stands in for it, and what was destroyed goes with the first look after
that. -/
theorem frees_wait_for_pending_work_abandoned :
    let script : Operation → List ResultCode := fun operation =>
      match operation with
      | .createFence => [⟨0⟩, ⟨-2⟩]
      | _ => []
    let config : Config :=
      { streamSize := 128, shaderResourceSlots := 4, renderTargetSlots := 4
        depthStencilSlots := 4 }
    let desc : TextureDesc :=
      { width := 2, height := 1, layers := 1, levels := 1, samples := 1, format := .rgba8Unorm }
    let opening : List SessionTurn := [.operation (.create 0 desc {}),
      .operation (.load 0 ⟨0, 0, 2, 1⟩ ⟨#[1, 2, 3, 4, 5, 6, 7, 8]⟩ 8),
      .operation (.submit false), .operation (.createBuffer 0 64)]
    let closing : List SessionTurn := [.operation (.copyFromBuffer 0 ⟨0, 0, 2, 1⟩ 8 ⟨4⟩ 0),
      .operation (.destroyResource 0 true), .operation (.destroyTexture 0 true), .operation .reap,
      .operation (.submit false)]
    let session := openingSession script false config
    SessionOpened script config session ∧
      (∀ answer ∈ script .deviceWaitIdle, answer.failure? = none) ∧
      Obeying .deferring session (opening ++ closing) ∧
      Role.SparesPending
        (runSession session (opening ++ closing)).context.device.native.roles ∧
      (Role.freed (runSession session (opening ++ closing)).context.device.native.roles).filter
          (fun object => object.kind = .buffer ∨ object.kind = .image) =
        [⟨.buffer, 2⟩, ⟨.buffer, 3⟩, ⟨.image, 1⟩] := by
  intro script config desc opening closing session
  have hopened : SessionOpened script config session := by
    subst session config script
    exact sessionOpened_opening rfl rfl
  have hscript : ∀ answer ∈ script .deviceWaitIdle, answer.failure? = none :=
    fun _ hnone => nomatch hnone
  have hqueue : (runSession session opening).context.retirement.entries = [] := by
    decide +kernel
  have hspared : ¬Waits (runSession session opening).context.retirement ⟨4⟩ := by
    rintro ⟨fence, hentry⟩
    rw [hqueue] at hentry
    exact List.not_mem_nil hentry
  have hturns : Obeying .deferring session (opening ++ closing) := by
    refine obeying_append.mpr ⟨?_, ⟨fun _ => ⟨trivial, hspared⟩, False.elim⟩,
      ⟨fun _ => ⟨rfl, trivial⟩, False.elim⟩, ⟨fun _ => ⟨rfl, trivial⟩, False.elim⟩,
      ⟨fun _ => ⟨trivial, trivial⟩, False.elim⟩, ⟨fun _ => ⟨trivial, trivial⟩, False.elim⟩, trivial⟩
    exact ⟨⟨fun _ => ⟨trivial, trivial⟩, False.elim⟩, ⟨fun _ => ⟨trivial, trivial⟩, False.elim⟩,
      ⟨fun _ => ⟨trivial, trivial⟩, False.elim⟩, ⟨fun _ => ⟨trivial, trivial⟩, False.elim⟩, trivial⟩
  exact ⟨hopened, hscript, hturns, (frees_wait_for_pending_work hopened hscript _ hturns).1,
    by decide +kernel⟩

/-- A buffer that was given up may be named again: it waits for the work that was recorded until
then only. Here it goes while the copy from it has yet to run. -/
theorem frees_buffer_named_again :
    let config : Config :=
      { streamSize := 128, shaderResourceSlots := 4, renderTargetSlots := 4
        depthStencilSlots := 4 }
    let desc : TextureDesc :=
      { width := 2, height := 1, layers := 1, levels := 1, samples := 1, format := .rgba8Unorm }
    let turns : List SessionTurn := [.operation (.create 0 desc {}),
      .operation (.createBuffer 0 64), .operation (.destroyResource 0 true),
      .operation (.submit false), .operation (.copyFromBuffer 0 ⟨0, 0, 2, 1⟩ 8 ⟨3⟩ 0),
      .operation (.submit false), .move (.signal 1), .operation .reap]
    let session := openingSession (fun _ => []) false config
    SessionOpened (fun _ => []) config session ∧
      (∀ asked, .operation asked ∈ turns → DestroysDeferred asked) ∧
      ¬Role.SparesPending (runSession session turns).context.device.native.roles := by
  intro config desc turns session
  refine ⟨?_, ?_, fun hspares => ?_⟩
  · subst session config
    exact sessionOpened_opening rfl rfl
  · simp [turns, DestroysDeferred]
  -- The buffer goes last. Command buffer 2 copies from it, and fence 2 has not signalled.
  have hlast : (runSession session turns).context.device.native.roles =
      (runSession session turns).context.device.native.roles.dropLast ++
        [.frees ⟨.buffer, 2⟩] := by decide +kernel
  exact hspares _ _ [] hlast _ rfl 2 (.inr ⟨2, by decide +kernel, by decide +kernel⟩)
    ⟨[⟨.buffer, 2⟩, ⟨.image, 1⟩], by decide +kernel, by decide⟩

end Texel.Vulkan
