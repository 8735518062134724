import Texel.Proofs.Twins.Backends
import Texel.Proofs.Twins.Session
import Texel.Proofs.Vulkan.Run

namespace Texel.Vulkan

/-- A device opens on an implementation that obliges, and is then like a simulated one. -/
theorem alike_ofNative {native : Native} (h : native.Obliges) (family : Nat) :
    ∃ device, (VulkanDevice.ofNative native true family).1 = .ok device ∧
      Alike ({} : SimulatedDevice) device := by
  simp only [VulkanDevice.ofNative, Bool.true_eq_false, if_false,
    VulkanDevice.run_createCommandPool, h.failure?_eq_none]
  refine ⟨_, rfl, ?_⟩
  exact {
    nextId := rfl
    shapes := fun _ => rfl
    currentFence := rfl
    completedFence := rfl
    caughtUp := rfl
    idle := rfl
    willing := ⟨rfl, rfl, rfl⟩
    obliges := ((h.consume _).advance .pool).note _ }

/-- Whatever a caller asks of a context, in whatever order, it is answered the same and sees the
same on a simulated device that completes submissions at once and on a device on Vulkan. Every
Vulkan call succeeds and every request for memory is granted; textures have a common description,
views are made of textures, and host buffers have at least one byte. -/
theorem backends_are_interchangeable {native : Native} (hnative : native.Obliges) (family : Nat)
    {config : Config} {actions : List Action}
    (hpermits : ∀ context, (Context.ofDevice ({} : SimulatedDevice) config).1 = .ok context →
      Session.PermitsAll { context } actions) :
    ∃ device, (VulkanDevice.ofNative native true family).1 = .ok device ∧
      Session.account ({} : SimulatedDevice) config actions =
        Session.account device config actions := by
  obtain ⟨device, hopened, halike⟩ := alike_ofNative hnative family
  exact ⟨device, hopened, Session.account_eq twins_backends halike hpermits⟩

/-- A texture is filled through the stream buffer and then through a staging buffer, seen through
another view, and destroyed once a submission is complete. -/
theorem backends_are_interchangeable_both_paths :
    let config : Config := { streamSize := 64, pitchAlignment := 4, placementAlignment := 8 }
    let desc : TextureDesc :=
      { width := 4, height := 4, layers := 1, levels := 1, samples := 1, format := .rgba8Unorm }
    let actions : List Action := [
      .operation (.create 0 desc { shaderResource := .rgba8Unorm }),
      .operation (.load 0 ⟨0, 0, 4, 2⟩ ⟨Array.replicate 32 7⟩ 16),
      .operation (.load 0 ⟨0, 0, 4, 4⟩ ⟨Array.replicate 64 9⟩ 16),
      .createView ⟨2⟩ (.ofResource .shaderResource .rgba8Unorm desc) ⟨.shaderResource, 5⟩,
      .operation (.destroyTexture 0 true), .completedFence, .operation (.submit false),
      .textureDesc ⟨2⟩]
    ∃ device, (VulkanDevice.ofNative {} true 0).1 = .ok device ∧
      (Session.account device config actions).map (fun account => account.2.map fun reply =>
        (reply.seen.stats.streamingUploads, reply.seen.stats.stagingUploads,
          reply.seen.retirement.entries.length)) =
        .ok [(0, 0, 0), (1, 0, 0), (1, 1, 0), (1, 1, 0), (1, 1, 2), (1, 1, 2), (1, 1, 0),
          (1, 1, 0)] := by
  intro config desc actions
  have hobliges : Native.Obliges {} :=
    ⟨rfl, fun _ _ hanswer => (List.not_mem_nil hanswer).elim, fun _ _ => rfl, rfl, rfl, rfl⟩
  have hopened : Session.Opened config (Session.opening config) :=
    Session.opened_iff.mpr ⟨Config.validate_eq_ok_iff.mpr (by decide), by decide, rfl⟩
  have hpermits : Session.PermitsAll (Session.opening config) actions := by
    decide +kernel
  obtain ⟨context, log, hcontext, hsession⟩ := hopened
  obtain ⟨device, hdevice, haccount⟩ := @backends_are_interchangeable {} hobliges 0 config
    actions fun other hother => by
      rw [hcontext] at hother
      cases hother
      rw [← hsession]
      exact hpermits
  refine ⟨device, hdevice, ?_⟩
  rw [← haccount]
  decide +kernel

end Texel.Vulkan
