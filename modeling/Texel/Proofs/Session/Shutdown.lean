import Texel.Proofs.Context.Shutdown
import Texel.Proofs.Session.Conservation
import Texel.Proofs.Session.Consistency

namespace Texel

open Simulated Context

namespace Session

variable {session : Session SimulatedDevice}

/-- What outlasts the context: what textures hold, the buffers of staging textures, loose resources,
and what was lost. -/
def kept (session : Session SimulatedDevice) (lost : List Retired) : List Retired :=
  session.textures.gather Texture.holdings ++
    (session.staging.gather fun staging => [.resource staging.buffer.resource]) ++
    (session.resources.gather fun id => [.resource id]) ++ lost

/-- Every owner is the context or outlasts it. -/
theorem owners_perm (session : Session SimulatedDevice) (lost : List Retired) :
    (session.owners lost).Perm (session.context.dues ++ session.kept lost) := by
  apply List.perm_iff_count.mpr
  intro item
  simp only [owners, dues, kept, List.count_append, List.count_cons, List.count_nil]
  omega

/-- A texture without a resource is empty. -/
theorem Consistent.texture_eq_empty {requested : List (ResourceId × ViewFormats)}
    (h : Consistent requested session) {slot : Nat}
    (hinvalid : (session.texture slot).isValid = false) : session.texture slot = {} := by
  rcases h.textures slot with hempty | ⟨id, formats, -, hbacked⟩
  · exact hempty
  · simp [Texture.isValid, hbacked.resource_eq] at hinvalid

/-- Nothing outlasts the context if everything was destroyed. -/
theorem kept_eq_nil (h : session.Keyed) (htextures : ∀ slot, session.texture slot = {})
    (hstaging : ∀ slot, session.staging.get? slot = none)
    (hresources : ∀ slot, session.resources.get? slot = none) : session.kept [] = [] := by
  have hheld : session.textures.gather Texture.holdings = [] := by
    refine Table.gather_eq_nil h.textures fun slot held hheld => ?_
    have hempty := htextures slot
    simp only [texture, hheld, Option.getD_some] at hempty
    simp [hempty, Texture.holdings, ViewSet.slots]
  have hbuffers : (session.staging.gather fun staging =>
      [Retired.resource staging.buffer.resource]) = [] :=
    Table.gather_eq_nil h.staging fun slot staging hfound => by simp [hstaging] at hfound
  have hloose : (session.resources.gather fun id => [Retired.resource id]) = [] :=
    Table.gather_eq_nil h.resources fun slot id hfound => by simp [hresources] at hfound
  simp [kept, hheld, hbuffers, hloose]

/-- Wherever a run has got to in which slots are given up with their textures only, a shutdown
completes every submission and frees the stream buffer and what waits in the queue, each of them
once and without a complaint. What is left on the device is what textures, staging textures and
callers still hold, and what was lost. If they were all destroyed, at once or deferred, nothing is
left. -/
theorem shutdown_frees_everything {config : Config} {session : Session SimulatedDevice}
    (hopened : Opened config session) (operations : List Operation)
    (hlinear : ∀ operation ∈ operations, operation.isLinear = true) :
    let now := session.run operations
    let kept := now.kept (session.lost operations)
    let ended := (Context.shutdown.run now.context).state
    let device := ended.device
    device.Finished ∧
    now.context.viewPool.FreedOnce now.context.dues ended.viewPool ∧
    ended.retirement.entries = [] ∧
    kept.Nodup ∧
    (∀ id, device.isLive id = true ↔ .resource id ∈ kept) ∧
    (∀ slot, (device.views.get? slot).isSome = true ↔ .descriptor slot ∈ kept) ∧
    device.destroyedCount + kept.countP Retired.isResource + 1 = device.nextId ∧
    (∀ line ∈ (Context.shutdown.run now.context).log, ¬ line.Complains) ∧
    ((∀ slot, (now.texture slot).isValid = false) → (∀ slot, now.staging.get? slot = none) →
      (∀ slot, now.resources.get? slot = none) → session.lost operations = [] →
      device.liveTextureCount = 0 ∧ device.liveBufferCount = 0 ∧ device.views.size = 0) := by
  intro now kept ended device
  have hcustody := inCustody_opened hopened
  have hstreams := streams_opened hopened
  have hrun := hcustody.run hstreams operations
  have hledger : now.context.viewPool.Ledger True (now.context.dues ++ kept) :=
    (ledger_run hopened operations hlinear).perm (now.owners_perm _)
  have hquiet : ∀ line ∈ (Context.shutdown.run now.context).log, ¬ line.Complains :=
    quiet_shutdown now.context ⟨kept, hledger⟩
  have hended : Ended now.context kept ended := ended_shutdown hrun.custody.guarded.dated hledger
  -- from here on only `hended` says what the shutdown has done
  clear_value ended
  refine ⟨hended.finished, hended.freed, hended.queue, hended.left.nodup trivial, hended.left.live,
    hended.left.viewed_iff trivial, hended.left.conserved, hquiet, ?_⟩
  intro hinvalid hstaging hresources hlost
  have hconsistent :=
    consistent_run (consistent_opened hopened) hcustody trivial hstreams operations hlinear
  have hnothing : kept = [] := by
    simp only [kept, hlost]
    exact kept_eq_nil hrun.keyed (fun slot => hconsistent.texture_eq_empty (hinvalid slot)) hstaging
      hresources
  have hleft := hended.left
  rw [hnothing] at hleft
  obtain ⟨hempty, hviews⟩ := hleft.empty trivial
  simp only [viewPool] at hempty hviews
  simp [device, SimulatedDevice.liveTextureCount, SimulatedDevice.liveBufferCount, hempty, hviews,
    Table.values, Table.size]

/-- With completion held back, a texture that was destroyed deferred still waits with its view after
its upload was submitted. The shutdown frees both, and the stream buffer, and nothing is left. A
resource that is made and dropped before the shutdown is still there. -/
theorem shutdown_frees_everything_held :
    let config : Config := { streamSize := 64, pitchAlignment := 4, placementAlignment := 8 }
    let desc : TextureDesc := { width := 2, height := 1, layers := 1, levels := 1, samples := 1,
                                format := .rgba8Unorm }
    let operations : List Operation := [.setAutoComplete false,
      .create 0 desc { shaderResource := .rgba8Unorm }, .failViews 1,
      .create 1 desc { shaderResource := .rgba8Unorm },
      .load 0 ⟨0, 0, 2, 1⟩ ⟨#[1, 2, 3, 4, 5, 6, 7, 8]⟩ 8, .createStaging 0 2 1 .rgba8Unorm true,
      .submit false, .destroyStaging 0 false, .destroyTexture 0 true]
    let ended (operations : List Operation) :=
      (Context.shutdown.run ((opening config).run operations).context).state
    (∀ item ∈ [.resource ⟨2⟩, .descriptor ⟨.shaderResource, 0⟩, .resource ⟨1⟩],
      ((opening config).run operations).context.viewPool.Has item ∧
        (ended operations).viewPool.Lacks item) ∧
    (ended operations).device.liveTextureCount = 0 ∧
    (ended operations).device.liveBufferCount = 0 ∧
    (ended operations).device.views.size = 0 ∧
    (ended (operations ++ [.createResource 0 desc .common, .dropResource 0])).device.isLive
      ⟨5⟩ := by
  intro config desc operations ended
  have hopened : Opened config (opening config) :=
    opened_iff.mpr ⟨Config.validate_eq_ok_iff.mpr (by decide), by decide, rfl⟩
  obtain ⟨-, hfreed, -, -, -, -, -, -, hempty⟩ := shutdown_frees_everything hopened operations
    (by decide)
  obtain ⟨-, -, -, -, hlive, -⟩ := shutdown_frees_everything hopened
    (operations ++ [.createResource 0 desc .common, .dropResource 0]) (by decide)
  have hdues : ((opening config).run operations).context.dues =
      [.resource ⟨2⟩, .descriptor ⟨.shaderResource, 0⟩, .resource ⟨1⟩] := by decide +kernel
  have htextures : ((opening config).run operations).textures = ⟨[(0, {})]⟩ := by decide +kernel
  have hstaging : ((opening config).run operations).staging.entries = [] := by decide +kernel
  have hresources : ((opening config).run operations).resources = {} := by decide +kernel
  have hnothing : (ended operations).device.liveTextureCount = 0 ∧
      (ended operations).device.liveBufferCount = 0 ∧ (ended operations).device.views.size = 0 := by
    apply hempty
    · intro slot
      simp only [texture, htextures, Table.get?, List.lookup_cons]
      split <;> simp [Texture.isValid]
    · simp [Table.get?, hstaging]
    · simp [hresources]
    · decide +kernel
  refine ⟨?_, hnothing.1, hnothing.2.1, hnothing.2.2, (hlive ⟨5⟩).mpr (by decide +kernel)⟩
  rw [← hdues]
  exact fun item hitem => ⟨hfreed.present item hitem, hfreed.gone item hitem⟩

end Session

end Texel
