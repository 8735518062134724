import Texel.Proofs.Context.Disposal
import Texel.Proofs.Session.Operation

namespace Texel

open Context

namespace Context

/-- Nothing was recorded, written or reserved since `origin`, and of the counters at most the forced
submissions have changed. -/
structure Spares (origin context : Context SimulatedDevice) : Prop where
  commands : context.device.commands = origin.device.commands
  memory : context.stream.memory = origin.stream.memory
  cursor : context.stream.ring.cursor = origin.stream.ring.cursor
  wraps : context.stream.ring.wraps = origin.stream.ring.wraps
  reserved : context.stream.ring.reserved = origin.stream.ring.reserved
  stats : context.stats =
    { origin.stats with forcedSubmissions := context.stats.forcedSubmissions }

/-- Doing nothing spares everything. -/
theorem Spares.refl (context : Context SimulatedDevice) : Spares context context :=
  ⟨rfl, rfl, rfl, rfl, rfl, rfl⟩

/-- A submission is not an upload, and is not counted as one. -/
theorem stats_submit (wait : Bool) (context : Context SimulatedDevice) :
    ((submit wait).run context).state.stats = context.stats := by
  rw [state_submit, state_reapCompleted, state_releaseAll]
  rfl

/-- A forced submission spares commands, bytes, cursor and reservation. -/
theorem spares_forced (context : Context SimulatedDevice) : Spares context context.forced := by
  obtain ⟨hcommands, hmemory⟩ := records_nothing_forced context
  let counted := context.counted fun stats =>
    { stats with forcedSubmissions := stats.forcedSubmissions + 1 }
  obtain ⟨hcursor, hwraps, hreserved⟩ := ring_submit false counted
  have hstats : context.forced.stats = counted.stats := stats_submit false counted
  exact ⟨hcommands, hmemory, hcursor, hwraps, hreserved, by rw [hstats]; rfl⟩

end Context

namespace Texture

variable {texture : Texture} {region : Region} {fault : Fault}
  {origin context : Context SimulatedDevice}

/-- A load that is refused spares everything but what a forced submission changes. -/
theorem LoadRefused.spares (h : LoadRefused texture region origin fault context) :
    Spares origin context := by
  rcases h.leaves with rfl | rfl | rfl
  · exact .refl _
  · exact spares_forced origin
  · exact ⟨rfl, rfl, rfl, rfl, rfl, rfl⟩

/-- An update that is refused spares everything but what a forced submission changes. -/
theorem UpdateRefused.spares (h : UpdateRefused texture region origin fault context) :
    Spares origin context := by
  rcases h.leaves with rfl | rfl
  · exact .refl _
  · exact spares_forced origin

end Texture

namespace Session

/-- An update that cannot begin writes nothing. -/
theorem refused_beginUpdate {session : Session SimulatedDevice} {slot : Nat} {region : Region}
    {data : ByteArray} {fault : Fault} (hstreams : session.context.Streams)
    (h : ((Session.beginUpdate slot region data).run session).value = .error fault) :
    ∃ next, ((Session.beginUpdate slot region data).run session).state =
        { session with context := next } ∧
      Texture.UpdateRefused (session.texture slot) region session.context fault next := by
  have hbegin : ((session.texture slot).beginUpdate region).Meets _ _ _ :=
    Texture.meets_beginUpdate hstreams region
  obtain ⟨-, hrefused⟩ := hbegin.of_run rfl
  simp only [Session.beginUpdate, Attempt.run_bind, Attempt.run_get, tryContext,
    Attempt.run_focus] at h ⊢
  cases hvalue : (((session.texture slot).beginUpdate region).run session.context).value with
  | ok layout =>
    rw [hvalue] at h
    cases h
  | error other =>
    rw [hvalue] at h
    obtain rfl := Except.error.inj h
    exact ⟨_, rfl, hrefused _ hvalue⟩

/-- A refused upload leaves every slot as it was, and the context as it was too if the request was
at fault, if the region can never fit the stream buffer, or if an update could not end. Beyond that,
a full stream buffer costs one submission, and a staging buffer that the device refuses one of the
failures asked for. -/
theorem refused_upload_leaves_no_trace {config : Config} {session : Session SimulatedDevice}
    (hopened : Opened config session) (operations : List Operation)
    {caller : Session SimulatedDevice}
    (hcaller : caller.context = (session.run operations).context) (slot : Nat) (region : Region) :
    (∀ data pitch fault, ((load slot region data pitch).run caller).value = .error fault →
      ∃ next, ((load slot region data pitch).run caller).state = { caller with context := next } ∧
        Spares caller.context next ∧
        Texture.LoadRefused (caller.texture slot) region caller.context fault next) ∧
    (∀ data fault, ((beginUpdate slot region data).run caller).value = .error fault →
      ∃ next, ((beginUpdate slot region data).run caller).state = { caller with context := next } ∧
        Spares caller.context next ∧
        Texture.UpdateRefused (caller.texture slot) region caller.context fault next) ∧
    ∀ fault, ((endUpdate slot region).run caller).value = .error fault →
      ((endUpdate slot region).run caller).state = caller := by
  have hopen := streams_opened hopened
  have hstreams : caller.context.Streams := hcaller ▸ (evolves_run hopen operations).streams hopen
  refine ⟨fun data pitch fault hfault => ?_, fun data fault hfault => ?_, fun fault hfault => ?_⟩
  · obtain ⟨next, hstate, hrefused⟩ :=
      refused_changeTexture (Texture.meets_load hstreams region data pitch) hfault
    exact ⟨next, hstate, hrefused.spares, hrefused⟩
  · obtain ⟨next, hstate, hrefused⟩ := refused_beginUpdate hstreams hfault
    exact ⟨next, hstate, hrefused.spares, hrefused⟩
  · obtain ⟨next, hstate, hnext⟩ := refused_changeTexture (Texture.meets_endUpdate region) hfault
    exact hstate.trans (hnext ▸ rfl)

/-- With completion held back, two uploads fill the stream buffer; a third one and an update are
refused, and an update that never began cannot end. -/
theorem refused_upload_leaves_no_trace_full :
    let config : Config := { streamSize := 64, pitchAlignment := 4, placementAlignment := 8 }
    let region : Region := ⟨0, 0, 4, 2⟩
    let data : ByteArray := ⟨Array.replicate 32 7⟩
    let operations : List Operation := [.setAutoComplete false,
      .create 0 { width := 4, height := 4, layers := 1, levels := 1, samples := 1,
                  format := .rgba8Unorm } {}, .load 0 region data 16, .load 0 region data 16]
    let caller := (opening config).run operations
    (∃ next, ((load 0 region data 16).run caller).state = { caller with context := next } ∧
      Texture.LoadRefused (caller.texture 0) region caller.context
        (.refused (.streamExhausted 32)) next) ∧
    (∃ next, ((beginUpdate 0 region data).run caller).state = { caller with context := next } ∧
      Texture.UpdateRefused (caller.texture 0) region caller.context
        (.refused (.streamExhausted 32)) next) ∧
    ((endUpdate 0 region).run caller).state = caller := by
  intro config region data operations caller
  have hopened : Opened config (opening config) :=
    opened_iff.mpr ⟨Config.validate_eq_ok_iff.mpr (by decide), by decide, rfl⟩
  obtain ⟨hload, hbegin, hend⟩ :=
    @refused_upload_leaves_no_trace config (opening config) hopened operations caller rfl 0 region
  obtain ⟨loaded, hloaded, -, hfull⟩ := hload data 16 (.refused (.streamExhausted 32))
    (by decide +kernel)
  obtain ⟨begun, hbegun, -, hrefused⟩ := hbegin data (.refused (.streamExhausted 32))
    (by decide +kernel)
  exact ⟨⟨loaded, hloaded, hfull⟩, ⟨begun, hbegun, hrefused⟩,
    hend (.refused (.invalidParameter "no stream buffer reservation covers 32 bytes"))
      (by decide +kernel)⟩

end Session

end Texel
