import Texel.Proofs.Texture.Lifecycle
import Texel.Proofs.Texture.Upload

namespace Texel

open Simulated Context

variable {conduct : Conduct} {origin start context : Context SimulatedDevice}
  {held unnamed items : List Retired}

namespace Context

/-- Recording commands that name what callers hold turns nothing. -/
theorem Handled.recorded (h : Handled conduct origin start held unnamed items context)
    {commands : List Command} (htargets : ∀ command ∈ commands, .resource command.target ∈ held) :
    Handled conduct origin start held unnamed items (context.recorded commands) :=
  ⟨h.custody.recorded htargets, h.turned.congr rfl rfl rfl rfl fun item hitem => by
    cases item <;> exact hitem⟩

/-- A forced submission reaps what it completes. -/
theorem handled_forced (h : InCustody conduct origin held unnamed start) :
    Handled conduct origin start held unnamed [] start.forced := by
  have hcounted : InCustody conduct origin held unnamed (start.counted fun stats =>
      { stats with forcedSubmissions := stats.forcedSubmissions + 1 }) := h
  obtain ⟨hafter, departed, hreaped⟩ := custody_submit hcounted false
  exact ⟨hafter, .reaped ⟨hreaped.entries, hreaped.due, hreaped.waiting, hreaped.present,
    hreaped.gone⟩⟩

/-- A reservation changes no owner. -/
theorem Reserved.handled {size : Nat} (h : Reserved start size context)
    (hstart : InCustody conduct origin held unnamed start) :
    Handled conduct origin start held unnamed [] context := by
  obtain ⟨ring, rfl | rfl⟩ := h.made
  · exact ⟨hstart, .queued ⟨(List.append_nil _).symm, rfl, rfl⟩⟩
  · have hforced := handled_forced hstart
    exact ⟨hforced.custody, hforced.turned.congr rfl rfl rfl rfl fun _ hitem => hitem⟩

end Context

namespace StagingTexture

/-- The buffer of a new staging texture has no name yet. -/
theorem midway_staged (h : Midway conduct origin start held unnamed items context) (size : Nat) :
    Midway conduct origin start held (.resource ⟨context.device.nextId⟩ :: unnamed) items
      (staged context size) := by
  obtain ⟨hcustody, hentries, hcurrent, hforced⟩ := h.registered (.buffer size)
  exact ⟨hcustody, hentries, hcurrent, hforced⟩

/-- The buffer of a new staging texture is not named by any command. -/
theorem midway_create (width height : Nat) (format : NativeFormat) (writable : Bool) :
    (create width height format writable).Meets (Midway conduct origin start held unnamed items)
      (fun staging =>
        Midway conduct origin start held (.resource staging.buffer.resource :: unnamed) items)
      fun _ => Midway conduct origin start held unnamed items := by
  apply Attempt.Meets.each
  intro context hcontext
  refine .mono (meets_create context width height format writable) (fun _ h => h) ?_ ?_
  · rintro _ _ ⟨-, pitch, -, rfl, rfl⟩
    exact midway_staged hcontext _
  · rintro _ _ ⟨-, rfl | rfl⟩
    · exact hcontext
    · exact hcontext.switched _ _ _

/-- A staging texture may be destroyed either way, since no command names its buffer. -/
theorem midway_destroy (staging : StagingTexture) (deferred : Bool) :
    (staging.destroy deferred).Meets
      (Midway conduct origin start held (.resource staging.buffer.resource :: unnamed) items)
      fun _ => Midway conduct origin start held unnamed
        (items ++ queuedOf [.resource staging.buffer.resource] deferred) := by
  intro context hcontext
  let counted := context.counted fun stats =>
    { stats with stagingDestroyed := stats.stagingDestroyed + 1 }
  have hcounted : Midway conduct origin start held
      (.resource staging.buffer.resource :: unnamed) items
      counted :=
    ⟨hcontext.custody, hcontext.queued.entries, hcontext.queued.currentFence,
      hcontext.queued.forced⟩
  exact ⟨custody_disposed_unnamed hcounted.custody (.refl _) deferred,
    hcounted.queued.trans (queued_disposed counted deferred _)⟩

end StagingTexture

namespace Texture

variable {texture : Texture} {resource : ResourceId}

/-- A texture holds its resource. -/
theorem mem_holdings (h : texture.resource = some resource) :
    .resource resource ∈ texture.holdings := by
  unfold holdings
  rw [h]
  exact List.mem_append_left _ List.mem_cons_self

/-- The commands that a texture brackets name its own resource, if those in between do. -/
theorem target_bracketed {copy : BufferCopy} (hcopy : copy.destination = resource)
    (hheld : .resource resource ∈ held) :
    ∀ command ∈ texture.bracketed resource [.copy copy], .resource command.target ∈ held := by
  intro command hcommand
  rcases target_of_mem_bracketed hcommand with htarget | hmem
  · rw [htarget]
    exact hheld
  · rw [List.mem_singleton.mp hmem]
    change .resource copy.destination ∈ held
    rw [hcopy]
    exact hheld

/-- A transition names a texture that somebody holds, and changes no owner. -/
theorem handled_transition (hheld : ∀ item ∈ texture.holdings, item ∈ held)
    (h : Handled conduct origin start held unnamed items context) (state : UsageState) :
    ((texture.transition state).run context).value.holdings = texture.holdings ∧
      Handled conduct origin start held unnamed items
        ((texture.transition state).run context).state := by
  cases hresource : texture.resource with
  | none =>
    rw [run_transition_of_none hresource]
    exact ⟨rfl, h⟩
  | some resource =>
    obtain ⟨hvalue, hstate⟩ := run_transition hresource state context
    rw [hvalue, hstate]
    refine ⟨rfl, h.recorded fun command hcommand => ?_⟩
    unfold barriersTo at hcommand
    split at hcommand
    · cases hcommand
    · rw [List.mem_singleton.mp hcommand]
      exact hheld _ (mem_holdings hresource)

/-- A copy from a buffer names a texture that somebody holds, and changes no owner. -/
theorem handled_copyFromBuffer (hheld : ∀ item ∈ texture.holdings, item ∈ held) (region : Region)
    (rowPitch : Nat) (buffer : ResourceId) (offset : Nat) :
    (texture.copyFromBuffer region rowPitch buffer offset).Meets
      (Handled conduct origin start held unnamed items)
      (fun value context => value = texture ∧
        Handled conduct origin start held unnamed items context)
      fun _ => Handled conduct origin start held unnamed items := by
  intro context hcontext
  change Attempt.Settles _ _ (Attempt.run _ _).value (Attempt.run _ _).state
  cases hresource : texture.resource with
  | none =>
    rw [run_copyFromBuffer_of_none hresource]
    exact hcontext
  | some resource =>
    obtain ⟨hvalue, hstate⟩ := run_copyFromBuffer hresource region rowPitch buffer offset context
    rw [hvalue, hstate]
    exact ⟨rfl, hcontext.recorded (target_bracketed rfl (hheld _ (mem_holdings hresource)))⟩

/-- A streamed upload names a texture that somebody holds, and changes no owner. -/
theorem handled_streamed (hheld : .resource resource ∈ held) (layout : UploadLayout)
    (h : Handled conduct origin start held unnamed items context) :
    Handled conduct origin start held unnamed items (texture.streamed resource layout context) := by
  have hcommitted : Handled conduct origin start held unnamed items
      (context.committed layout.uploadSize) :=
    ⟨h.custody, h.turned.congr rfl rfl rfl rfl fun _ hitem => hitem⟩
  have hrecorded := hcommitted.recorded (@target_bracketed _ texture resource
    (texture.streamCopy resource layout context) rfl hheld)
  exact ⟨hrecorded.custody, hrecorded.turned.congr rfl rfl rfl rfl fun _ hitem => hitem⟩

/-- The staging buffer of an upload is freed after the copy, and is nobody's any more. -/
theorem midway_finishStaging (hresource : texture.resource = some resource)
    (hheld : .resource resource ∈ held) (staging : StagingTexture) (layout : UploadLayout) :
    (texture.finishStaging staging layout resource).Meets
      (Midway conduct origin start held (.resource staging.buffer.resource :: unnamed) items)
      fun _ => Midway conduct origin start held unnamed items := by
  let staged :=
    Midway conduct origin start held (.resource staging.buffer.resource :: unnamed) items
  refine .through (fun _ => staged) ?_ fun _ => ?_
  · intro context hcontext
    rw [(run_asCopyDestination hresource (staging.state_copyTo resource layout.region) context).2]
    exact ⟨hcontext.custody.recorded (target_bracketed rfl hheld), hcontext.queued.entries,
      hcontext.queued.currentFence, hcontext.queued.forced⟩
  refine .through (fun _ => Midway conduct origin start held unnamed items) ?_ fun _ => ?_
  · intro context hcontext
    have hdestroyed := staging.midway_destroy false context hcontext
    rw [queuedOf, if_neg Bool.false_ne_true, List.append_nil] at hdestroyed
    exact hdestroyed
  refine .through (fun _ => Midway conduct origin start held unnamed items) ?_ fun _ => ?_
  · intro context hcontext
    exact ⟨hcontext.custody, hcontext.queued.entries, hcontext.queued.currentFence,
      hcontext.queued.forced⟩
  exact .pure fun _ h => h

/-- An upload moves nothing from owner to owner, and reaps if it forces a submission. -/
theorem handled_load (h : InCustody conduct origin held unnamed start) (hstreams : start.Streams)
    (hheld : ∀ item ∈ texture.holdings, item ∈ held) (region : Region) (data : ByteArray)
    (pitch : Nat) :
    (texture.load region data pitch).Meets (fun context => context = start)
      (fun value context => value = texture ∧ Handled conduct origin start held unnamed [] context)
      fun _ => Handled conduct origin start held unnamed [] := by
  refine .mono (meets_load hstreams region data pitch) (fun _ h => h) ?_ ?_
  · rintro value context ⟨rfl, resource, layout, hresource, -, -, hloaded⟩
    refine ⟨rfl, ?_⟩
    have hmem := hheld _ (mem_holdings hresource)
    cases hloaded with
    | streaming hsize hbase =>
      have hreserved := hbase.handled h
      exact handled_streamed hmem layout
        ⟨hreserved.custody, hreserved.turned.congr rfl rfl rfl rfl fun _ hitem => hitem⟩
    | staging hsize hpitch =>
      have hstaged : Midway conduct origin start held
          (.resource ⟨start.device.nextId⟩ :: unnamed) []
          (StagingTexture.staged start layout.uploadSize) :=
        StagingTexture.midway_staged (.refl h) layout.uploadSize
      exact (midway_finishStaging hresource hmem _ layout _ hstaged).handled
  · rintro fault context hrefused
    rcases hrefused.leaves with rfl | rfl | rfl
    · exact (Midway.refl h).handled
    · exact handled_forced h
    · exact ((Midway.refl h).switched _ _ _).handled

/-- An update that begins changes no owner. -/
theorem handled_beginUpdate (h : InCustody conduct origin held unnamed start)
    (hstreams : start.Streams) (region : Region) :
    (texture.beginUpdate region).Meets (fun context => context = start)
      (fun _ => Handled conduct origin start held unnamed [])
      fun _ => Handled conduct origin start held unnamed [] := by
  refine .mono (meets_beginUpdate hstreams region) (fun _ h => h) ?_ ?_
  · rintro layout context ⟨-, hreserved⟩
    exact hreserved.handled h
  · rintro error context hrefused
    rcases hrefused.leaves with rfl | rfl
    · exact (Midway.refl h).handled
    · exact handled_forced h

/-- An update that ends names a texture that somebody holds, and changes no owner. -/
theorem handled_endUpdate (h : InCustody conduct origin held unnamed start)
    (hheld : ∀ item ∈ texture.holdings, item ∈ held) (region : Region) :
    (texture.endUpdate region).Meets (fun context => context = start)
      (fun value context => value = texture ∧ Handled conduct origin start held unnamed [] context)
      fun _ => Handled conduct origin start held unnamed [] := by
  refine .mono (meets_endUpdate region) (fun _ h => h) ?_ ?_
  · rintro value context ⟨rfl, resource, layout, reserved, hresource, -, -, -, rfl⟩
    exact ⟨rfl, handled_streamed (hheld _ (mem_holdings hresource)) layout (Midway.refl h).handled⟩
  · rintro error context rfl
    exact (Midway.refl h).handled

end Texture

end Texel
