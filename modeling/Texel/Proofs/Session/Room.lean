import Texel.Proofs.Ring.Idle
import Texel.Proofs.Session.Refusal

namespace Texel

open SimulatedDevice

namespace Context

variable {origin context : Context SimulatedDevice}

/-- The submission has completed, and with it everything that was tracked before. -/
theorem idle_submit (h : context.Streams) {wait : Bool}
    (hcompletes : (context.device.autoComplete || wait) = true) :
    ((submit wait).run context).state.stream.ring.Idle := by
  have hcompleted : (context.submitted wait).device.completedFence =
      context.device.currentFence := by
    simp only [submitted, SimulatedDevice.submitted, hcompletes, if_true]
  rw [stream_submit]
  change ((context.stream.ring.track context.device.currentFence).reclaim _).Idle
  apply Ring.idle_reclaim_track h.fences
  omega

/-- After a forced submission on a device that completes at once, the ring is idle. -/
theorem idle_forced (h : context.Streams) (hauto : context.device.autoComplete = true) :
    context.forced.stream.ring.Idle := by
  have hcounted : (context.counted fun stats =>
      { stats with forcedSubmissions := stats.forcedSubmissions + 1 }).Streams :=
    (Evolves.of_steady (steady_counted context _)).streams h
  apply idle_submit hcounted
  simp [counted, hauto]

/-- At most one submission was made, and it was counted as forced. -/
def ForcesOnce (origin context : Context SimulatedDevice) : Prop :=
  ∃ count ≤ 1, context.stats.forcedSubmissions = origin.stats.forcedSubmissions + count ∧
    context.device.submissions.size = origin.device.submissions.size + count

/-- Nothing was forced. -/
theorem forcesOnce_of_none
    (hstats : context.stats.forcedSubmissions = origin.stats.forcedSubmissions)
    (hsubmissions : context.device.submissions = origin.device.submissions) :
    ForcesOnce origin context :=
  ⟨0, Nat.zero_le 1, hstats, congrArg Array.size hsubmissions⟩

/-- What follows neither submits nor counts a submission. -/
theorem ForcesOnce.silent {next : Context SimulatedDevice} (h : ForcesOnce origin context)
    (hstats : next.stats.forcedSubmissions = context.stats.forcedSubmissions)
    (hsubmissions : next.device.submissions = context.device.submissions) :
    ForcesOnce origin next := by
  obtain ⟨count, hcount, hforced, hsize⟩ := h
  exact ⟨count, hcount, hstats.trans hforced, (congrArg Array.size hsubmissions).trans hsize⟩

/-- A submission is one submission. -/
theorem submissions_submit (wait : Bool) (context : Context SimulatedDevice) :
    ((submit wait).run context).state.device.submissions =
      (context.submitted wait).device.submissions := by
  rw [state_submit, state_reapCompleted]
  exact (steady_releaseAll _ _ (.refl _)).timeline.submissions

/-- A forced submission is one. -/
theorem forcesOnce_forced (context : Context SimulatedDevice) :
    ForcesOnce context context.forced := by
  refine ⟨1, Nat.le_refl 1, ?_, ?_⟩
  · unfold forced
    rw [stats_submit]
    rfl
  · unfold forced
    rw [submissions_submit]
    exact Array.size_push _

/-- A reservation has forced one submission at most. -/
theorem Reserved.forcesOnce {size : Nat} (h : Reserved origin size context) :
    ForcesOnce origin context := by
  obtain ⟨ring, rfl | rfl⟩ := h.made
  · exact forcesOnce_of_none rfl rfl
  · exact (forcesOnce_forced origin).silent rfl rfl

end Context

namespace Texture

open Context

variable {texture : Texture} {region : Region} {resource : ResourceId}
  {origin context : Context SimulatedDevice}

/-- Finishing an upload from a staging texture forces nothing. -/
theorem forced_finishStaging (hresource : texture.resource = some resource)
    (staging : StagingTexture) (layout : UploadLayout) (context : Context SimulatedDevice) :
    ((texture.finishStaging staging layout resource).run context).state.stats.forcedSubmissions =
      context.stats.forcedSubmissions := by
  obtain ⟨-, hstate⟩ :=
    run_asCopyDestination hresource (staging.state_copyTo resource layout.region) context
  unfold finishStaging
  simp only [Act.run_bind, hstate]
  rfl

/-- A load that is accepted has forced one submission at most. -/
theorem Loaded.forcesOnce {layout : UploadLayout} {data : ByteArray}
    (hresource : texture.resource = some resource)
    (h : Loaded texture resource layout data origin context) : ForcesOnce origin context := by
  cases h with
  | streaming hsize hbase => exact hbase.forcesOnce.silent rfl rfl
  | staging hsize hpitch =>
    obtain ⟨-, hsteady⟩ := meets_finishStaging hresource
      (texture.stagingOf layout data ⟨origin.device.nextId⟩) layout _ rfl
    exact forcesOnce_of_none (forced_finishStaging hresource _ _ _) hsteady.timeline.submissions

/-- A load that is refused has forced one submission at most. -/
theorem forcesOnce_of_leaves (h : context = origin ∨ context = origin.forced ∨
    context = StagingTexture.refusedAllocation origin) : ForcesOnce origin context := by
  rcases h with rfl | rfl | rfl
  · exact forcesOnce_of_none rfl rfl
  · exact forcesOnce_forced origin
  · exact forcesOnce_of_none rfl rfl

/-- Every load has forced one submission at most. -/
theorem forcesOnce_load (h : origin.Streams) (texture : Texture) (region : Region)
    (data : ByteArray) (pitch : Nat) :
    (texture.load region data pitch).Meets (fun context => context = origin)
      (fun _ context => ForcesOnce origin context) fun _ context => ForcesOnce origin context := by
  refine .mono (meets_load h region data pitch) (fun _ h => h) ?_ ?_
  · rintro _ _ ⟨-, resource, layout, hresource, -, -, hloaded⟩
    exact hloaded.forcesOnce hresource
  · intro _ _ hrefused
    exact forcesOnce_of_leaves hrefused.leaves

/-- Every update that begins has forced one submission at most. -/
theorem forcesOnce_beginUpdate (h : origin.Streams) (texture : Texture) (region : Region) :
    (texture.beginUpdate region).Meets (fun context => context = origin)
      (fun _ context => ForcesOnce origin context) fun _ context => ForcesOnce origin context := by
  refine .mono (meets_beginUpdate h region) (fun _ h => h) ?_ ?_
  · rintro _ _ ⟨-, hreserved⟩
    exact hreserved.forcesOnce
  · intro _ _ hrefused
    exact forcesOnce_of_leaves (hrefused.leaves.imp_right .inl)

/-- Submissions that complete at once leave pending work to take up no room. -/
theorem not_exhausted_forced (h : origin.Streams) (hauto : origin.device.autoComplete = true)
    {size : Nat} (hsize : size ≤ origin.stream.ring.capacity) :
    origin.forced.stream.ring.reserve size origin.config.placementAlignment ≠ .refused := by
  apply Ring.not_refused_of_idle (idle_forced h hauto)
  rwa [capacity_forced]

/-- A reservation that the stream buffer can hold succeeds, at the latest after one submission,
unless the cursor cannot be aligned. -/
theorem room_reserveStream (h : origin.Streams) (hauto : origin.device.autoComplete = true)
    {size : Nat} (hsize : size ≤ origin.stream.ring.capacity) :
    (reserveStream size).Meets (fun context => context = origin) (fun _ _ => True)
      fun fault _ => fault = .abort ∧ CursorOverflows origin := by
  refine .mono (meets_reserveStream origin size) (fun _ h => h) (fun _ _ _ => trivial) ?_
  rintro _ _ (hexhausted | hcursor)
  · exact absurd hexhausted (not_exhausted_forced h hauto hsize)
  · exact ⟨rfl, hcursor⟩

/-- A streamed upload that fits the ring finds room, unless its cursor cannot be aligned. -/
theorem room_uploadStreaming (h : origin.Streams) (hauto : origin.device.autoComplete = true)
    (hresource : texture.resource = some resource) {layout : UploadLayout} (data : ByteArray)
    (hsize : layout.uploadSize ≤ origin.stream.ring.capacity) :
    (texture.uploadStreaming layout data).Meets (fun context => context = origin)
      (fun _ _ => True) fun fault _ => fault = .abort ∧ CursorOverflows origin := by
  refine .mono (meets_uploadStreaming h hresource layout data) (fun _ h => h)
    (fun _ _ _ => trivial) ?_
  rintro _ _ (hexhausted | hcursor)
  · exact absurd hexhausted (not_exhausted_forced h hauto hsize)
  · exact ⟨rfl, hcursor⟩

/-- An upload without a layout is not refused for want of room. -/
theorem NoLayout.not_exhausted {alignment : Nat} {fault : Fault}
    (h : NoLayout texture region alignment fault) (size : Nat) :
    fault ≠ .refused (.streamExhausted size) := by
  rintro rfl
  obtain ⟨hinvalid⟩ := h
  cases hinvalid

/-- Space is lacking for no upload. One that goes through the stream buffer is accepted, unless the
cursor cannot be aligned. -/
theorem room_load (h : origin.Streams) (hauto : origin.device.autoComplete = true)
    (region : Region) (data : ByteArray) (pitch : Nat) :
    (texture.load region data pitch).Meets (fun context => context = origin) (fun _ _ => True)
      fun fault _ => (∀ size, fault ≠ .refused (.streamExhausted size)) ∧
        ∀ layout, texture.uploadLayout region pitch origin.config.pitchAlignment = .ok layout →
          layout.validateSource data.size = .ok () →
          origin.stream.ring.capacity ≤ layout.uploadSize ∨
            fault = .abort ∧ CursorOverflows origin := by
  refine .get_of_eq (.through (fun layout context => context = origin ∧
    texture.uploadLayout region pitch origin.config.pitchAlignment = .ok layout)
    (.ofExcept ?_ ?_) fun layout => ?_)
  · rintro layout hlayout _ rfl
    exact ⟨rfl, hlayout⟩
  · rintro fault hfault _ rfl
    refine ⟨(noLayout_of_uploadLayout hfault).not_exhausted, ?_⟩
    intro layout hlayout
    cases hfault.symm.trans hlayout
  refine .through (fun _ context => context = origin ∧
    texture.uploadLayout region pitch origin.config.pitchAlignment = .ok layout ∧
    layout.validateSource data.size = .ok ()) (.mapError (.ofExcept ?_ ?_)) fun _ => .each ?_
  · rintro _ hvalid _ ⟨rfl, hlayout⟩
    exact ⟨rfl, hlayout, hvalid⟩
  · rintro error herror _ ⟨rfl, hlayout⟩
    have hinvalid := UploadLayout.isInvalid_of_validateSource herror
    refine ⟨(NoLayout.invalid hinvalid : NoLayout texture region 1 _).not_exhausted, ?_⟩
    intro other hother hvalid
    cases hlayout.symm.trans hother
    cases herror.symm.trans hvalid
  rintro _ ⟨rfl, hlayout, hvalid⟩
  obtain ⟨⟨resource, hresource⟩, -⟩ := checked_of_uploadLayout hlayout
  split
  · next hsize =>
    refine .refusing (room_uploadStreaming h hauto hresource data (Nat.le_of_lt hsize)) ?_
    rintro _ _ ⟨rfl, hcursor⟩
    refine ⟨fun size heq => ?_, fun _ _ _ => .inr ⟨rfl, hcursor⟩⟩
    cases heq
  · next hsize =>
    refine .mono (meets_uploadStaging h.pitch hresource hlayout hvalid) (fun _ h => h)
      (fun _ _ _ => trivial) ?_
    rintro _ _ ⟨⟨reason, rfl⟩, -⟩
    constructor
    · intro size heq
      cases heq
    · intro other hother _
      cases hlayout.symm.trans hother
      exact .inl (Nat.le_of_not_lt hsize)

/-- A region has no layout for an update only if the stream buffer can never hold it. -/
theorem room_updateLayout (region : Region) :
    (texture.updateLayout region).Meets (fun context => context = origin)
      (fun layout context => context = origin ∧
        texture.uploadLayout region 0 origin.config.pitchAlignment = .ok layout ∧
        layout.uploadSize < origin.stream.ring.capacity)
      fun _ _ => ∀ layout,
        texture.uploadLayout region 0 origin.config.pitchAlignment = .ok layout →
        origin.stream.ring.capacity ≤ layout.uploadSize := by
  refine .get_of_eq (.through (fun layout context => context = origin ∧
    texture.uploadLayout region 0 origin.config.pitchAlignment = .ok layout)
    (.ofExcept ?_ ?_) fun layout => ?_)
  · rintro layout hlayout _ rfl
    exact ⟨rfl, hlayout⟩
  · rintro error herror _ rfl layout hlayout
    cases herror.symm.trans hlayout
  split
  · next hsize =>
    apply Attempt.Meets.pure
    rintro _ ⟨rfl, hlayout⟩
    exact ⟨rfl, hlayout, hsize⟩
  · next hsize =>
    apply Attempt.Meets.after_log
    apply Attempt.Meets.refuse
    rintro _ ⟨rfl, hlayout⟩ other hother
    cases hlayout.symm.trans hother
    omega

/-- An update that the stream buffer can hold begins, unless the cursor cannot be aligned. -/
theorem room_beginUpdate (h : origin.Streams) (hauto : origin.device.autoComplete = true)
    (region : Region) :
    (texture.beginUpdate region).Meets (fun context => context = origin)
      (fun layout _ => texture.uploadLayout region 0 origin.config.pitchAlignment = .ok layout)
      fun fault _ => ∀ layout,
        texture.uploadLayout region 0 origin.config.pitchAlignment = .ok layout →
        origin.stream.ring.capacity ≤ layout.uploadSize ∨
          fault = .abort ∧ CursorOverflows origin := by
  refine .bind (.refusing (room_updateLayout region) ?_)
    fun layout => .each ?_
  · intro fault _ hlarge layout hlayout
    exact .inl (hlarge layout hlayout)
  rintro _ ⟨rfl, hlayout, hsize⟩
  have hroom := room_reserveStream h hauto (Nat.le_of_lt hsize)
  refine .bind (.refusing hroom ?_) fun _ => .pure fun _ _ => hlayout
  intro _ _ hoverflow _ _
  exact .inr hoverflow

/-- An update lacks space only if its region has a layout. -/
theorem UpdateRefused.layout_of_exhausted {size : Nat}
    (h : UpdateRefused texture region origin (.refused (.streamExhausted size)) context) :
    ∃ layout, texture.uploadLayout region 0 origin.config.pitchAlignment = .ok layout := by
  cases h with
  | layout hreason =>
    cases hreason with
    | none hnone => exact absurd rfl (hnone.not_exhausted size)
    | oversized hlayout => exact ⟨_, hlayout⟩
  | room hlayout => exact ⟨_, hlayout⟩

end Texture

namespace Session

open Context

variable {caller : Session SimulatedDevice} {slot : Nat}

/-- What a change of a texture promises of the context holds for the slot as well. -/
theorem meets_changeTexture {ε : Type}
    {change : Texture → Attempt ε (Context SimulatedDevice) Texture}
    {after : Texture → Context SimulatedDevice → Prop}
    {refused : ε → Context SimulatedDevice → Prop}
    (h : (change (caller.texture slot)).Meets (fun context => context = caller.context) after
      refused) :
    (changeTexture slot change).Meets (fun now => now = caller)
      (fun _ now => ∃ texture, after texture now.context)
      fun error now => refused error now.context := by
  refine .get_of_eq (.through (fun texture now => after texture now.context) ?_ fun texture => ?_)
  · apply Attempt.Meets.focus
    rintro _ rfl
    exact h
  · exact .lift fun now hafter => ⟨texture, hafter⟩

/-- So does what an update promises when it begins, up to the bytes written then. -/
theorem meets_beginUpdate {region : Region} {after : UploadLayout → Context SimulatedDevice → Prop}
    {refused : Fault → Context SimulatedDevice → Prop} (data : ByteArray)
    (h : ((caller.texture slot).beginUpdate region).Meets (fun context => context = caller.context)
      after refused) :
    (Session.beginUpdate slot region data).Meets (fun now => now = caller)
      (fun layout now => ∃ context, after layout context ∧
        now.context = context.withMemory now.context.stream.memory)
      fun error now => refused error now.context := by
  refine .get_of_eq ?_
  refine .through (fun layout now => after layout now.context) ?_ fun layout => ?_
  · apply Attempt.Meets.focus
    rintro _ rfl
    exact h
  refine .through (fun _ now => ∃ context, after layout context ∧
    now.context = context.withMemory now.context.stream.memory) (.lift ?_)
    fun _ => .pure fun _ h => h
  intro now hafter
  exact ⟨now.context, hafter, rfl⟩

/-- The ring of the stream buffer stays as large as it was opened. -/
theorem capacity_run {config : Config} {session : Session SimulatedDevice}
    (hopened : Opened config session) (operations : List Operation) :
    (session.run operations).context.stream.ring.capacity = config.streamSize := by
  have hopen := streams_opened hopened
  have hevolves := evolves_run hopen operations
  rw [(hevolves.streams hopen).capacity, hevolves.continues.capacity]
  obtain ⟨-, -, rfl⟩ := opened_iff.mp hopened
  rfl

/-- A load is never refused because the stream buffer is exhausted, and one that fits the ring with
a byte to spare is accepted unless the cursor cannot be aligned. It forces one submission at most.
-/
theorem load_has_room (h : caller.context.Streams)
    (hauto : caller.context.device.autoComplete = true) (slot : Nat) (region : Region)
    (data : ByteArray) (pitch : Nat) :
    let loaded := (load slot region data pitch).run caller
    (∀ size, loaded.value ≠ .error (.refused (.streamExhausted size))) ∧
    (∀ layout, (caller.texture slot).uploadLayout region pitch
        caller.context.config.pitchAlignment = .ok layout →
      layout.validateSource data.size = .ok () →
      layout.uploadSize < caller.context.stream.ring.capacity →
      loaded.value = .ok () ∨
        loaded.value = .error .abort ∧ Texture.CursorOverflows caller.context) ∧
    ForcesOnce caller.context loaded.state.context := by
  intro loaded
  have hload : (load slot region data pitch).Meets _ _ _ := meets_changeTexture
    ((Texture.room_load h hauto region data pitch).both
      (Texture.forcesOnce_load h _ region data pitch))
  obtain ⟨hok, herror⟩ := hload.of_run rfl
  cases hvalue : loaded.value with
  | ok value =>
    obtain ⟨texture, -, honce⟩ := hok value hvalue
    refine ⟨?_, fun _ _ _ _ => .inl rfl, honce⟩
    intro size heq
    cases heq
  | error fault =>
    obtain ⟨⟨hnever, hlarge⟩, honce⟩ := herror fault hvalue
    refine ⟨fun size heq => hnever size (Except.error.inj heq), ?_, honce⟩
    intro layout hlayout hvalid hsize
    obtain hlarge | ⟨rfl, hcursor⟩ := hlarge layout hlayout hvalid
    · omega
    · exact .inr ⟨rfl, hcursor⟩

/-- An update is refused because the stream buffer is exhausted only if it leaves no byte of the
ring free, and a smaller one begins unless the cursor cannot be aligned. It forces one submission at
most. -/
theorem beginUpdate_has_room (h : caller.context.Streams)
    (hauto : caller.context.device.autoComplete = true) (slot : Nat) (region : Region)
    (data : ByteArray) :
    let begun := (beginUpdate slot region data).run caller
    (∀ size, begun.value = .error (.refused (.streamExhausted size)) → ∃ layout,
      (caller.texture slot).uploadLayout region 0 caller.context.config.pitchAlignment =
        .ok layout ∧ caller.context.stream.ring.capacity ≤ layout.uploadSize) ∧
    (∀ layout, (caller.texture slot).uploadLayout region 0
        caller.context.config.pitchAlignment = .ok layout →
      layout.uploadSize < caller.context.stream.ring.capacity →
      begun.value = .ok layout ∨
        begun.value = .error .abort ∧ Texture.CursorOverflows caller.context) ∧
    ForcesOnce caller.context begun.state.context := by
  intro begun
  have hbegin : (beginUpdate slot region data).Meets _ _ _ := meets_beginUpdate data
    ((Texture.room_beginUpdate h hauto region).both
      ((Texture.forcesOnce_beginUpdate h _ region).both (Texture.meets_beginUpdate h region)))
  obtain ⟨hok, herror⟩ := hbegin.of_run rfl
  cases hvalue : begun.value with
  | ok layout =>
    obtain ⟨_, ⟨hlayout, honce, -⟩, hwritten⟩ := hok layout hvalue
    refine ⟨?_, ?_, honce.silent (by rw [hwritten]; rfl) (by rw [hwritten]; rfl)⟩
    · intro size heq
      cases heq
    · intro other hother _
      cases hlayout.symm.trans hother
      exact .inl rfl
  | error fault =>
    obtain ⟨hlarge, honce, hrefused⟩ := herror fault hvalue
    refine ⟨?_, ?_, honce⟩
    · intro size heq
      cases heq
      obtain ⟨layout, hlayout⟩ := hrefused.layout_of_exhausted
      obtain hlarge | ⟨habort, -⟩ := hlarge layout hlayout
      · exact ⟨layout, hlayout, hlarge⟩
      · cases habort
    · intro layout hlayout hsize
      obtain hlarge | ⟨rfl, hcursor⟩ := hlarge layout hlayout
      · omega
      · exact .inr ⟨rfl, hcursor⟩

/-- Whatever was called on a ring before, once one more submission was tracked and has completed a
reservation of any size that the ring can hold succeeds at its start. So with submissions that
complete at once an upload that the stream buffer can hold is accepted and its update begins, none
is refused for lack of room but an update larger than the buffer, and each forces at most one
submission. The program ends at an upload only where the cursor is at the end of a stream buffer
that the alignment takes to 2 ^ 32. -/
theorem one_submission_makes_room {config : Config} {session : Session SimulatedDevice}
    (hopened : Opened config session)
    (hword : config.streamSize + (config.placementAlignment - 1) ≤ maxWord)
    (operations : List Operation) (hcaller : caller.context = (session.run operations).context)
    (hauto : caller.context.device.autoComplete = true) (slot : Nat) (region : Region) :
    (∀ capacity calls fence completed, (∀ call ∈ calls, call.Admissible capacity) →
      ((calls ++ [Ring.Call.track fence]).filterMap Ring.Call.fence?).Pairwise (· < ·) →
      fence ≤ completed →
      let now := (Ring.Traffic.start capacity).run (calls ++ [.track fence, .reclaim completed])
      ∀ size ≤ capacity, ∀ alignment ≤ maxWord, ∃ ring,
        now.ring.reserve size alignment = .granted ring ∧ ring.cursor = 0 ∧
        ring.reserved = some size) ∧
    alignUp? caller.context.stream.ring.cursor config.placementAlignment =
      some (alignUp caller.context.stream.ring.cursor config.placementAlignment) ∧
    let atLimit := caller.context.stream.ring.cursor = config.streamSize ∧
      config.streamSize + config.placementAlignment = maxWord + 1
    (∀ data pitch,
      let loaded := (load slot region data pitch).run caller
      (∀ size, loaded.value ≠ .error (.refused (.streamExhausted size))) ∧
      (∀ layout,
        (caller.texture slot).uploadLayout region pitch config.pitchAlignment = .ok layout →
        layout.validateSource data.size = .ok () → layout.uploadSize < config.streamSize →
        loaded.value = .ok () ∨ loaded.value = .error .abort ∧ atLimit) ∧
      ForcesOnce caller.context loaded.state.context) ∧
    ∀ data,
      let begun := (beginUpdate slot region data).run caller
      (∀ size, begun.value = .error (.refused (.streamExhausted size)) → ∃ layout,
        (caller.texture slot).uploadLayout region 0 config.pitchAlignment = .ok layout ∧
        config.streamSize ≤ layout.uploadSize) ∧
      (∀ layout, (caller.texture slot).uploadLayout region 0 config.pitchAlignment = .ok layout →
        layout.uploadSize < config.streamSize →
        begun.value = .ok layout ∨ begun.value = .error .abort ∧ atLimit) ∧
      ForcesOnce caller.context begun.state.context := by
  have hopen := streams_opened hopened
  have hevolves := evolves_run hopen operations
  have hstreams : caller.context.Streams := hcaller ▸ hevolves.streams hopen
  have hcapacity : caller.context.stream.ring.capacity = config.streamSize :=
    hcaller ▸ capacity_run hopened operations
  have hconfig : caller.context.config = config := by
    rw [hcaller, hevolves.continues.config]
    obtain ⟨-, -, rfl⟩ := opened_iff.mp hopened
    rfl
  have hpower : config.placementAlignment.isPowerOfTwo := hconfig ▸ hstreams.placement
  have hcursor := hstreams.inside.cursor_le
  rw [← hstreams.capacity] at hcursor
  have hlimit : Texture.CursorOverflows caller.context →
      caller.context.stream.ring.cursor = config.streamSize ∧
        config.streamSize + config.placementAlignment = maxWord + 1 := by
    intro hover
    rw [Texture.CursorOverflows, hconfig] at hover
    omega
  refine ⟨?_, (alignUp?_eq_some_iff hpower).mpr ⟨by omega, rfl⟩, ?_⟩
  · intro capacity calls fence completed hadmissible hincreasing hcompleted now size hsize
      alignment halignment
    obtain ⟨hidle, hsame⟩ :=
      Ring.Traffic.idle_run_completed calls hadmissible hincreasing hcompleted
    exact ⟨_, Ring.reserve_of_idle hidle (by rwa [hsame]) halignment, rfl, rfl⟩
  intro atLimit
  constructor
  · intro data pitch
    obtain ⟨hnever, haccepted, honce⟩ := load_has_room hstreams hauto slot region data pitch
    rw [hcapacity, hconfig] at haccepted
    refine ⟨hnever, fun layout hlayout hvalid hsize => ?_, honce⟩
    exact (haccepted layout hlayout hvalid hsize).imp_right fun h => ⟨h.1, hlimit h.2⟩
  · intro data
    obtain ⟨hlarge, hbegun, honce⟩ := beginUpdate_has_room hstreams hauto slot region data
    rw [hcapacity, hconfig] at hlarge hbegun
    refine ⟨hlarge, fun layout hlayout hsize => ?_, honce⟩
    exact (hbegun layout hlayout hsize).imp_right fun h => ⟨h.1, hlimit h.2⟩

/-- A reservation that nobody committed has moved the cursor of a ring off its read position; one
more submission that completes makes all of its room available. Two uploads, made while completion
was held back, fill a stream buffer. Once submissions complete at once again, a third upload and an
update of the same size force one submission each. -/
theorem one_submission_makes_room_full :
    let config : Config := { streamSize := 64, pitchAlignment := 4, placementAlignment := 8 }
    let region : Region := ⟨0, 0, 4, 2⟩
    let data : ByteArray := ⟨Array.replicate 32 7⟩
    let operations : List Operation := [.setAutoComplete false,
      .create 0 { width := 4, height := 4, layers := 1, levels := 1, samples := 1,
                  format := .rgba8Unorm } {}, .load 0 region data 16, .load 0 region data 16,
      .setAutoComplete true]
    let caller := (opening config).run operations
    let loaded := (load 0 region data 16).run caller
    let begun := (beginUpdate 0 region data).run caller
    (∃ ring, ((Ring.Traffic.start 32).run [.reserve 5 1, .commit 5, .track 1, .reserve 4 8,
      .reclaim 1, .track 2, .reclaim 2]).ring.reserve 32 1 = .granted ring ∧ ring.cursor = 0 ∧
      ring.reserved = some 32) ∧
    caller.context.device.autoComplete = true ∧
    (∀ size, loaded.value ≠ .error (.refused (.streamExhausted size))) ∧
    loaded.state.context.stats.forcedSubmissions = 1 ∧
    ForcesOnce caller.context loaded.state.context ∧
    (∀ size, begun.value ≠ .error (.refused (.streamExhausted size))) ∧
    begun.state.context.stats.forcedSubmissions = 1 ∧
    ForcesOnce caller.context begun.state.context := by
  intro config region data operations caller loaded begun
  have hopened : Opened config (opening config) :=
    opened_iff.mpr ⟨Config.validate_eq_ok_iff.mpr (by decide), by decide, rfl⟩
  have hauto : caller.context.device.autoComplete = true := by decide +kernel
  obtain ⟨hring, -, hload, hbegin⟩ :=
    @one_submission_makes_room caller config (opening config) hopened (by decide) operations rfl
      hauto 0 region
  obtain ⟨hnever, -, hloaded⟩ := hload data 16
  obtain ⟨-, hroom, hbegun⟩ := hbegin data
  have hlayout : begun.value = .ok (.ofRegion region 4 0 4) :=
    (hroom _ (by decide +kernel) (by decide +kernel)).resolve_right fun habort => by
      exact absurd habort.2.2 (by decide)
  have hreserve := hring 32 [.reserve 5 1, .commit 5, .track 1, .reserve 4 8, .reclaim 1] 2 2
    (by decide) (by decide) (by decide) 32 (by decide) 1 (by decide)
  refine ⟨hreserve, hauto, hnever, by decide +kernel, hloaded, ?_, by decide +kernel, hbegun⟩
  intro size heq
  cases hlayout.symm.trans heq

end Session

end Texel
