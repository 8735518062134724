import Texel.Proofs.Session.Operation

namespace Texel

open Simulated Context

namespace Texture

variable {texture : Texture} {resource : ResourceId} {layout : UploadLayout}
  {moment now : Context SimulatedDevice}

/-- The copy of an upload lies within the stream buffer, and its bytes stay what they are until its
submission completes. -/
theorem streamed_stays {reserved index : Nat} {request : BufferCopy} (hstreams : moment.Streams)
    (hreserved : moment.stream.ring.reserved = some reserved)
    (hsize : layout.uploadSize ≤ reserved) (hpositive : 0 < layout.uploadSize)
    (hindex : moment.device.commands.size ≤ index)
    (hcopy : (texture.streamed resource layout moment).device.commands[index]? =
      some (.copy request))
    (hnow : Evolves (texture.streamed resource layout moment) now) :
    request = texture.streamCopy resource layout moment ∧
      request.sourceOffset + request.rowPitch * request.region.height ≤ moment.stream.memory.size ∧
      (now.device.IsPending index → ∀ position, request.sourceOffset ≤ position →
        position < request.sourceOffset + request.rowPitch * request.region.height →
        now.stream.memory.byteAt position = moment.stream.memory.byteAt position) := by
  have hstreamed : Evolves moment (texture.streamed resource layout moment) :=
    evolves_streamed hreserved hsize
  obtain rfl := copy_streamed hindex hcopy
  refine ⟨rfl, ?_, ?_⟩
  · have hend := hstreams.inside.reserved_le _ hreserved
    change moment.stream.ring.cursor + layout.uploadSize ≤ moment.stream.memory.size
    omega
  · intro hpending position hlow hhigh
    have hlt : index < (texture.streamed resource layout moment).device.commands.size :=
      (Array.getElem?_eq_some_iff.mp hcopy).1
    have hfence : now.device.fenceOf index = moment.device.currentFence := by
      rw [hnow.continues.fenceOf index hlt]
      exact SimulatedDevice.fenceOf_eq_currentFence hstreams.dated hindex
    have hshields := hnow.shields (hstreamed.streams hstreams) hpositive
      (shields_streamed hstreams hreserved hsize)
    rw [SimulatedDevice.IsPending, hfence] at hpending
    exact (hshields hpending).2.2 position hlow hhigh

/-- An upload has led from `origin` to `next`, and its last step took a reservation that covers it
as written. -/
def TakenAsWritten (origin next : Context SimulatedDevice) : Prop :=
  ∃ (texture : Texture) (resource : ResourceId) (layout : UploadLayout)
    (moment : Context SimulatedDevice) (reserved : Nat),
    texture.resource = some resource ∧ 0 < layout.uploadSize ∧ Evolves origin moment ∧
      moment.device.commands = origin.device.commands ∧
      moment.stream.ring.reserved = some reserved ∧ layout.uploadSize ≤ reserved ∧
      next = texture.streamed resource layout moment

section Recording

variable {origin : Context SimulatedDevice} {index : Nat} {request : BufferCopy} {region : Region}

/-- Something was recorded if a command stands where there was none. -/
theorem commands_ne {next : Context SimulatedDevice} (hindex : origin.device.commands.size ≤ index)
    (hcopy : next.device.commands[index]? = some (.copy request)) :
    next.device.commands ≠ origin.device.commands := by
  intro heq
  rw [heq, Array.getElem?_eq_none hindex] at hcopy
  cases hcopy

/-- Bytes that a load copies from the ring are taken as it has written them. -/
theorem takenAsWritten_load {data : ByteArray} {pitch : Nat} (h : origin.Streams)
    (hindex : origin.device.commands.size ≤ index)
    (hcopy : ((texture.load region data pitch).run origin).state.device.commands[index]? =
      some (.copy request)) (hsource : request.source = origin.stream.resource) :
    TakenAsWritten origin ((texture.load region data pitch).run origin).state := by
  have hrecorded := commands_ne hindex hcopy
  obtain ⟨hok, herror⟩ := (meets_load h region data pitch).of_run rfl
  cases hvalue : ((texture.load region data pitch).run origin).value with
  | error error =>
    refine absurd ?_ hrecorded
    rcases (herror error hvalue).leaves with heq | heq | heq
    · rw [heq]
    · rw [heq]
      exact (records_nothing_forced _).1
    · rw [heq]
      rfl
  | ok value =>
    obtain ⟨-, resource, layout, hresource, hlayout, -, hloaded⟩ := hok value hvalue
    generalize ((texture.load region data pitch).run origin).state = next at hcopy hloaded ⊢
    cases hloaded with
    | @streaming base hsize hbase =>
      exact ⟨texture, resource, layout, filled layout data base, layout.uploadSize, hresource,
        uploadSize_pos h.pitch hlayout,
        hbase.evolves.trans (evolves_filled layout data hbase.reserved), hbase.commands,
        hbase.reserved, Nat.le_refl _, rfl⟩
    | staging hsize hpitch =>
      obtain ⟨-, hsteady⟩ := meets_finishStaging hresource
        (texture.stagingOf layout data ⟨origin.device.nextId⟩) layout _ rfl
      rw [hsteady.timeline.commands] at hcopy
      obtain rfl := copy_of_bracketed hindex hcopy
      -- a staging buffer is newer than the stream buffer
      have hnewer := h.identifier
      rw [← hsource] at hnewer
      exact absurd hnewer (Nat.lt_irrefl _)

/-- Bytes that the end of an update copies are taken as they were written. -/
theorem takenAsWritten_endUpdate (h : origin.Streams)
    (hindex : origin.device.commands.size ≤ index)
    (hcopy : ((texture.endUpdate region).run origin).state.device.commands[index]? =
      some (.copy request)) :
    TakenAsWritten origin ((texture.endUpdate region).run origin).state := by
  have hrecorded := commands_ne hindex hcopy
  obtain ⟨hok, herror⟩ := (meets_endUpdate region).of_run rfl
  cases hvalue : ((texture.endUpdate region).run origin).value with
  | error error => exact absurd (congrArg (·.device.commands) (herror error hvalue)) hrecorded
  | ok value =>
    obtain ⟨-, resource, layout, reserved, hresource, hlayout, hreserved, hsize, hstate⟩ :=
      hok value hvalue
    exact ⟨texture, resource, layout, origin, reserved, hresource, uploadSize_pos h.pitch hlayout,
      .refl, rfl, hreserved, hsize, hstate⟩

end Recording

end Texture

/-- The operations that record copies from the stream buffer. -/
def Operation.isUpload : Operation → Bool
  | .load .. | .endUpdate .. => true
  | _ => false

namespace Session

/-- A copy that an upload operation records from the stream buffer is recorded by the last step of
the operation, out of a reservation that covers it. -/
theorem upload_streamed {session : Session SimulatedDevice} (h : session.context.Streams)
    {operation : Operation} (hupload : operation.isUpload = true) {index : Nat}
    {request : BufferCopy} (hindex : session.context.device.commands.size ≤ index)
    (hcopy : (operation.after session).context.device.commands[index]? = some (.copy request))
    (hsource : request.source = session.context.stream.resource) :
    Texture.TakenAsWritten session.context (operation.after session).context := by
  cases operation with
  | load slot region data pitch =>
    have hcontext : (Operation.after (.load slot region data pitch) session).context =
        (((session.texture slot).load region data pitch).run session.context).state :=
      context_changeTexture session slot fun texture => texture.load region data pitch
    rw [hcontext] at hcopy ⊢
    exact Texture.takenAsWritten_load h hindex hcopy hsource
  | endUpdate slot region =>
    have hcontext : (Operation.after (.endUpdate slot region) session).context =
        (((session.texture slot).endUpdate region).run session.context).state :=
      context_changeTexture session slot fun texture => texture.endUpdate region
    rw [hcontext] at hcopy ⊢
    exact Texture.takenAsWritten_endUpdate h hindex hcopy
  | _ => cases hupload

/-- Whatever is done before and after: a copy that an upload records from the stream buffer lies
within it, was recorded by the last step of the upload out of the bytes that the stream buffer held
then, and finds those bytes there until the submission that contains it completes. The cursor of
the stream buffer can always be aligned within 32 bits. -/
theorem upload_bytes_stay_in_flight {config : Config} {session : Session SimulatedDevice}
    (hopened : Opened config session)
    (hword : config.streamSize + (config.placementAlignment - 1) ≤ maxWord)
    (before : List Operation) (operation : Operation) (hupload : operation.isUpload = true)
    (later : List Operation) :
    let origin := (session.run before).context
    let recorded := (session.run (before ++ [operation])).context
    let now := (session.run (before ++ operation :: later)).context
    (∀ index request, origin.device.commands.size ≤ index →
      recorded.device.commands[index]? = some (.copy request) →
      request.source = recorded.stream.resource →
      now.device.commands[index]? = some (.copy request) ∧
      request.sourceOffset + request.rowPitch * request.region.height ≤
        recorded.stream.memory.size ∧
      (∃ texture layout moment,
        recorded = ((Texture.finishStream texture layout).run moment).state ∧
        moment.device.commands = origin.device.commands ∧
        moment.stream.memory = recorded.stream.memory) ∧
      (now.device.IsPending index → ∀ position, request.sourceOffset ≤ position →
        position < request.sourceOffset + request.rowPitch * request.region.height →
        now.stream.memory.byteAt position = recorded.stream.memory.byteAt position)) ∧
    alignUp? now.stream.ring.cursor config.placementAlignment =
      some (alignUp now.stream.ring.cursor config.placementAlignment) := by
  intro origin recorded now
  have hopen : session.context.Streams := streams_opened hopened
  have horigin : Evolves session.context origin := evolves_run hopen before
  have hrecorded : recorded = (operation.after (session.run before)).context := by
    change (session.run (before ++ [operation])).context = _
    rw [run_append]
    rfl
  have hnow : Evolves recorded now := by
    have hafter := (evolves_run hopen (before ++ [operation])).streams hopen
    have hsplit : session.run (before ++ operation :: later) =
        (session.run (before ++ [operation])).run later := by
      rw [← run_append, List.append_assoc]
      rfl
    change Evolves recorded (session.run (before ++ operation :: later)).context
    rw [hsplit]
    exact evolves_run hafter later
  refine ⟨?_, ?_⟩
  · intro index request hindex hcopy hsource
    have hafter : now.device.commands[index]? = some (.copy request) := by
      obtain ⟨more, hmore⟩ := hnow.continues.commands
      rw [hmore, Array.getElem?_append_left (Array.getElem?_eq_some_iff.mp hcopy).1, hcopy]
    have hbuffer : recorded.stream.resource = origin.stream.resource := by
      rw [hrecorded]
      exact (evolves_act (horigin.streams hopen) operation _ .refl).continues.resource
    obtain ⟨texture, resource, layout, moment, reserved, hresource, hpositive, hmoment, hcommands,
      hreserved, hsize, hstreamed⟩ := upload_streamed (horigin.streams hopen) hupload hindex
        (hrecorded ▸ hcopy) (hsource.trans hbuffer)
    rw [← hrecorded] at hstreamed
    rw [hstreamed] at hcopy hnow
    obtain ⟨-, hend, hstays⟩ := Texture.streamed_stays
      (hmoment.streams (horigin.streams hopen)) hreserved hsize hpositive
      (hcommands ▸ hindex) hcopy hnow
    have hmemory : recorded.stream.memory = moment.stream.memory :=
      congrArg (·.stream.memory) hstreamed
    rw [hmemory]
    exact ⟨hafter, hend, ⟨texture, layout, moment,
      hstreamed.trans (Texture.run_finishStream hresource hreserved hsize).2.symm, hcommands,
      rfl⟩, hstays⟩
  · have hevolves := evolves_run hopen (before ++ operation :: later)
    have hstreams := hevolves.streams hopen
    have hcursor := hstreams.inside.cursor_le
    have hplacement := hstreams.placement
    obtain ⟨-, -, rfl⟩ := opened_iff.mp hopened
    rw [hevolves.continues.capacity] at hcursor
    rw [hevolves.continues.config] at hplacement
    change now.stream.ring.cursor ≤ config.streamSize at hcursor
    change config.placementAlignment.isPowerOfTwo at hplacement
    exact (alignUp?_eq hplacement).trans (if_pos (by omega))

/-- With completion held back, the bytes of a first upload outlast a submission and another upload
of the same pixels in reverse. -/
theorem upload_bytes_stay_in_flight_held :
    let config : Config := { streamSize := 64, pitchAlignment := 4, placementAlignment := 8 }
    let before : List Operation := [.setAutoComplete false,
      .create 0 { width := 2, height := 1, layers := 1, levels := 1, samples := 1,
                  format := .rgba8Unorm } {}]
    let operation : Operation := .load 0 ⟨0, 0, 2, 1⟩ ⟨#[1, 2, 3, 4, 5, 6, 7, 8]⟩ 8
    let later : List Operation := [.submit false,
      .load 0 ⟨0, 0, 2, 1⟩ ⟨#[8, 7, 6, 5, 4, 3, 2, 1]⟩ 8]
    let recorded := ((opening config).run (before ++ [operation])).context
    let now := ((opening config).run (before ++ operation :: later)).context
    now.device.IsPending 1 ∧ ∀ position < 8,
      now.stream.memory.byteAt position = recorded.stream.memory.byteAt position := by
  intro config before operation later recorded now
  have hopened : Opened config (opening config) :=
    opened_iff.mpr ⟨Config.validate_eq_ok_iff.mpr (by decide), by decide, rfl⟩
  have hcopy : recorded.device.commands[1]? =
      some (.copy ⟨⟨1⟩, 0, 8, .rgba8Unorm, ⟨2⟩, ⟨0, 0, 2, 1⟩⟩) := by decide +kernel
  have hpending : now.device.IsPending 1 := by
    unfold SimulatedDevice.IsPending
    decide +kernel
  obtain ⟨hstays, -⟩ :=
    upload_bytes_stay_in_flight hopened (by decide) before operation rfl later
  obtain ⟨-, -, -, hbytes⟩ := hstays 1 _ (by decide +kernel) hcopy (by decide +kernel)
  -- both sides name the runs in full, so that nothing is evaluated to compare them
  have hnow : now = ((opening config).run (before ++ operation :: later)).context := rfl
  have hrecorded : recorded = ((opening config).run (before ++ [operation])).context := rfl
  rw [hnow] at hpending
  rw [hnow, hrecorded]
  refine ⟨hpending, fun position hposition => ?_⟩
  have hwithin : position < 0 + 8 * 1 := hposition
  exact hbytes hpending position (Nat.zero_le position) hwithin

end Session

end Texel
