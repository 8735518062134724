import Texel.Proofs.Session.Limits
import Texel.Proofs.Session.Refusal
import Texel.Proofs.Texture.Pixels
import Texel.Proofs.Texture.Update

namespace Texel

open Simulated Context

namespace Operation

/-- The operation is accepted and has reserved space in the stream buffer: an update that begins, or
an upload that the stream buffer has room for. -/
def reserves (operation : Operation) (session : Session SimulatedDevice) : Bool :=
  match operation with
  | .load slot region data pitch =>
    ((Session.load slot region data pitch).run session).value.isOk &&
      match (session.texture slot).uploadLayout region pitch
        session.context.config.pitchAlignment with
      | .ok layout => decide (layout.uploadSize < session.context.stream.ring.capacity)
      | .error _ => false
  | .beginUpdate slot region data =>
    ((Session.beginUpdate slot region data).run session).value.isOk
  | _ => false

/-- The operation ends an update. -/
def ends (operation : Operation) (session : Session SimulatedDevice) : Bool :=
  match operation with
  | .endUpdate slot region => ((Session.endUpdate slot region).run session).value.isOk
  | _ => false

end Operation

namespace Session

variable {session next : Session SimulatedDevice} {slot : Nat} {operation : Operation}

/-- Each operation of a run meets a condition in the session that it finds. -/
def Throughout (condition : Operation → Session SimulatedDevice → Prop)
    (session : Session SimulatedDevice) : List Operation → Prop
  | [] => True
  | operation :: rest =>
    condition operation session ∧ (operation.after session).Throughout condition rest

/-- Whatever neither reserves nor ends an update leaves the write side of the ring alone. -/
theorem pends_operation (hstreams : session.context.Streams)
    (hreserves : operation.reserves session = false) (hends : operation.ends session = false) :
    Pends session.context (operation.after session).context := by
  cases operation with
  | load target region data pitch =>
    have hcontext := context_changeTexture session target fun texture =>
      texture.load region data pitch
    change Pends session.context
      ((discard (Session.load target region data pitch).act).run session).state.context
    rw [Session.load, hcontext]
    obtain ⟨hok, herror⟩ :=
      (@Texture.meets_load (session.texture target) _ hstreams region data pitch).of_run rfl
    cases hvalue :
        (((session.texture target).load region data pitch).run session.context).value with
    | error fault => exact (herror fault hvalue).pends
    | ok value =>
      obtain ⟨-, resource, layout, hresource, hlayout, -, hloaded⟩ := hok value hvalue
      have haccepted : ((Session.load target region data pitch).run session).value = .ok () :=
        (changeTexture_ok hvalue).1
      simp only [Operation.reserves, haccepted, hlayout, Except.isOk, Except.toBool,
        Bool.true_and, decide_eq_false_iff_not, Nat.not_lt] at hreserves
      exact hloaded.pends hresource hreserves
  | beginUpdate target region data =>
    cases hvalue : ((Session.beginUpdate target region data).run session).value with
    | ok layout =>
      simp only [Operation.reserves, hvalue, Except.isOk, Except.toBool] at hreserves
      cases hreserves
    | error error =>
      obtain ⟨context, hstate, hrefused⟩ := refused_beginUpdate hstreams hvalue
      have hafter : (Operation.beginUpdate target region data).after session =
          { session with context } := hstate
      rw [hafter]
      exact hrefused.pends
  | endUpdate target region =>
    cases hvalue : ((Session.endUpdate target region).run session).value with
    | ok =>
      simp only [Operation.ends, hvalue, Except.isOk, Except.toBool] at hends
      cases hends
    | error error =>
      obtain ⟨context, hstate, rfl⟩ :=
        refused_changeTexture (Texture.meets_endUpdate region) hvalue
      have hafter : (Operation.endUpdate target region).after session = session := hstate
      rw [hafter]
      exact .refl _
  | _ => exact keeps_act (lasts_pends session.context) rfl session (.refl _)

/-- What each operation preserves under a condition is preserved by a run that meets it. -/
theorem run_throughout {P : Session SimulatedDevice → Prop}
    {condition : Operation → Session SimulatedDevice → Prop}
    (hstep : ∀ session operation, P session → condition operation session →
      P (Operation.after operation session)) (h : P session) {operations : List Operation}
    (hcondition : session.Throughout condition operations) : P (session.run operations) := by
  induction operations generalizing session with
  | nil => exact h
  | cons operation rest ih => exact ih (hstep session operation h hcondition.1) hcondition.2

/-- The operation neither takes the ring nor displaces the texture in a slot. -/
def Waits (slot : Nat) (operation : Operation) (session : Session SimulatedDevice) : Prop :=
  operation.reserves session = false ∧ operation.ends session = false ∧
    operation.displaces slot session = false

/-- What waits through every operation of a run waits through the run. -/
theorem pends_run (hstreams : session.context.Streams) {operations : List Operation}
    (h : session.Throughout (Waits slot) operations) :
    Pends session.context (session.run operations).context ∧
      (session.texture slot).Resembles ((session.run operations).texture slot) := by
  refine (run_throughout (P := fun now => now.context.Streams ∧ Pends session.context now.context ∧
    (session.texture slot).Resembles (now.texture slot)) ?_ ⟨hstreams, .refl _, .refl _⟩ h).2
  rintro now operation ⟨hnow, hpends, hresembles⟩ ⟨hreserves, hends, hdisplaces⟩
  exact ⟨streams_after hnow operation, hpends.trans (pends_operation hnow hreserves hends),
    hresembles.trans (resembles_operation hnow hdisplaces)⟩

/-- Without a reservation every update that is to end is refused, and nothing changes. -/
theorem endUpdate_unreserved (hreserved : session.context.stream.ring.reserved = none)
    (slot : Nat) (region : Region) :
    ∃ error, ((Session.endUpdate slot region).run session).value = .error error ∧
      ((Session.endUpdate slot region).run session).state = session := by
  obtain ⟨error, hvalue⟩ := @Texture.endUpdate_unreserved (session.texture slot) region _ hreserved
  obtain ⟨herror, -⟩ :=
    @changeTexture_error _ session slot (fun texture => texture.endUpdate region) error hvalue
  obtain ⟨context, hstate, rfl⟩ := refused_changeTexture (Texture.meets_endUpdate region) herror
  exact ⟨error, herror, hstate⟩

/-- No reservation appears where none is made. -/
theorem unreserved_run (hstreams : session.context.Streams)
    (hreserved : session.context.stream.ring.reserved = none) {operations : List Operation}
    (h : session.Throughout (fun operation now => operation.reserves now = false) operations) :
    (session.run operations).context.stream.ring.reserved = none := by
  refine (run_throughout (P := fun now => now.context.Streams ∧
    now.context.stream.ring.reserved = none) ?_ ⟨hstreams, hreserved⟩ h).2
  rintro now operation ⟨hnow, hnone⟩ hreserves
  have hends : operation.ends now = false := by
    cases operation with
    | endUpdate slot region =>
      obtain ⟨error, hvalue, -⟩ := endUpdate_unreserved hnone slot region
      simp only [Operation.ends, hvalue, Except.isOk, Except.toBool]
    | _ => rfl
  exact ⟨streams_after hnow operation, (pends_operation hnow hreserves hends).reserved.trans hnone⟩

/-- Wherever a run has got to, an update that is to end without a reservation is refused for a
reason. It does not end the program. -/
theorem endUpdate_refused {config : Config} (hopened : Opened config session)
    (hword : config.pitchAlignment ≤ maxWord) (operations : List Operation)
    (hreserved : (session.run operations).context.stream.ring.reserved = none) (slot : Nat)
    (region : Region) :
    let now := session.run operations
    ∃ error, ((Session.endUpdate slot region).run now).value = .error (.refused error) ∧
      ((Session.endUpdate slot region).run now).state = now := by
  intro now
  have hevolves := evolves_run (streams_opened hopened) operations
  have hlimits : (now.texture slot).WithinLimits := limited_run hopened operations slot
  obtain ⟨hvalid, -, rfl⟩ := opened_iff.mp hopened
  obtain ⟨-, hpower, -⟩ := Config.validate_eq_ok_iff.mp hvalid
  have hconfig : now.context.config = config := hevolves.continues.config
  obtain ⟨fault, hfault⟩ := @Texture.endUpdate_unreserved (now.texture slot) region _ hreserved
  obtain ⟨-, -, hstate⟩ := endUpdate_unreserved hreserved slot region
  cases fault with
  | refused error =>
    obtain ⟨hvalue, -⟩ :=
      @changeTexture_error _ now slot (fun texture => texture.endUpdate region) _ hfault
    exact ⟨error, hvalue, hstate⟩
  | abort =>
    have hne := Texture.endUpdate_ne_abort hlimits (hconfig ▸ hpower) (hconfig ▸ hword) region
    exact absurd hfault hne

/-- An update that begins has reserved its bytes and written them at the cursor. -/
theorem accepted_beginUpdate (hstreams : session.context.Streams) {region : Region}
    {data : ByteArray} {layout : UploadLayout}
    (h : ((Session.beginUpdate slot region data).run session).value = .ok layout) :
    (session.texture slot).uploadLayout region 0 session.context.config.pitchAlignment =
        .ok layout ∧ layout.uploadSize < session.context.stream.ring.capacity ∧
      ∃ base, Reserved session.context layout.uploadSize base ∧
        ((Session.beginUpdate slot region data).run session).state = { session with
          context := base.withMemory (base.stream.memory.write base.stream.ring.cursor data 0
            layout.uploadSize) } := by
  have hbegin : ((session.texture slot).beginUpdate region).Meets _ _ _ :=
    Texture.meets_beginUpdate hstreams region
  obtain ⟨hok, -⟩ := hbegin.of_run rfl
  simp only [Session.beginUpdate, Attempt.run_bind, Attempt.run_get, tryContext,
    Attempt.run_focus] at h ⊢
  cases hvalue : (((session.texture slot).beginUpdate region).run session.context).value with
  | ok begun =>
    simp only [hvalue, Attempt.run_lift, Attempt.run_pure] at h ⊢
    cases h
    obtain ⟨⟨hlayout, hsize⟩, hreserved⟩ := hok layout hvalue
    exact ⟨hlayout, hsize, _, hreserved, rfl⟩
  | error error =>
    rw [hvalue] at h
    cases h

/-- An update of the texture in a slot has begun: its rows are reserved at the cursor, and the data
is there. -/
structure Begun (slot : Nat) (data : ByteArray) (layout : UploadLayout)
    (session begun : Session SimulatedDevice) : Prop where
  texture_eq : begun.texture slot = session.texture slot
  config_eq : begun.context.config = session.context.config
  capacity_eq : begun.context.stream.ring.capacity = session.context.stream.ring.capacity
  reserved : begun.context.stream.ring.reserved = some layout.uploadSize
  filled : ∀ index < layout.uploadSize,
    begun.context.stream.memory.byteAt (begun.context.stream.ring.cursor + index) =
      if index < data.size then byteOf data index
      else session.context.stream.memory.byteAt (begun.context.stream.ring.cursor + index)

/-- An update that is accepted has a layout that the stream buffer can hold, and has begun. -/
theorem begun_beginUpdate (hstreams : session.context.Streams) {region : Region}
    {data : ByteArray} {layout : UploadLayout}
    (h : ((Session.beginUpdate slot region data).run session).value = .ok layout) :
    (session.texture slot).uploadLayout region 0 session.context.config.pitchAlignment =
        .ok layout ∧ layout.uploadSize < session.context.stream.ring.capacity ∧
      Begun slot data layout session (session.run [.beginUpdate slot region data]) := by
  obtain ⟨hlayout, hcapacity, base, hreserved, hstate⟩ := accepted_beginUpdate hstreams h
  have hbase := hreserved.evolves.streams hstreams
  have hafter := streams_after hstreams (.beginUpdate slot region data)
  have hbegun : session.run [.beginUpdate slot region data] = { session with
      context := base.withMemory (base.stream.memory.write base.stream.ring.cursor data 0
        layout.uploadSize) } := (Act.state_discard _ _).trans hstate
  change (session.run [.beginUpdate slot region data]).context.Streams at hafter
  rw [hbegun] at hafter ⊢
  have hinside : base.stream.ring.cursor + layout.uploadSize ≤ base.stream.memory.size := by
    rw [← Memory.size_write base.stream.memory base.stream.ring.cursor data 0 layout.uploadSize]
    exact hafter.inside.reserved_le _ hreserved.reserved
  have hroom : base.stream.ring.capacity = session.context.stream.ring.capacity := by
    rw [hbase.capacity, hstreams.capacity]
    exact hreserved.evolves.continues.capacity
  refine ⟨hlayout, hcapacity, rfl, hreserved.evolves.continues.config, hroom, hreserved.reserved,
    ?_⟩
  intro index hindex
  have hfilled : base.stream.memory.room base.stream.ring.cursor data 0 layout.uploadSize =
      min layout.uploadSize data.size := by
    unfold Memory.room
    omega
  change (base.stream.memory.write base.stream.ring.cursor data 0 layout.uploadSize).byteAt
    (base.stream.ring.cursor + index) = _
  rw [Memory.byteAt_write, hfilled, hreserved.memory, Nat.add_sub_cancel_left, Nat.zero_add]
  exact if_congr (by omega) rfl rfl

/-- What an update needs to end is all there after whatever waits for it. -/
theorem run_endUpdate_waited (hstreams : session.context.Streams) {region : Region}
    {layout : UploadLayout} {resource : ResourceId}
    (hresource : (session.texture slot).resource = some resource)
    (hlayout : (session.texture slot).uploadLayout region 0
      session.context.config.pitchAlignment = .ok layout)
    (hcapacity : layout.uploadSize < session.context.stream.ring.capacity)
    (hreserved : session.context.stream.ring.reserved = some layout.uploadSize)
    {between : List Operation} (hbetween : session.Throughout (Waits slot) between) :
    let now := session.run between
    ((Session.endUpdate slot region).run now).value = .ok () ∧
      ((Session.endUpdate slot region).run now).state =
        { now with
          context := (now.texture slot).streamed resource layout now.context
          textures := now.textures.insert slot (now.texture slot) } := by
  intro now
  obtain ⟨hpends, hresembles⟩ := pends_run hstreams hbetween
  -- the layout does not look at the usage state
  have hlayout' : (now.texture slot).uploadLayout region 0 now.context.config.pitchAlignment =
      .ok layout := by
    rw [hresembles.same, hpends.config]
    exact hlayout
  have hresource' : (now.texture slot).resource = some resource :=
    hresembles.resource_eq.trans hresource
  obtain ⟨hvalue, hstate⟩ := Texture.run_endUpdate hlayout' (hpends.capacity ▸ hcapacity)
    hresource' (hpends.reserved.trans hreserved) (Nat.le_refl _)
  obtain ⟨haccepted, hended⟩ := @changeTexture_ok _ now slot
    (fun texture => texture.endUpdate region) _ hvalue
  rw [hstate] at hended
  exact ⟨haccepted, hended⟩

/-- An update that begins at any time, written at once and followed by whatever neither reserves nor
ends an update and leaves its texture in place, can end: it records one copy, of rows a pitch apart
from the cursor at its beginning, and finds there what was written then. It takes exactly the bytes
of its rows, and until there is another reservation no update ends after it. Sizes and positions
stay within 32 bits. -/
theorem update_survives {config : Config} (hopened : Opened config session)
    (hword : config.streamSize + (config.placementAlignment - 1) ≤ maxWord)
    (before : List Operation) {region : Region} {data : ByteArray} {layout : UploadLayout}
    (hbegin : ((Session.beginUpdate slot region data).run (session.run before)).value = .ok layout)
    (between : List Operation)
    (hbetween : (session.run (before ++ [.beginUpdate slot region data])).Throughout (Waits slot)
      between) :
    let origin := (session.run before).context
    let begun := session.run (before ++ [.beginUpdate slot region data])
    let now := begun.run between
    let ended := (Session.endUpdate slot region).run now
    let offset := begun.context.stream.ring.cursor
    let size := layout.uploadPitch * region.height
    alignUp? (region.width * (begun.texture slot).nativeFormat.bytesPerPixel)
        config.pitchAlignment = some layout.uploadPitch ∧
      alignUp? origin.stream.ring.cursor config.placementAlignment =
        some (alignUp origin.stream.ring.cursor config.placementAlignment) ∧
      offset + size ≤ begun.context.stream.memory.size ∧
      ended.value = .ok () ∧
      (∃ request commands,
        ended.state.context.device.commands =
          now.context.device.commands ++ List.toArray commands ∧
        commands.filterMap Command.copy? = [request] ∧
        request.source = begun.context.stream.resource ∧ request.sourceOffset = offset ∧
        request.rowPitch = layout.uploadPitch ∧ request.region = region ∧
        (begun.texture slot).resource = some request.destination) ∧
      (∀ index < size, ended.state.context.stream.memory.byteAt (offset + index) =
        if index < data.size then byteOf data index
        else origin.stream.memory.byteAt (offset + index)) ∧
      ended.state.context.stream.ring.cursor = offset + size ∧
      ∀ later, ended.state.Throughout (fun operation now => operation.reserves now = false) later →
        ∀ other place, ∃ error,
          ((Session.endUpdate other place).run (ended.state.run later)).value =
            .error (.refused error) ∧
          ((Session.endUpdate other place).run (ended.state.run later)).state =
            ended.state.run later := by
  intro origin begun now ended offset size
  have hopen : session.context.Streams := streams_opened hopened
  have hbefore : Evolves session.context origin := evolves_run hopen before
  have horigin := hbefore.streams hopen
  obtain ⟨hvalidate, hsmall, hsession⟩ := opened_iff.mp hopened
  obtain ⟨-, hpower, -⟩ := Config.validate_eq_ok_iff.mp hvalidate
  have hconfig : origin.config = config := by
    rw [hbefore.continues.config, hsession]
    rfl
  have hring : origin.stream.ring.capacity = config.streamSize := by
    rw [horigin.capacity, hbefore.continues.capacity, hsession]
    rfl
  -- what the update needs to end is there when it has begun
  obtain ⟨hlayout, hcapacity, hbegun⟩ := begun_beginUpdate horigin hbegin
  rw [← run_append] at hbegun
  obtain ⟨⟨resource, hresource⟩, -, -, -, -, hrow, hregion⟩ :=
    Texture.uploadLayout_eq_ok horigin.pitch hlayout
  have hwords : config.pitchAlignment ≤ maxWord := by
    rw [hconfig] at hrow
    omega
  have hsize : size = layout.uploadSize := by
    change layout.uploadPitch * region.height = layout.uploadPitch * layout.region.height
    rw [hregion]
    rfl
  have hstreams : begun.context.Streams := (evolves_run hopen (before ++ [_])).streams hopen
  have hfits := hstreams.inside.reserved_le _ hbegun.reserved
  have hbegunLayout : (begun.texture slot).uploadLayout region 0
      begun.context.config.pitchAlignment = .ok layout := by
    rw [hbegun.texture_eq, hbegun.config_eq]
    exact hlayout
  -- and it is there still when the update ends
  obtain ⟨hpends, hresembles⟩ := pends_run hstreams hbetween
  obtain ⟨haccepted, hended⟩ := run_endUpdate_waited hstreams (hbegun.texture_eq ▸ hresource)
    hbegunLayout (hbegun.capacity_eq ▸ hcapacity) hbegun.reserved hbetween
  have hmemory : ended.state.context.stream.memory = begun.context.stream.memory :=
    (congrArg (·.context.stream.memory) hended).trans hpends.memory
  have hcursor : ended.state.context.stream.ring.cursor = offset + size := by
    rw [hsize]
    exact (congrArg (·.context.stream.ring.cursor) hended).trans
      (congrArg (· + layout.uploadSize) hpends.cursor)
  have hplacement : config.placementAlignment.isPowerOfTwo := hconfig ▸ horigin.placement
  refine ⟨?_, (alignUp?_eq_some_iff hplacement).mpr ⟨?_, rfl⟩, ?_, haccepted, ?_, ?_, hcursor, ?_⟩
  · have hbytes : layout.uploadSize ≤ maxWord :=
      Nat.le_trans (Nat.le_of_lt hcapacity) (Nat.le_trans (Nat.le_of_eq hring) hsmall)
    have hword := Texture.fits_uploadLayout hlayout (hconfig ▸ hpower) hbytes
    rw [hbegun.texture_eq, ← hconfig]
    rw [hregion] at hword ⊢
    exact hword
  · have hle := horigin.inside.cursor_le
    rw [← horigin.capacity] at hle
    omega
  · rw [hsize]
    exact hfits
  · refine ⟨(now.texture slot).streamCopy resource layout now.context, _,
      congrArg (·.context.device.commands) hended, Texture.copies_bracketed _, hpends.resource,
      hpends.cursor, rfl, ?_, hbegun.texture_eq ▸ hresource⟩
    change layout.region = region
    rw [hregion]
    rfl
  · intro index hindex
    rw [hmemory]
    exact hbegun.filled index (hsize ▸ hindex)
  · intro later hlater other place
    have hnone : ended.state.context.stream.ring.reserved = none :=
      congrArg (·.context.stream.ring.reserved) hended
    have hended' : ended.state.context.Streams :=
      streams_after ((evolves_run hstreams between).streams hstreams) (.endUpdate slot region)
    have hunreserved := unreserved_run hended' hnone hlater
    have hrun : ended.state.run later = session.run (before ++ [.beginUpdate slot region data] ++
        between ++ [.endUpdate slot region] ++ later) := by
      rw [run_append, run_append, run_append]
      rfl
    rw [hrun] at hunreserved ⊢
    exact endUpdate_refused hopened hwords _ hunreserved other place

/-- An update of two pixels waits for a submission, for an upload of the whole texture through a
staging buffer, for the attempt to end an update of four pixels and for a change of usage. -/
theorem update_survives_submission :
    let config : Config := { streamSize := 64, pitchAlignment := 4, placementAlignment := 8 }
    let before : List Operation := [
      .create 0 { width := 4, height := 4, layers := 1, levels := 1, samples := 1,
                  format := .rgba8Unorm } {}]
    let data : ByteArray := ⟨#[1, 2, 3, 4, 5, 6, 7, 8]⟩
    let between : List Operation := [.submit false,
      .load 0 ⟨0, 0, 4, 4⟩ ⟨Array.replicate 64 9⟩ 16, .endUpdate 0 ⟨0, 0, 4, 1⟩,
      .transition 0 .copySource]
    let begun := (opening config).run (before ++ [.beginUpdate 0 ⟨1, 1, 2, 1⟩ data])
    let ended := (Session.endUpdate 0 ⟨1, 1, 2, 1⟩).run (begun.run between)
    ended.value = .ok () ∧ (∀ index < 8, ended.state.context.stream.memory.byteAt
        (begun.context.stream.ring.cursor + index) = byteOf data index) ∧
      ∃ error, ((Session.endUpdate 0 ⟨1, 1, 2, 1⟩).run ended.state).value =
        .error (.refused error) := by
  intro config before data between begun ended
  have hopened : Opened config (opening config) :=
    opened_iff.mpr ⟨Config.validate_eq_ok_iff.mpr (by decide), by decide, rfl⟩
  have hbetween : begun.Throughout (Waits 0) between := by
    refine ⟨⟨?_, ?_, ?_⟩, ⟨?_, ?_, ?_⟩, ⟨?_, ?_, ?_⟩, ⟨?_, ?_, ?_⟩, trivial⟩ <;> decide +kernel
  obtain ⟨-, -, -, haccepted, -, hbytes, -, hlast⟩ :=
    @update_survives (opening config) 0 config hopened (by decide) before ⟨1, 1, 2, 1⟩ data
      ⟨⟨1, 1, 2, 1⟩, 0, 8, 8⟩ (by decide +kernel) between hbetween
  obtain ⟨error, hrefused, -⟩ := hlast [] trivial 0 ⟨1, 1, 2, 1⟩
  -- all sides name the runs in full, so that nothing is evaluated to compare them
  have hbegun : begun = (opening config).run (before ++ [.beginUpdate 0 ⟨1, 1, 2, 1⟩ data]) := rfl
  have hended : ended = (Session.endUpdate 0 ⟨1, 1, 2, 1⟩).run
      (((opening config).run (before ++ [.beginUpdate 0 ⟨1, 1, 2, 1⟩ data])).run between) := rfl
  rw [hended, hbegun]
  refine ⟨haccepted, fun index hindex => ?_, error, hrefused⟩
  have hwithin : index < 8 * 1 := hindex
  have hsize : index < data.size := hindex
  rw [hbytes index hwithin, if_pos hsize]

end Session

end Texel
