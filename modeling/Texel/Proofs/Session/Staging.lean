import Texel.Proofs.Session.Custody
import Texel.Proofs.Staging

namespace Texel

open Simulated Context

/-- The write as an operation on the staging texture in a slot. -/
def PixelWrite.operation (slot : Nat) (write : PixelWrite) : Operation :=
  .writeStaging slot write.region write.data write.stride

namespace Session

variable {session : Session SimulatedDevice} {slot : Nat} {created : StagingTexture}
  {write : PixelWrite} {writes : List PixelWrite}

/-- The slot holds `created` with the pixels that writes have painted. -/
def Displays (session : Session SimulatedDevice) (slot : Nat) (created : StagingTexture)
    (writes : List PixelWrite) : Prop :=
  ∃ memory, session.staging.get? slot =
      some { created with buffer := { created.buffer with memory } } ∧
    memory.size = created.buffer.memory.size ∧
    StagingTexture.Shows { created with buffer := { created.buffer with memory } } writes

/-- What a write to a slot answers and leaves behind. -/
theorem run_writeStaging {staging : StagingTexture}
    (h : session.staging.get? slot = some staging) (write : PixelWrite) :
    (∀ fault, staging.write write.region write.data write.stride = .error fault →
      (Session.writeStaging slot write.region write.data write.stride).run session =
        ⟨some (.error fault), session, []⟩) ∧
    ∀ written, staging.write write.region write.data write.stride = .ok written →
      (Session.writeStaging slot write.region write.data write.stride).run session =
        ⟨some (.ok ()), { session with staging := session.staging.insert slot written }, []⟩ := by
  unfold Session.writeStaging withStaging
  constructor
  · intro fault hwrite
    simp only [Act.run_bind, Act.run_get, h, Act.run_map, hwrite, Act.run_pure, List.append_nil]
  · intro written hwrite
    simp only [Act.run_bind, Act.run_get, h, Act.run_map, hwrite, Act.run_modify, Act.run_pure,
      List.append_nil]

/-- A write whose rows do not overflow is accepted exactly if it fits, and otherwise refused with
nothing changed. -/
theorem displays_write (h : session.Displays slot created writes) (hpixels : write.NonEmpty)
    (hrow : ¬ write.Overflows created.width created.height created.format.bytesPerPixel) :
    let next := (Session.writeStaging slot write.region write.data write.stride).run session
    next.state.Displays slot created (writes ++ [write]) ∧
      (write.Fits created.width created.height created.format.bytesPerPixel →
        next.value = some (.ok ())) ∧
      (¬ write.Fits created.width created.height created.format.bytesPerPixel →
        next.state = session ∧
          ∃ reason, next.value = some (.error (.refused (.stagingFailure reason)))) := by
  intro next
  obtain ⟨memory, hslot, hsize, hshows⟩ := h
  obtain ⟨herror, hok⟩ := run_writeStaging hslot write
  by_cases hfits : write.Fits created.width created.height created.format.bytesPerPixel
  · obtain ⟨written, hwritten, hpaints⟩ :=
      StagingTexture.write_accepted hshows.sized hshows.writable hpixels hrow hfits
    have hnext : next = _ := hok _ hwritten
    rw [hnext]
    refine ⟨⟨written, ?_, hpaints.size.trans hsize, hshows.painted hfits hpaints⟩, fun _ => rfl,
      fun hother => absurd hfits hother⟩
    rw [Table.get?_insert, if_pos rfl]
  · obtain ⟨reason, hrefused⟩ := @StagingTexture.write_refused
      { created with buffer := { created.buffer with memory } } write hpixels hrow hfits
    have hnext : next = _ := herror _ hrefused
    rw [hnext]
    exact ⟨⟨memory, hslot, hsize, hshows.refused hfits⟩, fun hother => absurd hother hfits,
      fun _ => ⟨rfl, reason, rfl⟩⟩

/-- A write whose rows overflow ends the program. -/
theorem aborts_write (h : session.Displays slot created writes)
    (hrow : write.Overflows created.width created.height created.format.bytesPerPixel) :
    ((Session.writeStaging slot write.region write.data write.stride).run session).value =
      some (.error .abort) := by
  obtain ⟨memory, hslot, -, hshows⟩ := h
  obtain ⟨herror, -⟩ := run_writeStaging hslot write
  exact congrArg (·.value) (herror _ (StagingTexture.write_of_overflows hshows.writable hrow))

/-- Further writes are displayed over the earlier ones. -/
theorem displays_run (h : session.Displays slot created writes) (more : List PixelWrite)
    (hpixels : ∀ write ∈ more, write.NonEmpty)
    (hrows : ∀ write ∈ more,
      ¬ write.Overflows created.width created.height created.format.bytesPerPixel) :
    (session.run (more.map (PixelWrite.operation slot))).Displays slot created
      (writes ++ more) := by
  induction more generalizing session writes with
  | nil =>
    rw [List.append_nil]
    exact h
  | cons write rest ih =>
    have hfirst := (displays_write h (hpixels write List.mem_cons_self)
      (hrows write List.mem_cons_self)).1
    have hrest := ih hfirst (fun other hother => hpixels other (List.mem_cons_of_mem _ hother))
      fun other hother => hrows other (List.mem_cons_of_mem _ hother)
    rw [List.append_assoc] at hrest
    exact hrest

/-- A new staging texture is in its slot, and no pixel is painted yet. -/
theorem displays_created (hpower : session.context.config.pitchAlignment.isPowerOfTwo)
    {width height : Nat} {format : NativeFormat}
    (hcreate : ((Session.createStaging slot width height format true).run session).value =
      .ok created) :
    Displays ((Session.createStaging slot width height format true).run session).state slot created
        [] ∧ created.width = width ∧ created.height = height ∧ created.format = format ∧
      created.pitch ≤ maxWord ∧ created.buffer.memory = .zeroed (created.pitch * height) := by
  obtain ⟨hok, herror⟩ :=
    (StagingTexture.meets_create session.context width height format true).of_run rfl
  simp only [Session.createStaging, Attempt.run_bind, tryContext, Attempt.run_focus] at hcreate ⊢
  cases hvalue :
      ((StagingTexture.create width height format true).run session.context).value with
  | error error =>
    rw [hvalue] at hcreate
    cases hcreate
  | ok staging =>
    obtain ⟨hbytes, pitch, hsome, hstaging, -⟩ := hok staging hvalue
    simp only [hvalue, Attempt.run_lift, state_holdStaging, Attempt.run_pure] at hcreate ⊢
    cases hcreate
    subst hstaging
    obtain ⟨hwidth, hword⟩ := StagingTexture.bounds_of_pitch? hpower hsome
    refine ⟨⟨_, ?_, rfl, ⟨Nat.pos_of_ne_zero hbytes, hwidth, rfl⟩, rfl, ?_⟩, rfl, rfl, rfl, hword,
      rfl⟩
    · rw [Table.get?_insert, if_pos rfl]
    · intro x y index _ _ _
      exact Memory.byteAt_zeroed ..

/-- A writable staging texture made in any state that a run can lead to, and then written in any
way that has not ended the program: the next write ends it exactly if its rows overflow, which only
a row of 2 ^ 32 - 1 bytes does. Any other is accepted exactly if it fits, and one that does not is
refused as a failure of staging, with nothing changed. A copy of a rectangle inside addresses, for
each pixel, bytes of the staging memory that are those of the last accepted write to the pixel, or
zero. -/
theorem staging_keeps_last_writes {config : Config} (hopened : Opened config session)
    (before : List Operation) {width height : Nat} {format : NativeFormat}
    (hcreate : ((Session.createStaging slot width height format true).run
      (session.run before)).value = .ok created)
    (writes : List PixelWrite) (hpixels : ∀ write ∈ writes, write.NonEmpty)
    (hrows : ∀ write ∈ writes, ¬ write.Overflows width height format.bytesPerPixel) :
    let now := (session.run (before ++ [.createStaging slot width height format true])).run
      (writes.map (PixelWrite.operation slot))
    (∀ write : PixelWrite, write.NonEmpty →
      let next := (Session.writeStaging slot write.region write.data write.stride).run now
      (next.value = some (.error .abort) ↔ write.Overflows width height format.bytesPerPixel) ∧
      (write.Overflows width height format.bytesPerPixel →
        write.region.width * format.bytesPerPixel = maxWord) ∧
      (next.value = some (.ok ()) ↔ write.Fits width height format.bytesPerPixel ∧
        ¬ write.Overflows width height format.bytesPerPixel) ∧
      (¬ write.Fits width height format.bytesPerPixel →
        ¬ write.Overflows width height format.bytesPerPixel → next.state = now ∧
          ∃ reason, next.value = some (.error (.refused (.stagingFailure reason))))) ∧
      ∃ staging, now.staging.get? slot = some staging ∧
        staging.buffer.resource = created.buffer.resource ∧ staging.pitch ≤ maxWord ∧
        staging.buffer.memory.size = staging.pitch * height ∧
        ∀ (context : Context SimulatedDevice) (source : Region) (destination : ResourceId)
          (x y : Nat), source.fitsWithin width height = true →
          ∃ request,
            ((staging.copyTo source destination x y).run context).state =
              context.recorded [.copy request] ∧
            request.source = staging.buffer.resource ∧ request.destination = destination ∧
            request.region = ⟨x, y, source.width, source.height⟩ ∧
            ∀ column row index, column < request.region.width → row < request.region.height →
              index < format.bytesPerPixel →
              let address := request.sourceOffset + row * request.rowPitch +
                column * format.bytesPerPixel + index
              address < staging.buffer.memory.size ∧ staging.buffer.memory.byteAt address =
                PixelWrite.painted width height format.bytesPerPixel writes (source.x + column)
                  (source.y + row) index := by
  intro now
  have hpower : (session.run before).context.config.pitchAlignment.isPowerOfTwo :=
    ((evolves_run (streams_opened hopened) before).streams (streams_opened hopened)).pitch
  obtain ⟨hcreated, rfl, rfl, rfl, hword, hzeroed⟩ := displays_created hpower hcreate
  have hdisplays : now.Displays slot created writes := by
    have hrun := displays_run hcreated writes hpixels hrows
    change Displays ((session.run (before ++ [_])).run _) slot created writes
    rw [run_append]
    exact hrun
  refine ⟨fun write hwrite => ?_, ?_⟩
  · have hwidest : write.Overflows created.width created.height created.format.bytesPerPixel →
        write.region.width * created.format.bytesPerPixel = maxWord := by
      obtain ⟨memory, -, -, hshows⟩ := hdisplays
      rintro ⟨hinside, hfull⟩
      have hblock := StagingTexture.block_le_pitch hshows.sized.pitch hinside
      change write.region.x * created.format.bytesPerPixel +
        write.region.width * created.format.bytesPerPixel ≤ created.pitch at hblock
      omega
    by_cases hrow : write.Overflows created.width created.height created.format.bytesPerPixel
    · have haborts := aborts_write hdisplays hrow
      intro next
      change next.value = _ at haborts
      rw [haborts]
      exact ⟨iff_of_true rfl hrow, hwidest, by simp [hrow], fun _ hother => absurd hrow hother⟩
    · obtain ⟨-, hok, hrefused⟩ := displays_write hdisplays hwrite hrow
      refine ⟨⟨fun haborts => ?_, fun hother => absurd hother hrow⟩, hwidest,
        ⟨fun haccepted => ⟨?_, hrow⟩, fun hfits => hok hfits.1⟩, fun hfits _ => hrefused hfits⟩
      · by_cases hfits : write.Fits created.width created.height created.format.bytesPerPixel
        · cases (hok hfits).symm.trans haborts
        · obtain ⟨-, reason, hvalue⟩ := hrefused hfits
          cases hvalue.symm.trans haborts
      · by_contra hfits
        obtain ⟨-, reason, hvalue⟩ := hrefused hfits
        cases hvalue.symm.trans haccepted
  · obtain ⟨memory, hslot, hsize, hshows⟩ := hdisplays
    refine ⟨_, hslot, rfl, hword, ?_, fun context source destination x y hsource =>
      ⟨_, state_recordCopy context _, rfl, rfl, rfl, fun column row index hcolumn hrow hindex =>
        hshows.copied hsource hcolumn hrow hindex⟩⟩
    rw [hsize, hzeroed]
    rfl

/-- Rows of three one-byte pixels, four bytes apart, written in full and then in their second
column. A copy of the last two columns reads both writes; a write past the last column is
refused. -/
theorem staging_keeps_last_writes_overlapping :
    let config : Config := { streamSize := 64, pitchAlignment := 4, placementAlignment := 8 }
    let writes : List PixelWrite := [⟨⟨0, 0, 3, 2⟩, ⟨#[1, 2, 3, 4, 5, 6]⟩, 3⟩,
      ⟨⟨1, 0, 1, 2⟩, ⟨#[7, 8]⟩, 1⟩]
    let now := ((opening config).run [.createStaging 0 3 2 .r8Unorm true]).run
      (writes.map (PixelWrite.operation 0))
    ((Session.writeStaging 0 ⟨2, 0, 2, 1⟩ ⟨#[9, 9]⟩ 2).run now).state = now ∧
      ∃ staging, now.staging.get? 0 = some staging ∧
        ∀ (context : Context SimulatedDevice) (destination : ResourceId), ∃ request,
          ((staging.copyTo ⟨1, 0, 2, 2⟩ destination 0 0).run context).state =
            context.recorded [.copy request] ∧
          staging.buffer.memory.byteAt (request.sourceOffset + 0 * request.rowPitch + 0 * 1 + 0) =
            7 ∧
          staging.buffer.memory.byteAt (request.sourceOffset + 1 * request.rowPitch + 1 * 1 + 0) =
            6 := by
  intro config writes now
  have hopened : Opened config (opening config) :=
    opened_iff.mpr ⟨Config.validate_eq_ok_iff.mpr (by decide), by decide, rfl⟩
  have hpixels : ∀ write ∈ writes, write.NonEmpty := by
    simp [writes, PixelWrite.NonEmpty]
  let created : StagingTexture := ⟨⟨⟨2⟩, .zeroed 8⟩, 3, 2, .r8Unorm, 4, true⟩
  obtain ⟨hwrites, staging, hslot, -, -, -, hcopies⟩ :=
    @staging_keeps_last_writes (opening config) 0 created config hopened [] 3 2 .r8Unorm
      (by decide +kernel) writes hpixels (by decide)
  obtain ⟨-, -, -, hother⟩ := hwrites ⟨⟨2, 0, 2, 1⟩, ⟨#[9, 9]⟩, 2⟩ ⟨by decide, by decide⟩
  have hrefused := hother (by decide) (by decide)
  refine ⟨hrefused.1, staging, hslot, fun context destination => ?_⟩
  obtain ⟨request, hstate, -, -, hregion, hbytes⟩ :=
    hcopies context ⟨1, 0, 2, 2⟩ destination 0 0 (by decide)
  have hfirst := (hbytes 0 0 0 (by rw [hregion]; decide) (by rw [hregion]; decide) (by decide)).2
  have hlast := (hbytes 1 1 0 (by rw [hregion]; decide) (by rw [hregion]; decide) (by decide)).2
  exact ⟨request, hstate, hfirst.trans (by decide +kernel), hlast.trans (by decide +kernel)⟩

/-- The widest staging texture is accepted at a pitch alignment of one byte. A write of a whole row
ends the program before its data is looked at, whether the data holds the row or is empty. -/
theorem widest_row_aborts :
    let config : Config := { streamSize := 64, pitchAlignment := 1, placementAlignment := 8 }
    let now := (opening config).run [.createStaging 0 4294967295 1 .r8Unorm true]
    let write : PixelWrite := ⟨⟨0, 0, 4294967295, 1⟩, ⟨#[]⟩, 4294967295⟩
    config.validate = .ok () ∧ (∃ staging, now.staging.get? 0 = some staging) ∧ write.NonEmpty ∧
      ¬ write.Fits 4294967295 1 1 ∧
      ∀ data, ((Session.writeStaging 0 write.region data write.stride).run now).value =
        some (.error .abort) := by
  intro config now write
  have hopened : Opened config (opening config) :=
    opened_iff.mpr ⟨Config.validate_eq_ok_iff.mpr (by decide), by decide, rfl⟩
  have hpower : (opening config).context.config.pitchAlignment.isPowerOfTwo :=
    (streams_opened hopened).pitch
  let created : StagingTexture :=
    ⟨⟨⟨2⟩, .zeroed 4294967295⟩, 4294967295, 1, .r8Unorm, 4294967295, true⟩
  obtain ⟨hdisplays, -⟩ := @displays_created (opening config) 0 created hpower 4294967295 1
    .r8Unorm (by decide +kernel)
  refine ⟨Config.validate_eq_ok_iff.mpr (by decide), ?_, ⟨by decide, by decide⟩, by decide,
    fun data => ?_⟩
  · obtain ⟨memory, hslot, -⟩ := hdisplays
    exact ⟨_, hslot⟩
  · have hinside : write.region.fitsWithin 4294967295 1 = true := by decide
    have hfull : maxWord ≤ write.region.width * 1 := by decide
    exact @aborts_write _ 0 created ⟨write.region, data, write.stride⟩ [] hdisplays
      ⟨hinside, hfull⟩

end Session

end Texel
