import Texel.Proofs.Session.Staging
import Texel.Proofs.Staging.Empty

namespace Texel

open Context

namespace StagingTexture

variable {origin : Context SimulatedDevice}

/-- A staging texture is never made without pixels. -/
theorem sides_of_create (width height : Nat) (format : NativeFormat) (writable : Bool) :
    (create width height format writable).Meets (fun context => context = origin)
      (fun _ _ => 0 < width ∧ 0 < height) fun _ _ => True := by
  apply Attempt.Meets.get_of_eq
  split
  · exact .after_log (.refuse fun _ _ => trivial)
  · next hpixels =>
    have hsides : 0 < width ∧ 0 < height := by omega
    intro context _
    change Attempt.Settles _ _ (Attempt.run _ context).value _
    cases (Attempt.run _ context).value with
    | ok staging => exact hsides
    | error error => trivial

/-- A staging texture that is created has memory for all of its pixels. -/
theorem formed_create (hpower : origin.config.pitchAlignment.isPowerOfTwo) (width height : Nat)
    (format : NativeFormat) (writable : Bool) :
    (create width height format writable).Meets (fun context => context = origin)
      (fun staging _ => staging.Formed) fun _ _ => True := by
  refine .mono ((meets_create origin width height format writable).both
    (sides_of_create width height format writable)) (fun _ h => h) ?_ fun _ _ _ => trivial
  rintro _ _ ⟨⟨hbytes, pitch, hsome, rfl, -⟩, hwidth, hheight⟩
  obtain ⟨hrow, -⟩ := bounds_of_pitch? hpower hsome
  exact ⟨⟨Nat.pos_of_ne_zero hbytes, hrow, rfl⟩, hwidth, hheight⟩

end StagingTexture

namespace Session

/-- Only three operations change what the staging slots hold. -/
theorem beside_act {R : Table Nat StagingTexture → Prop} {operation : Operation}
    (hbeside : operation.fillsStaging = false) :
    operation.act.Keeps fun session => R session.staging := by
  refine keeps_parts (fun _ _ hnow => hnow) (fun _ _ _ hnow => hnow) (fun hfills => ?_)
    fun _ _ hnow => hnow
  rw [hbeside] at hfills
  cases hfills

/-- Every staging texture of the session has pixels and memory for all of them. -/
def Stages (staging : Table Nat StagingTexture) : Prop :=
  ∀ slot texture, staging.get? slot = some texture → texture.Formed

/-- A staging texture that is formed may be put into a slot. -/
theorem stages_insert {staging : Table Nat StagingTexture} {texture : StagingTexture}
    (h : Stages staging) (slot : Nat) (htexture : texture.Formed) :
    Stages (staging.insert slot texture) := by
  intro other found hfound
  rw [Table.get?_insert] at hfound
  split at hfound
  · cases hfound
    exact htexture
  · exact h other found hfound

/-- A slot may be emptied. -/
theorem stages_erase {staging : Table Nat StagingTexture} (h : Stages staging) (slot : Nat) :
    Stages (staging.erase slot) := by
  intro other found hfound
  rw [Table.get?_erase] at hfound
  split at hfound
  · cases hfound
  · exact h other found hfound

/-- What is created is formed; a refusal changes no slot. -/
theorem stages_createStaging {session : Session SimulatedDevice}
    (hpower : session.context.config.pitchAlignment.isPowerOfTwo) (h : Stages session.staging)
    (slot width height : Nat) (format : NativeFormat) (writable : Bool) :
    (Session.createStaging slot width height format writable).Meets (fun now => now = session)
      (fun _ now => Stages now.staging) fun _ now => Stages now.staging := by
  refine .through (fun texture now => texture.Formed ∧ Stages now.staging) (.focus ?_)
    fun texture => ?_
  · rintro _ rfl
    exact .mono (StagingTexture.formed_create hpower width height format writable) (fun _ h => h)
      (fun _ _ hformed => ⟨hformed, h⟩) fun _ _ _ => h
  refine .through (fun _ now => Stages now.staging) (.lift ?_) fun _ => .pure fun _ h => h
  rintro now ⟨hformed, hnow⟩
  rw [state_holdStaging]
  exact stages_insert hnow slot hformed

/-- A write changes bytes only. -/
theorem stages_writeStaging {session : Session SimulatedDevice} (h : Stages session.staging)
    (slot : Nat) (write : PixelWrite) :
    Stages ((Session.writeStaging slot write.region write.data write.stride).run
      session).state.staging := by
  cases hslot : session.staging.get? slot with
  | none =>
    unfold Session.writeStaging
    rw [state_withStaging_none hslot]
    exact h
  | some staging =>
    obtain ⟨herror, hok⟩ := run_writeStaging hslot write
    cases hwrite : staging.write write.region write.data write.stride with
    | error fault =>
      rw [herror fault hwrite]
      exact h
    | ok written =>
      rw [hok written hwrite]
      exact stages_insert h slot (StagingTexture.formed_write (h slot staging hslot) hwrite)

/-- After every operation the staging textures are formed. -/
theorem stages_after {session : Session SimulatedDevice} (operation : Operation)
    (hpower : session.context.config.pitchAlignment.isPowerOfTwo) (h : Stages session.staging) :
    Stages (operation.after session).staging := by
  cases operation with
  | createStaging slot width height format writable =>
    exact (stages_createStaging hpower h slot width height format writable).discard
      (fun _ _ h => h) (fun _ _ h => h) session rfl
  | writeStaging slot region data stride => exact stages_writeStaging h slot ⟨region, data, stride⟩
  | destroyStaging slot deferred =>
    have hkeeps : (Session.destroyStaging slot deferred).Keeps
        fun now : Session SimulatedDevice => Stages now.staging :=
      keeps_withStaging slot fun texture =>
        .bind (fun now hnow => stages_erase hnow slot) fun _ _ hnow => hnow
    exact hkeeps.discard session h
  | _ => exact beside_act rfl session h

/-- After every run the staging textures are formed. -/
theorem stages_run {session : Session SimulatedDevice} (hstreams : session.context.Streams)
    (h : Stages session.staging) (operations : List Operation) :
    Stages (session.run operations).staging := by
  have hrun : (session.run operations).context.Streams ∧
      Stages (session.run operations).staging := by
    refine run_induction (P := fun now => now.context.Streams ∧ Stages now.staging) ?_ ⟨hstreams, h⟩
      operations
    rintro now operation ⟨hnow, hstages⟩
    exact ⟨(evolves_act hnow operation now .refl).streams hnow,
      stages_after operation hnow.pitch hstages⟩
  exact hrun.2

/-- A write to any staging texture of any session that ends the program does so in two places: where
its rows overflow, and where it overruns after passing every check. Only a write of an empty
rectangle overruns, and only one with columns overflows. A write that passes and does neither
succeeds, and without pixels it then changes nothing. One that does neither and does not pass is
refused as a failure of staging, and changes nothing either. -/
theorem write_aborts_only_on_overrun {config : Config} {session : Session SimulatedDevice}
    (hopened : Opened config session) (operations : List Operation) {slot : Nat}
    {staging : StagingTexture}
    (hslot : (session.run operations).staging.get? slot = some staging) (write : PixelWrite) :
    let next := (Session.writeStaging slot write.region write.data write.stride).run
      (session.run operations)
    let passes := staging.writable = true ∧
      write.Passes staging.width staging.height staging.format.bytesPerPixel
    let overflows := staging.writable = true ∧
      write.Overflows staging.width staging.height staging.format.bytesPerPixel
    (next.value = some (.error .abort) ↔ overflows ∨ passes ∧ write.Overruns staging.height) ∧
      (passes → write.NonEmpty → ¬ write.Overruns staging.height) ∧
      (write.region.width = 0 → ¬ overflows) ∧
      (passes → ¬ overflows → ¬ write.Overruns staging.height → next.value = some (.ok ()) ∧
        (¬ write.NonEmpty → next.state.staging.get? slot = some staging)) ∧
      (¬ passes → ¬ overflows → next.state = session.run operations ∧
        ∃ reason, next.value = some (.error (.refused (.stagingFailure reason)))) := by
  intro next passes overflows
  have hformed : staging.Formed := by
    refine stages_run (streams_opened hopened) ?_ operations slot staging hslot
    obtain ⟨-, -, rfl⟩ := opened_iff.mp hopened
    intro other found hfound
    cases hfound
  obtain ⟨herror, hok⟩ := run_writeStaging hslot write
  have haborts : overflows ∨ passes ∧ write.Overruns staging.height →
      next.value = some (.error .abort) := by
    intro hcause
    have hwrite := (StagingTexture.write_aborts_iff hformed).mpr
      (hcause.elim (fun h => ⟨h.1, .inl h.2⟩) fun h => ⟨h.1.1, .inr ⟨h.1.2, h.2⟩⟩)
    exact congrArg (·.value) (herror _ hwrite)
  have haccepted : passes → ¬ overflows → ¬ write.Overruns staging.height →
      next.value = some (.ok ()) ∧
        (¬ write.NonEmpty → next.state.staging.get? slot = some staging) := by
    rintro ⟨hwritable, hpasses⟩ hrows hwithin
    have hrow := not_and.mp hrows hwritable
    obtain ⟨written, hwrite⟩ :=
      StagingTexture.write_accepted_of_passes hformed hwritable hrow hpasses hwithin
    refine ⟨congrArg (·.value) (hok _ hwrite), fun hempty => ?_⟩
    have hself :=
      StagingTexture.write_eq_self_of_empty hformed hwritable hrow hpasses hempty hwithin
    have hnext : next = _ := hok _ hself
    rw [hnext, Table.get?_insert, if_pos rfl]
  have hrefused : ¬ passes → ¬ overflows → next.state = session.run operations ∧
      ∃ reason, next.value = some (.error (.refused (.stagingFailure reason))) := by
    intro hchecked hrows
    obtain ⟨reason, hwrite⟩ := StagingTexture.write_refused_of_not_passes hrows hchecked
    have hnext : next = _ := herror _ hwrite
    rw [hnext]
    exact ⟨rfl, reason, rfl⟩
  refine ⟨⟨fun habort => ?_, haborts⟩, ?_, ?_, haccepted, hrefused⟩
  · by_contra hother
    obtain ⟨hrows, hwithin⟩ := not_or.mp hother
    by_cases hchecked : passes
    · have hvalue := (haccepted hchecked hrows (not_and.mp hwithin hchecked)).1
      cases hvalue.symm.trans habort
    · obtain ⟨-, reason, hvalue⟩ := hrefused hchecked hrows
      cases hvalue.symm.trans habort
  · intro hchecked hpixels hoverruns
    exact hoverruns.empty hchecked.2 hformed.bytes hpixels
  · rintro hwidth ⟨-, -, hfull⟩
    rw [hwidth, Nat.zero_mul] at hfull
    exact absurd hfull (by decide)

/-- Rows of two one-byte pixels. A rectangle without columns in front of the second pixel is written
from rows one byte apart, and nothing changes; from rows zero bytes apart the write aborts. -/
theorem write_aborts_only_on_overrun_no_columns :
    let config : Config := { streamSize := 64, pitchAlignment := 4, placementAlignment := 8 }
    let now := (opening config).run [.createStaging 0 2 2 .r8Unorm true]
    let staging : StagingTexture := ⟨⟨⟨2⟩, .zeroed 8⟩, 2, 2, .r8Unorm, 4, true⟩
    now.staging.get? 0 = some staging ∧
    ((Session.writeStaging 0 ⟨1, 0, 0, 1⟩ ⟨#[]⟩ 1).run now).value = some (.ok ()) ∧
    ((Session.writeStaging 0 ⟨1, 0, 0, 1⟩ ⟨#[]⟩ 1).run now).state.staging.get? 0 = some staging ∧
    ((Session.writeStaging 0 ⟨1, 0, 0, 1⟩ ⟨#[]⟩ 0).run now).value = some (.error .abort) := by
  intro config now staging
  have hopened : Opened config (opening config) :=
    opened_iff.mpr ⟨Config.validate_eq_ok_iff.mpr (by decide), by decide, rfl⟩
  have hslot : ((opening config).run [.createStaging 0 2 2 .r8Unorm true]).staging.get? 0 =
      some staging := by decide +kernel
  obtain ⟨-, -, hrows, haccepted, -⟩ := write_aborts_only_on_overrun hopened
    [.createStaging 0 2 2 .r8Unorm true] hslot ⟨⟨1, 0, 0, 1⟩, ⟨#[]⟩, 1⟩
  obtain ⟨haborts, -⟩ := write_aborts_only_on_overrun hopened
    [.createStaging 0 2 2 .r8Unorm true] hslot ⟨⟨1, 0, 0, 1⟩, ⟨#[]⟩, 0⟩
  obtain ⟨hvalue, hsame⟩ := haccepted ⟨rfl, by decide⟩ (hrows rfl) (by decide)
  refine ⟨hslot, hvalue, hsame ?_, haborts.mpr (.inr ⟨⟨rfl, by decide⟩, by decide⟩)⟩
  rintro ⟨hwidth, -⟩
  cases hwidth

/-- Two rectangles without pixels lie within a writable staging texture, and their sources pass
every check. Writing either aborts: one has no columns and a stride of zero, the other has no rows
and starts right of the first column below the last row. -/
theorem empty_write_aborts :
    let config : Config := { streamSize := 64, pitchAlignment := 4, placementAlignment := 8 }
    let now := (opening config).run [.createStaging 0 2 2 .r8Unorm true]
    (∃ staging, now.staging.get? 0 = some staging ∧ staging.writable = true ∧
      PixelWrite.Passes ⟨⟨1, 0, 0, 1⟩, ⟨#[]⟩, 0⟩ staging.width staging.height
        staging.format.bytesPerPixel ∧
      PixelWrite.Passes ⟨⟨1, 2, 1, 0⟩, ⟨#[]⟩, 1⟩ staging.width staging.height
        staging.format.bytesPerPixel) ∧
    ((Session.writeStaging 0 ⟨1, 0, 0, 1⟩ ⟨#[]⟩ 0).run now).value = some (.error .abort) ∧
    ((Session.writeStaging 0 ⟨1, 2, 1, 0⟩ ⟨#[]⟩ 1).run now).value = some (.error .abort) := by
  intro config now
  refine ⟨⟨⟨⟨⟨2⟩, .zeroed 8⟩, 2, 2, .r8Unorm, 4, true⟩, ?_, rfl, by decide, by decide⟩, ?_, ?_⟩ <;>
    decide +kernel

end Session

end Texel
