import Texel.Proofs.Session.Deferral
import Texel.Proofs.Session.Limits

namespace Texel

open Simulated Context

namespace Session

/-- The staging texture that an upload makes for its region. -/
def stagingFor (texture : Texture) (region : Region) :
    Attempt TextureError (Context SimulatedDevice) StagingTexture :=
  StagingTexture.create region.width region.height texture.nativeFormat true

/-- An upload that passes its checks and does not fit the stream buffer is laid out and checked once
more for staging, and these checks pass. So it fails only if the device has no buffer for it, for
the reason that the device gives. With a buffer, the staging texture has the pitch and the size
that the upload was laid out with and takes all its pixels; afterwards the buffer is gone again, the
counters show one upload, one buffer made and one freed, and beside the commands recorded and the
identifier used up nothing has changed. The texture may come from any other session. -/
theorem fallback_fails_only_for_memory {config : Config} {session : Session SimulatedDevice}
    (hopened : Opened config session) (hword : config.pitchAlignment ≤ maxWord)
    (operations : List Operation) {other : Config} {owner : Session SimulatedDevice}
    (howner : Opened other owner) (made : List Operation) (slot : Nat) (region : Region)
    (data : ByteArray) (pitch : Nat) {layout : UploadLayout}
    (hlayout : ((owner.run made).texture slot).uploadLayout region pitch config.pitchAlignment =
      .ok layout)
    (hvalid : layout.validateSource data.size = .ok ())
    (hsize : (session.run operations).context.stream.ring.capacity ≤ layout.uploadSize) :
    let texture := (owner.run made).texture slot
    let origin := (session.run operations).context
    let uploaded := (texture.load region data pitch).run origin
    let buffer := ((Device.createHostBuffer layout.uploadSize :
      Attempt TextureError SimulatedDevice HostBuffer).run origin.device).value
    let staging := ((stagingFor texture region).run origin).value
    (∀ error, buffer = .error error →
      uploaded.value = .error (.refused (.stagingFailure error.message))) ∧
    ∀ granted, buffer = .ok granted →
      uploaded.value = .ok texture ∧
      (∃ staged written, staging = .ok staged ∧ staged.buffer = granted ∧
        staged.pitch = layout.uploadPitch ∧
        staged.buffer.memory.size = layout.uploadSize ∧
        staged.write { x := 0, y := 0, width := region.width, height := region.height } data
          layout.sourcePitch = .ok written) ∧
      uploaded.state.device.liveBufferCount = origin.device.liveBufferCount ∧
      uploaded.state.stream = origin.stream ∧
      uploaded.state.stats = { origin.stats with
        stagingUploads := origin.stats.stagingUploads + 1
        stagingCreated := origin.stats.stagingCreated + 1
        stagingDestroyed := origin.stats.stagingDestroyed + 1 } ∧
      ∃ commands, uploaded.state = Texture.fallenBack origin commands := by
  intro texture origin uploaded buffer staging
  have hopen := streams_opened hopened
  have hevolves : Evolves session.context origin := evolves_run hopen operations
  have hledger := ((inCustody_opened hopened).run hopen operations).custody.ledger
  have hlimits := limited_run howner made slot
  obtain ⟨hvalidate, -, rfl⟩ := opened_iff.mp hopened
  obtain ⟨-, hpower, -⟩ := Config.validate_eq_ok_iff.mp hvalidate
  have hconfig : origin.config = config := hevolves.continues.config
  have hroute := @Texture.run_load_of_large texture origin layout data region pitch
    (by rw [hconfig]; exact hlayout) hvalid hsize
  obtain ⟨⟨resource, hresource⟩, hwidth, hheight, hfits, hbytes, hrow, rfl⟩ :=
    Texture.uploadLayout_eq_ok hpower hlayout
  have hcolumns : region.width ≤ Dimension.maxWidth := by
    have := (Region.fitsWithin_iff.mp hfits).1
    have := hlimits.width
    omega
  have hstage : texture.CanStage (.ofRegion region texture.nativeFormat.bytesPerPixel pitch
      config.pitchAlignment) data origin := by
    have hbelow : region.width * texture.nativeFormat.bytesPerPixel < maxWord :=
      Nat.lt_of_lt_of_le (Nat.lt_add_of_pos_right (Nat.pos_of_isPowerOfTwo hpower)) hrow
    refine ⟨⟨hbytes, hwidth, hheight, ?_⟩, rfl, hbelow, hvalid⟩
    rw [hconfig]
    exact StagingTexture.pitch?_eq_alignUp hcolumns hpower hword
  have hfresh : origin.device.isLive ⟨origin.device.nextId⟩ = false :=
    hledger.lacks_fresh
  refine ⟨fun error herror => ?_, fun granted hgranted => ?_⟩
  · exact hroute.1.trans (Texture.run_uploadStaging_error hstage hresource herror)
  · obtain ⟨hvalue, hstate⟩ := Texture.run_uploadStaging_ok hstage hresource hfresh hgranted
    obtain ⟨⟨hstaging, -⟩, hmemory, hwritten⟩ := Texture.made_of_granted hstage hgranted
    have hafter : uploaded.state = Texture.fallenBack origin _ := hroute.2.trans hstate
    refine ⟨hroute.1.trans hvalue, ⟨_, _, hstaging, rfl, rfl, hmemory, hwritten⟩, ?_, ?_, ?_,
      _, hafter⟩
    · rw [hafter]
      rfl
    · rw [hafter]
      rfl
    · rw [hafter]
      rfl

/-- Two rows of 8 bytes padded to 16 fill a stream buffer of 32 bytes and go through staging. They
arrive, unless the device is told to refuse the buffer. -/
theorem fallback_fails_only_for_memory_padded :
    let config : Config := { streamSize := 32, pitchAlignment := 16, placementAlignment := 8 }
    let made : List Operation := [
      .create 0 { width := 4, height := 4, layers := 1, levels := 1, samples := 1,
                  format := .rgba8Unorm } {}]
    let region : Region := ⟨1, 2, 2, 2⟩
    let data : ByteArray :=
      ⟨#[1, 2, 3, 4, 5, 6, 7, 8, 9, 10, 11, 12, 13, 14, 15, 16, 17, 18, 19, 20]⟩
    let texture : Texture := ((opening config).run made).texture 0
    ((texture.load region data 12).run ((opening config).run made).context).value = .ok texture ∧
      ((texture.load region data 12).run
          ((opening config).run (made ++ [.failAllocations 1])).context).value =
        .error (.refused (.stagingFailure
          (TextureError.allocationFailure "simulated allocation failure").message)) := by
  intro config made region data texture
  have hopened : Opened config (opening config) :=
    opened_iff.mpr ⟨Config.validate_eq_ok_iff.mpr (by decide), by decide, rfl⟩
  have hlayout : texture.uploadLayout region 12 16 = .ok ⟨region, 12, 8, 16⟩ := by decide +kernel
  have hvalid : UploadLayout.validateSource ⟨region, 12, 8, 16⟩ data.size = .ok () := by
    decide +kernel
  constructor
  · obtain ⟨-, hgranted⟩ := @fallback_fails_only_for_memory config (opening config) hopened
      (by decide) made config (opening config) hopened made 0 region data 12 ⟨region, 12, 8, 16⟩
      hlayout hvalid (by decide +kernel)
    exact (hgranted ⟨⟨3⟩, .zeroed 32⟩ (by decide +kernel)).1
  · obtain ⟨hrefused, -⟩ := @fallback_fails_only_for_memory config (opening config) hopened
      (by decide) (made ++ [.failAllocations 1]) config (opening config) hopened made 0 region data
      12 ⟨region, 12, 8, 16⟩ hlayout hvalid (by decide +kernel)
    exact hrefused (.allocationFailure "simulated allocation failure") (by decide +kernel)

end Session

end Texel
