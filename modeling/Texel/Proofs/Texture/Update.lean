import Texel.Proofs.Texture.Upload

namespace Texel

open Context

namespace Context

/-- The bytes, the cursor and the reservation of the stream buffer are those of another context. -/
structure Pends (origin context : Context SimulatedDevice) : Prop where
  memory : context.stream.memory = origin.stream.memory
  resource : context.stream.resource = origin.stream.resource
  capacity : context.stream.ring.capacity = origin.stream.ring.capacity
  cursor : context.stream.ring.cursor = origin.stream.ring.cursor
  reserved : context.stream.ring.reserved = origin.stream.ring.reserved
  config : context.config = origin.config

variable {origin context next : Context SimulatedDevice}

/-- An update waits as long as nothing is done. -/
theorem Pends.refl (context : Context SimulatedDevice) : Pends context context :=
  ⟨rfl, rfl, rfl, rfl, rfl, rfl⟩

/-- An update that waits twice waits all the time. -/
theorem Pends.trans (h : Pends origin context) (h' : Pends context next) : Pends origin next where
  memory := h'.memory.trans h.memory
  resource := h'.resource.trans h.resource
  capacity := h'.capacity.trans h.capacity
  cursor := h'.cursor.trans h.cursor
  reserved := h'.reserved.trans h.reserved
  config := h'.config.trans h.config

/-- Submissions and their completion move the read side only, even if they leave the ring idle. -/
theorem lasts_pends (origin : Context SimulatedDevice) : Lasts (Pends origin) where
  steady h hsteady := by
    refine h.trans ⟨?_, ?_, ?_, ?_, ?_, hsteady.config⟩ <;> rw [hsteady.stream]
  record _ h := h.trans ⟨rfl, rfl, rfl, rfl, rfl, rfl⟩
  submit {context} _ h := by
    refine h.trans ?_
    constructor <;> simp [submitted, StreamBuffer.track]
  reclaim h := h.trans ⟨rfl, rfl, rfl, rfl, rfl, rfl⟩
  complete h := h.trans ⟨rfl, rfl, rfl, rfl, rfl, rfl⟩

/-- An update waits through a forced submission. -/
theorem pends_forced (context : Context SimulatedDevice) : Pends context context.forced :=
  (lasts_pends context).keeps_submit false _
    ((lasts_pends context).steady (.refl context) (steady_counted context _))

end Context

namespace Texture

variable {texture : Texture} {region : Region} {layout : UploadLayout}
  {origin context : Context SimulatedDevice}

/-- An upload that is refused takes nothing. -/
theorem LoadRefused.pends {fault : Fault} (h : LoadRefused texture region origin fault context) :
    Pends origin context := by
  rcases h.leaves with rfl | rfl | rfl
  · exact .refl _
  · exact pends_forced origin
  · exact ⟨rfl, rfl, rfl, rfl, rfl, rfl⟩

/-- An update waits while another one is refused. -/
theorem UpdateRefused.pends {fault : Fault} (h : UpdateRefused texture region origin fault
    context) : Pends origin context := by
  rcases h.leaves with rfl | rfl
  · exact .refl _
  · exact pends_forced origin

/-- An upload through a staging buffer takes nothing. -/
theorem Loaded.pends {resource : ResourceId} {data : ByteArray}
    (hresource : texture.resource = some resource)
    (hsize : origin.stream.ring.capacity ≤ layout.uploadSize)
    (h : Loaded texture resource layout data origin context) : Pends origin context := by
  cases h with
  | streaming hfits => omega
  | staging =>
    let staged := StagingTexture.staged origin layout.uploadSize
    let staging := texture.stagingOf layout data ⟨origin.device.nextId⟩
    have hstaged : Pends origin
        (staged.recorded (texture.stagingCommands resource staging layout)) :=
      ⟨rfl, rfl, rfl, rfl, rfl, rfl⟩
    obtain ⟨-, hsteady⟩ := meets_finishStaging hresource staging layout staged rfl
    exact (lasts_pends origin).steady hstaged hsteady

/-- A layout that fits the ring is the one of the update. -/
theorem run_updateLayout
    (hlayout : texture.uploadLayout region 0 origin.config.pitchAlignment = .ok layout)
    (hsize : layout.uploadSize < origin.stream.ring.capacity) :
    (texture.updateLayout region).run origin = ⟨.ok layout, origin, []⟩ := by
  unfold updateLayout
  simp only [Attempt.run_bind, Attempt.run_get, hlayout, Attempt.run_ofExcept, hsize, if_true,
    Attempt.run_pure, List.append_nil]

/-- An update that a reservation covers ends with what was written at the cursor. -/
theorem run_endUpdate
    (hlayout : texture.uploadLayout region 0 origin.config.pitchAlignment = .ok layout)
    (hcapacity : layout.uploadSize < origin.stream.ring.capacity) {resource : ResourceId}
    (hresource : texture.resource = some resource) {reserved : Nat}
    (hreserved : origin.stream.ring.reserved = some reserved)
    (hsize : layout.uploadSize ≤ reserved) :
    ((texture.endUpdate region).run origin).value = .ok texture ∧
      ((texture.endUpdate region).run origin).state =
        texture.streamed resource layout origin := by
  unfold endUpdate
  simp only [Attempt.run_bind, run_updateLayout hlayout hcapacity, Attempt.run_get, hreserved,
    Option.any_some, hsize, decide_true, if_true, Attempt.run_mapError]
  obtain ⟨hvalue, hstate⟩ := run_finishStream hresource hreserved hsize
  exact ⟨congrArg (Except.mapError Fault.refused) hvalue, hstate⟩

/-- Without a reservation no update ends. -/
theorem endUpdate_unreserved (hreserved : origin.stream.ring.reserved = none) :
    ∃ fault, ((texture.endUpdate region).run origin).value = .error fault := by
  obtain ⟨hok, -⟩ := (meets_endUpdate region).of_run rfl
  cases hvalue : ((texture.endUpdate region).run origin).value with
  | ok value =>
    obtain ⟨-, _, _, reserved, -, -, hsome, -⟩ := hok value hvalue
    rw [hreserved] at hsome
    cases hsome
  | error fault => exact ⟨fault, rfl⟩

end Texture

end Texel
