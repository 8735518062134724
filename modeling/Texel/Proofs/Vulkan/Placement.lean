import Texel.Proofs.Vulkan.Readiness

namespace Texel

open Context

namespace Vulkan

variable {config : Config} {session : Session VulkanDevice}

/-- What a caller writes at the begin of an update lies at the cursor when it ends. -/
theorem meets_beginUpdate_written (h : Ready config session) (slot : Nat) (region : Region)
    (data : ByteArray) :
    (Session.beginUpdate slot region data).Meets (fun now => now = session)
      (fun layout now =>
        (now.texture slot).uploadLayout region 0 config.pitchAlignment = .ok layout ∧
        ∀ index < layout.uploadSize, index < data.size →
          now.context.stream.memory.byteAt (now.context.stream.ring.cursor + index) =
            byteOf data index)
      fun _ _ => True := by
  obtain rfl := h.config_eq
  let begun (layout : UploadLayout) (now : Session VulkanDevice) : Prop :=
    now.textures = session.textures ∧
      (session.texture slot).uploadLayout region 0 session.context.config.pitchAlignment =
        .ok layout ∧
      now.context.stream.ring.cursor + layout.uploadSize ≤ now.context.stream.memory.size
  have hbegun : (Session.tryContext ((session.texture slot).beginUpdate region)).Meets
      (fun now => now = session) begun fun _ _ => True := by
    refine .focus ?_
    rintro session rfl
    refine .mono (Texture.meets_beginUpdate_reserved (VulkanDevice.preserves_proceeds _)
      (session.texture slot) region) h.intact.begins ?_ fun _ _ _ => trivial
    rintro layout context ⟨⟨hcontext, hlayout⟩, hreserved⟩
    refine ⟨rfl, hlayout, ?_⟩
    have hroom := hcontext.ring.reserved_le _ hreserved
    rwa [← hcontext.bytes] at hroom
  refine .get_of_eq ?_
  refine .bind hbegun fun layout => ?_
  refine .bind (.lift fun now (hnow : begun layout now) => ?_) fun _ => .pure fun _ h => h
  obtain ⟨htextures, hlayout, hroom⟩ := hnow
  refine ⟨?_, fun index hindex hdata => ?_⟩
  · rw [Session.texture, ← htextures] at hlayout
    exact hlayout
  · change (now.context.stream.memory.write now.context.stream.ring.cursor data 0
      layout.uploadSize).byteAt (now.context.stream.ring.cursor + index) = _
    rw [Memory.byteAt_write, if_pos]
    · congr 1
      omega
    · unfold Memory.room
      omega

/-- An update that ends right after it has begun: the copy reads what was written in between. -/
theorem fetches_written_update (h : Ready config session) (slot : Nat) (region : Region)
    (data : ByteArray) {layout : UploadLayout}
    (hbegun : ((Session.beginUpdate slot region data).run session).value = .ok layout) :
    let begun := ((Session.beginUpdate slot region data).run session).state
    let texture := begun.texture slot
    let ended := ((texture.endUpdate region).run begun.context).state
    begun.context.device.Records ended.device fun copy =>
      FetchesUpdate texture region begun.context layout copy ∧
      ∀ column row index, column < region.width → row < region.height →
        index < texture.nativeFormat.bytesPerPixel →
        let offset := row * layout.uploadPitch + column * texture.nativeFormat.bytesPerPixel + index
        offset < data.size → begun.context.stream.memory.byteAt
          (copy.address texture.nativeFormat.bytesPerPixel column row + index) =
            byteOf data offset := by
  intro begun texture ended
  have hready : Ready config begun := ready_operation (.beginUpdate slot region data) session h
  obtain ⟨hlayout, hwritten⟩ :
      texture.uploadLayout region 0 config.pitchAlignment = .ok layout ∧ _ :=
    ((meets_beginUpdate_written h slot region data).of_run rfl).1 layout hbegun
  have hrecorded : Recorded _ begun.context ended :=
    (fetches_endUpdate hready.pitch hready.intact texture region).state_run rfl
  refine hrecorded.copies.mono ?_
  rintro copy ⟨other, hfetches⟩
  have hsame := hfetches.layout_eq
  rw [hready.config_eq] at hsame
  obtain rfl : layout = other := Except.ok.inj (hlayout.symm.trans hsame)
  refine ⟨hfetches, ?_⟩
  intro column row index hcolumn hrow hindex offset hdata
  have hinside :=
    texel_le_uploadSize hlayout (hready.config_eq ▸ hready.pitch) hcolumn hrow
  rw [(hfetches.reads.texel column row hcolumn hrow).1, Nat.add_assoc _ _ index,
    Nat.add_assoc _ _ (_ + index), ← Nat.add_assoc (row * _)]
  exact hwritten offset (by omega) hdata

end Vulkan

end Texel
