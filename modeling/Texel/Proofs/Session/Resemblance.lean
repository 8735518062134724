import Texel.Proofs.Session.Carrying

namespace Texel

open Simulated Context

/-- The same texture, perhaps in another usage state if it owns a resource. -/
structure Texture.Resembles (texture other : Texture) : Prop where
  same : other = { texture with state := other.state }
  empty : texture.resource = none → other = texture

namespace Texture.Resembles

variable {texture other third : Texture}

/-- A texture resembles itself. -/
theorem refl (texture : Texture) : texture.Resembles texture :=
  ⟨rfl, fun _ => rfl⟩

/-- Textures that resemble each other own the same resource. -/
theorem resource_eq (h : texture.Resembles other) : other.resource = texture.resource := by
  rw [h.same]

/-- What resembles one that resembles a third resembles that. -/
theorem trans (h : texture.Resembles other) (h' : other.Resembles third) :
    texture.Resembles third where
  same := by
    rw [h'.same, h.same]
  empty hnone := (h'.empty (h.resource_eq.trans hnone)).trans (h.empty hnone)

end Texture.Resembles

/-- The operation replaces, moves, destroys or drops the texture in a slot. -/
def Operation.displaces (slot : Nat) (operation : Operation)
    (session : Session SimulatedDevice) : Bool :=
  match operation with
  | .create target desc formats =>
    target == slot && ((Session.create target desc formats).run session).value.isOk
  | .adopt target source formats state =>
    target == slot && match ((Session.adopt target source formats state).run session).value with
      | some (.ok ()) => true
      | _ => false
  | .destroyTexture target _ | .dropTexture target => target == slot
  | .takeTexture source target => source == slot || target == slot
  | _ => false

namespace Session

variable {session next : Session SimulatedDevice} {slot : Nat} {operation : Operation}

/-- Operations that are not about textures leave them where they are. -/
theorem textures_after (session : Session SimulatedDevice)
    (h : operation.changesTexture = false) :
    (operation.after session).textures = session.textures := by
  have hkeeps : operation.act.Keeps fun now => now.textures = session.textures := by
    refine keeps_parts (fun _ _ hnow => hnow) (fun hchanges => ?_) (fun _ _ _ hnow => hnow)
      fun _ _ hnow => hnow
    rw [h] at hchanges
    cases hchanges
  exact hkeeps session rfl

/-- A texture in another slot has changed, or none. -/
theorem resembles_of_insert {value : Texture} {target : Nat}
    (htextures : next.textures = session.textures.insert target value)
    (hvalue : target = slot → (session.texture slot).Resembles value) :
    (session.texture slot).Resembles (next.texture slot) := by
  rw [texture_of_insert htextures]
  split
  · next heq => exact hvalue heq.symm
  · exact .refl _

/-- A slot that was not touched holds the same texture. -/
theorem resembles_of_get? (h : next.textures.get? slot = session.textures.get? slot) :
    (session.texture slot).Resembles (next.texture slot) := by
  unfold texture
  rw [h]
  exact .refl _

/-- A copy into a texture leaves it as it was. -/
theorem resembles_changeTexture {ε : Type} {target : Nat}
    {change : Texture → Attempt ε (Context SimulatedDevice) Texture}
    (hcopies : (session.texture target).Copies session.context
      (change (session.texture target))) :
    (session.texture slot).Resembles
      (((discard (changeTexture target change).act).run session).state.texture slot) := by
  obtain ⟨hok, -⟩ := Attempt.Meets.of_run hcopies rfl
  change (session.texture slot).Resembles
    (((changeTexture target change).run session).state.texture slot)
  cases hvalue : ((change (session.texture target)).run session.context).value with
  | ok value =>
    obtain ⟨rfl, -⟩ := hok value hvalue
    rw [(changeTexture_ok hvalue).2]
    exact resembles_of_insert rfl fun htarget => htarget ▸ .refl _
  | error error =>
    rw [(changeTexture_error hvalue).2]
    exact resembles_of_get? rfl

/-- A texture that is not displaced stays in its slot, perhaps in another usage state. -/
theorem resembles_operation (hstreams : session.context.Streams)
    (h : operation.displaces slot session = false) :
    (session.texture slot).Resembles ((operation.after session).texture slot) := by
  cases operation with
  | create target desc formats =>
    have hafter : (Operation.create target desc formats).after session =
        ((Session.create target desc formats).run session).state := Act.state_discard _ session
    rw [hafter, Session.create]
    cases hvalue :
        (((session.texture target).create desc formats).run session.context).value with
    | ok value =>
      obtain ⟨haccepted, hstate⟩ := @changeTexture_ok _ session target
        (fun texture => texture.create desc formats) value hvalue
      rw [hstate]
      refine resembles_of_insert rfl fun htarget => ?_
      subst htarget
      simp [Operation.displaces, Session.create, haccepted, Except.isOk, Except.toBool] at h
    | error error =>
      rw [(changeTexture_error hvalue).2]
      exact resembles_of_get? rfl
  | adopt target source formats state =>
    cases hid : session.resources.get? source with
    | none =>
      have hafter : (Operation.adopt target source formats state).after session = session :=
        state_withResource_none hid _
      rw [hafter]
      exact .refl _
    | some id =>
      cases hvalue :
          (((session.texture target).adopt id formats state).run session.context).value with
      | ok value =>
        rw [state_adopt_ok hid hvalue]
        refine resembles_of_insert rfl fun htarget => ?_
        have haccepted : ((changeTexture target fun texture =>
            texture.adopt id formats state).run session).value = .ok () :=
          (changeTexture_ok hvalue).1
        subst htarget
        simp [Operation.displaces, value_adopt hid, haccepted] at h
      | error refusal =>
        rw [state_adopt_error hid hvalue]
        exact resembles_of_get? rfl
  | destroyTexture target deferred =>
    refine resembles_of_insert rfl fun htarget => ?_
    simp [Operation.displaces, htarget] at h
  | dropTexture target =>
    have hafter : (Operation.dropTexture target).after session = _ :=
      state_dropTexture target session
    rw [hafter]
    refine resembles_of_insert rfl fun htarget => ?_
    simp [Operation.displaces, htarget] at h
  | takeTexture source target =>
    simp only [Operation.displaces, Bool.or_eq_false_iff, beq_eq_false_iff_ne] at h
    rw [state_takeTexture]
    refine resembles_of_get? ?_
    simp only [Table.get?_insert, if_neg (Ne.symm h.1), if_neg (Ne.symm h.2)]
  | transition target state =>
    have hvalue : (session.texture target).Resembles
        (((session.texture target).transition state).run session.context).value := by
      cases hresource : (session.texture target).resource with
      | none =>
        rw [Texture.run_transition_of_none hresource]
        exact .refl _
      | some id =>
        rw [(Texture.run_transition hresource state session.context).1]
        exact ⟨rfl, fun hnone => absurd (hresource.symm.trans hnone) (Option.some_ne_none id)⟩
    exact resembles_of_insert rfl fun htarget => htarget ▸ hvalue
  | load target region data pitch =>
    exact resembles_changeTexture (Texture.copies_load hstreams _ region data pitch)
  | endUpdate target region =>
    exact resembles_changeTexture (Texture.copies_endUpdate _ _ region)
  | copyFromBuffer target region rowPitch buffer offset =>
    exact resembles_changeTexture
      (Texture.copies_copyFromBuffer _ _ region rowPitch buffer offset)
  | _ => exact resembles_of_get? (congrArg (·.get? slot) (textures_after session rfl))

end Session

end Texel
