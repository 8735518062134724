import Texel.Proofs.Texture.Upload
import Texel.Proofs.Twins.Context

namespace Texel

open Context

variable {D E : Type} {related : D → E → Prop} {config : Config}

/-- Dimensions are checked without looking at the state. -/
theorem Dimension.mirrors_checkAll {σ τ : Type} {states : σ → τ → Prop}
    (dimensions : List Dimension) :
    (checkAll dimensions).Mirrors (checkAll dimensions) states := by
  induction dimensions with
  | nil => exact .pure ()
  | cons dimension rest ih =>
    refine .bind (.ite (fun _ => ?_) fun _ => .ite (fun _ => ?_) fun _ => .pure ()) fun _ => ih
    · exact .bind .log fun _ => .refuse _
    · exact .bind .log fun _ => .refuse _

namespace Texture

/-- A leak is told from the texture alone. -/
theorem mirrors_leak {σ τ : Type} {states : σ → τ → Prop} (texture : Texture) :
    (texture.leak : Act σ Unit).Mirrors texture.leak states := by
  unfold leak
  cases texture.resource with
  | none => exact .pure ()
  | some id => exact .bind .log fun _ => .log

theorem mirrors_updateLayout (texture : Texture) (region : Region) :
    (texture.updateLayout region).Mirrors (texture.updateLayout region)
      (Context.Twins related config) := by
  refine .get fun left right htwins => ?_
  obtain ⟨hleft, hright⟩ := htwins.config
  rw [hleft, hright, ← htwins.stream]
  refine .bind (.ofExcept _) fun layout => ?_
  refine .ite (fun _ => .pure _) fun _ => ?_
  refine .bind .log fun _ => ?_
  exact .refuse _

end Texture

variable [Device D] [Device E]

namespace StagingTexture

variable (h : Device.Twins related)
include h

/-- A staging texture with at least one byte is made in both of two twin contexts or in neither. -/
theorem mirrors_createWithPitch {width height pitch : Nat} (format : NativeFormat)
    (writable : Bool) (hsize : 0 < pitch * height) :
    (createWithPitch width height format pitch writable).Mirrors
      (createWithPitch width height format pitch writable) (Context.Twins related config) := by
  refine .bind (.answer (mirrors_tryDevice (h.createHostBuffer _ hsize))) fun answer => ?_
  cases answer with
  | ok buffer =>
    refine .bind (.lift (mirrors_count _)) fun _ => ?_
    refine .bind .log fun _ => ?_
    exact .pure _
  | error error => exact .bind .log fun _ => .refuse _

theorem mirrors_create (width height : Nat) (format : NativeFormat) (writable : Bool)
    (hvalid : config.validate = .ok ()) :
    (create width height format writable).Mirrors (create width height format writable)
      (Context.Twins related config) := by
  refine .get fun left right htwins => ?_
  obtain ⟨hleft, hright⟩ := htwins.config
  rw [hleft, hright]
  refine .ite (fun _ => .bind .log fun _ => .refuse _) fun hpixels => ?_
  obtain ⟨hbytes, hwidth, hheight⟩ : format.bytesPerPixel ≠ 0 ∧ width ≠ 0 ∧ height ≠ 0 := by
    simpa only [not_or] using hpixels
  split
  · exact .bind .log fun _ => .refuse _
  · next pitch hpitch =>
    have halignment := (Config.validate_eq_ok_iff.mp hvalid).2.1
    have hrow : 0 < width * format.bytesPerPixel :=
      Nat.mul_pos (Nat.pos_of_ne_zero hwidth) (Nat.pos_of_ne_zero hbytes)
    have hpositive : 0 < pitch :=
      Nat.lt_of_lt_of_le hrow (bounds_of_pitch? halignment hpitch).1
    exact mirrors_createWithPitch h format writable
      (Nat.mul_pos hpositive (Nat.pos_of_ne_zero hheight))

theorem mirrors_copyTo (texture : StagingTexture) (source : Region) (destination : ResourceId)
    (x y : Nat) :
    (texture.copyTo source destination x y).Mirrors (texture.copyTo source destination x y)
      (Context.Twins related config) :=
  mirrors_onDevice (h.recordCopy _)

theorem mirrors_destroy (texture : StagingTexture) (deferred : Bool) :
    (texture.destroy deferred).Mirrors (texture.destroy deferred) (Context.Twins related config) :=
  .bind .log fun _ => .bind (mirrors_count _) fun _ => mirrors_dispose h _ deferred

end StagingTexture

namespace Texture

/-- Twin contexts whose devices know the resource as a texture. -/
def TwinsOn (related : D → E → Prop) (config : Config) (id : ResourceId) :
    Context D → Context E → Prop :=
  Context.Twins (fun left right => related left right ∧ Device.IsTexture left id) config

omit [Device E] in
/-- Contexts that are twins and hold one texture are twins. -/
theorem twins_of_twinsOn {id : ResourceId} {left : Context D} {right : Context E}
    (h : TwinsOn related config id left right) : Context.Twins related config left right :=
  { h with device := h.device.1 }

variable (h : Device.Twins related)
include h

theorem mirrors_destroy (texture : Texture) (deferred : Bool) :
    (texture.destroy deferred).Mirrors (texture.destroy deferred)
      (Context.Twins related config) := by
  refine .bind ?_ fun _ => mirrors_destroySlots h _ deferred
  unfold destroyOwned
  cases texture.resource with
  | none => exact .pure ()
  | some id => exact .bind .log fun _ => mirrors_dispose h _ deferred

/-- The views of a texture that both devices hold get the same slots in twin contexts, or the same
error. -/
theorem matches_allocateViews (resource : ResourceId) (desc : TextureDesc)
    (formats : ViewFormats) :
    (allocateViews resource desc formats).Matches (allocateViews resource desc formats)
      (TwinsOn related config resource) (fun _ => Context.Twins related config)
      (Context.Twins related config) :=
  .focus (ViewSet.matches_allocate h resource desc formats) (fun _ _ htwins => htwins.viewPool)
    (fun _ _ htwins _ _ _ hpool => htwins.setViewPool hpool)
    fun _ _ htwins _ _ hpool => htwins.setViewPool hpool

/-- A common texture is made as a resource of both contexts, with the same identifier, or of
neither. -/
theorem matches_createResource {desc : TextureDesc} (hdesc : desc.IsCommon) (state : UsageState) :
    (createResource desc state).Matches (createResource desc state) (Context.Twins related config)
      (TwinsOn related config) (Context.Twins related config) := by
  have hmade : (tryDevice (Device.createTexture (D := D) desc state)).Matches
      (tryDevice (Device.createTexture (D := E) desc state)) (Context.Twins related config)
      (TwinsOn related config) (Context.Twins related config) :=
    .focus (h.createTexture desc state hdesc) (fun _ _ htwins => htwins.device)
      (fun _ _ htwins _ _ _ hdevice => { htwins with device := hdevice })
      fun _ _ htwins _ _ hdevice => { htwins with device := hdevice }
  refine .answer hmade (fun id => .pure fun _ _ htwins => htwins) fun error => ?_
  exact .bind (.of_mirrors .log) fun _ => .refuse fun _ _ htwins => htwins

theorem mirrors_create (texture : Texture) {desc : TextureDesc} (hdesc : desc.IsCommon)
    (formats : ViewFormats) :
    (texture.create desc formats).Mirrors (texture.create desc formats)
      (Context.Twins related config) := by
  refine .bind (Dimension.mirrors_checkAll _) fun _ => .of_matches ?_
  -- the new texture is known to the device while its views are made; after that it need not be
  refine .bind (matches_createResource h (hdesc.allowIn formats) _) fun resource =>
    .answer (matches_allocateViews h resource _ formats) (fun views => .of_mirrors ?_)
      fun error => .of_mirrors ?_
  · refine .bind .log fun _ => ?_
    refine .bind (.lift (mirrors_destroy h texture true)) fun _ => ?_
    exact .pure _
  · refine .bind .log fun _ => ?_
    refine .bind (.lift (mirrors_dispose h _ false)) fun _ => ?_
    exact .refuse _

/-- Adopting a resource that both devices hold gives the same texture or the same error. -/
theorem matches_adoptDescribed (texture : Texture) (resource : ResourceId) (desc : TextureDesc)
    (formats : ViewFormats) (state : UsageState) :
    (texture.adoptDescribed resource desc formats state).Matches
      (texture.adoptDescribed resource desc formats state) (TwinsOn related config resource)
      (fun _ => Context.Twins related config) (Context.Twins related config) := by
  refine .bind (.mono (.of_mirrors (Dimension.mirrors_checkAll _)) (fun _ _ htwins => htwins)
    (fun _ _ _ htwins => htwins) fun _ _ => twins_of_twinsOn) fun _ => ?_
  refine .answer (matches_allocateViews h resource desc formats) (fun views => .of_mirrors ?_)
    fun error => .of_mirrors ?_
  · refine .bind .log fun _ => ?_
    refine .bind (.lift (mirrors_destroy h texture true)) fun _ => ?_
    exact .pure _
  · exact .bind .log fun _ => .refuse error

/-- Only textures are adopted, so the views are made of a texture. -/
theorem mirrors_adopt (texture : Texture) (resource : ResourceId) (formats : ViewFormats)
    (state : UsageState) :
    (texture.adopt resource formats state).Mirrors (texture.adopt resource formats state)
      (Context.Twins related config) := by
  -- the description is read off the states, which stay known until the views are made
  refine .of_matches (.get_of_eq fun left right htwins => ?_)
  rw [← h.textureDesc _ _ htwins.device]
  split
  · refine .through (fun _ now now' => now = left ∧ now' = right) (.log fun _ _ hnow => hnow)
      fun _ => .refuse ?_
    rintro _ _ ⟨rfl, rfl⟩
    exact htwins
  · next desc hdesc =>
    refine .mapError _ (.mono (matches_adoptDescribed h texture resource desc formats state) ?_
      (fun _ _ _ hafter => hafter) fun _ _ hafter => hafter)
    rintro _ _ ⟨rfl, rfl⟩
    exact { htwins with device := ⟨htwins.device, Option.isSome_of_eq_some hdesc⟩ }

theorem mirrors_transition (texture : Texture) (state : UsageState) :
    (texture.transition state).Mirrors (texture.transition state)
      (Context.Twins related config) := by
  unfold transition
  cases texture.resource with
  | none => exact .pure texture
  | some resource =>
    refine .ite (fun _ => .pure texture) fun _ => ?_
    exact .bind (mirrors_onDevice (h.recordBarrier resource _ state)) fun _ => .pure _

/-- Commands that mirror each other still do between the transition to a copy destination and the
one back. -/
theorem mirrors_asCopyDestination (texture : Texture) {commands : Act (Context D) Unit}
    {commands' : Act (Context E) Unit}
    (hcommands : commands.Mirrors commands' (Context.Twins related config)) :
    (texture.asCopyDestination commands).Mirrors (texture.asCopyDestination commands')
      (Context.Twins related config) :=
  .bind (mirrors_transition h texture .copyDest) fun opened => .bind hcommands fun _ =>
    mirrors_transition h opened texture.state

theorem mirrors_copyFromBuffer (texture : Texture) (region : Region) (rowPitch : Nat)
    (buffer : ResourceId) (offset : Nat) :
    (texture.copyFromBuffer region rowPitch buffer offset).Mirrors
      (texture.copyFromBuffer region rowPitch buffer offset) (Context.Twins related config) := by
  unfold copyFromBuffer
  cases texture.resource with
  | none => exact .refuse _
  | some destination =>
    exact .lift (mirrors_asCopyDestination h texture (mirrors_onDevice (h.recordCopy _)))

/-- The ring is reserved in both of two twin contexts or in neither, with a forced submission in
both or in neither. -/
theorem mirrors_reserveStream (size : Nat) :
    (reserveStream size : Attempt Fault (Context D) Unit).Mirrors (reserveStream size)
      (Context.Twins related config) := by
  refine .get fun left right htwins => ?_
  obtain ⟨hleft, hright⟩ := htwins.config
  rw [hleft, hright]
  refine .bind (mirrors_tryStream _) fun reserved => .ite (fun _ => .pure ()) fun _ => ?_
  refine .bind .log fun _ => ?_
  refine .bind (.lift (mirrors_count _)) fun _ => ?_
  refine .bind (.lift (mirrors_submit h false)) fun _ => ?_
  refine .bind (mirrors_tryStream _) fun reserved => .ite (fun _ => .pure ()) fun _ => ?_
  refine .get fun _ _ _ => ?_
  refine .bind .log fun _ => ?_
  exact .refuse _

theorem mirrors_finishStream (texture : Texture) (layout : UploadLayout) :
    (texture.finishStream layout).Mirrors (texture.finishStream layout)
      (Context.Twins related config) := by
  refine .get fun left right htwins => ?_
  rw [← htwins.stream]
  refine .bind (.lift (mirrors_onStream _)) fun _ => ?_
  refine .bind (mirrors_copyFromBuffer h texture _ _ _ _) fun _ => ?_
  refine .bind (.lift (mirrors_count _)) fun _ => ?_
  exact .pure _

/-- An upload through the ring mirrors in twin contexts, which then hold the same bytes in it. -/
theorem mirrors_uploadStreaming (texture : Texture) (layout : UploadLayout) (data : ByteArray) :
    (texture.uploadStreaming layout data).Mirrors (texture.uploadStreaming layout data)
      (Context.Twins related config) := by
  refine .bind (mirrors_reserveStream h _) fun _ => ?_
  refine .bind (.lift (mirrors_onStream _)) fun _ => ?_
  exact .mapError _ (mirrors_finishStream h texture layout)

theorem mirrors_finishStaging (texture : Texture) (staging : StagingTexture)
    (layout : UploadLayout) (destination : ResourceId) :
    (texture.finishStaging staging layout destination).Mirrors
      (texture.finishStaging staging layout destination) (Context.Twins related config) := by
  refine .bind (mirrors_asCopyDestination h texture (staging.mirrors_copyTo h _ _ _ _)) fun _ => ?_
  refine .bind (staging.mirrors_destroy h false) fun _ => ?_
  exact .bind (mirrors_count _) fun _ => .pure _

theorem mirrors_uploadStaging (texture : Texture) (layout : UploadLayout) (data : ByteArray)
    (hvalid : config.validate = .ok ()) :
    (texture.uploadStaging layout data).Mirrors (texture.uploadStaging layout data)
      (Context.Twins related config) := by
  unfold uploadStaging
  cases texture.resource with
  | none => exact .refuse _
  | some resource =>
    refine .bind .log fun _ => ?_
    refine .bind (.mapError _ (StagingTexture.mirrors_create h _ _ _ true hvalid)) fun staging => ?_
    dsimp only
    split
    · exact .lift (mirrors_finishStaging h texture _ layout resource)
    · exact .refuse _
    · refine .bind .log fun _ => ?_
      refine .bind (.lift (staging.mirrors_destroy h false)) fun _ => ?_
      exact .refuse _

theorem mirrors_load (texture : Texture) (region : Region) (data : ByteArray) (pitch : Nat)
    (hvalid : config.validate = .ok ()) :
    (texture.load region data pitch).Mirrors (texture.load region data pitch)
      (Context.Twins related config) := by
  refine .get fun left right htwins => ?_
  obtain ⟨hleft, hright⟩ := htwins.config
  rw [hleft, hright, ← htwins.stream]
  refine .bind (.ofExcept _) fun layout => ?_
  refine .bind (.mapError _ (.ofExcept _)) fun _ => ?_
  exact .ite (fun _ => mirrors_uploadStreaming h texture layout data)
    fun _ => mirrors_uploadStaging h texture layout data hvalid

theorem mirrors_beginUpdate (texture : Texture) (region : Region) :
    (texture.beginUpdate region).Mirrors (texture.beginUpdate region)
      (Context.Twins related config) :=
  .bind (mirrors_updateLayout texture region) fun _ => .bind (mirrors_reserveStream h _) fun _ =>
    .pure _

theorem mirrors_endUpdate (texture : Texture) (region : Region) :
    (texture.endUpdate region).Mirrors (texture.endUpdate region)
      (Context.Twins related config) := by
  refine .bind (mirrors_updateLayout texture region) fun layout => .get fun left right htwins => ?_
  rw [← htwins.stream]
  refine .ite (fun _ => .mapError _ (mirrors_finishStream h texture layout)) fun _ => ?_
  refine .bind .log fun _ => ?_
  exact .refuse _

end Texture

end Texel
