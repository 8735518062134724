import Texel.Proofs.Session.Resemblance
import Texel.Proofs.Texture.Fallback

namespace Texel

open Simulated Context

/-- Whatever an attempt does, what does not depend on the state holds afterwards. -/
theorem Attempt.Meets.of_const {ε σ α : Type} {attempt : Attempt ε σ α} {known : Prop} :
    attempt.Meets (fun _ => known) (fun _ _ => known) fun _ _ => True := by
  intro state hknown
  change Settles _ _ (attempt.run state).value _
  cases (attempt.run state).value with
  | ok value => exact hknown
  | error error => trivial

/-- No dimension exceeds its maximum. -/
def Dimension.Accepted (desc : TextureDesc) : Prop :=
  ∀ dimension ∈ ofDesc desc, dimension.size ≤ dimension.max

/-- A dimension that passes its check is not too large. -/
theorem Dimension.meets_check {σ : Type} (dimension : Dimension) {known : Prop} :
    (dimension.check : Attempt TextureError σ Unit).Meets (fun _ => known)
      (fun _ _ => known ∧ dimension.size ≤ dimension.max) fun _ _ => True := by
  unfold check
  split
  · exact .after_log (.refuse fun _ _ => trivial)
  · next hmax =>
    split
    · exact .after_log (.refuse fun _ _ => trivial)
    · exact .pure fun _ hknown => ⟨hknown, Nat.le_of_not_lt hmax⟩

/-- Dimensions that pass their checks are not too large. -/
theorem Dimension.meets_checkAll {σ : Type} (dimensions : List Dimension) {known : Prop} :
    (checkAll dimensions : Attempt TextureError σ Unit).Meets (fun _ => known)
      (fun _ _ => known ∧ ∀ dimension ∈ dimensions, dimension.size ≤ dimension.max)
      fun _ _ => True := by
  induction dimensions generalizing known with
  | nil => exact .pure fun _ hknown => ⟨hknown, by simp⟩
  | cons dimension rest ih =>
    refine .bind dimension.meets_check fun _ => .answering ih ?_
    rintro _ _ ⟨⟨hknown, hfirst⟩, hrest⟩
    exact ⟨hknown, List.forall_mem_cons.mpr ⟨hfirst, hrest⟩⟩

/-- Usages that are added for views change no dimension. -/
theorem Dimension.accepted_allowIn {desc : TextureDesc} (h : Accepted desc)
    (formats : ViewFormats) : Accepted (formats.allowIn desc) := by
  unfold ViewFormats.allowIn
  split <;> split <;> exact h

namespace Texture

/-- The texture is no larger than textures may be; an empty one has no size. -/
structure WithinLimits (texture : Texture) : Prop where
  width : texture.width ≤ Dimension.maxWidth
  height : texture.height ≤ Dimension.maxHeight
  layers : texture.layers ≤ Dimension.maxLayers
  levels : texture.levels ≤ Dimension.maxLevels
  samples : texture.samples ≤ Dimension.maxSamples

/-- An empty texture is within the limits. -/
theorem withinLimits_empty : ({} : Texture).WithinLimits :=
  ⟨Nat.zero_le _, Nat.zero_le _, Nat.zero_le _, Nat.zero_le _, Nat.zero_le _⟩

/-- A texture of an accepted description is within the limits. -/
theorem withinLimits_ofResource {desc : TextureDesc} (h : Dimension.Accepted desc)
    (id : ResourceId) (views : ViewSet) (state : UsageState) :
    (ofResource id views desc state).WithinLimits := by
  simp only [Dimension.Accepted, Dimension.ofDesc, List.forall_mem_cons] at h
  obtain ⟨hwidth, hheight, hlayers, hlevels, hsamples, -⟩ := h
  exact ⟨hwidth, hheight, hlayers, hlevels, hsamples⟩

/-- The limits do not depend on the state of a texture. -/
theorem Resembles.withinLimits {texture other : Texture} (h : texture.Resembles other)
    (hlimits : texture.WithinLimits) : other.WithinLimits := by
  rw [h.same]
  exact ⟨hlimits.width, hlimits.height, hlimits.layers, hlimits.levels, hlimits.samples⟩

/-- A texture that is created has passed the checks of its dimensions. -/
theorem limited_create (texture : Texture) (desc : TextureDesc) (formats : ViewFormats) :
    (texture.create desc formats : Attempt TextureError (Context SimulatedDevice) Texture).Meets
      (fun _ => True) (fun value _ => value.WithinLimits) fun _ _ => True := by
  have hchecked : (Dimension.checkAll (Dimension.ofDesc desc) :
      Attempt TextureError (Context SimulatedDevice) Unit).Meets (fun _ => True)
      (fun _ _ => Dimension.Accepted (formats.allowIn desc)) fun _ _ => True := by
    refine .answering (Dimension.meets_checkAll _) ?_
    rintro _ _ ⟨-, haccepted⟩
    exact Dimension.accepted_allowIn haccepted formats
  refine .bind hchecked fun _ => ?_
  refine .bind .of_const fun resource => ?_
  refine .answer .of_const (fun views => ?_) fun error => ?_
  · refine .after_log ?_
    refine .bind .of_const fun _ => ?_
    refine .pure fun context haccepted => ?_
    exact withinLimits_ofResource haccepted _ _ _
  · refine .after_log ?_
    refine .through (fun _ _ => True) (.lift fun _ _ => trivial) fun _ => ?_
    exact .refuse fun _ _ => trivial

/-- So has a texture that adopts a resource. -/
theorem limited_adopt (texture : Texture) (resource : ResourceId) (formats : ViewFormats)
    (state : UsageState) :
    (texture.adopt resource formats state :
      Attempt AdoptRefusal (Context SimulatedDevice) Texture).Meets
      (fun _ => True) (fun value _ => value.WithinLimits) fun _ _ => True := by
  refine .get fun context => ?_
  split
  · exact .after_log (.refuse fun _ _ => trivial)
  · next desc _ =>
    refine .mapError (.through (fun _ _ => Dimension.Accepted desc) ?_ fun _ => ?_)
    · refine .mono (@Dimension.meets_checkAll _ _ True) (fun _ _ => trivial) ?_ fun _ _ h => h
      rintro _ _ ⟨-, haccepted⟩
      exact haccepted
    · refine .answer .of_const (fun views => ?_) fun error => ?_
      · exact .after_log (.bind .of_const fun _ =>
          .pure fun _ haccepted => withinLimits_ofResource haccepted _ _ _)
      · exact .after_log (.refuse fun _ _ => trivial)

section Layout

variable {texture : Texture} {region : Region} {sourcePitch pitchAlignment : Nat}
  (hwidth : texture.width ≤ Dimension.maxWidth) (hpower : pitchAlignment.isPowerOfTwo)
  (hword : pitchAlignment ≤ maxWord)
include hwidth hpower hword

/-- At an alignment of at most 32 bits, every row of a texture that is no wider than textures may be
can be aligned. -/
theorem NoLayout.ne_abort {fault : Fault} (h : NoLayout texture region pitchAlignment fault) :
    fault ≠ .abort := by
  rintro rfl
  obtain - | ⟨hfits, hover⟩ := h
  obtain ⟨hcolumns, -⟩ := Region.fitsWithin_iff.mp hfits
  have hrow := @StagingTexture.row_add_le_maxWord region.width pitchAlignment texture.nativeFormat
    (by omega) hpower hword
  omega

/-- The layout of an upload to such a texture never ends the program. -/
theorem uploadLayout_ne_abort :
    texture.uploadLayout region sourcePitch pitchAlignment ≠ .error .abort :=
  fun habort => (noLayout_of_uploadLayout habort).ne_abort hwidth hpower hword rfl

end Layout

/-- The end of an update of a texture within the limits never ends the program. -/
theorem endUpdate_ne_abort {texture : Texture} {origin : Context SimulatedDevice}
    (hlimits : texture.WithinLimits) (hpower : origin.config.pitchAlignment.isPowerOfTwo)
    (hword : origin.config.pitchAlignment ≤ maxWord) (region : Region) :
    ((texture.endUpdate region).run origin).value ≠ .error .abort := by
  have hends : (texture.endUpdate region).Meets (fun context => context = origin)
      (fun _ _ => True) fun fault _ => fault ≠ .abort := by
    refine .bind (.refusing (meets_updateLayout region) ?_) fun layout => ?_
    · rintro _ _ ⟨-, hnone | -⟩
      · exact hnone.ne_abort hlimits.width hpower hword
      · exact fun habort => by cases habort
    · refine .get fun context => ?_
      simp only
      split
      · refine .mapError (.mono .of_const (fun _ _ => trivial) (fun _ _ h => h) ?_)
        exact fun _ _ _ habort => by cases habort
      · exact .after_log (.refuse fun _ _ habort => by cases habort)
  exact fun habort => (hends.of_run rfl).2 _ habort rfl

end Texture

namespace Session

variable {session next : Session SimulatedDevice} {slot : Nat}

/-- No texture in a slot is larger than textures may be. -/
def Limited (session : Session SimulatedDevice) : Prop :=
  ∀ slot, (session.texture slot).WithinLimits

/-- A texture within the limits may be put into a slot. -/
theorem limited_insert {value : Texture} {target : Nat} (h : session.Limited)
    (htextures : next.textures = session.textures.insert target value)
    (hvalue : value.WithinLimits) : next.Limited := by
  intro slot
  rw [texture_of_insert htextures]
  split
  · exact hvalue
  · exact h slot

/-- A change that leads to textures within the limits keeps all of them there. -/
theorem limited_changeTexture {ε : Type} {target : Nat}
    {change : Texture → Attempt ε (Context SimulatedDevice) Texture} (h : session.Limited)
    (hchange : (change (session.texture target)).Meets (fun _ => True)
      (fun value _ => value.WithinLimits) fun _ _ => True) :
    ((changeTexture target change).run session).state.Limited := by
  cases hvalue : ((change (session.texture target)).run session.context).value with
  | ok value =>
    rw [(changeTexture_ok hvalue).2]
    exact limited_insert h rfl ((hchange.of_run trivial).1 value hvalue)
  | error error =>
    rw [(changeTexture_error hvalue).2]
    exact h

/-- Every operation keeps all textures within the limits. -/
theorem limited_operation (hstreams : session.context.Streams) (h : session.Limited)
    (operation : Operation) : (operation.after session).Limited := by
  cases operation with
  | create target desc formats =>
    have hafter : (Operation.create target desc formats).after session =
        ((Session.create target desc formats).run session).state := Act.state_discard _ session
    rw [hafter]
    exact limited_changeTexture h (Texture.limited_create _ desc formats)
  | adopt target source formats state =>
    cases hid : session.resources.get? source with
    | none =>
      have hstate : (Operation.adopt target source formats state).after session = session :=
        state_withResource_none hid _
      rw [hstate]
      exact h
    | some id =>
      cases hvalue :
          (((session.texture target).adopt id formats state).run session.context).value with
      | ok value =>
        rw [state_adopt_ok hid hvalue]
        exact limited_insert h rfl
          (((Texture.limited_adopt _ id formats state).of_run trivial).1 value hvalue)
      | error refusal =>
        rw [state_adopt_error hid hvalue]
        exact h
  | destroyTexture target deferred => exact limited_insert h rfl Texture.withinLimits_empty
  | dropTexture target =>
    have hafter : (Operation.dropTexture target).after session = _ :=
      state_dropTexture target session
    rw [hafter]
    exact limited_insert h rfl Texture.withinLimits_empty
  | takeTexture source target =>
    rw [state_takeTexture]
    have hsource : ({ session with textures := session.textures.insert source {} } :
        Session SimulatedDevice).Limited := limited_insert h rfl Texture.withinLimits_empty
    have htarget : ({ session with
        textures := (session.textures.insert source {}).insert target {} } :
        Session SimulatedDevice).Limited := limited_insert hsource rfl Texture.withinLimits_empty
    exact limited_insert htarget rfl (h source)
  | _ => exact fun slot => (resembles_operation hstreams rfl).withinLimits (h slot)

/-- No run makes a texture larger than textures may be. -/
theorem limited_run {config : Config} (hopened : Opened config session)
    (operations : List Operation) : (session.run operations).Limited := by
  have hstart : session.Limited := by
    obtain ⟨-, -, rfl⟩ := opened_iff.mp hopened
    exact fun slot => Texture.withinLimits_empty
  refine (run_induction (P := fun now => now.context.Streams ∧ now.Limited) ?_
    ⟨streams_opened hopened, hstart⟩ operations).2
  rintro now operation ⟨hstreams, hlimited⟩
  exact ⟨streams_after hstreams operation, limited_operation hstreams hlimited operation⟩

end Session

end Texel
