import Texel.Proofs.Context.Quiet
import Texel.Proofs.Texture.Work

namespace Texel

open Simulated Context

namespace ViewPool

variable {before : ViewPool SimulatedDevice → Prop}

/-- A heap without free slots is reported, but that is no complaint. -/
theorem quiet_heapExhausted (kind : ViewKind) (resource : ResourceId) :
    (heapExhausted kind resource : Attempt TextureError (ViewPool SimulatedDevice) Slot).Quiet
      before := by
  refine .andThen (.lift (.silent fun _ => rfl)) fun heap => ?_
  exact .after (.report (by simp)) .refuse

/-- The slot of a view that was refused goes back to the heap it was just taken from. -/
theorem quiet_viewRefused (kind : ViewKind) (resource : ResourceId) (slot : Slot)
    (error : TextureError) :
    (viewRefused kind resource slot error :
      Attempt TextureError (ViewPool SimulatedDevice) Slot).Quiet fun pool =>
        ∃ heap, (pool.heaps.heap kind).release slot = .ok heap := by
  refine .after (.report (by simp)) ?_
  refine .lifted (fun taken _ => taken = true) ?_ ?_ fun taken => ?_
  · rintro pool ⟨heap, hrelease⟩ line hline
    rw [run_takeBack hrelease] at hline
    cases hline
  · rintro pool ⟨heap, hrelease⟩
    rw [run_takeBack hrelease]
  · cases taken with
    | true => exact .refuse
    | false => exact fun _ htaken => nomatch htaken

/-- A slot that the device has no view for goes back to its heap, which has handed it out. -/
theorem quiet_createView (kind : ViewKind) (resource : ResourceId) (desc : TextureDesc)
    (format : NativeFormat) :
    (createView kind resource desc format :
      Attempt TextureError (ViewPool SimulatedDevice) Slot).Quiet fun pool => pool.heaps.Sound := by
  refine .each fun origin hsound => ?_
  have hallocate : (onHeap kind Heap.allocate : Act (ViewPool SimulatedDevice) (Option Slot)).Quiet
      fun pool => pool = origin := by
    refine .focus fun _ _ => .get fun heap => ?_
    split <;> exact .silent fun _ => rfl
  refine .lifted _ hallocate (meets_allocate origin kind) fun slot? => ?_
  cases slot? with
  | none => exact quiet_heapExhausted kind resource
  | some slot =>
    refine .each ?_
    rintro _ ⟨rest, hrest, rfl⟩
    obtain ⟨rfl, -, -, -, hback⟩ := Heap.allocate?_spec (hsound kind) hrest
    refine .answer (.focus fun _ _ => SimulatedDevice.quiet_createView _ _ _)
      (meets_tryDevice (SimulatedDevice.meets_createView _ _ _ _)) (fun _ => .pure) fun error => ?_
    refine (quiet_viewRefused _ resource slot error).mono ?_
    rintro _ ⟨_, -, rfl⟩
    refine ⟨origin.heaps.heap slot.kind, ?_⟩
    rw [withHeap, Heaps.heap_setHeap, if_pos rfl]
    exact hback

end ViewPool

namespace ViewSet

variable {conduct : Conduct} {origin : Context SimulatedDevice} {books : Books}

/-- Slots with an owner are released without a complaint. -/
theorem quiet_releaseSlots (hlinear : conduct.linear) (slots : List Slot) :
    (releaseSlots slots : Act (ViewPool SimulatedDevice) Unit).Quiet
      (Custody conduct origin (withSlots books slots)) := by
  induction slots with
  | nil => exact .silent fun _ => rfl
  | cons slot rest ih =>
    refine .through (fun _ => Custody conduct origin (withSlots books rest))
      ((ViewPool.quiet_release slot).mono fun pool hpool => ?_) ?_ fun _ => ih
    · exact ⟨hpool.ledger.heaps, (hpool.ledger.taken hlinear slot).mpr
        (Books.mem_owned.mpr (.inr (.inl List.mem_cons_self)))⟩
    · exact fun pool hpool => custody_freed_unnamed hpool (.refl _)

/-- Making a sampled view is no reason for a complaint. -/
theorem quiet_allocateSampled (resource : ResourceId) (desc : TextureDesc)
    (formats : ViewFormats) :
    (allocateSampled resource desc formats :
      Attempt TextureError (ViewPool SimulatedDevice) (Option Slot)).Quiet
        (Custody conduct origin books) := by
  unfold allocateSampled
  split
  · exact .pure
  · exact .andThen ((ViewPool.quiet_createView _ _ _ _).mono fun pool hpool =>
      hpool.ledger.heaps) fun _ => .pure

/-- Making a target view is no reason for a complaint. -/
theorem quiet_allocateTarget (resource : ResourceId) (desc : TextureDesc)
    (formats : ViewFormats) :
    (allocateTarget resource desc formats :
      Attempt TextureError (ViewPool SimulatedDevice) (Option Slot)).Quiet
        (Custody conduct origin books) := by
  unfold allocateTarget
  split
  · exact .pure
  · exact .andThen ((ViewPool.quiet_createView _ _ _ _).mono fun pool hpool =>
      hpool.ledger.heaps) fun _ => .pure

/-- If the second view is refused, the first one is there to be released. -/
theorem quiet_allocate (hlinear : conduct.linear) (resource : ResourceId) (desc : TextureDesc)
    (formats : ViewFormats) :
    (allocate resource desc formats :
      Attempt TextureError (ViewPool SimulatedDevice) ViewSet).Quiet
        (Custody conduct origin books) := by
  refine .bind (quiet_allocateSampled resource desc formats)
    (custody_allocateSampled resource desc formats) fun sampled => ?_
  refine .answer (quiet_allocateTarget resource desc formats)
    (custody_allocateTarget resource desc formats) (fun target => .pure) fun error => ?_
  have hslots : ({ shaderResource := sampled } : ViewSet).slots = sampled.toList :=
    List.append_nil _
  unfold release
  rw [hslots]
  exact .andThen (.lift (quiet_releaseSlots hlinear sampled.toList)) fun _ => .refuse

end ViewSet

/-- Dimensions are checked without a complaint. -/
theorem Dimension.quiet_checkAll (dimensions : List Dimension)
    {before : Context SimulatedDevice → Prop} :
    (checkAll dimensions : Attempt TextureError (Context SimulatedDevice) Unit).Quiet before := by
  induction dimensions generalizing before with
  | nil => exact .pure
  | cons dimension rest ih =>
    refine .andThen ?_ fun _ => ih
    unfold check
    split
    · exact .after (.report (by simp)) .refuse
    · split
      · exact .after (.report (by simp)) .refuse
      · exact .pure

namespace Texture

variable {conduct : Conduct} {origin start : Context SimulatedDevice}
  {held unnamed rest items : List Retired} {before : Context SimulatedDevice → Prop}

/-- Slots that are given up one after the other are there until it is their turn. -/
theorem quiet_destroySlots (slots : List Slot) (deferred : Bool) :
    (destroySlots slots deferred : Act (Context SimulatedDevice) Unit).Quiet
      (Holds (slots.map .descriptor)) := by
  induction slots with
  | nil => exact .silent fun _ => rfl
  | cons slot rest ih =>
    exact .bind ((quiet_dispose _ deferred).mono fun _ h => Holds.prefix h)
      (fun context h => holds_disposed h deferred) fun _ => ih

/-- Destroying a texture frees what it holds. -/
theorem quiet_destroy (texture : Texture) (deferred : Bool) :
    (texture.destroy deferred : Act (Context SimulatedDevice) Unit).Quiet
      (Holds texture.holdings) := by
  unfold destroy destroyOwned holdings
  cases texture.resource with
  | none => exact .through _ (.silent fun _ => rfl) (fun _ h => h) fun _ => quiet_destroySlots _ _
  | some id =>
    have hdispose := (quiet_dispose (.resource id) deferred).mono
      fun context (h : context.Holds (.resource id :: texture.views.slots.map .descriptor)) =>
        Holds.prefix h
    refine .bind (.after (.note (by decide)) hdispose) ?_ fun _ => quiet_destroySlots _ deferred
    exact fun context h => holds_disposed h deferred

/-- Making the resource of a texture is no reason for a complaint. -/
theorem quiet_createResource (desc : TextureDesc) (state : UsageState) :
    (createResource desc state :
      Attempt TextureError (Context SimulatedDevice) ResourceId).Quiet before := by
  refine .andThen (.lift (.focus fun _ _ => SimulatedDevice.quiet_createTexture desc state))
    fun answer => ?_
  cases answer with
  | ok id => exact .pure
  | error error =>
    exact .after (.report (by simp)) .refuse

/-- Making views releases only those made before, if one of them fails. -/
theorem quiet_allocateViews (hlinear : conduct.linear) (resource : ResourceId) (desc : TextureDesc)
    (formats : ViewFormats) :
    (allocateViews resource desc formats :
      Attempt TextureError (Context SimulatedDevice) ViewSet).Quiet
        (Midway conduct origin start held unnamed items) := by
  refine .focus fun context hcontext => ?_
  have hquiet : (ViewSet.allocate resource desc formats).Quiet
      (Custody conduct origin (context.books held unnamed)) :=
    ViewSet.quiet_allocate hlinear resource desc formats
  refine hquiet.mono ?_
  rintro _ rfl
  exact hcontext.custody

/-- A texture gives up what it held before, or the resource that was made for it. -/
theorem quiet_create (hlinear : conduct.linear) (texture : Texture) (desc : TextureDesc)
    (formats : ViewFormats) :
    (texture.create desc formats : Attempt TextureError (Context SimulatedDevice) Texture).Quiet
      (Midway conduct origin start (texture.holdings ++ rest) unnamed []) := by
  refine .bind (Dimension.quiet_checkAll _) (.of_keeps (Dimension.keeps_checkAll _)) fun _ => ?_
  refine .bind (quiet_createResource _ _) (midway_createResource _ _) fun resource => ?_
  refine .answer (quiet_allocateViews hlinear resource _ formats)
    (midway_allocateViews resource _ formats) (fun views => ?_) fun error => ?_
  · refine .after (.note (by decide)) ?_
    refine .andThen (.lift ((texture.quiet_destroy true).mono ?_)) fun _ => .pure
    exact fun _ h => h.custody.holds hlinear
  · refine .after (.report (by simp)) ?_
    refine .andThen (.lift ((quiet_dispose _ false).mono ?_)) fun _ => .refuse
    exact fun _ h => h.custody.holds_unnamed hlinear

/-- A texture gives up what it holds when it adopts a resource, and what it holds is there. -/
theorem quiet_adoptDescribed (hlinear : conduct.linear) (texture : Texture) (resource : ResourceId)
    (desc : TextureDesc) (formats : ViewFormats) (state : UsageState) :
    (texture.adoptDescribed resource desc formats state :
      Attempt TextureError (Context SimulatedDevice) Texture).Quiet
        (Midway conduct origin start (texture.holdings ++ rest) unnamed []) := by
  refine .bind (Dimension.quiet_checkAll _) (.of_keeps (Dimension.keeps_checkAll _)) fun _ => ?_
  refine .answer (quiet_allocateViews hlinear resource desc formats)
    (midway_allocateViews resource desc formats) (fun views => ?_) fun error => ?_
  · refine .after (.note (by decide)) ?_
    refine .andThen (.lift ((texture.quiet_destroy true).mono ?_)) fun _ => .pure
    exact fun _ h => h.custody.holds hlinear
  · exact .after (.report (by simp)) .refuse

/-- Adopting is no reason for a complaint. -/
theorem quiet_adopt (hlinear : conduct.linear) (texture : Texture) (resource : ResourceId)
    (formats : ViewFormats) (state : UsageState) :
    (texture.adopt resource formats state :
      Attempt AdoptRefusal (Context SimulatedDevice) Texture).Quiet
        (Midway conduct origin start (texture.holdings ++ rest) unnamed []) := by
  refine .get fun context => ?_
  split
  · exact .after (.report (by simp)) .refuse
  · exact .mapError _ ((texture.quiet_adoptDescribed hlinear resource _ formats state).mono
      fun _ hcontext => hcontext.2)

/-- A transition is no reason for a complaint. -/
theorem quiet_transition (texture : Texture) (state : UsageState) :
    (texture.transition state : Act (Context SimulatedDevice) Texture).Quiet before := by
  unfold transition
  split
  · exact .silent fun _ => rfl
  · split
    · exact .silent fun _ => rfl
    · exact .andThen (.focus fun _ _ => SimulatedDevice.quiet_recordBarrier _ _ _) fun _ =>
        .silent fun _ => rfl

/-- Opening a texture for copies adds no complaint to those of the commands. -/
theorem quiet_asCopyDestination (texture : Texture) {commands : Act (Context SimulatedDevice) Unit}
    (h : commands.Quiet fun _ => True) : (texture.asCopyDestination commands).Quiet before :=
  .andThen (texture.quiet_transition _) fun opened => .andThen h fun _ => opened.quiet_transition _

/-- A copy from a buffer is no reason for a complaint. -/
theorem quiet_copyFromBuffer (texture : Texture) (region : Region) (rowPitch : Nat)
    (buffer : ResourceId) (offset : Nat) :
    (texture.copyFromBuffer region rowPitch buffer offset :
      Attempt TextureError (Context SimulatedDevice) Texture).Quiet before := by
  unfold copyFromBuffer
  split
  · exact .refuse
  · exact .lift (texture.quiet_asCopyDestination (.focus fun _ _ =>
      SimulatedDevice.quiet_recordCopy _))

end Texture

namespace StagingTexture

variable {before : Context SimulatedDevice → Prop}

/-- Making the buffer of a staging texture is no reason for a complaint. -/
theorem quiet_createWithPitch (width height : Nat) (format : NativeFormat) (pitch : Nat)
    (writable : Bool) :
    (createWithPitch width height format pitch writable :
      Attempt TextureError (Context SimulatedDevice) StagingTexture).Quiet before := by
  refine .andThen (.lift (.focus fun _ _ => SimulatedDevice.quiet_createHostBuffer _))
    fun answer => ?_
  cases answer with
  | error error =>
    exact .after (.report (by simp)) .refuse
  | ok buffer =>
    refine .andThen (.lift (.silent fun _ => rfl)) fun _ => ?_
    exact .after (.note (by decide)) .pure

/-- Creating a staging texture is no reason for a complaint. -/
theorem quiet_create (width height : Nat) (format : NativeFormat) (writable : Bool) :
    (create width height format writable :
      Attempt TextureError (Context SimulatedDevice) StagingTexture).Quiet before := by
  refine .get fun context => ?_
  split
  · exact .after (.report (by simp)) .refuse
  · split
    · exact .after (.report (by simp)) .refuse
    · exact quiet_createWithPitch _ _ _ _ _

/-- A copy from a staging texture is no reason for a complaint. -/
theorem quiet_copyTo (staging : StagingTexture) (source : Region) (destination : ResourceId)
    (x y : Nat) :
    (staging.copyTo source destination x y : Act (Context SimulatedDevice) Unit).Quiet before :=
  .focus fun _ _ => SimulatedDevice.quiet_recordCopy _

/-- A staging texture whose buffer is there is destroyed without a complaint. -/
theorem quiet_destroy (staging : StagingTexture) (deferred : Bool) :
    (staging.destroy deferred : Act (Context SimulatedDevice) Unit).Quiet
      (Holds [.resource staging.buffer.resource]) := by
  refine .after (.note (by decide)) ?_
  refine .through (fun _ => Holds [.resource staging.buffer.resource]) (.silent fun _ => rfl)
    (fun _ h => h) fun _ => quiet_dispose _ deferred

end StagingTexture

namespace StreamBuffer

variable {before : StreamBuffer → Prop}

/-- A reservation is no reason for a complaint. -/
theorem quiet_reserve (size alignment : Nat) : (reserve size alignment).Quiet before := by
  refine .get fun buffer => ?_
  split
  · exact .andThen (.lift (.silent fun _ => rfl)) fun _ => .pure
  · split
    · exact .after (.report (by simp)) .pure
    · exact .pure
  · exact .refuse

/-- Taking what was written is no reason for a complaint. -/
theorem quiet_commit (size : Nat) : (commit size).Quiet before := by
  refine .get fun buffer => ?_
  split
  · exact .silent fun _ => rfl
  · exact .after (.report (by simp)) (.silent fun _ => rfl)

end StreamBuffer

namespace Texture

variable {conduct : Conduct} {origin start : Context SimulatedDevice}
  {held unnamed items : List Retired}
  {before : Context SimulatedDevice → Prop} {texture : Texture} {resource : ResourceId}

/-- A submission that is forced reaps what is there to be reaped. -/
theorem quiet_reserveStream (size : Nat) :
    (reserveStream size : Attempt Fault (Context SimulatedDevice) Unit).Quiet
      HoldsQueue := by
  have hreserve {before : Context SimulatedDevice → Prop} (alignment : Nat) :
      (tryStream (StreamBuffer.reserve size alignment)).Quiet before :=
    .focus fun _ _ => StreamBuffer.quiet_reserve size alignment
  have hkeeps (context : Context SimulatedDevice) (alignment : Nat) :
      (tryStream (StreamBuffer.reserve size alignment) :
        Attempt Fault (Context SimulatedDevice) Bool).Meets
        (fun now => now = context ∧ HoldsQueue now) (fun _ => HoldsQueue) fun _ => HoldsQueue :=
    .narrow (.of_keeps fun _ h => h) (fun _ h => h.2)
  refine .get fun context => ?_
  refine .bind (hreserve _) (hkeeps context _) fun found => ?_
  split
  · exact .pure
  · refine .after (.report (by simp)) ?_
    refine .lifted (fun _ => HoldsQueue) (.silent fun _ => rfl) (fun _ h => h) fun _ => ?_
    refine .andThen (.lift (quiet_submit false)) fun _ => ?_
    refine .andThen (hreserve _) fun found => ?_
    split
    · exact .pure
    · refine .get fun _ => ?_
      exact .after (.report (by simp)) .refuse

/-- Finishing a streamed upload is no reason for a complaint. -/
theorem quiet_finishStream (texture : Texture) (layout : UploadLayout) :
    (texture.finishStream layout : Attempt TextureError (Context SimulatedDevice) Texture).Quiet
      before := by
  refine .get fun _ => ?_
  refine .andThen (.lift (.focus fun _ _ => StreamBuffer.quiet_commit _)) fun _ => ?_
  refine .andThen (texture.quiet_copyFromBuffer _ _ _ _) fun _ => ?_
  exact .andThen (.lift (.silent fun _ => rfl)) fun _ => .pure

/-- A streamed upload reaps at most what is queued. -/
theorem quiet_uploadStreaming (texture : Texture) (layout : UploadLayout) (data : ByteArray) :
    (texture.uploadStreaming layout data :
      Attempt Fault (Context SimulatedDevice) Texture).Quiet HoldsQueue := by
  refine .andThen (quiet_reserveStream _) fun _ => ?_
  refine .andThen (.lift (.silent fun _ => rfl)) fun _ => ?_
  exact .mapError _ (texture.quiet_finishStream layout)

/-- The staging buffer is still there when the copy from it has been recorded. -/
theorem quiet_finishStaging (hresource : texture.resource = some resource)
    (staging : StagingTexture) (layout : UploadLayout) :
    (texture.finishStaging staging layout resource : Act (Context SimulatedDevice) Texture).Quiet
      (Holds [.resource staging.buffer.resource]) := by
  refine .through (fun _ => Holds [.resource staging.buffer.resource]) ?_ ?_ fun _ => ?_
  · exact texture.quiet_asCopyDestination (staging.quiet_copyTo _ _ _ _)
  · rintro context ⟨rest, hledger⟩
    rw [(run_asCopyDestination hresource (staging.state_copyTo resource layout.region) context).2]
    exact ⟨rest, hledger.congr rfl rfl rfl rfl rfl⟩
  refine .andThen (staging.quiet_destroy false) fun _ => ?_
  exact .silent fun _ => rfl

/-- An upload through a staging texture frees the buffer that it has made. -/
theorem quiet_uploadStaging (hlinear : conduct.linear) (texture : Texture) (layout : UploadLayout)
    (data : ByteArray) :
    (texture.uploadStaging layout data : Attempt Fault (Context SimulatedDevice) Texture).Quiet
      (Midway conduct origin start held unnamed items) := by
  unfold uploadStaging
  cases hresource : texture.resource with
  | none => exact .refuse
  | some resource =>
    have hcreate : (Attempt.mapError Fault.refused (StagingTexture.create layout.region.width
        layout.region.height texture.nativeFormat true)).Meets
        (Midway conduct origin start held unnamed items)
        (fun staging => Midway conduct origin start held
          ([.resource staging.buffer.resource] ++ unnamed) items)
        fun _ => Midway conduct origin start held unnamed items :=
      .mapError (StagingTexture.midway_create _ _ _ _)
    refine .after (.note (by decide)) ?_
    refine .bind (.mapError _ (StagingTexture.quiet_create _ _ _ _)) hcreate fun staging => ?_
    have hholds {context : Context SimulatedDevice} (h : Midway conduct origin start held
        ([.resource staging.buffer.resource] ++ unnamed) items context) :
        context.Holds [.resource staging.buffer.resource] := h.custody.holds_unnamed hlinear
    simp only
    split
    · next written hwrite =>
      obtain ⟨memory, rfl⟩ := StagingTexture.write_eq_ok hwrite
      exact .lift ((quiet_finishStaging hresource _ layout).mono fun _ => hholds)
    · exact .refuse
    · refine .after (.report (by simp)) ?_
      refine .andThen (.lift ?_) fun _ => .refuse
      exact (staging.quiet_destroy false).mono fun _ => hholds

/-- A load is no reason for a complaint. -/
theorem quiet_load (hlinear : conduct.linear) (texture : Texture) (region : Region)
    (data : ByteArray) (pitch : Nat) :
    (texture.load region data pitch : Attempt Fault (Context SimulatedDevice) Texture).Quiet
      (Midway conduct origin start held unnamed items) := by
  refine .get fun context => ?_
  refine .bind (.ofExcept _) (.of_keeps (.ofExcept _)) fun layout => ?_
  refine .bind (.mapError _ (.ofExcept _)) (.of_keeps (.mapError _ (.ofExcept _))) fun _ => ?_
  split
  · exact (texture.quiet_uploadStreaming layout data).mono fun _ h => h.2.custody.holdsQueue hlinear
  · exact (texture.quiet_uploadStaging hlinear layout data).mono fun _ h => h.2

/-- Looking for the layout of an update is no reason for a complaint. -/
theorem quiet_updateLayout (texture : Texture) (region : Region) :
    (texture.updateLayout region :
      Attempt Fault (Context SimulatedDevice) UploadLayout).Quiet before := by
  refine .get fun context => .andThen (.ofExcept _) fun layout => ?_
  split
  · exact .pure
  · exact .after (.report (by simp)) .refuse

/-- An update that begins reaps at most what is queued. -/
theorem quiet_beginUpdate (texture : Texture) (region : Region) :
    (texture.beginUpdate region :
      Attempt Fault (Context SimulatedDevice) UploadLayout).Quiet HoldsQueue := by
  refine .each fun origin hqueue => ?_
  refine .bind (texture.quiet_updateLayout region) (meets_updateLayout region) fun layout => ?_
  refine .andThen ((quiet_reserveStream _).mono ?_) fun _ => .pure
  rintro _ ⟨rfl, -, -⟩
  exact hqueue

/-- An update that ends is no reason for a complaint. -/
theorem quiet_endUpdate (texture : Texture) (region : Region) :
    (texture.endUpdate region : Attempt Fault (Context SimulatedDevice) Texture).Quiet
      before := by
  refine .andThen (texture.quiet_updateLayout region) fun layout => .get fun context => ?_
  simp only
  split
  · exact .mapError _ (texture.quiet_finishStream layout)
  · exact .after (.report (by simp)) .refuse

end Texture

end Texel
