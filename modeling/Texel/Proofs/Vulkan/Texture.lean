import Texel.Proofs.Texture.Upload
import Texel.Proofs.Vulkan.Context

namespace Texel.Vulkan

open Context

namespace Roster

/-- The resource is there, and if its layout is followed, it is the given one. -/
def Bears (roster : Roster) (id : ResourceId) (layout? : Option ImageLayout) : Prop :=
  roster.Live id ∧ ∀ layout, roster.layout? id = some layout → layout? = some layout

/-- The roster agrees with what a texture says of its resource. -/
def Agrees (roster : Roster) (texture : Texture) : Prop :=
  ∀ id, texture.resource = some id → roster.Bears id (some (stateLayout texture.state))

/-- The texture goes on as it is, and so does all that belongs to others. -/
def Upholds (before : Roster) (texture : Texture) (after : Roster) : Prop :=
  before.Spares texture.resource after ∧ after.Agrees texture

/-- The image of one resource moves, and no work is submitted. -/
structure Shifts (before : Roster) (id : ResourceId) (after : Roster) : Prop where
  tenure? : ∀ other, other ≠ id → after.tenure? other = before.tenure? other
  fence : after.fence = before.fence

variable {roster after : Roster} {texture : Texture} {id other : ResourceId}
  {layout? : Option ImageLayout}

theorem Bears.congr (h : roster.Bears id layout?) (htenure : after.tenure? id = roster.tenure? id) :
    after.Bears id layout? :=
  ⟨h.1.congr htenure, fun layout hlayout => h.2 layout (layout?_congr htenure ▸ hlayout)⟩

/-- A new resource whose layout is not followed bears out anything. -/
theorem bears_enroll (roster : Roster) (id : ResourceId) :
    (roster.enroll id none).Bears id none := by
  refine ⟨live_enroll _ _ _, fun layout hlayout => ?_⟩
  rw [layout?_enroll, if_pos rfl] at hlayout
  cases hlayout

/-- An image that nobody follows may be taken to be in any layout. -/
theorem Bears.of_none (h : roster.Bears id none) : roster.Bears id layout? :=
  ⟨h.1, fun layout hlayout => nomatch h.2 layout hlayout⟩

/-- The roster goes on agreeing with a texture whose resource is spared. -/
theorem Agrees.spared (h : roster.Agrees texture) {mine : Option ResourceId}
    (hspares : roster.Spares mine after)
    (hmine : ∀ id, texture.resource = some id → mine ≠ some id) :
    after.Agrees texture :=
  fun id hid => (h id hid).congr (hspares id (h id hid).1 (hmine id hid))

/-- A texture goes on as it is when every resource is spared. -/
theorem Upholds.of_spares {texture : Texture} (h : roster.Agrees texture)
    (hspares : roster.Spares none after) : roster.Upholds texture after :=
  ⟨hspares.but _, h.spared hspares fun _ _ => (Option.some_ne_none _).symm⟩

theorem Shifts.spares (h : roster.Shifts id after) : roster.Spares (some id) after :=
  fun other _ hne => h.tenure? other fun heq => hne (congrArg some heq.symm)

theorem Shifts.trans {third : Roster} (h : roster.Shifts id after) (h' : after.Shifts id third) :
    roster.Shifts id third where
  tenure? other hne := (h'.tenure? other hne).trans (h.tenure? other hne)
  fence := h'.fence.trans h.fence

theorem Live.move (h : roster.Live other) (id : ResourceId) (layout : ImageLayout) :
    (roster.move id layout).Live other := by
  by_cases heq : other = id
  · obtain ⟨tenure, hfound, hrest⟩ := h
    refine ⟨{ tenure with layout? := tenure.layout?.map fun _ => layout }, ?_, hrest⟩
    rw [Roster.move, tenure?_amend, if_pos heq, hfound]
    rfl
  · exact h.congr (tenure?_amend_of_ne heq)

/-- No work was submitted with a resource that was made under the current fence value. -/
theorem settled_of_new {tenure : Tenure} (hfound : roster.tenure? id = some tenure)
    (hnew : tenure.since = roster.fence) : roster.Settled id := by
  rintro value ⟨found, hcovers, hfrom, -⟩ hvalue
  obtain rfl := Option.some.inj (hfound.symm.trans hcovers)
  omega

/-- A new resource is none that is there. -/
theorem ne_of_live_of_new (hlive : roster.Live other) (hnew : roster.tenure? id = none) :
    id ≠ other := by
  rintro rfl
  obtain ⟨tenure, hfound, -⟩ := hlive
  exact nomatch hnew.symm.trans hfound

end Roster

section Textures

variable {α ε : Type} {rules : Rules} {start : Work} {stream id : ResourceId} {roster : Roster}
  {texture : Texture} {context : Context VulkanDevice}

/-- A barrier from the layout an image is in moves the image on, in the roster as on the device. -/
theorem stands_recordBarrier (hlive : roster.Live id) (before after : UsageState)
    (hlayout : ∀ layout, roster.layout? id = some layout → stateLayout before = layout) :
    (onDevice (Device.recordBarrier id before after) : Act (Context VulkanDevice) Unit).Meets
      (Stands rules start stream [] roster)
      fun _ => Stands rules start stream [] (roster.move id (stateLayout after)) := by
  have hbarrier : (VulkanDevice.recordBarrier id before after).Meets (Rest rules start roster)
      fun _ => Rest rules start (roster.move id (stateLayout after)) :=
    VulkanDevice.meets_transitionImage id _ _ _ after (fun _ => hlive) fun _ => hlayout
  exact stands_onDevice hbarrier (roster.continues_amend id (fun _ => rfl) fun _ hthere => hthere)
    fun hstream => hstream.move id _

/-- The texture moves to a usage state. -/
theorem stands_transition (texture : Texture) (hresource : texture.resource = some id)
    (hagrees : roster.Agrees texture) (state : UsageState) :
    (texture.transition state).Meets (Stands rules start stream [] roster) fun moved context =>
      moved = { texture with state } ∧ Standing rules start stream (fun after =>
        roster.Shifts id after ∧ after.Agrees { texture with state }) context := by
  obtain ⟨hlive, hlayout⟩ := hagrees id hresource
  have hopened : texture.transition state =
      if texture.state = state then (pure texture : Act (Context VulkanDevice) Texture)
      else onDevice (Device.recordBarrier id texture.state state) >>= fun _ =>
        pure { texture with state } := by
    simp only [Texture.transition, hresource]
  rw [hopened]
  by_cases hsame : texture.state = state
  · rw [if_pos hsame]
    subst hsame
    exact .pure fun context hstands => ⟨rfl, roster, hstands, ⟨fun _ _ => rfl, rfl⟩, hagrees⟩
  rw [if_neg hsame]
  refine .bind (stands_recordBarrier hlive texture.state state fun layout hfollowed =>
    Option.some.inj (hlayout layout hfollowed)) fun _ => .pure fun context hstands => ?_
  refine ⟨rfl, _, hstands, ⟨fun _ => Roster.tenure?_amend_of_ne, rfl⟩, fun other hother => ?_⟩
  obtain rfl := Option.some.inj (hresource.symm.trans hother)
  refine ⟨hlive.move id _, fun layout hfollowed => ?_⟩
  rw [Roster.layout?_move, if_pos rfl] at hfollowed
  obtain ⟨_, -, rfl⟩ := Option.map_eq_some_iff.mp hfollowed
  rfl

/-- An operation on the device leaves the queue alone. -/
theorem keeps_queue (queue : RetirementQueue → Prop) (act : Act VulkanDevice α) :
    (onDevice act).Keeps fun context => queue context.retirement :=
  fun _ h => h

/-- A transition retires nothing. -/
theorem keeps_queue_transition (queue : RetirementQueue → Prop) (texture : Texture)
    (state : UsageState) :
    (texture.transition state).Keeps
      fun context : Context VulkanDevice => queue context.retirement := by
  unfold Texture.transition
  split
  · exact .pure _
  · split
    · exact .pure _
    · exact .bind (keeps_queue queue _) fun _ => .pure _

/-- Commands with the texture as a copy destination. It is the same texture afterwards. -/
theorem stands_asCopyDestination (hresource : texture.resource = some id)
    (hagrees : roster.Agrees texture) (queue : RetirementQueue → Prop)
    {commands : Act (Context VulkanDevice) Unit}
    (hcommands : ∀ after : Roster, after.Bears id (some .transferDestination) →
      commands.Meets (fun context => Stands rules start stream [] after context ∧
        queue context.retirement) fun _ => Stands rules start stream [] after) :
    (texture.asCopyDestination commands).Meets
      (fun context => Stands rules start stream [] roster context ∧ queue context.retirement)
      fun value context => value = texture ∧ Standing rules start stream (fun after =>
        roster.Shifts id after ∧ after.Agrees texture) context := by
  refine .bind (.keeping (stands_transition texture hresource hagrees .copyDest)
    (keeps_queue_transition queue texture .copyDest)) fun opened => ?_
  rintro context ⟨⟨rfl, middle, hmiddle, hshifts, hopened⟩, hqueue⟩
  have hcopied := hcommands middle (hopened id hresource) context ⟨hmiddle, hqueue⟩
  obtain ⟨hvalue, after, hafter, hshifts', hclosed⟩ :=
    stands_transition { texture with state := .copyDest } hresource hopened texture.state _ hcopied
  exact ⟨hvalue, after, hafter, hshifts.trans hshifts', hclosed⟩

/-- A copy from a buffer that has not been given up. -/
theorem keeps_recordCopy {copy : BufferCopy}
    (hdestination : roster.Bears copy.destination (some .transferDestination)) :
    (onDevice (Device.recordCopy copy) : Act (Context VulkanDevice) Unit).Meets
      (fun context => Stands rules start stream [] roster context ∧
        (rules.careful → ¬Waits context.retirement copy.source))
      fun _ => Stands rules start stream [] roster := by
  rintro context ⟨hstands, hwaits⟩
  have hrest := VulkanDevice.meets_recordCopy copy (fun _ => hdestination.1)
    (fun _ layout hfollowed => (Option.some.inj (hdestination.2 layout hfollowed)).symm)
    context.device ⟨hstands.rest, fun hcareful resource hfound =>
      hstands.live_of_found hcareful (hwaits hcareful) hfound⟩
  exact hstands.same hrest rfl rfl

/-- A copy leaves the texture as it is, with its image back in the layout of its state. -/
theorem stands_copyFromBuffer (hagrees : roster.Agrees texture) (region : Region)
    (rowPitch : Nat) (buffer : ResourceId) (offset : Nat) :
    (texture.copyFromBuffer region rowPitch buffer offset).Meets
      (fun context => Stands rules start stream [] roster context ∧
        (rules.careful → ¬Waits context.retirement buffer))
      (fun value context =>
        value = texture ∧ Standing rules start stream (roster.Upholds texture) context)
      fun _ => Stands rules start stream [] roster := by
  unfold Texture.copyFromBuffer
  split
  · exact .refuse fun _ h => h.1
  · next id hresource =>
    refine .lift (.mono (stands_asCopyDestination hresource hagrees
      (fun queue => rules.careful → ¬Waits queue buffer) fun after hbears =>
        keeps_recordCopy hbears) (fun _ h => h) ?_)
    rintro value context ⟨hvalue, hafter⟩
    refine ⟨hvalue, hafter.mono fun after hupheld => ⟨?_, hupheld.2⟩⟩
    rw [hresource]
    exact hupheld.1.spares

theorem stands_reserveStream (size : Nat) :
    (Texture.reserveStream size : Attempt Fault (Context VulkanDevice) Unit).Meets
      (Stands rules start stream [] roster)
      (fun _ => Standing rules start stream (roster.Spares none))
      fun _ => Standing rules start stream (roster.Spares none) := by
  have hreserve {after : Roster} (alignment : Nat) :
      (tryStream (StreamBuffer.reserve size alignment) :
        Attempt Fault (Context VulkanDevice) Bool).Meets
        (Stands rules start stream [] after) (fun _ => Stands rules start stream [] after)
        fun _ => Stands rules start stream [] after := by
    refine .of_keeps (keeps_onStream fun buffer => ?_)
    have hkeeps : (StreamBuffer.reserve size alignment).Keeps fun now =>
        now.resource = buffer.resource := StreamBuffer.keeps_reserve (fun _ _ h => h) size alignment
    exact hkeeps buffer rfl
  refine .get fun origin => ?_
  refine .bind (.mono (hreserve _) (fun _ h => h.2) (fun _ _ h => h) fun _ _ h => h.spares _)
    fun reserved => ?_
  split
  · exact .pure fun context h => h.spares _
  refine .after_log (.bind (.lift (keeps_count _)) fun _ => ?_)
  refine .bind (.lift (stands_submit false)) fun _ => ?_
  refine Standing.meets fun after hspares => ?_
  refine Attempt.Meets.bind (.refusing (hreserve _) ?_) fun reserved => ?_
  · exact fun _ _ h => ⟨after, h, hspares⟩
  split
  · exact .pure fun context h => ⟨after, h, hspares⟩
  · exact .get fun _ => .after_log (.refuse fun context h => ⟨after, h.2, hspares⟩)

/-- Committing the ring and copying from it leaves the texture as it is. -/
theorem stands_finishStream (hagrees : roster.Agrees texture) (layout : UploadLayout) :
    (texture.finishStream layout).Meets (Stands rules start stream [] roster)
      (fun value context =>
        value = texture ∧ Standing rules start stream (roster.Upholds texture) context)
      fun _ => Stands rules start stream [] roster := by
  have hcommit (size : Nat) :
      (onStream (StreamBuffer.commit size) : Act (Context VulkanDevice) Bool).Keeps
        (Stands rules start stream [] roster) := by
    refine keeps_onStream fun buffer => ?_
    simp only [StreamBuffer.commit, Act.run_bind, Act.run_get]
    split <;> rfl
  refine .get fun origin => ?_
  refine .through (fun _ context => Stands rules start stream [] roster context ∧
    origin.stream.resource = stream) (.lift ?_) fun _ => ?_
  · rintro context ⟨rfl, hstands⟩
    exact ⟨hcommit _ context hstands, hstands.ring⟩
  refine .bind (.narrow (stands_copyFromBuffer hagrees _ _ _ _) ?_)
    fun value => ?_
  · rintro context ⟨hstands, hring⟩
    exact ⟨hstands, fun _ => hring ▸ hstands.not_waits hstands.live⟩
  refine .through (fun _ context =>
    value = texture ∧ Standing rules start stream (roster.Upholds texture) context)
    (.lift fun context h => ⟨h.1, ?_⟩) fun _ => .pure fun _ h => h
  exact keeps_standing (fun _ => keeps_count _) context h.2

/-- Going on with an upload after a submission that it may have forced. -/
theorem upheld_of_spares {attempt : Attempt ε (Context VulkanDevice) Texture} {middle : Roster}
    (hagrees : roster.Agrees texture) (hspares : roster.Spares none middle)
    (h : middle.Agrees texture → attempt.Meets (Stands rules start stream [] middle)
      (fun value context =>
        value = texture ∧ Standing rules start stream (middle.Upholds texture) context)
      fun _ => Stands rules start stream [] middle) :
    attempt.Meets (Stands rules start stream [] middle)
      (fun value context =>
        value = texture ∧ Standing rules start stream (roster.Upholds texture) context)
      fun _ => Standing rules start stream (roster.Spares none) := by
  refine .mono (h (Roster.Upholds.of_spares hagrees hspares).2) (fun _ h => h) ?_
    fun _ context hstands => ⟨middle, hstands, hspares⟩
  rintro value context ⟨hvalue, hafter⟩
  exact ⟨hvalue, hafter.mono fun after hupheld =>
    ⟨(hspares.but _).trans hupheld.1, hupheld.2⟩⟩

/-- An upload through the ring leaves the texture as it is, or spares every resource and refuses. -/
theorem stands_uploadStreaming (hagrees : roster.Agrees texture) (layout : UploadLayout)
    (data : ByteArray) :
    (texture.uploadStreaming layout data).Meets (Stands rules start stream [] roster)
      (fun value context =>
        value = texture ∧ Standing rules start stream (roster.Upholds texture) context)
      fun _ => Standing rules start stream (roster.Spares none) := by
  refine .bind (stands_reserveStream layout.uploadSize) fun _ =>
    Standing.meets fun middle hspares => ?_
  refine Attempt.Meets.bind (.lift (keeps_onStream fun _ => rfl)) fun _ => ?_
  refine upheld_of_spares hagrees hspares fun hmiddle => .mapError ?_
  exact stands_finishStream hmiddle layout

/-- A staging texture has a buffer of its own. -/
theorem stands_createStaging (width height : Nat) (format : NativeFormat) (writable : Bool) :
    (StagingTexture.create width height format writable).Meets
      (Stands rules start stream [] roster)
      (fun staging context =>
        Stands rules start stream [] (roster.enroll staging.buffer.resource none) context ∧
          roster.tenure? staging.buffer.resource = none)
      fun _ => Stands rules start stream [] roster := by
  refine .get fun origin => ?_
  split
  · exact .after_log (.refuse fun _ h => h.2)
  · split
    · exact .after_log (.refuse fun _ h => h.2)
    · refine .answer (.narrow (stands_tryDevice (VulkanDevice.meets_createHostBuffer _))
        (fun _ h => h.2)) (fun buffer => ?_) fun error => ?_
      · refine .through (fun _ context =>
          Stands rules start stream [] (roster.enroll buffer.resource none) context ∧
            roster.tenure? buffer.resource = none) (.lift ?_) fun _ => ?_
        · exact fun context h => ⟨keeps_count _ context h.1, h.2⟩
        · exact .after_log (.pure fun _ h => h)
      · exact .after_log (.refuse fun _ h => h)

/-- A staging texture stays in its buffer when it is written. -/
theorem resource_write {staging written : StagingTexture} {region : Region} {data : ByteArray}
    {stride : Nat} (h : staging.write region data stride = .ok written) :
    written.buffer.resource = staging.buffer.resource := by
  obtain ⟨memory, rfl⟩ := StagingTexture.write_eq_ok h
  rfl

/-- Destroying a staging texture gives up its buffer and spares the other resources. -/
theorem stands_destroyStaging (staging : StagingTexture) (deferred : Bool)
    (hlive : roster.Live staging.buffer.resource) (hne : staging.buffer.resource ≠ stream)
    (hcareful : rules.careful → deferred = true ∨ roster.Settled staging.buffer.resource) :
    (staging.destroy deferred).Meets (Stands rules start stream [] roster)
      fun _ => Standing rules start stream (roster.Spares (some staging.buffer.resource)) :=
  .after_log (.bind (keeps_count _) fun _ =>
    stands_destroyResource deferred hlive hne hcareful)

/-- The pixels are freed at once: they were made under the current fence value, and the device keeps
them for the copy. -/
theorem stands_finishStaging (hresource : texture.resource = some id)
    (hagrees : roster.Agrees texture) (hstream : roster.Live stream) (staging : StagingTexture)
    (hnew : roster.tenure? staging.buffer.resource = none) (layout : UploadLayout) :
    (texture.finishStaging staging layout id).Meets
      (Stands rules start stream [] (roster.enroll staging.buffer.resource none))
      fun value context =>
        value = texture ∧ Standing rules start stream (roster.Upholds texture) context := by
  have hspares : roster.Spares none (roster.enroll staging.buffer.resource none) :=
    Roster.spares_enroll hnew none
  have hne := Roster.ne_of_live_of_new (hagrees id hresource).1 hnew
  have hopening := (Roster.Upholds.of_spares hagrees hspares).2
  refine .bind (.mono (stands_asCopyDestination hresource hopening
    (fun queue => rules.careful → ¬Waits queue staging.buffer.resource) fun after hbears =>
      keeps_recordCopy hbears) (fun context hstands => ⟨hstands, fun _ =>
        hstands.not_waits (Roster.live_enroll _ _ _)⟩) fun _ _ h => h) fun value => ?_
  let upheld (context : Context VulkanDevice) : Prop :=
    value = texture ∧ Standing rules start stream (roster.Upholds texture) context
  have hcounted (change : UploadStats → UploadStats) : (count change).Keeps upheld :=
    fun context h => ⟨h.1, keeps_standing (fun _ => keeps_count change) context h.2⟩
  refine .through (fun _ => upheld) ?_ fun _ => .bind (hcounted _) fun _ => .pure fun _ h => h
  rintro context ⟨hvalue, copied, hcopied, hshifts, hopened⟩
  have htenure : copied.tenure? staging.buffer.resource = some { since := roster.fence } :=
    (hshifts.tenure? _ hne).trans (if_pos rfl)
  -- No work that was submitted can refer to a buffer made under the current fence value.
  have hsettled : copied.Settled staging.buffer.resource :=
    Roster.settled_of_new htenure hshifts.fence.symm
  obtain ⟨after, hafter, hspares'⟩ := stands_destroyStaging staging false ⟨_, htenure, rfl, rfl⟩
    (Roster.ne_of_live_of_new hstream hnew) (fun _ => .inr hsettled) context hcopied
  refine ⟨hvalue, after, hafter, ?_, hopened.spared hspares' ?_⟩
  · rw [hresource]
    exact ((hspares.but (some id)).trans hshifts.spares).trans_new hnew hspares'
  · intro other hother heq
    obtain rfl := Option.some.inj (hresource.symm.trans hother)
    exact hne (Option.some.inj heq)

/-- An upload through a staging texture leaves the texture as it is and gives the buffer up again.
-/
theorem stands_uploadStaging (hagrees : roster.Agrees texture) (hstream : roster.Live stream)
    (layout : UploadLayout) (data : ByteArray) :
    (texture.uploadStaging layout data).Meets (Stands rules start stream [] roster)
      (fun value context =>
        value = texture ∧ Standing rules start stream (roster.Upholds texture) context)
      fun _ => Standing rules start stream (roster.Spares none) := by
  unfold Texture.uploadStaging
  split
  · exact .refuse fun context h => h.spares _
  next id hresource =>
  refine .after_log ?_
  have hmade (width height : Nat) (format : NativeFormat) :=
    (@stands_createStaging rules start stream roster width height format true).refusing
      fun _ context h => h.spares none
  refine .bind (.mapError (hmade _ _ _)) fun staging => ?_
  rintro context ⟨hstands, hnew⟩
  refine Attempt.Meets.mono ?_ (fun _ h => h) (fun _ _ h => h) (fun _ _ h => h) context hstands
  dsimp only
  split
  · next written hwritten =>
    rw [← resource_write hwritten]
    refine .lift (stands_finishStaging hresource hagrees hstream written ?_ layout)
    rwa [resource_write hwritten]
  · exact .refuse fun context h => ⟨_, h, Roster.spares_enroll hnew none⟩
  · refine .after_log ?_
    refine .through (fun _ => Standing rules start stream (roster.Spares none)) (.lift ?_) fun _ =>
      .refuse fun _ h => h
    refine .mono (stands_destroyStaging staging false (Roster.live_enroll _ _ _)
      (Roster.ne_of_live_of_new hstream hnew) fun _ => .inr ?_) (fun _ h => h) fun _ context h => ?_
    · exact Roster.settled_of_new (if_pos rfl) rfl
    · exact h.mono fun _ hspares => (Roster.spares_enroll hnew none).trans_new hnew hspares

/-- Loading pixels leaves the texture as it is, whichever way they go. -/
theorem stands_load (hagrees : roster.Agrees texture) (hstream : roster.Live stream)
    (region : Region) (data : ByteArray) (pitch : Nat) :
    (texture.load region data pitch).Meets (Stands rules start stream [] roster)
      (fun value context =>
        value = texture ∧ Standing rules start stream (roster.Upholds texture) context)
      fun _ => Standing rules start stream (roster.Spares none) := by
  have hcheck {β δ : Type} (checked : Except δ β) :
      (Attempt.ofExcept checked).Meets (Stands rules start stream [] roster)
        (fun _ => Stands rules start stream [] roster)
        fun _ => Standing rules start stream (roster.Spares none) :=
    .ofExcept (fun _ _ _ h => h) fun _ _ _ h => h.spares _
  refine .get fun origin => ?_
  refine .bind (.narrow (hcheck _) fun _ h => h.2) fun layout => ?_
  refine .bind (.mapError (hcheck _)) fun _ => ?_
  split
  · exact stands_uploadStreaming hagrees layout data
  · exact stands_uploadStaging hagrees hstream layout data

theorem keeps_updateLayout (texture : Texture) (region : Region) :
    (texture.updateLayout region).Keeps (Stands rules start stream [] roster) := by
  refine .bind .get fun origin => ?_
  refine .bind (.ofExcept _) fun layout => ?_
  split
  · exact .pure _
  · exact .bind (.log _ _) fun _ => .refuse _

theorem stands_beginUpdate (texture : Texture) (region : Region) :
    (texture.beginUpdate region).Meets (Stands rules start stream [] roster)
      (fun _ => Standing rules start stream (roster.Spares none))
      fun _ => Standing rules start stream (roster.Spares none) := by
  have hlayout := Attempt.Meets.of_keeps
    (@keeps_updateLayout rules start stream roster texture region)
  refine .bind (hlayout.refusing fun _ _ h => h.spares _) fun layout => ?_
  refine .bind (stands_reserveStream layout.uploadSize) fun _ => ?_
  exact .pure fun _ h => h

theorem stands_endUpdate (hagrees : roster.Agrees texture) (region : Region) :
    (texture.endUpdate region).Meets (Stands rules start stream [] roster)
      (fun value context =>
        value = texture ∧ Standing rules start stream (roster.Upholds texture) context)
      fun _ => Stands rules start stream [] roster := by
  refine .bind (.of_keeps (keeps_updateLayout texture region)) fun layout => .get fun origin => ?_
  dsimp only
  split
  · exact .mapError (.narrow (stands_finishStream hagrees layout) (fun _ h => h.2))
  · exact .after_log (.refuse fun _ h => h.2)

/-- The resource and the views of a texture are given up. -/
theorem stands_destroy (hagrees : roster.Agrees texture) (hne : texture.resource ≠ some stream)
    (deferred : Bool) (hcareful : rules.careful → deferred = true) :
    (texture.destroy deferred).Meets (Stands rules start stream [] roster)
      fun _ => Standing rules start stream (roster.Spares texture.resource) := by
  refine .through (fun _ => Standing rules start stream (roster.Spares texture.resource)) ?_
    fun _ => keeps_standing fun _ => keeps_destroySlots _ deferred
  unfold Texture.destroyOwned
  split
  · exact .pure fun context h => h.spares _
  · next id hresource =>
    rw [hresource] at hne ⊢
    exact .after_log (stands_destroyResource deferred (hagrees id hresource).1
      (fun heq => hne (congrArg some heq)) fun hrules => .inl (hcareful hrules))

/-- The resource of a new texture, whose layout is followed if that can be done. -/
theorem stands_createResource (desc : TextureDesc) (state : UsageState)
    {layout? : Option ImageLayout}
    (hlayout : ∀ layout, layout? = some layout → layout = .undefined ∧ rules.tracked) :
    (Texture.createResource desc state).Meets (Stands rules start stream [] roster)
      (fun id context => Stands rules start stream []
        (roster.enroll id (layout?.map fun _ => stateLayout state)) context ∧
          roster.tenure? id = none)
      fun _ => Stands rules start stream [] roster := by
  refine .answer (stands_tryDevice (VulkanDevice.meets_createTexture desc state layout? hlayout))
    (fun id => .pure fun _ h => h) fun error => ?_
  exact .after_log (.refuse fun _ h => h)

/-- A new texture has a resource that was not there before, and what it held is given up. -/
theorem stands_create (hagrees : roster.Agrees texture) (hstream : roster.Live stream)
    (hne : texture.resource ≠ some stream) (desc : TextureDesc) (formats : ViewFormats) :
    (texture.create desc formats).Meets (Stands rules start stream [] roster)
      (fun made context => ∃ id, made.resource = some id ∧ roster.tenure? id = none ∧
        Standing rules start stream (fun after => roster.Spares texture.resource after ∧
          after.Agrees made ∧ (rules.tracked → (after.layout? id).isSome)) context)
      fun _ => Standing rules start stream (roster.Spares none) := by
  obtain ⟨layout?, hlayout, hfollowed⟩ : ∃ layout? : Option ImageLayout,
      (∀ layout, layout? = some layout → layout = .undefined ∧ rules.tracked) ∧
        (rules.tracked → layout?.isSome) := by
    by_cases htracked : rules.tracked
    · exact ⟨some .undefined, fun _ h => ⟨(Option.some.inj h).symm, htracked⟩, fun _ => rfl⟩
    · exact ⟨none, fun _ h => (nomatch h), fun h => absurd h htracked⟩
  refine .through (fun _ => Stands rules start stream [] roster) ?_ fun _ => ?_
  · exact .refusing (.of_keeps (Dimension.keeps_checkAll _)) fun _ context h => h.spares _
  dsimp only
  refine .bind (.refusing (stands_createResource _ _ hlayout) ?_) fun id => ?_
  · exact fun _ context h => h.spares _
  rintro context ⟨hstands, hnew⟩
  refine Attempt.Meets.mono ?_ (fun _ h => h) (fun _ _ h => h) (fun _ _ h => h) context hstands
  have hspares := Roster.spares_enroll hnew (layout?.map fun _ => stateLayout formats.initialState)
  refine .answer (.of_keeps (keeps_allocateViews _ _)) (fun views => ?_) fun error => ?_
  · refine .after_log ?_
    have hagrees' := (Roster.Upholds.of_spares hagrees hspares).2
    refine .bind (.lift (stands_destroy hagrees' hne true fun _ => rfl)) fun _ => .pure ?_
    rintro now ⟨after, hafter, hspares'⟩
    have htenure : after.tenure? id =
        (roster.enroll id (layout?.map fun _ => stateLayout formats.initialState)).tenure? id := by
      refine hspares' id (Roster.live_enroll _ _ _) fun hresource => ?_
      exact Roster.ne_of_live_of_new (hagrees id hresource).1 hnew rfl
    have hown := Roster.layout?_congr htenure
    rw [Roster.layout?_enroll, if_pos rfl] at hown
    refine ⟨id, rfl, hnew, after, hafter, (hspares.but _).trans hspares', ?_, fun htracked => ?_⟩
    · intro other hother
      obtain rfl := Option.some.inj hother
      refine ⟨(Roster.live_enroll _ _ _).congr htenure, fun layout hlayout => ?_⟩
      rw [hown] at hlayout
      obtain ⟨_, -, rfl⟩ := Option.map_eq_some_iff.mp hlayout
      rfl
    · rw [hown, Option.isSome_map]
      exact hfollowed htracked
  · refine .after_log ?_
    refine .through (fun _ => Standing rules start stream (roster.Spares none)) (.lift ?_) fun _ =>
      .refuse fun _ h => h
    have hsettled : Roster.Settled
        (roster.enroll id (layout?.map fun _ => stateLayout formats.initialState)) id :=
      Roster.settled_of_new (if_pos rfl) rfl
    refine .mono (stands_destroyResource false (Roster.live_enroll _ _ _)
      (Roster.ne_of_live_of_new hstream hnew) fun _ => .inr hsettled) (fun _ h => h) ?_
    exact fun _ now h => h.mono fun _ hspares' => hspares.trans_new hnew hspares'

/-- A texture takes over a resource whose layout nobody follows, and gives up what it held. -/
theorem stands_adopt (hagrees : roster.Agrees texture) (hne : texture.resource ≠ some stream)
    (hlive : roster.Live id) (hfree : roster.layout? id = none)
    (hother : texture.resource ≠ some id) (formats : ViewFormats) (state : UsageState) :
    (texture.adopt id formats state).Meets (Stands rules start stream [] roster)
      (fun made context => made.resource = some id ∧
        Standing rules start stream (fun after => roster.Spares texture.resource after ∧
          after.Agrees made) context)
      fun _ => Stands rules start stream [] roster := by
  refine .get fun origin => ?_
  split
  · exact .after_log (.refuse fun _ h => h.2)
  next desc _ =>
  refine .mapError ?_
  refine .bind (.narrow (.of_keeps (Dimension.keeps_checkAll _)) fun _ h => h.2) fun _ => ?_
  refine .answer (.of_keeps (keeps_allocateViews _ _)) (fun views => ?_) fun error => ?_
  · refine .after_log ?_
    refine .bind (.lift (stands_destroy hagrees hne true fun _ => rfl)) fun _ => .pure ?_
    rintro now ⟨after, hafter, hspares⟩
    refine ⟨rfl, after, hafter, hspares, fun other hmade => ?_⟩
    obtain rfl := Option.some.inj hmade
    have htenure := hspares id hlive hother
    refine ⟨hlive.congr htenure, fun layout hlayout => ?_⟩
    rw [Roster.layout?_congr htenure, hfree] at hlayout
    cases hlayout
  · exact .after_log (.refuse fun _ h => h)

end Textures

end Texel.Vulkan
