import Mathlib.Data.List.TakeWhile
import Texel.Proofs.Context.Upkeep
import Texel.Proofs.Vulkan.Run

namespace Texel

namespace Vulkan

open Context

namespace Roster

/-- What is there and has not been given up stays as it is, but for one resource. -/
def Spares (before : Roster) (mine : Option ResourceId) (after : Roster) : Prop :=
  ∀ id, before.Live id → mine ≠ some id → after.tenure? id = before.tenure? id

/-- What is known of resources is kept up: nothing that was given up comes back, and nothing that is
there is given up. -/
structure Continues (before after : Roster) : Prop where
  onward : ∀ id tenure, before.tenure? id = some tenure →
    ∃ later, after.tenure? id = some later ∧ later.last? = tenure.last?
  backward : ∀ id later, after.tenure? id = some later → later.gone = false → later.last? = none ∨
    ∃ tenure, before.tenure? id = some tenure ∧ tenure.gone = false ∧ tenure.last? = later.last?

variable {first second third : Roster} {mine : Option ResourceId} {id other : ResourceId}

theorem Live.congr (h : first.Live id) (htenure : second.tenure? id = first.tenure? id) :
    second.Live id := by
  obtain ⟨tenure, hfound, hrest⟩ := h
  exact ⟨tenure, htenure.trans hfound, hrest⟩

theorem layout?_congr (htenure : second.tenure? id = first.tenure? id) :
    second.layout? id = first.layout? id :=
  congrArg (Option.bind · Tenure.layout?) htenure

theorem Spares.refl (roster : Roster) (mine : Option ResourceId) : roster.Spares mine roster :=
  fun _ _ _ => rfl

theorem Spares.trans (h : first.Spares mine second) (h' : second.Spares mine third) :
    first.Spares mine third := by
  intro id hlive hmine
  have hfirst := h id hlive hmine
  exact (h' id (hlive.congr hfirst) hmine).trans hfirst

/-- What spares all resources spares all but one. -/
theorem Spares.but (h : first.Spares none second) (mine : Option ResourceId) :
    first.Spares mine second :=
  fun id hlive _ => h id hlive (Option.some_ne_none id).symm

/-- What becomes of a resource that was not there before is of no account. -/
theorem Spares.trans_new (h : first.Spares mine second) (hnew : first.tenure? id = none)
    (h' : second.Spares (some id) third) : first.Spares mine third := by
  intro other hlive hmine
  have hfirst := h other hlive hmine
  refine (h' other (hlive.congr hfirst) ?_).trans hfirst
  rintro heq
  obtain rfl := Option.some.inj heq
  obtain ⟨tenure, hfound, -⟩ := hlive
  exact nomatch hnew.symm.trans hfound

/-- Time that passes spares every resource. -/
theorem Spares.of_lapses (h : first.Lapses second) : first.Spares none second :=
  fun id _ _ => congrFun h.tenure? id

/-- A change of one resource leaves another as it is. -/
theorem tenure?_amend_of_ne {change : Tenure → Tenure} (h : other ≠ id) :
    (first.amend id change).tenure? other = first.tenure? other := by
  rw [tenure?_amend, if_neg h]

/-- A change to one resource spares the others. -/
theorem spares_amend (roster : Roster) (id : ResourceId) (change : Tenure → Tenure) :
    roster.Spares (some id) (roster.amend id change) :=
  fun _ _ hne => tenure?_amend_of_ne fun heq => hne (congrArg some heq.symm)

/-- A new resource leaves what is known of the others as it is. -/
theorem spares_enroll (h : first.tenure? id = none) (layout? : Option ImageLayout) :
    first.Spares none (first.enroll id layout?) := by
  rintro other ⟨tenure, hfound, -⟩ -
  rw [tenure?_enroll, if_neg]
  rintro rfl
  exact nomatch h.symm.trans hfound

theorem Continues.of_lapses (h : first.Lapses second) : first.Continues second where
  onward id tenure hfound := ⟨tenure, (congrFun h.tenure? id).trans hfound, rfl⟩
  backward id later hfound hthere :=
    .inr ⟨later, (congrFun h.tenure? id).symm.trans hfound, hthere, rfl⟩

/-- A change of one resource that keeps when it was given up. -/
theorem continues_amend (roster : Roster) (id : ResourceId) {change : Tenure → Tenure}
    (hlast : ∀ tenure, (change tenure).last? = tenure.last?)
    (hgone : ∀ tenure, (change tenure).gone = false → tenure.gone = false) :
    roster.Continues (roster.amend id change) where
  onward other tenure hfound := by
    rw [tenure?_amend]
    split
    · exact ⟨change tenure, by rw [hfound]; rfl, hlast tenure⟩
    · exact ⟨tenure, hfound, rfl⟩
  backward other later hfound hthere := by
    rcases of_tenure?_amend hfound with ⟨-, hold⟩ | ⟨rfl, old, hold, rfl⟩
    · exact .inr ⟨later, hold, hthere, rfl⟩
    · exact .inr ⟨old, hold, hgone old hthere, (hlast old).symm⟩

/-- A new resource keeps up what is known of the others. -/
theorem continues_enroll (h : first.tenure? id = none) (layout? : Option ImageLayout) :
    first.Continues (first.enroll id layout?) where
  onward other tenure hfound := by
    refine ⟨tenure, ?_, rfl⟩
    rw [tenure?_enroll, if_neg, hfound]
    rintro rfl
    exact nomatch h.symm.trans hfound
  backward other later hfound hthere := by
    rw [tenure?_enroll] at hfound
    split at hfound
    · obtain rfl := Option.some.inj hfound
      exact .inl rfl
    · exact .inr ⟨later, hfound, hthere, rfl⟩

end Roster

/-- The resource is in the queue. -/
def Waits (queue : RetirementQueue) (id : ResourceId) : Prop :=
  ∃ fence, (fence, .resource id) ∈ queue.entries

/-- A context at rest. The stream buffer is there, what has been retired waits with the fence value
that was current then, and `items` have left the queue and are about to be freed. -/
structure Stands (rules : Rules) (start : Work) (stream : ResourceId) (items : List Retired)
    (roster : Roster) (context : Context VulkanDevice) : Prop where
  rest : Rest rules start roster context.device
  ring : context.stream.resource = stream
  live : roster.Live stream
  retired : ∀ fence id, (fence, .resource id) ∈ context.retirement.entries →
    ∃ tenure, roster.tenure? id = some tenure ∧ tenure.last? = some fence
  leaving : ∀ id, .resource id ∈ items → ¬roster.Live id ∧ (rules.careful → roster.Settled id)
  /-- What has been given up is in the queue for as long as it is there. -/
  queued : rules.careful → ∀ id tenure, roster.tenure? id = some tenure → tenure.gone = false →
    tenure.last? = none ∨ .resource id ∈ items ∨ Waits context.retirement id

/-- A context at rest, with a roster of which something holds. -/
def Standing (rules : Rules) (start : Work) (stream : ResourceId) (good : Roster → Prop)
    (context : Context VulkanDevice) : Prop :=
  ∃ roster, Stands rules start stream [] roster context ∧ good roster

section Contexts

variable {α ε : Type} {rules : Rules} {start : Work} {stream id : ResourceId}
  {items items' : List Retired} {roster after : Roster} {good good' : Roster → Prop}
  {context next : Context VulkanDevice}

theorem Standing.mono (h : Standing rules start stream good context)
    (himp : ∀ roster, good roster → good' roster) : Standing rules start stream good' context := by
  obtain ⟨roster, hstands, hgood⟩ := h
  exact ⟨roster, hstands, himp roster hgood⟩

/-- Going on from a context whose roster need not be known. -/
theorem Standing.meets {act : Act (Context VulkanDevice) α}
    {final : α → Context VulkanDevice → Prop}
    (h : ∀ roster, good roster → act.Meets (Stands rules start stream [] roster) final) :
    act.Meets (Standing rules start stream good) final :=
  fun context ⟨roster, hstands, hgood⟩ => h roster hgood context hstands

/-- What keeps a context standing with each roster keeps it standing with some roster. -/
theorem keeps_standing {act : Act (Context VulkanDevice) α}
    (h : ∀ roster, act.Keeps (Stands rules start stream [] roster)) :
    act.Keeps (Standing rules start stream good) :=
  Standing.meets fun roster hgood context hstands => ⟨roster, h roster context hstands, hgood⟩

namespace Stands

/-- What has not been given up is not in the queue. -/
theorem not_waits (h : Stands rules start stream items roster context) (hlive : roster.Live id) :
    ¬Waits context.retirement id := by
  rintro ⟨fence, hentry⟩
  obtain ⟨tenure, htenure, hlast⟩ := h.retired fence id hentry
  obtain ⟨other, hother, hnone, -⟩ := hlive
  obtain rfl := Option.some.inj (htenure.symm.trans hother)
  exact nomatch hlast.symm.trans hnone

/-- Nothing has happened, which spares every resource. -/
theorem spares (h : Stands rules start stream [] roster context) (mine : Option ResourceId) :
    Standing rules start stream (roster.Spares mine) context :=
  ⟨roster, h, .refl roster mine⟩

/-- What the device has and is not in the queue has not been given up. -/
theorem live_of_found (h : Stands rules start stream [] roster context) (hcareful : rules.careful)
    (hwaits : ¬Waits context.retirement id) {resource : Resource}
    (hfound : context.device.resources.get? id = some resource) : roster.Live id := by
  obtain ⟨tenure, htenure, hthere⟩ := (h.rest.validNow.listed id).mp ⟨resource, hfound⟩
  rcases h.queued hcareful id tenure htenure hthere with hnone | hitem | hin
  · exact ⟨tenure, htenure, hnone, hthere⟩
  · exact nomatch hitem
  · exact absurd hin hwaits

/-- The device goes on, and items that it no longer has are done with. -/
theorem turn (h : Stands rules start stream items roster context)
    (hrest : Rest rules start after next.device)
    (hring : next.stream.resource = context.stream.resource)
    (hqueue : next.retirement = context.retirement) (hafter : roster.Continues after)
    (hlive : after.Live stream)
    (hleaving : ∀ id, .resource id ∈ items' → ¬after.Live id ∧ (rules.careful → after.Settled id))
    (hitems : ∀ id, .resource id ∈ items → .resource id ∈ items' ∨
      ∀ tenure, after.tenure? id = some tenure → tenure.gone = true) :
    Stands rules start stream items' after next where
  rest := hrest
  ring := hring.trans h.ring
  live := hlive
  retired fence id hentry := by
    obtain ⟨tenure, htenure, hlast⟩ := h.retired fence id (hqueue ▸ hentry)
    obtain ⟨later, hlater, hsame⟩ := hafter.onward id tenure htenure
    exact ⟨later, hlater, hsame.trans hlast⟩
  leaving := hleaving
  queued hcareful id later hlater hthere := by
    rcases hafter.backward id later hlater hthere with hnone | ⟨tenure, htenure, hearlier, hsame⟩
    · exact .inl hnone
    rw [← hsame, Waits, hqueue]
    rcases h.queued hcareful id tenure htenure hearlier with hnone | hitem | hin
    · exact .inl hnone
    · rcases hitems id hitem with hstill | hgone
      · exact .inr (.inl hstill)
      · exact nomatch hthere.symm.trans (hgone later hlater)
    · exact .inr (.inr hin)

/-- The same when nothing is about to be freed. -/
theorem turn_idle (h : Stands rules start stream [] roster context)
    (hrest : Rest rules start after next.device)
    (hring : next.stream.resource = context.stream.resource)
    (hqueue : next.retirement = context.retirement) (hafter : roster.Continues after)
    (hlive : after.Live stream) : Stands rules start stream [] after next :=
  h.turn hrest hring hqueue hafter hlive (fun _ hnone => nomatch hnone) fun _ hnone => nomatch hnone

/-- Work is submitted or finishes. -/
theorem lapse (h : Stands rules start stream [] roster context) (hlapses : roster.Lapses after)
    {device : VulkanDevice} (hrest : Rest rules start after device) :
    Stands rules start stream [] after { context with device } :=
  h.turn_idle hrest rfl rfl (.of_lapses hlapses) (h.live.congr (congrFun hlapses.tenure? stream))

/-- Nothing changes of the roster. -/
theorem same (h : Stands rules start stream items roster context)
    (hrest : Rest rules start roster next.device)
    (hring : next.stream.resource = context.stream.resource)
    (hqueue : next.retirement = context.retirement) :
    Stands rules start stream items roster next :=
  h.turn hrest hring hqueue (.of_lapses ⟨rfl, Nat.le_refl _, Nat.le_refl _⟩) h.live h.leaving
    fun _ hitem => .inl hitem

end Stands

/-- An operation that leaves the device, the stream buffer and the queue alone. -/
theorem keeps_stands_of_frame {act : Act (Context VulkanDevice) α}
    (h : ∀ context, (act.run context).state.device = context.device ∧
      (act.run context).state.stream.resource = context.stream.resource ∧
      (act.run context).state.retirement = context.retirement) :
    act.Keeps (Stands rules start stream items roster) := by
  intro context hstands
  obtain ⟨hdevice, hring, hqueue⟩ := h context
  exact hstands.same (hdevice ▸ hstands.rest) hring hqueue

theorem keeps_count (change : UploadStats → UploadStats) :
    (count change : Act (Context VulkanDevice) Unit).Keeps
      (Stands rules start stream items roster) :=
  keeps_stands_of_frame fun _ => ⟨rfl, rfl, rfl⟩

/-- Operations on the ring keep a context standing, if the ring stays in its buffer. -/
theorem keeps_onStream {act : Act StreamBuffer α}
    (h : ∀ buffer, (act.run buffer).state.resource = buffer.resource) :
    (onStream act : Act (Context VulkanDevice) α).Keeps (Stands rules start stream items roster) :=
  keeps_stands_of_frame fun context => ⟨rfl, h context.stream, rfl⟩

/-- An operation of the device keeps the context standing, with what is known of resources after it.
-/
theorem stands_onDevice {act : Act VulkanDevice α}
    (h : act.Meets (Rest rules start roster) fun _ => Rest rules start after)
    (hafter : roster.Continues after)
    (hlive : roster.Live stream → after.Live stream) :
    (onDevice act).Meets (Stands rules start stream [] roster)
      fun _ => Stands rules start stream [] after :=
  fun context hstands =>
    hstands.turn_idle (h context.device hstands.rest) rfl rfl hafter (hlive hstands.live)

/-- A new resource of the device. -/
theorem stands_tryDevice {attempt : Attempt ε VulkanDevice α} {made : α → ResourceId}
    {layout? : Option ImageLayout}
    (h : attempt.Meets (Rest rules start roster)
      (fun value => VulkanDevice.Enrolls rules start
        { hand := [⟨.pool, start.device.pool⟩], roster } layout? (made value))
      fun _ => Rest rules start roster) :
    (tryDevice attempt).Meets (Stands rules start stream [] roster)
      (fun value context =>
        Stands rules start stream [] (roster.enroll (made value) layout?) context ∧
          roster.tenure? (made value) = none)
      fun _ => Stands rules start stream [] roster := by
  refine .focus fun context hstands => .mono h ?_ ?_ fun _ device hrest =>
    hstands.same hrest rfl rfl
  · rintro device rfl
    exact hstands.rest
  · rintro value device ⟨hreaches, hnew⟩
    refine ⟨hstands.turn_idle hreaches rfl rfl (Roster.continues_enroll hnew layout?) ?_, hnew⟩
    exact hstands.live.congr
      (Roster.spares_enroll hnew layout? stream hstands.live (Option.some_ne_none _).symm)

/-- Operations on the pool of views keep a context standing if the device stays at rest. -/
theorem keeps_onViews {act : Act (ViewPool VulkanDevice) α}
    (h : act.Keeps fun pool => Rest rules start roster pool.device) :
    (onViews act).Keeps (Stands rules start stream items roster) :=
  fun context hstands => hstands.same (h context.viewPool hstands.rest) rfl rfl

/-- Views come and go without a change to what is known of resources. -/
theorem keeps_allocateViews (desc : TextureDesc) (formats : ViewFormats) :
    (tryViews (ViewSet.allocate id desc formats)).Keeps
      (Stands rules start stream items roster) :=
  fun context hstands => hstands.same
    (ViewSet.keeps_allocate VulkanDevice.keeps_createView VulkanDevice.keeps_releaseView id desc
      formats context.viewPool hstands.rest) rfl rfl

theorem keeps_releaseDescriptor (slot : Slot) :
    (release (.descriptor slot)).Keeps (Stands rules start stream items roster) :=
  keeps_onViews (ViewPool.keeps_release VulkanDevice.keeps_releaseView slot)

/-- Only what had been given up goes. -/
structure Roster.Sheds (before after : Roster) : Prop where
  spares : before.Spares none after
  fence : after.fence = before.fence
  passed : after.passed = before.passed

/-- An item that has left the queue is released, and the roster sheds at most its resource. -/
theorem stands_release (item : Retired) (rest : List Retired) :
    (release item).Meets (Stands rules start stream (item :: rest) roster) fun _ context =>
      ∃ after, Stands rules start stream rest after context ∧ roster.Sheds after := by
  intro context hstands
  cases item with
  | resource id =>
    obtain ⟨hdead, hsettled⟩ := hstands.leaving id (List.mem_cons_self ..)
    have hspares : roster.Spares none (roster.expel id) := by
      refine fun other hlive _ => roster.spares_amend id _ other hlive fun heq => ?_
      exact hdead (Option.some.inj heq ▸ hlive)
    have hrest := VulkanDevice.meets_destroyResource id rfl hsettled context.device hstands.rest
    refine ⟨roster.expel id, hstands.turn hrest rfl rfl
      (roster.continues_amend id (fun _ => rfl) fun _ hthere => nomatch hthere)
      (hstands.live.congr (hspares stream hstands.live (Option.some_ne_none _).symm)) ?_ ?_,
      hspares, rfl, rfl⟩
    · intro other hother
      obtain ⟨hgone, hdone⟩ := hstands.leaving other (List.mem_cons_of_mem _ hother)
      constructor
      · rintro ⟨tenure, hfound, hlast, hthere⟩
        rcases Roster.of_tenure?_amend hfound with ⟨-, hold⟩ | ⟨-, old, -, rfl⟩
        · exact hgone ⟨tenure, hold, hlast, hthere⟩
        · exact nomatch hthere
      · exact fun hcareful value hcovers => hdone hcareful value (Roster.covers_expel.mp hcovers)
    · intro other hother
      rcases List.mem_cons.mp hother with heq | hlater
      · obtain rfl := Retired.resource.inj heq
        refine .inr fun tenure hfound => ?_
        rcases Roster.of_tenure?_amend hfound with ⟨hne, -⟩ | ⟨-, old, -, rfl⟩
        · exact absurd rfl hne
        · rfl
      · exact .inl hlater
  | descriptor slot =>
    have hkept := keeps_releaseDescriptor slot context hstands
    refine ⟨roster, { hkept with leaving := ?_, queued := ?_ }, .refl _ _, rfl, rfl⟩
    · exact fun id hitem => hkept.leaving id (List.mem_cons_of_mem _ hitem)
    · intro hcareful id tenure htenure hthere
      refine (hkept.queued hcareful id tenure htenure hthere).imp_right (Or.imp_left ?_)
      exact fun hitem => (List.mem_cons.mp hitem).resolve_left Retired.noConfusion

theorem stands_releaseAll (items : List Retired) :
    (releaseAll items).Meets (Stands rules start stream items roster) fun _ context =>
      ∃ after, Stands rules start stream [] after context ∧ roster.Sheds after := by
  induction items generalizing roster with
  | nil => exact .pure fun context h => ⟨roster, h, .refl _ _, rfl, rfl⟩
  | cons item rest ih =>
    refine .bind (stands_release item rest) fun _ => ?_
    rintro context ⟨middle, hmiddle, hspares, hfence, hpassed⟩
    obtain ⟨after, hafter, hspares', hfence', hpassed'⟩ := ih context hmiddle
    exact ⟨after, hafter, hspares.trans hspares', hfence'.trans hfence, hpassed'.trans hpassed⟩

/-- The front of the queue leaves it when the work with it has finished. -/
theorem Stands.depart (h : Stands rules start stream [] roster context)
    {front rest : List (Nat × Retired)} (hqueue : context.retirement.entries = front ++ rest)
    (hsettled : ∀ fence id tenure, (fence, .resource id) ∈ front →
      roster.tenure? id = some tenure → tenure.last? = some fence → roster.Settled id) :
    Stands rules start stream (front.map Prod.snd) roster
      { context with retirement := ⟨rest⟩ } := by
  refine { h with
    retired := fun fence id hentry => h.retired fence id ?_
    leaving := fun id hitem => ?_
    queued := fun hcareful id tenure htenure hthere => ?_ }
  · rw [hqueue]
    exact List.mem_append_right _ hentry
  · obtain ⟨⟨fence, item⟩, hentry, rfl⟩ := List.mem_map.mp hitem
    have hwaits : (fence, .resource id) ∈ context.retirement.entries := by
      rw [hqueue]
      exact List.mem_append_left _ hentry
    obtain ⟨tenure, htenure, hlast⟩ := h.retired fence id hwaits
    exact ⟨fun hlive => h.not_waits hlive ⟨fence, hwaits⟩,
      fun _ => hsettled fence id tenure hentry htenure hlast⟩
  · rcases h.queued hcareful id tenure htenure hthere with hnone | hitem | ⟨fence, hentry⟩
    · exact .inl hnone
    · exact nomatch hitem
    · rw [hqueue] at hentry
      rcases List.mem_append.mp hentry with hfront | hrest
      · exact .inr (.inl (List.mem_map.mpr ⟨_, hfront, rfl⟩))
      · exact .inr (.inr ⟨fence, hrest⟩)

/-- The items that a reap takes have waited for work that has finished. -/
theorem Stands.reap (h : Stands rules start stream [] roster context) {completed : Nat}
    (hcompleted : completed ≤ roster.passed) :
    Stands rules start stream (context.retirement.reap completed).1 roster
      { context with retirement := (context.retirement.reap completed).2 } := by
  refine h.depart List.takeWhile_append_dropWhile.symm
    fun fence id tenure hentry htenure hlast value hcovers _ => ?_
  have hfence : fence ≤ completed := by simpa using List.mem_takeWhile_imp hentry
  obtain ⟨found, hfound, -, huntil⟩ := hcovers
  obtain rfl := Option.some.inj (htenure.symm.trans hfound)
  exact Nat.le_trans (huntil fence hlast) (Nat.le_trans hfence hcompleted)

/-- Reaping spares every resource that has not been given up. -/
theorem stands_reapCompleted :
    (reapCompleted : Act (Context VulkanDevice) Nat).Meets (Stands rules start stream [] roster)
      fun _ => Standing rules start stream (roster.Spares none) := by
  refine .through (fun completed context => ∃ passed, completed ≤ passed ∧
    roster.Lapses { roster with passed } ∧
    Stands rules start stream [] { roster with passed } context) ?_ fun completed => ?_
  · intro context hstands
    obtain ⟨-, passed, hpassed, hcompleted, hrest, -⟩ :=
      VulkanDevice.meets_pollFence context.device hstands.rest
    have hlapses : roster.Lapses { roster with passed } := ⟨rfl, Nat.le_refl _, hpassed⟩
    exact ⟨passed, hcompleted, hlapses, hstands.lapse hlapses hrest⟩
  rintro context ⟨passed, hcompleted, hlapses, hstands⟩
  have hreclaimed : Stands rules start stream [] { roster with passed }
      { context with stream := context.stream.reclaim completed } :=
    hstands.same hstands.rest rfl rfl
  -- What leaves the queue was given up under a fence value that has passed.
  obtain ⟨after, hafter, hsheds⟩ := stands_releaseAll _ _ (hreclaimed.reap hcompleted)
  have hreported (count : Nat) : (reportReaped count completed).Keeps
      (Stands rules start stream [] after) := by
    unfold reportReaped
    split
    · exact .pure _
    · exact .log _ _
  exact ⟨after, hreported _ _ hafter, (Roster.Spares.of_lapses hlapses).trans hsheds.spares⟩

/-- The recorded commands are submitted; nothing that the context holds changes. -/
theorem stands_deviceSubmit (wait : Bool) :
    (onDevice (Device.submit wait) : Act (Context VulkanDevice) Nat).Meets
      (Stands rules start stream [] roster)
      fun _ => Standing rules start stream (roster.Spares none) := by
  intro context hstands
  obtain ⟨-, after, hlapses, -, -, hrest, -⟩ :=
    VulkanDevice.meets_submit wait rfl context.device hstands.rest
  exact ⟨after, hstands.lapse hlapses hrest, .of_lapses hlapses⟩

/-- A submission spares every resource that has not been given up, and so does the reaping in it. -/
theorem stands_submit (wait : Bool) :
    (Context.submit wait : Act (Context VulkanDevice) Nat).Meets
      (Stands rules start stream [] roster)
      fun _ => Standing rules start stream (roster.Spares none) := by
  refine .bind (stands_deviceSubmit wait) fun fence => Standing.meets fun middle hmiddle => ?_
  refine .bind (keeps_onStream fun _ => rfl) fun _ => .bind stands_reapCompleted fun _ => ?_
  exact .pure fun context h => h.mono fun _ hspares => hmiddle.trans hspares

/-- After a wait for the device all work that was submitted has finished. -/
theorem stands_waitIdle :
    (onDevice Device.waitIdle : Act (Context VulkanDevice) Unit).Meets
      (Stands rules start stream [] roster) fun _ => Standing rules start stream fun after =>
        roster.Spares none after ∧ after.fence ≤ after.passed + 1 := by
  intro context hstands
  obtain ⟨after, hlapses, -, -, hdone, hrest, -⟩ :=
    VulkanDevice.meets_waitIdle rfl context.device hstands.rest
  exact ⟨after, hstands.lapse hlapses hrest, .of_lapses hlapses, hdone⟩

/-- A resource waits for the work that was recorded up to now. -/
theorem Stands.retire (h : Stands rules start stream [] roster context) (hlive : roster.Live id)
    (hne : id ≠ stream) :
    Stands rules start stream [] (roster.retire id) { context with
      retirement := context.retirement.retire (.resource id) context.device.currentFence } := by
  have hother {other : ResourceId} (hne' : other ≠ id) :
      (roster.retire id).tenure? other = roster.tenure? other := Roster.tenure?_amend_of_ne hne'
  have hfence : roster.fence = context.device.currentFence := h.rest.validNow.fence
  refine
    { rest := h.rest.step (.retired id)
      ring := h.ring
      live := h.live.congr (hother hne.symm)
      retired := fun fence other hentry => ?_
      leaving := fun _ hnone => absurd hnone List.not_mem_nil
      queued := fun hcareful other tenure htenure hthere => ?_ }
  · rcases List.mem_append.mp hentry with hold | hnew
    · rw [hother fun heq => h.not_waits hlive ⟨fence, heq ▸ hold⟩]
      exact h.retired fence other hold
    · obtain ⟨rfl, heq⟩ := Prod.mk.inj (List.mem_singleton.mp hnew)
      obtain rfl := Retired.resource.inj heq
      obtain ⟨tenure, htenure, -⟩ := hlive
      refine ⟨{ tenure with last? := some roster.fence }, ?_, congrArg some hfence⟩
      rw [Roster.retire, Roster.tenure?_amend, if_pos rfl, htenure]
      rfl
  · by_cases heq : other = id
    · subst heq
      exact .inr (.inr ⟨_, List.mem_append_right _ (List.mem_singleton_self _)⟩)
    · rw [hother heq] at htenure
      refine (h.queued hcareful other tenure htenure hthere).imp_right (Or.imp_right ?_)
      rintro ⟨fence, hentry⟩
      exact ⟨fence, List.mem_append_left _ hentry⟩

/-- A resource is given up to the queue, or at once if no work with it has yet to finish. -/
theorem stands_destroyResource (deferred : Bool) (hlive : roster.Live id) (hne : id ≠ stream)
    (hcareful : rules.careful → deferred = true ∨ roster.Settled id) :
    (destroyResource id deferred).Meets (Stands rules start stream [] roster)
      fun _ => Standing rules start stream (roster.Spares (some id)) := by
  intro context hstands
  cases deferred with
  | true => exact ⟨_, hstands.retire hlive hne, roster.spares_amend id _⟩
  | false =>
    have hsettled : rules.careful → roster.Settled id :=
      fun hrules => (hcareful hrules).resolve_left Bool.false_ne_true
    have hrest := VulkanDevice.meets_destroyResource id rfl hsettled context.device hstands.rest
    have hspares := roster.spares_amend id
    refine ⟨roster.expel id, hstands.turn_idle hrest rfl rfl
      (roster.continues_amend id (fun _ => rfl) fun _ hthere => nomatch hthere)
      (hstands.live.congr (hspares _ stream hstands.live fun heq => ?_)), hspares _⟩
    exact hne (Option.some.inj heq)

theorem keeps_destroyDescriptor (slot : Slot) (deferred : Bool) :
    (destroyDescriptor slot deferred).Keeps (Stands rules start stream [] roster) := by
  cases deferred with
  | false => exact keeps_releaseDescriptor slot
  | true =>
    intro context hstands
    have hentries {fence : Nat} {id : ResourceId} :
        (fence, .resource id) ∈ context.retirement.entries ++
            [(context.device.currentFence, .descriptor slot)] ↔
          (fence, .resource id) ∈ context.retirement.entries := by simp
    exact
      { hstands with
        retired := fun fence id hentry => hstands.retired fence id (hentries.mp hentry)
        queued := fun hcareful id tenure htenure hthere =>
          (hstands.queued hcareful id tenure htenure hthere).imp_right
            (Or.imp_right fun ⟨fence, hentry⟩ => ⟨fence, hentries.mpr hentry⟩) }

theorem keeps_destroySlots (slots : List Slot) (deferred : Bool) :
    (destroySlots slots deferred).Keeps (Stands rules start stream [] roster) := by
  induction slots with
  | nil => exact .pure _
  | cons slot rest ih => exact .bind (keeps_destroyDescriptor slot deferred) fun _ => ih

/-- A ring is in the buffer that it was made of. -/
theorem resource_ofBuffer {buffer : HostBuffer} {made : StreamBuffer}
    (h : StreamBuffer.ofBuffer buffer = .ok made) : made.resource = buffer.resource := by
  unfold StreamBuffer.ofBuffer at h
  split at h
  · cases h
  · cases h
    rfl

/-- A new context stands, with its stream buffer and no other resource. -/
theorem stands_ofDevice {device : VulkanDevice} {config : Config}
    (h : Rest rules start {} device) (hopen : (ofDevice device config).1 = .ok context) :
    Stands rules start context.stream.resource []
      (Roster.enroll {} context.stream.resource none) context := by
  have hmade : (openStream config).Meets (Rest rules start {})
      (fun made => VulkanDevice.Enrolls rules start
        { hand := [⟨.pool, start.device.pool⟩], roster := {} } none made.resource)
      fun _ _ => True := by
    refine .through (fun _ => Rest rules start {}) (.ofExcept (fun _ _ _ hrest => hrest)
      fun _ _ _ _ => trivial) fun _ => ?_
    refine .bind (.refusing (VulkanDevice.meets_createHostBuffer config.streamSize)
      fun _ _ _ => trivial) fun buffer => ?_
    split
    · next made hmade =>
      refine .after_log (.pure fun device henrolls => ?_)
      rwa [resource_ofBuffer hmade]
    · exact .through (fun _ _ => True) (.lift fun _ _ => trivial) fun _ =>
        .refuse fun _ _ => trivial
  unfold ofDevice at hopen
  simp only at hopen
  cases hvalue : ((openStream config).run device).value with
  | error error =>
    rw [hvalue] at hopen
    cases hopen
  | ok made =>
    rw [hvalue] at hopen
    cases hopen
    obtain ⟨hrest, -⟩ := (hmade.of_run h).1 made hvalue
    exact
      { rest := hrest
        ring := rfl
        live := Roster.live_enroll _ _ _
        retired := fun _ _ hnone => nomatch hnone
        leaving := fun _ hnone => nomatch hnone
        queued := fun _ id tenure htenure _ => by
          rw [Roster.tenure?_enroll] at htenure
          split at htenure
          · exact .inl (Option.some.inj htenure ▸ rfl)
          · cases htenure }

/-- How a caller is done with a context. -/
inductive Ending where
  /-- It is shut down and the device is closed. -/
  | shutdown
  /-- It is given up as it is. -/
  | drop

/-- What the context does when it ends this way. -/
def Ending.act : Ending → Act (Context VulkanDevice) Unit
  | .shutdown => do
    Context.shutdown
    onDevice Device.close
  | .drop => Context.drop

/-- Closing the device is a chain of steps from any context at rest. -/
theorem reaches_close (hlost : ¬rules.tracked) :
    (onDevice Device.close : Act (Context VulkanDevice) Unit).Meets
      (fun context => ∃ roster, Rest rules start roster context.device) fun _ context =>
      ∃ holding, Reaches rules start holding context.device := by
  rintro context ⟨roster, hrest⟩
  obtain ⟨after, hafter, -⟩ :=
    VulkanDevice.meets_close hlost start.device.pool roster context.device ⟨hrest, hrest.pool⟩
  exact ⟨_, hafter⟩

/-- The wait for the device comes first, so that all that the context holds may go. -/
theorem rest_shutdown :
    (Context.shutdown : Act (Context VulkanDevice) Unit).Meets
      (Stands rules start stream [] roster) fun _ context =>
      ∃ after, Rest rules start after context.device := by
  refine .bind (stands_deviceSubmit true) fun _ => Standing.meets fun submitted _ => ?_
  refine .bind stands_waitIdle fun _ => Standing.meets fun idle ⟨_, hidle⟩ => ?_
  refine .get fun context => ?_
  have hsettled (id : ResourceId) {after : Roster} (hsheds : idle.Sheds after) :
      after.Settled id := by
    intro value _ hvalue
    have hfence := hsheds.fence
    have hpassed := hsheds.passed
    omega
  have hself : idle.Sheds idle := ⟨.refl _ _, rfl, rfl⟩
  refine .through (fun _ => Stands rules start stream (context.retirement.drain).1 idle) (.set ?_)
    fun _ => ?_
  · rintro _ ⟨rfl, hstands⟩
    exact hstands.depart (List.append_nil _).symm fun _ id _ _ _ _ => hsettled id hself
  refine .bind (stands_releaseAll _) fun _ => .get fun released => ?_
  refine .through (fun _ now => now = released ∧ ∃ after,
    Stands rules start stream [] after now ∧ idle.Sheds after) ?_ fun _ => ?_
  · unfold reportLeaked
    split
    · exact .pure fun _ h => h
    · exact .log fun _ h => h
  refine .through (fun _ now => ∃ after, Rest rules start after now.device) ?_ fun _ =>
    .log fun _ h => h
  rintro now ⟨rfl, after, hstands, hsheds⟩
  exact ⟨_, VulkanDevice.meets_destroyResource now.stream.resource rfl
    (fun _ => hsettled _ hsheds) now.device hstands.rest⟩

/-- The end of a context is more steps of its device. -/
theorem reaches_end (hlost : ¬rules.tracked) (ending : Ending) :
    ending.act.Meets (Stands rules start stream [] roster) fun _ context =>
      ∃ holding, Reaches rules start holding context.device := by
  cases ending with
  | shutdown => exact .bind rest_shutdown fun _ => reaches_close hlost
  | drop =>
    have hclosed := (reaches_close hlost).mono
      (fun context (hstands : Stands rules start stream [] roster context) =>
        ⟨roster, hstands.rest⟩)
      fun _ _ h => h
    refine .bind hclosed fun _ => ?_
    refine .get fun origin => ?_
    refine .through (fun _ context => ∃ holding, Reaches rules start holding context.device)
      (.log fun _ h => h.2) fun _ => ?_
    generalize origin.retirement.entries.map Prod.snd = items
    induction items with
    | nil => exact .pure fun _ h => h
    | cons item rest ih =>
      cases item with
      | resource id => exact .bind (.log fun _ h => h) fun _ => ih
      | descriptor slot => exact ih

end Contexts

end Vulkan

end Texel
