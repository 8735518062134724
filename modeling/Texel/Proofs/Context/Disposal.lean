import Texel.Proofs.Context.Custody
import Texel.Proofs.Retirement

namespace Texel

namespace Context

/-- The books of a context whose callers hold these items. -/
def books (context : Context SimulatedDevice) (held unnamed : List Retired) : Books :=
  ⟨context.stream.resource, context.retirement.entries, held, unnamed⟩

/-- The books of the context are right. -/
def InCustody (conduct : Conduct) (origin : Context SimulatedDevice) (held unnamed : List Retired)
    (context : Context SimulatedDevice) : Prop :=
  Custody conduct origin (context.books held unnamed) context.viewPool

/-- Items have joined the queue with the fence of what is being recorded, and nothing has left. -/
structure Queued (start : Context SimulatedDevice) (items : List Retired)
    (context : Context SimulatedDevice) : Prop where
  entries : context.retirement.entries =
    start.retirement.entries ++ items.map fun item => (start.device.currentFence, item)
  currentFence : context.device.currentFence = start.device.currentFence
  forced : context.stats.forcedSubmissions = start.stats.forcedSubmissions

/-- The front of the queue has been freed, as far as its fences have completed. -/
structure Reaped (start : Context SimulatedDevice) (departed : List (Nat × Retired))
    (context : Context SimulatedDevice) : Prop where
  entries : start.retirement.entries = departed ++ context.retirement.entries
  due : ∀ entry ∈ departed, entry.1 ≤ context.device.completedFence
  waiting : ∀ entry ∈ context.retirement.entries, context.device.completedFence < entry.1
  present : ∀ entry ∈ departed, ∀ id, entry.2 = .resource id → start.device.isLive id = true
  gone : ∀ entry ∈ departed, context.viewPool.Lacks entry.2

variable {conduct : Conduct} {origin start context next : Context SimulatedDevice}
  {held unnamed items : List Retired}

/-- Nothing has been queued yet. -/
theorem Queued.refl (context : Context SimulatedDevice) : Queued context [] context :=
  ⟨(List.append_nil _).symm, rfl, rfl⟩

/-- What is queued later comes behind what was queued before. -/
theorem Queued.trans {more : List Retired} (h : Queued start items context)
    (h' : Queued context more next) : Queued start (items ++ more) next where
  entries := by
    rw [h'.entries, h.entries, h.currentFence, List.map_append, List.append_assoc]
  currentFence := h'.currentFence.trans h.currentFence
  forced := h'.forced.trans h.forced

/-- What a reap has done stays done while nothing else is queued, freed or completed. -/
theorem Reaped.congr {departed : List (Nat × Retired)} (h : Reaped start departed context)
    (hretirement : next.retirement = context.retirement)
    (hcompleted : next.device.completedFence = context.device.completedFence)
    (hgone : ∀ item, context.viewPool.Lacks item → next.viewPool.Lacks item) :
    Reaped start departed next where
  entries := hretirement ▸ h.entries
  due := hcompleted ▸ h.due
  waiting := hretirement ▸ hcompleted ▸ h.waiting
  present := h.present
  gone entry hentry := hgone _ (h.gone entry hentry)

namespace InCustody

/-- Callers pass items on to each other. -/
theorem rearrange (h : InCustody conduct origin held unnamed context)
    {held' unnamed' : List Retired}
    (hperm : (unnamed ++ held).Perm (unnamed' ++ held')) (hheld : ∀ item ∈ held, item ∈ held')
    (hunnamed : ∀ item ∈ unnamed', item ∈ unnamed) :
    InCustody conduct origin held' unnamed' context :=
  custody_rearrange h hperm hheld hunnamed

/-- The order in which owners are listed does not matter. -/
theorem perm (h : InCustody conduct origin held unnamed context) {held' unnamed' : List Retired}
    (hheld : held.Perm held') (hunnamed : unnamed.Perm unnamed') :
    InCustody conduct origin held' unnamed' context :=
  h.rearrange (hunnamed.append hheld) (fun _ => hheld.mem_iff.mp) fun _ => hunnamed.mem_iff.mpr

/-- The books say less about callers that may have done more. -/
theorem weaken {conduct' : Conduct} (h : InCustody conduct origin held unnamed context)
    (hconduct : conduct' ≤ conduct) : InCustody conduct' origin held unnamed context where
  ledger := h.ledger.weaken hconduct.2
  guarded := h.guarded.of_books h.guarded.sorted h.guarded.bounded (fun _ hid => hid)
    fun hdeferred => ⟨hconduct.1 hdeferred, fun _ _ hcovers => hcovers⟩
  awaits := h.awaits.mono hconduct.1 (Nat.le_refl _) (fun _ hentry _ => hentry)
    fun _ _ _ _ _ hsecure => ⟨hsecure, rfl⟩
  lasting := h.lasting

/-- Commands may be recorded that name what callers hold. -/
theorem recorded (h : InCustody conduct origin held unnamed context)
    {commands : List Simulated.Command}
    (htargets : ∀ command ∈ commands, .resource command.target ∈ held) :
    InCustody conduct origin held unnamed (context.recorded commands) :=
  custody_recorded h htargets

end InCustody

/-- What an operation has done to the queue: items have joined it, or a reap has shortened it. -/
inductive Turned (start : Context SimulatedDevice) :
    List Retired → Context SimulatedDevice → Prop where
  | queued {items : List Retired} {context : Context SimulatedDevice}
    (h : Queued start items context) : Turned start items context
  | reaped {departed : List (Nat × Retired)} {context : Context SimulatedDevice}
    (h : Reaped start departed context) : Turned start [] context

/-- Only the queue, the fences, the forced submissions and what is gone count. -/
theorem Turned.congr (h : Turned start items context)
    (hretirement : next.retirement = context.retirement)
    (hcurrent : next.device.currentFence = context.device.currentFence)
    (hcompleted : next.device.completedFence = context.device.completedFence)
    (hforced : next.stats.forcedSubmissions = context.stats.forcedSubmissions)
    (hgone : ∀ item, context.viewPool.Lacks item → next.viewPool.Lacks item) :
    Turned start items next := by
  cases h with
  | queued hqueued =>
    exact .queued ⟨hretirement ▸ hqueued.entries, hcurrent.trans hqueued.currentFence,
      hforced.trans hqueued.forced⟩
  | reaped hreaped => exact .reaped (hreaped.congr hretirement hcompleted hgone)

/-- An operation has left the books right and turned the queue. -/
structure Handled (conduct : Conduct) (origin start : Context SimulatedDevice)
    (held unnamed items : List Retired) (context : Context SimulatedDevice) : Prop where
  custody : InCustody conduct origin held unnamed context
  turned : Turned start items context

/-- The order in which owners are listed does not matter. -/
theorem Handled.perm (h : Handled conduct origin start held unnamed items context)
    {held' unnamed' : List Retired} (hheld : held.Perm held') (hunnamed : unnamed.Perm unnamed') :
    Handled conduct origin start held' unnamed' items context :=
  ⟨h.custody.perm hheld hunnamed, h.turned⟩

/-- Books that are kept under a careful conduct are kept under a less careful one. -/
theorem Handled.weaken {conduct' : Conduct}
    (h : Handled conduct origin start held unnamed items context)
    (hconduct : conduct' ≤ conduct) : Handled conduct' origin start held unnamed items context :=
  ⟨h.custody.weaken hconduct, h.turned⟩

/-- Part of the way through an operation: the books are right, and `items` have been queued since
the operation started. -/
structure Midway (conduct : Conduct) (origin start : Context SimulatedDevice)
    (held unnamed items : List Retired) (context : Context SimulatedDevice) : Prop where
  custody : InCustody conduct origin held unnamed context
  queued : Queued start items context

/-- An operation may end where it has come to. -/
theorem Midway.handled (h : Midway conduct origin start held unnamed items context) :
    Handled conduct origin start held unnamed items context :=
  ⟨h.custody, .queued h.queued⟩

/-- An operation that has done nothing yet. -/
theorem Midway.refl (h : InCustody conduct origin held unnamed context) :
    Midway conduct origin context held unnamed [] context :=
  ⟨h, .refl context⟩

/-- The order in which holdings are listed does not matter. -/
theorem Midway.perm (h : Midway conduct origin start held unnamed items context)
    {held' : List Retired}
    (hperm : held.Perm held') : Midway conduct origin start held' unnamed items context :=
  ⟨h.custody.perm hperm (.refl _), h.queued⟩

/-- A new resource is not named by any command yet. -/
theorem Midway.registered (h : Midway conduct origin start held unnamed items context)
    (resource : Simulated.Resource) :
    Midway conduct origin start held (.resource ⟨context.device.nextId⟩ :: unnamed) items
      { context with device := context.device.registered resource } :=
  ⟨custody_registered h.custody resource, h.queued.entries, h.queued.currentFence, h.queued.forced⟩

/-- The switches of the device do not matter. -/
theorem Midway.switched (h : Midway conduct origin start held unnamed items context)
    (autoComplete : Bool) (failingAllocations failingViews : Nat) :
    Midway conduct origin start held unnamed items { context with device :=
      { context.device with autoComplete, failingAllocations, failingViews } } :=
  ⟨custody_switched h.custody _ _ _, h.queued.entries, h.queued.currentFence, h.queued.forced⟩

/-- What was new is in the hands of a caller, who may have it named. -/
theorem Midway.hold {new new' : List Retired}
    (h : Midway conduct origin start held (new ++ unnamed) items context) (hperm : new.Perm new') :
    Midway conduct origin start (new' ++ held) unnamed items context where
  custody := by
    refine h.custody.rearrange ?_ (fun _ => List.mem_append_right _)
      fun _ => List.mem_append_right _
    apply (List.perm_append_comm.append_right _).trans
    rw [List.append_assoc]
    exact (hperm.append_right _).append_left _
  queued := h.queued

/-- What releasing an item leaves. -/
theorem state_release (item : Retired) (context : Context SimulatedDevice) :
    ((release item).run context).state = context.setViewPool (context.viewPool.freed item) := by
  cases item <;> rfl

/-- The context after an item is freed or queued. -/
def disposed (context : Context SimulatedDevice) (deferred : Bool) (item : Retired) :
    Context SimulatedDevice :=
  ((dispose item deferred).run context).state

/-- The items that wait in the queue after they were given up. -/
def queuedOf (items : List Retired) (deferred : Bool) : List Retired :=
  if deferred then items else []

/-- An item that is given up deferred is queued, and nothing else is. -/
theorem queued_disposed (context : Context SimulatedDevice) (deferred : Bool) (item : Retired) :
    Queued context (queuedOf [item] deferred) (context.disposed deferred item) := by
  cases deferred with
  | true => exact ⟨rfl, rfl, rfl⟩
  | false =>
    have hfreed : context.disposed false item =
        context.setViewPool (context.viewPool.freed item) := state_release item context
    rw [hfreed]
    exact ⟨(List.append_nil _).symm, (context.viewPool.sameTimeline_freed item).currentFence, rfl⟩

/-- Something that commands may name is given up, deferred or at once. -/
theorem custody_disposed {item : Retired} {rest : List Retired}
    (h : InCustody conduct origin held unnamed context) (hperm : held.Perm (item :: rest))
    (deferred : Bool) :
    InCustody (conduct.giving deferred) origin rest unnamed (context.disposed deferred item) := by
  cases deferred with
  | true =>
    have hretired : InCustody conduct origin rest unnamed (context.disposed true item) :=
      custody_retired h [item] rest unnamed
        ((hperm.trans (List.perm_append_singleton item rest).symm).append_left _)
        (fun other hother => by simpa [or_comm] using hperm.mem_iff.mp hother)
        fun _ hother => hother
    exact hretired.weaken (conduct.giving_le true)
  | false =>
    have hfreed : InCustody { conduct with deferred := False } origin rest unnamed
        (context.setViewPool (context.viewPool.freed item)) := custody_freed_held h hperm
    rw [disposed, dispose, if_neg Bool.false_ne_true, state_release]
    exact hfreed.weaken ⟨fun hdeferred => absurd hdeferred.2 Bool.false_ne_true, fun h => h⟩

/-- What no command names may be given up either way. -/
theorem custody_disposed_unnamed {item : Retired} {rest : List Retired}
    (h : InCustody conduct origin held unnamed context) (hperm : unnamed.Perm (item :: rest))
    (deferred : Bool) :
    InCustody conduct origin held rest (context.disposed deferred item) := by
  cases deferred with
  | true =>
    refine custody_retired h [item] held rest ?_
      (fun _ hother => .inl hother) fun _ hother =>
        hperm.mem_iff.mpr (List.mem_cons_of_mem _ hother)
    apply (hperm.append_right _).trans
    simp only [← List.append_assoc]
    exact (List.perm_append_singleton item (rest ++ held)).symm
  | false =>
    have hfreed : InCustody conduct origin held rest
        (context.setViewPool (context.viewPool.freed item)) := custody_freed_unnamed h hperm
    rw [disposed, dispose, if_neg Bool.false_ne_true, state_release]
    exact hfreed

/-- Items are disposed of one after the other. -/
def disposedAll (context : Context SimulatedDevice) (deferred : Bool) (items : List Retired) :
    Context SimulatedDevice :=
  items.foldl (fun context item => context.disposed deferred item) context

/-- Items that are given up deferred are queued in their order, and nothing else is. -/
theorem queued_disposedAll (context : Context SimulatedDevice) (deferred : Bool)
    (items : List Retired) :
    Queued context (queuedOf items deferred) (context.disposedAll deferred items) := by
  induction items generalizing context with
  | nil =>
    cases deferred <;> exact .refl context
  | cons item rest ih =>
    have htrans :=
      (queued_disposed context deferred item).trans (ih (context.disposed deferred item))
    cases deferred <;> exact htrans

/-- What is queued stays on the device and in the heaps. -/
theorem viewPool_disposedAll_deferred (context : Context SimulatedDevice) (items : List Retired) :
    (context.disposedAll true items).viewPool = context.viewPool := by
  induction items generalizing context with
  | nil => rfl
  | cons item rest ih => exact ih (context.disposed true item)

/-- Items that are given up lose their owner, and the others keep theirs. -/
theorem custody_disposedAll {rest : List Retired}
    (h : InCustody conduct origin held unnamed context)
    (hperm : held.Perm (items ++ rest)) (deferred : Bool) :
    InCustody (conduct.giving deferred) origin rest unnamed
      (context.disposedAll deferred items) := by
  induction items generalizing context held conduct with
  | nil => exact (h.perm hperm (.refl _)).weaken (conduct.giving_le deferred)
  | cons item more ih =>
    refine (ih (custody_disposed h hperm deferred) (.refl _)).weaken ?_
    exact ⟨fun hdeferred => ⟨hdeferred, hdeferred.2⟩, fun hlinear => hlinear⟩

/-- Slots that a caller brings along are given up like those that were held. -/
theorem custody_disposedSlots (h : InCustody conduct origin held unnamed context)
    (slots : List Slot) (deferred : Bool) :
    InCustody { conduct.giving deferred with linear := False } origin held unnamed
      (context.disposedAll deferred (slots.map .descriptor)) := by
  induction slots generalizing context conduct with
  | nil => exact h.weaken ⟨And.left, False.elim⟩
  | cons slot rest ih =>
    have hoffered : InCustody { conduct with linear := False } origin (.descriptor slot :: held)
        unnamed context := custody_offered h slot
    refine (ih (custody_disposed hoffered (.refl _) deferred)).weaken ?_
    exact ⟨fun hdeferred => ⟨hdeferred, hdeferred.2⟩, False.elim⟩

/-- What releasing items one after the other leaves. -/
theorem state_releaseAll (items : List Retired) (context : Context SimulatedDevice) :
    ((releaseAll items).run context).state =
      context.setViewPool (items.foldl ViewPool.freed context.viewPool) := by
  induction items generalizing context with
  | nil => rfl
  | cons item rest ih =>
    change ((releaseAll rest).run ((release item).run context).state).state = _
    rw [state_release, ih]
    rfl

/-- Freeing records nothing and completes nothing. -/
theorem sameTimeline_freedAll (items : List Retired) (pool : ViewPool SimulatedDevice) :
    SimulatedDevice.SameTimeline pool.device (items.foldl ViewPool.freed pool).device := by
  induction items generalizing pool with
  | nil => exact .refl _
  | cons item rest ih => exact (pool.sameTimeline_freed item).trans (ih (pool.freed item))

/-- A front of the queue is freed once its fences have completed. -/
theorem custody_freedAll {books : Books} {pool : ViewPool SimulatedDevice}
    {front rest : List (Nat × Retired)}
    (h : Custody conduct origin { books with queue := front ++ rest } pool)
    (hdue : ∀ entry ∈ front, entry.1 ≤ pool.device.completedFence) :
    Custody conduct origin { books with queue := rest }
      ((front.map Prod.snd).foldl ViewPool.freed pool) := by
  induction front generalizing pool with
  | nil => exact h
  | cons entry more ih =>
    refine ih (custody_reaped h (hdue entry List.mem_cons_self)) fun later hlater => ?_
    rw [(pool.sameTimeline_freed entry.2).completedFence]
    exact hdue later (List.mem_cons_of_mem _ hlater)

/-- A reap frees what has waited long enough, and leaves the books right. -/
theorem custody_reapCompleted (h : InCustody conduct origin held unnamed context) :
    InCustody conduct origin held unnamed
        ((reapCompleted : Act (Context SimulatedDevice) Nat).run context).state ∧
      ∃ departed, Reaped context departed
        ((reapCompleted : Act (Context SimulatedDevice) Nat).run context).state := by
  rw [state_reapCompleted, state_releaseAll]
  let completed := context.device.completedFence
  let departed := context.retirement.entries.takeWhile fun entry => entry.1 ≤ completed
  let rest := context.retirement.entries.dropWhile fun entry => entry.1 ≤ completed
  let pool := (departed.map Prod.snd).foldl ViewPool.freed context.viewPool
  have hsplit : context.retirement.entries = departed ++ rest :=
    List.takeWhile_append_dropWhile.symm
  have hdue : ∀ entry ∈ departed, entry.1 ≤ completed := fun entry hentry => by
    simpa using List.mem_takeWhile_imp hentry
  have hcompleted : pool.device.completedFence = completed :=
    (sameTimeline_freedAll (departed.map Prod.snd) context.viewPool).completedFence
  have hbefore : Custody conduct origin
      { context.books held unnamed with queue := departed ++ rest }
      context.viewPool := by
    rw [← hsplit]
    exact h
  have hafter : Custody conduct origin { context.books held unnamed with queue := rest } pool :=
    custody_freedAll hbefore hdue
  let left : Books := { context.books held unnamed with queue := rest }
  have hperm : (context.books held unnamed).owned.Perm (departed.map Prod.snd ++ left.owned) := by
    apply List.perm_iff_count.mpr
    intro item
    simp only [Books.owned, left, books, hsplit, List.map_append, List.count_cons,
      List.count_append]
    omega
  refine ⟨hafter, departed, hsplit, ?_, ?_, ?_, ?_⟩
  · change ∀ entry ∈ departed, entry.1 ≤ pool.device.completedFence
    rw [hcompleted]
    exact hdue
  · change ∀ entry ∈ rest, pool.device.completedFence < entry.1
    rw [hcompleted]
    exact fun entry hentry =>
      RetirementQueue.lt_of_mem_dropWhile h.guarded.sorted hentry
  · rintro ⟨fence, item⟩ hentry id rfl
    refine ((h.ledger.perm hperm).live id).mpr (List.mem_append_left _ ?_)
    exact List.mem_map_of_mem hentry
  · exact fun entry hentry =>
      ViewPool.lacks_freedAll h.ledger.heaps (.inl (List.mem_map_of_mem hentry))

/-- A submission reaps what it completes, and leaves the books right. -/
theorem custody_submit (h : InCustody conduct origin held unnamed context) (wait : Bool) :
    InCustody conduct origin held unnamed ((submit wait).run context).state ∧
      ∃ departed, Reaped context departed ((submit wait).run context).state := by
  have hsubmitted : InCustody conduct origin held unnamed (context.submitted wait) :=
    custody_submitted h wait
  rw [state_submit]
  obtain ⟨hafter, departed, hreaped⟩ := custody_reapCompleted hsubmitted
  exact ⟨hafter, departed, hreaped.entries, hreaped.due, hreaped.waiting, hreaped.present,
    hreaped.gone⟩

end Context

end Texel
