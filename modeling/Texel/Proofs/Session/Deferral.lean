import Texel.Proofs.Session.Custody

namespace Texel

open Simulated Context

namespace Operation

/-- Items that an operation puts into the queue, with the fence of what is being recorded. -/
def retirements (operation : Operation) (session : Session SimulatedDevice) :
    List (Nat × Retired) :=
  (operation.retires session).map fun item => (session.context.device.currentFence, item)

/-- Items that have left the front of the queue after an operation. -/
def releases (operation : Operation) (session : Session SimulatedDevice) : List (Nat × Retired) :=
  session.context.retirement.entries.take (session.context.retirement.entries.length -
    (operation.after session).context.retirement.entries.length)

/-- The operation looks for completed work: it reaps, submits, or is an upload that has to submit
to get space. -/
def Reaps (operation : Operation) (session : Session SimulatedDevice) : Prop :=
  operation = .reap ∨ (∃ wait, operation = .submit wait) ∨
    (operation.after session).context.stats.forcedSubmissions ≠
      session.context.stats.forcedSubmissions

end Operation

namespace Session

/-- What the operations of a run note down, in order. -/
def history {α : Type} (note : Operation → Session SimulatedDevice → List α)
    (session : Session SimulatedDevice) : List Operation → List α
  | [] => []
  | operation :: rest => note operation session ++ history note (operation.after session) rest

/-- Everything that a run puts into the queue. -/
def retired (session : Session SimulatedDevice) (operations : List Operation) :
    List (Nat × Retired) :=
  session.history Operation.retirements operations

/-- Everything that leaves the queue in a run. -/
def released (session : Session SimulatedDevice) (operations : List Operation) :
    List (Nat × Retired) :=
  session.history Operation.releases operations

/-- Everything that a run leaks. -/
def lost (session : Session SimulatedDevice) (operations : List Operation) : List Retired :=
  session.history Operation.leaks operations

variable {conduct : Conduct} {origin : Context SimulatedDevice} {session : Session SimulatedDevice}
  {leaked : List Retired}

/-- The books of a session that was just opened: all there is is the stream buffer. -/
theorem inCustody_opened {config : Config} (h : Opened config session) :
    session.InCustody .careful session.context [] := by
  have hstreams := streams_opened h
  obtain ⟨-, -, rfl⟩ := opened_iff.mp h
  have hempty :
      (⟨{}, (opening config).context.heaps⟩ : ViewPool SimulatedDevice).Ledger True [] := by
    refine ⟨by simp, ?_, fun _ => ?_, ?_, Heaps.sound_ofCapacities _ _ _, ?_, rfl⟩
    · simp [SimulatedDevice.isLive, Table.contains]
    · simp [opening, Heaps.isTaken_ofCapacities]
    · simp [opening, Heaps.isTaken_ofCapacities]
    · simp
  refine ⟨⟨List.nodup_nil, List.nodup_nil, List.nodup_nil⟩, ?_, ?_, ?_, ?_⟩
  · exact ViewPool.ledger_registered hempty (.buffer config.streamSize)
  · refine ⟨hstreams.dated, .nil, ?_, ?_, ?_, ?_⟩
    · simp [books, opening]
    · simp [viewPool, opening, SimulatedDevice.registered]
    · simp [viewPool, opening, SimulatedDevice.registered]
    · simp [viewPool, opening, SimulatedDevice.registered]
  · simp [Awaits, opening]
  · exact ⟨Nat.le_refl _, fun _ _ hdead => hdead⟩

/-- No slot is among the buffers of staging textures. -/
theorem descriptor_notin_unnamed (session : Session SimulatedDevice) (slot : Slot) :
    .descriptor slot ∉ session.unnamed := by
  simp [unnamed, Table.gather]

/-- The books may be kept from any moment on. -/
theorem InCustody.rebase (h : session.InCustody conduct origin leaked) :
    session.InCustody conduct session.context leaked where
  keyed := h.keyed
  custody := by
    refine ⟨h.custody.ledger, h.custody.guarded, fun fence item hitem _ => ⟨hitem, ?_⟩,
      Nat.le_refl _, fun _ _ hdead => hdead⟩
    rintro - slot - ⟨htaken, hfirst⟩
    exact ⟨⟨htaken, hfirst, session.descriptor_notin_unnamed slot⟩, rfl⟩

/-- The books may be kept less strictly from some moment on. -/
theorem InCustody.weaken {conduct' : Conduct} (h : session.InCustody conduct origin leaked)
    (hconduct : conduct' ≤ conduct) : session.InCustody conduct' origin leaked :=
  ⟨h.keyed, h.custody.weaken hconduct⟩

/-- An operation keeps the books, and they name what it has leaked. -/
theorem InCustody.after (h : session.InCustody conduct origin leaked)
    (hstreams : session.context.Streams) (operation : Operation) :
    (operation.after session).InCustody (conduct.after operation) origin
      (operation.leaks session ++ leaked) := by
  have hafter := after_operation h hstreams operation
  exact ⟨hafter.keyed, hafter.handled.custody⟩

/-- The stream buffer and the submissions belong together after every operation. -/
theorem streams_after (hstreams : session.context.Streams) (operation : Operation) :
    (operation.after session).context.Streams :=
  (evolves_act hstreams operation session .refl).streams hstreams

/-- A run keeps the books. They are as good as the callers have been careful. -/
theorem InCustody.run (h : session.InCustody conduct origin leaked)
    (hstreams : session.context.Streams) (operations : List Operation) :
    (session.run operations).InCustody (conduct.afterAll operations) origin
      (session.lost operations ++ leaked) := by
  induction operations generalizing session conduct leaked with
  | nil => exact h.weaken ⟨And.left, And.left⟩
  | cons operation rest ih =>
    obtain ⟨hkeyed, hcustody⟩ := ih (h.after hstreams operation) (streams_after hstreams operation)
    refine ⟨hkeyed, (hcustody.perm ?_ (.refl _)).weaken (conduct.afterAll_cons_le operation rest)⟩
    apply List.Perm.append_right
    rw [← List.append_assoc]
    exact List.perm_append_comm.append_right _

/-- What one operation does to the queue: items join it at the end, or items leave it at the front
whose fences have completed, and those are freed. -/
structure Stepped (operation : Operation) (session : Session SimulatedDevice) : Prop where
  entries : session.context.retirement.entries ++ operation.retirements session =
    operation.releases session ++ (operation.after session).context.retirement.entries
  due : ∀ entry ∈ operation.releases session,
    entry.1 ≤ (operation.after session).context.device.completedFence
  present : ∀ entry ∈ operation.releases session, ∀ id, entry.2 = .resource id →
    session.context.device.isLive id = true
  gone : ∀ entry ∈ operation.releases session,
    (operation.after session).context.viewPool.Lacks entry.2
  waiting : operation.Reaps session → ∀ entry ∈
    (operation.after session).context.retirement.entries,
      (operation.after session).context.device.completedFence < entry.1

/-- A reap releases what has left the queue. -/
theorem releases_of_reaped {operation : Operation} {departed : List (Nat × Retired)}
    (h : Reaped session.context departed (operation.after session).context) :
    operation.releases session = departed := by
  unfold Operation.releases
  rw [h.entries, List.length_append, Nat.add_sub_cancel, List.take_left]

/-- Where items only join the queue, nothing is released. -/
theorem releases_of_queued {operation : Operation} {items : List Retired}
    (h : Queued session.context items (operation.after session).context) :
    operation.releases session = [] := by
  unfold Operation.releases
  rw [h.entries, List.length_append, Nat.sub_eq_zero_of_le (Nat.le_add_right _ _), List.take_zero]

/-- A reap frees the front of the queue. -/
theorem stepped_of_reaped {operation : Operation} {departed : List (Nat × Retired)}
    (h : Reaped session.context departed (operation.after session).context)
    (hretires : operation.retires session = []) : Stepped operation session := by
  have hreleases := releases_of_reaped h
  have hretirements : operation.retirements session = [] := by
    rw [Operation.retirements, hretires]
    rfl
  refine ⟨?_, ?_, ?_, ?_, fun _ => h.waiting⟩
  · rw [hretirements, hreleases, List.append_nil]
    exact h.entries
  · rw [hreleases]
    exact h.due
  · rw [hreleases]
    exact h.present
  · rw [hreleases]
    exact h.gone

/-- Every operation queues at the end or frees at the front. -/
theorem stepped (h : session.InCustody conduct origin leaked) (hstreams : session.context.Streams)
    (operation : Operation) : Stepped operation session := by
  have hturned := (after_operation h hstreams operation).handled.turned
  generalize hitems : operation.retires session = items at hturned
  cases hturned with
  | reaped hreaped => exact stepped_of_reaped hreaped hitems
  | queued hqueued =>
    by_cases hreaps : operation.Reaps session
    · rcases hreaps with rfl | ⟨wait, rfl⟩ | hforced
      · obtain ⟨departed, hreaped⟩ := (after_reap h).2
        exact stepped_of_reaped hreaped rfl
      · obtain ⟨departed, hreaped⟩ := (after_submit h wait).2
        exact stepped_of_reaped hreaped rfl
      · exact absurd hqueued.forced hforced
    · have hreleases := releases_of_queued hqueued
      have hentries := hqueued.entries
      rw [← hitems] at hentries
      refine ⟨?_, ?_, ?_, ?_, fun hyes => absurd hyes hreaps⟩
      · rw [hreleases, hentries]
        rfl
      · simp [hreleases]
      · simp [hreleases]
      · simp [hreleases]

/-- Whatever is retired in a run leaves the queue in order or is still in it. -/
theorem retired_eq (h : session.InCustody conduct origin leaked)
    (hstreams : session.context.Streams)
    (operations : List Operation) :
    session.context.retirement.entries ++ session.retired operations =
      session.released operations ++ (session.run operations).context.retirement.entries := by
  induction operations generalizing session conduct leaked with
  | nil => exact List.append_nil _
  | cons operation rest ih =>
    have hstep := (stepped h hstreams operation).entries
    have hrest := ih (h.after hstreams operation) (streams_after hstreams operation)
    calc session.context.retirement.entries ++ session.retired (operation :: rest)
      _ = (session.context.retirement.entries ++ operation.retirements session) ++
          (operation.after session).retired rest := (List.append_assoc ..).symm
      _ = operation.releases session ++ ((operation.after session).context.retirement.entries ++
          (operation.after session).retired rest) := by rw [hstep, List.append_assoc]
      _ = operation.releases session ++ ((operation.after session).released rest ++
          (session.run (operation :: rest)).context.retirement.entries) := by
        rw [hrest]
        rfl
      _ = session.released (operation :: rest) ++
          (session.run (operation :: rest)).context.retirement.entries :=
        (List.append_assoc ..).symm

/-- A device goes on completing what it has submitted. -/
theorem completedFence_le_run (hstreams : session.context.Streams) (operations : List Operation) :
    session.context.device.completedFence ≤
      (session.run operations).context.device.completedFence :=
  (evolves_run hstreams operations).continues.completedFence hstreams.dated

/-- Nothing leaves the queue before its fence has completed. -/
theorem due_of_mem_released (h : session.InCustody conduct origin leaked)
    (hstreams : session.context.Streams) (operations : List Operation) :
    ∀ entry ∈ session.released operations,
      entry.1 ≤ (session.run operations).context.device.completedFence := by
  induction operations generalizing session conduct leaked with
  | nil => exact fun _ hentry => absurd hentry List.not_mem_nil
  | cons operation rest ih =>
    intro entry hentry
    rcases List.mem_append.mp hentry with hfirst | hrest
    · exact Nat.le_trans ((stepped h hstreams operation).due entry hfirst)
        (completedFence_le_run (streams_after hstreams operation) rest)
    · exact ih (h.after hstreams operation) (streams_after hstreams operation) entry hrest

/-- A resource that is gone stays gone. -/
theorem isLive_run (h : session.InCustody conduct origin leaked)
    (hstreams : session.context.Streams)
    (operations : List Operation) {id : ResourceId}
    (hknown : id.raw < session.context.device.nextId)
    (hdead : session.context.device.isLive id = false) :
    (session.run operations).context.device.isLive id = false :=
  (h.rebase.run hstreams operations).custody.lasting.gone id hknown hdead

/-- What is released was queued. -/
theorem mem_entries_of_mem_releases {operation : Operation} {entry : Nat × Retired}
    (h : entry ∈ operation.releases session) : entry ∈ session.context.retirement.entries :=
  List.mem_of_mem_take h

/-- What is queued was made. -/
theorem lt_nextId_of_mem_entries (h : session.InCustody conduct origin leaked) {fence : Nat}
    {id : ResourceId} (hentry : (fence, .resource id) ∈ session.context.retirement.entries) :
    id.raw < session.context.device.nextId :=
  h.custody.ledger.fresh id (Books.mem_owned.mpr (.inr (.inr (.inr (List.mem_map_of_mem hentry)))))

/-- A resource that has left the queue is gone for good. -/
theorem gone_of_mem_released (h : session.InCustody conduct origin leaked)
    (hstreams : session.context.Streams) (operations : List Operation) {fence : Nat}
    {id : ResourceId} (hentry : (fence, .resource id) ∈ session.released operations) :
    (session.run operations).context.device.isLive id = false := by
  induction operations generalizing session conduct leaked with
  | nil => exact absurd hentry List.not_mem_nil
  | cons operation rest ih =>
    have hafter := h.after hstreams operation
    have hstreams' := streams_after hstreams operation
    rcases List.mem_append.mp hentry with hfirst | hrest
    · have hknown := lt_nextId_of_mem_entries h (mem_entries_of_mem_releases hfirst)
      have hlater := (evolves_act hstreams operation session .refl).continues.nextId
      exact isLive_run hafter hstreams' rest (Nat.lt_of_lt_of_le hknown hlater)
        ((stepped h hstreams operation).gone _ hfirst)
    · exact ih hafter hstreams' hrest

/-- The resource, if the item is one. -/
def resource? : Retired → Option ResourceId
  | .resource id => some id
  | .descriptor _ => none

/-- An item that is a resource. -/
theorem resource?_eq_some {item : Retired} {id : ResourceId} (h : resource? item = some id) :
    item = .resource id := by
  cases item with
  | resource other => exact congrArg Retired.resource (Option.some.inj h)
  | descriptor slot => cases h

/-- The resources among retired items. -/
def resourcesOf (entries : List (Nat × Retired)) : List ResourceId :=
  (entries.map Prod.snd).filterMap resource?

/-- The resources among queued items. -/
theorem mem_resourcesOf {entries : List (Nat × Retired)} {id : ResourceId}
    (h : id ∈ resourcesOf entries) : ∃ fence, (fence, .resource id) ∈ entries := by
  obtain ⟨item, hitem, hid⟩ := List.mem_filterMap.mp h
  obtain ⟨⟨fence, found⟩, hentry, rfl⟩ := List.mem_map.mp hitem
  obtain rfl := resource?_eq_some hid
  exact ⟨fence, hentry⟩

/-- The resources among the items of two lists. -/
theorem resourcesOf_append (first second : List (Nat × Retired)) :
    resourcesOf (first ++ second) = resourcesOf first ++ resourcesOf second := by
  simp only [resourcesOf, List.map_append, List.filterMap_append]

/-- A resource waits in the queue once. -/
theorem nodup_resourcesOf_entries (h : session.InCustody conduct origin leaked) :
    (resourcesOf session.context.retirement.entries).Nodup := by
  refine List.nodup_iff_count_le_one.mpr fun id => ?_
  have hcount : (resourcesOf session.context.retirement.entries).count id =
      (session.context.retirement.entries.map Prod.snd).count (.resource id) := by
    rw [resourcesOf, List.count_filterMap, List.count]
    refine List.countP_congr fun item _ => ?_
    cases item <;> simp [resource?]
  have honce := h.custody.ledger.unique (.resource id) trivial
  simp only [Books.owned, Context.books, List.count_cons, List.count_append] at honce
  omega

/-- A resource that is queued is live. -/
theorem isLive_of_mem_entries (h : session.InCustody conduct origin leaked) {fence : Nat}
    {id : ResourceId} (hentry : (fence, .resource id) ∈ session.context.retirement.entries) :
    session.context.device.isLive id = true :=
  (h.custody.ledger.live id).mpr
    (Books.mem_owned.mpr (.inr (.inr (.inr (List.mem_map_of_mem hentry)))))

/-- No resource is retired twice, and none that is gone already. -/
theorem nodup_retired (h : session.InCustody conduct origin leaked)
    (hstreams : session.context.Streams) (operations : List Operation) :
    (resourcesOf (session.context.retirement.entries ++ session.retired operations)).Nodup ∧
      ∀ id ∈ resourcesOf (session.context.retirement.entries ++ session.retired operations),
        id.raw < session.context.device.nextId → session.context.device.isLive id = true := by
  induction operations generalizing session conduct leaked with
  | nil =>
    have hnil : session.context.retirement.entries ++ session.retired [] =
        session.context.retirement.entries := List.append_nil _
    rw [hnil]
    refine ⟨nodup_resourcesOf_entries h, fun id hid _ => ?_⟩
    obtain ⟨fence, hentry⟩ := mem_resourcesOf hid
    exact isLive_of_mem_entries h hentry
  | cons operation rest ih =>
    have hstep := stepped h hstreams operation
    have hlater := (evolves_act hstreams operation session .refl).continues.nextId
    have hlast := (h.rebase.after hstreams operation).custody.lasting
    obtain ⟨hnodup, hlive⟩ := ih (h.after hstreams operation) (streams_after hstreams operation)
    have hsplit : session.context.retirement.entries ++ session.retired (operation :: rest) =
        operation.releases session ++ ((operation.after session).context.retirement.entries ++
          (operation.after session).retired rest) := by
      rw [← List.append_assoc, ← hstep.entries, List.append_assoc]
      rfl
    rw [hsplit, resourcesOf_append]
    refine ⟨List.nodup_append.mpr ⟨?_, hnodup, ?_⟩, ?_⟩
    · have hfront : (operation.releases session).Sublist session.context.retirement.entries :=
        List.take_sublist _ _
      exact (nodup_resourcesOf_entries h).sublist ((hfront.map _).filterMap _)
    · -- what has just been freed is gone, and what is retired later is not
      rintro id hreleased _ hother rfl
      obtain ⟨fence, hentry⟩ := mem_resourcesOf hreleased
      have hknown := lt_nextId_of_mem_entries h (mem_entries_of_mem_releases hentry)
      have hgone : (operation.after session).context.device.isLive id = false :=
        hstep.gone _ hentry
      rw [hlive id hother (Nat.lt_of_lt_of_le hknown hlater)] at hgone
      cases hgone
    · intro id hid hknown
      rcases List.mem_append.mp hid with hreleased | hother
      · obtain ⟨fence, hentry⟩ := mem_resourcesOf hreleased
        exact hstep.present _ hentry id rfl
      · have hafter := hlive id hother (Nat.lt_of_lt_of_le hknown hlater)
        by_contra hdead
        have hgone : (operation.after session).context.device.isLive id = false :=
          hlast.gone id hknown (Bool.eq_false_iff.mpr hdead)
        rw [hgone] at hafter
        cases hafter

/-- The target of a command goes only after the submission of the command has completed. -/
theorem fenceOf_le_of_gone (h : session.InCustody conduct origin leaked)
    (hdeferred : conduct.deferred) {index : Nat} {command : Command}
    (hcommand : session.context.device.commands[index]? = some command)
    (hdead : session.context.device.isLive command.target = false) :
    session.context.device.fenceOf index ≤ session.context.device.completedFence := by
  rcases h.custody.guarded.covered hdeferred index command hcommand with
    hheld | ⟨fence, hqueue, -⟩ | hcompleted
  · have hlive : session.context.device.isLive command.target = true :=
      (h.custody.ledger.live command.target).mpr
        (Books.mem_owned.mpr (.inr (.inr (.inl hheld))))
    rw [hdead] at hlive
    cases hlive
  · have hlive := isLive_of_mem_entries h hqueue
    rw [hdead] at hlive
    cases hlive
  · exact hcompleted

/-- What waits in the queue is in nobody's hands. -/
theorem notin_of_mem_entries (h : session.InCustody conduct origin leaked) {fence : Nat}
    {item : Retired} (htracked : item.IsTracked conduct.linear)
    (hentry : (fence, item) ∈ session.context.retirement.entries) :
    item ∉ session.held ∧ item ∉ session.unnamed := by
  have hqueued : 0 < (session.context.retirement.entries.map Prod.snd).count item :=
    List.count_pos_iff.mpr (List.mem_map_of_mem hentry)
  have honce := h.custody.ledger.unique item htracked
  simp only [Books.owned, Context.books, List.count_cons, List.count_append] at honce
  constructor
  · intro hheld
    have := List.count_pos_iff.mpr hheld
    omega
  · intro hunnamed
    have := List.count_pos_iff.mpr hunnamed
    omega

/-- While the fence of a retired item has not completed, the item waits. -/
theorem waits_run (h : session.InCustody conduct origin leaked) (hstreams : session.context.Streams)
    (later : List Operation) {fence : Nat} {item : Retired}
    (hentry : (fence, item) ∈ session.context.retirement.entries)
    (hpending : (session.run later).context.device.completedFence < fence) :
    (fence, item) ∈ (session.run later).context.retirement.entries :=
  ((h.rebase.run hstreams later).custody.awaits fence item hentry hpending).1

/-- An item that waits is there and in nobody's hands. -/
theorem has_of_mem_entries (h : session.InCustody conduct origin leaked) {fence : Nat}
    {item : Retired} (htracked : item.IsTracked conduct.linear)
    (hentry : (fence, item) ∈ session.context.retirement.entries) :
    session.context.viewPool.Has item ∧ item ∉ session.held ∧ item ∉ session.unnamed := by
  refine ⟨h.custody.ledger.has htracked ?_, notin_of_mem_entries h htracked hentry⟩
  exact Books.mem_owned.mpr (.inr (.inr (.inr (List.mem_map_of_mem hentry))))

/-- The slot stays handed out and shows what it shows until the fence has completed, whatever
follows that frees nothing at once. -/
def HoldsBack (session : Session SimulatedDevice) (fence : Nat) (slot : Slot) : Prop :=
  ∀ later : List Operation, (∀ operation ∈ later, operation.isDeferred = true) →
    (session.run later).context.device.completedFence < fence →
    (session.run later).context.heaps.isTaken slot = true ∧
      (session.run later).context.device.views.get? slot =
        session.context.device.views.get? slot

/-- A retired slot that is handed out, and that no earlier fence frees, is held back. -/
theorem InCustody.holdsBack (h : session.InCustody conduct origin leaked)
    (hdeferred : conduct.deferred) (hstreams : session.context.Streams) {fence : Nat} {slot : Slot}
    (hentry : (fence, .descriptor slot) ∈ session.context.retirement.entries)
    (hsecure : session.context.Secures fence slot) : session.HoldsBack fence slot := by
  intro later hlater hpending
  obtain ⟨-, hslot⟩ :=
    (h.rebase.run hstreams later).custody.awaits fence (.descriptor slot) hentry hpending
  obtain ⟨hbooks, hview⟩ := hslot ⟨hdeferred, hlater⟩ slot rfl hsecure
  exact ⟨hbooks.taken, hview⟩

/-- A slot that was just retired is held back only if it is handed out and no earlier fence frees
it: once all work but the last submission is complete, all that waited for earlier fences is
freed. -/
theorem InCustody.secures (h : session.InCustody conduct origin leaked)
    (hstreams : session.context.Streams) {slot : Slot}
    (hheld : session.HoldsBack session.context.device.currentFence slot) :
    session.context.Secures session.context.device.currentFence slot := by
  obtain ⟨htaken, -⟩ := hheld [] (fun _ hoperation => absurd hoperation List.not_mem_nil)
    hstreams.dated.completed
  refine ⟨htaken, ?_⟩
  rintro ⟨fence, _⟩ hentry rfl
  by_contra hearlier
  let idle := Operation.after .waitIdle session
  let reaped := Operation.after .reap idle
  have hidle : idle.InCustody (conduct.after .waitIdle) origin leaked :=
    h.after hstreams .waitIdle
  have hcompleted : reaped.context.device.completedFence =
      session.context.device.currentFence - 1 := completedFence_reapCompleted idle.context
  have hdated := hstreams.dated.completed
  obtain ⟨hstill, -⟩ := hheld [.waitIdle, .reap] (by decide)
    (show reaped.context.device.completedFence < _ by omega)
  -- the earlier fence has completed, so the entry has left the queue and the slot is free
  obtain ⟨departed, hreap⟩ := (after_reap hidle).2
  have hdeparted : (fence, .descriptor slot) ∈ departed := by
    have hmem : (fence, .descriptor slot) ∈ departed ++ reaped.context.retirement.entries :=
      hreap.entries ▸ hentry
    refine (List.mem_append.mp hmem).resolve_right fun hleft => ?_
    have hwaits : reaped.context.device.completedFence < fence := hreap.waiting _ hleft
    omega
  have hgone : reaped.context.heaps.isTaken slot = false := (hreap.gone _ hdeparted).1
  exact absurd (hstill.symm.trans hgone) (by decide)

/-- If slots are given up with their textures only, every retired slot is secure. -/
theorem InCustody.secures_of_linear (h : session.InCustody conduct origin leaked)
    (hlinear : conduct.linear) {fence : Nat} {slot : Slot}
    (hentry : (fence, .descriptor slot) ∈ session.context.retirement.entries) :
    session.context.Secures fence slot := by
  have hhas := (has_of_mem_entries h ((Retired.descriptor slot).isTracked hlinear) hentry).1
  have howned := (List.nodup_cons.mp (h.custody.ledger.nodup hlinear)).2
  have hqueue : (session.context.retirement.entries.map Prod.snd).Nodup :=
    (List.nodup_append.mp (List.nodup_append.mp howned).2.1).2.1
  refine ⟨hhas.1, fun entry hother hslot => Nat.le_of_eq ?_⟩
  exact congrArg Prod.fst (List.inj_on_of_nodup_map hqueue hentry hother hslot.symm)

/-- An operation that looks for completed work leaves nothing in the queue whose fence has
completed: whatever was retired with such a fence has left as often as it was retired. -/
theorem released_of_reaps (h : session.InCustody conduct origin leaked)
    (hstreams : session.context.Streams) (hempty : session.context.retirement.entries = [])
    (before : List Operation) {operation : Operation}
    (hreaps : operation.Reaps (session.run before)) {entry : Nat × Retired}
    (hcompleted : entry.1 ≤
      (session.run (before ++ [operation])).context.device.completedFence) :
    (session.released (before ++ [operation])).count entry =
      (session.retired (before ++ [operation])).count entry := by
  have hsplit := retired_eq h hstreams (before ++ [operation])
  have hstepped := stepped (h.run hstreams before) ((evolves_run hstreams before).streams hstreams)
    operation
  have hrun : session.run (before ++ [operation]) = operation.after (session.run before) :=
    run_append session before [operation]
  have hleft : entry ∉ (session.run (before ++ [operation])).context.retirement.entries := by
    intro hentry
    rw [hrun] at hentry hcompleted
    exact Nat.not_lt_of_le hcompleted (hstepped.waiting hreaps entry hentry)
  rw [hempty, List.nil_append] at hsplit
  rw [hsplit, List.count_append, List.count_eq_zero_of_not_mem hleft, Nat.add_zero]

/-- If callers destroy deferred only, a resource that a command names goes only after the submission
of the command has completed, and a retired item waits for the fence that was current when it was
retired. A retired slot is held back until then exactly if it is handed out when it is retired and
was not retired with an earlier fence that waits still. Every operation that looks for completed
work frees what has waited long enough, and over a run everything that is retired is freed once, in
order, or still waits. -/
theorem deferred_destruction_spares_pending_work {config : Config}
    {session : Session SimulatedDevice} (hopened : Opened config session)
    (operations : List Operation)
    (hdeferred : ∀ operation ∈ operations, operation.isDeferred = true) :
    let now := session.run operations
    let device := now.context.device
    let linear := ∀ operation ∈ operations, operation.isLinear = true
    (∀ (index : Nat) (command : Command), device.commands[index]? = some command →
      device.isLive command.target = false → device.fenceOf index ≤ device.completedFence) ∧
    (∀ before later, operations = before ++ later → ∀ fence item,
      (fence, item) ∈ (session.run before).context.retirement.entries →
      device.completedFence < fence →
      (fence, item) ∈ now.context.retirement.entries ∧
        (item.IsTracked linear →
          now.context.viewPool.Has item ∧ item ∉ now.held ∧ item ∉ now.unnamed)) ∧
    (∀ slot, (device.currentFence, .descriptor slot) ∈ now.context.retirement.entries →
      (now.HoldsBack device.currentFence slot ↔ now.context.Secures device.currentFence slot) ∧
        (linear → now.context.Secures device.currentFence slot)) ∧
    (∀ before operation later, operations = before ++ operation :: later →
      Stepped operation (session.run before) ∧
      (operation.Reaps (session.run before) → ∀ entry : Nat × Retired,
        entry.1 ≤ (session.run (before ++ [operation])).context.device.completedFence →
        (session.released (before ++ [operation])).count entry =
          (session.retired (before ++ [operation])).count entry)) ∧
    session.retired operations = session.released operations ++ now.context.retirement.entries ∧
    (resourcesOf (session.retired operations)).Nodup ∧
    (∀ entry ∈ session.released operations, entry.1 ≤ device.completedFence ∧
      ∀ id, entry.2 = .resource id → device.isLive id = false) := by
  intro now device linear
  have hcustody := inCustody_opened hopened
  have hstreams := streams_opened hopened
  have hnow := hcustody.run hstreams operations
  have hstreams' := (evolves_run hstreams operations).streams hstreams
  have hempty : session.context.retirement.entries = [] := by
    obtain ⟨-, -, rfl⟩ := opened_iff.mp hopened
    rfl
  refine ⟨?_, ?_, ?_, ?_, ?_, ?_, ?_⟩
  · intro index command hcommand hdead
    exact fenceOf_le_of_gone hnow ⟨trivial, hdeferred⟩ hcommand hdead
  · rintro before later rfl fence item hentry hpending
    have hwaits : (fence, item) ∈ now.context.retirement.entries := by
      simp only [now, device, run_append] at hpending ⊢
      exact waits_run (hcustody.run hstreams before)
        ((evolves_run hstreams before).streams hstreams) later hentry hpending
    refine ⟨hwaits, fun htracked => has_of_mem_entries hnow ?_ hwaits⟩
    exact htracked.imp fun hlinear => ⟨trivial, hlinear⟩
  · intro slot hentry
    refine ⟨⟨hnow.secures hstreams', hnow.holdsBack ⟨trivial, hdeferred⟩ hstreams' hentry⟩, ?_⟩
    exact fun hlinear => hnow.secures_of_linear ⟨trivial, hlinear⟩ hentry
  · rintro before operation later rfl
    exact ⟨stepped (hcustody.run hstreams before) ((evolves_run hstreams before).streams hstreams)
      operation, fun hreaps _ => released_of_reaps hcustody hstreams hempty before hreaps⟩
  · have hretired := retired_eq hcustody hstreams operations
    rw [hempty] at hretired
    exact hretired
  · have hnodup := (nodup_retired hcustody hstreams operations).1
    rw [hempty] at hnodup
    exact hnodup
  · rintro ⟨fence, item⟩ hentry
    refine ⟨due_of_mem_released hcustody hstreams operations _ hentry, ?_⟩
    rintro id rfl
    exact gone_of_mem_released hcustody hstreams operations hentry

/-- With completion held back, a texture destroyed after its upload was submitted outlasts a later
submission with its view, and its slot is held back; the first submission that waits frees both. -/
theorem deferred_destruction_spares_pending_work_held :
    let config : Config := { streamSize := 64, pitchAlignment := 4, placementAlignment := 8 }
    let before : List Operation := [.setAutoComplete false,
      .create 0 { width := 2, height := 1, layers := 1, levels := 1, samples := 1,
                  format := .rgba8Unorm } { shaderResource := .rgba8Unorm },
      .load 0 ⟨0, 0, 2, 1⟩ ⟨#[1, 2, 3, 4, 5, 6, 7, 8]⟩ 8, .submit false, .destroyTexture 0 true,
      .submit false]
    let waiting : List Retired := [.resource ⟨2⟩, .descriptor ⟨.shaderResource, 0⟩]
    (∀ item ∈ waiting, ((opening config).run before).context.viewPool.Has item) ∧
    ((opening config).run (before.take 5)).HoldsBack 2 ⟨.shaderResource, 0⟩ ∧
    ((opening config).run (before ++ [.submit true])).context.device.isLive ⟨2⟩ = false ∧
      ∀ item, ((opening config).released (before ++ [.submit true])).count (2, item) =
        ((opening config).retired (before ++ [.submit true])).count (2, item) := by
  intro config before waiting
  have hopened : Opened config (opening config) :=
    opened_iff.mpr ⟨Config.validate_eq_ok_iff.mpr (by decide), by decide, rfl⟩
  have hdeferred : ∀ operation ∈ before ++ [.submit true], operation.isDeferred = true := by decide
  have hlinear : ∀ operation ∈ before, operation.isLinear = true := by decide
  obtain ⟨-, hwaits, -⟩ := deferred_destruction_spares_pending_work hopened before
    fun operation hoperation => hdeferred operation (List.mem_append_left _ hoperation)
  obtain ⟨-, -, -, hsteps, -, -, hfreed⟩ :=
    deferred_destruction_spares_pending_work hopened (before ++ [.submit true]) hdeferred
  have hpending : ((opening config).run before).context.device.completedFence < 2 := by
    decide +kernel
  have hsplit : before = before.take 5 ++ before.drop 5 := (List.take_append_drop 5 before).symm
  obtain ⟨-, hcounts⟩ := hsteps before (.submit true) [] rfl
  obtain ⟨-, -, hslots, -⟩ := deferred_destruction_spares_pending_work hopened (before.take 5)
    fun operation hoperation => hdeferred operation
      (List.mem_append_left _ (List.mem_of_mem_take hoperation))
  refine ⟨fun item hitem => ?_, ?_, ?_, fun item => ?_⟩
  · have hqueued : ∀ item ∈ waiting,
        (2, item) ∈ ((opening config).run (before.take 5)).context.retirement.entries := by
      decide +kernel
    obtain ⟨-, hhas⟩ := hwaits _ _ hsplit 2 item (hqueued item hitem) hpending
    exact (hhas (item.isTracked hlinear)).1
  · obtain ⟨hheld, hsecures⟩ := hslots ⟨.shaderResource, 0⟩ (by decide +kernel)
    have hcurrent : ((opening config).run (before.take 5)).context.device.currentFence = 2 := by
      decide +kernel
    exact hcurrent ▸ hheld.mpr (hsecures fun operation hoperation =>
      hlinear operation (List.mem_of_mem_take hoperation))
  · obtain ⟨-, hgone⟩ := hfreed (2, .resource ⟨2⟩) (by decide +kernel)
    exact hgone ⟨2⟩ rfl
  · have hcompleted :
        2 ≤ ((opening config).run (before ++ [.submit true])).context.device.completedFence := by
      decide +kernel
    exact hcounts (.inr (.inl ⟨true, rfl⟩)) (2, item) hcompleted

/-- A slot is not held back if a handle of another heap was given up for it before: the heap has one
slot, which the texture holds when it is retired with fence 2. The handle was retired with fence 1,
so the slot is free and shows nothing once fence 1 has completed, and the next texture gets it. -/
theorem slot_handed_out_while_waited_for :
    let config : Config :=
      { streamSize := 64, pitchAlignment := 4, placementAlignment := 8, shaderResourceSlots := 1 }
    let desc : TextureDesc :=
      { width := 2, height := 1, layers := 1, levels := 1, samples := 1, format := .rgba8Unorm }
    let formats : ViewFormats := { shaderResource := .rgba8Unorm }
    let slot : Slot := ⟨.shaderResource, 0⟩
    let operations : List Operation := [.setAutoComplete false, .create 0 desc formats,
      .destroyDescriptor slot true, .submit false, .destroyTexture 0 true, .waitIdle, .reap,
      .create 1 desc formats]
    let retired := (opening config).run (operations.take 5)
    let reaped := (opening config).run (operations.take 7)
    let created := (opening config).run operations
    Opened config (opening config) ∧
    (∀ operation ∈ operations, operation.isDeferred = true) ∧
    retired.context.device.currentFence = 2 ∧
    (2, .descriptor slot) ∈ retired.context.retirement.entries ∧
    retired.context.heaps.isTaken slot = true ∧
    reaped.context.device.completedFence = 1 ∧ reaped.context.device.views.get? slot = none ∧
    created.context.device.completedFence = 1 ∧
    (2, .descriptor slot) ∈ created.context.retirement.entries ∧
    (created.texture 1).views.shaderResource = some slot := by
  intro config desc formats slot operations retired reaped created
  have hopened : Opened config (opening config) :=
    opened_iff.mpr ⟨Config.validate_eq_ok_iff.mpr (by decide), by decide, rfl⟩
  refine ⟨hopened, by decide, ?_⟩
  decide +kernel

end Session

end Texel
