import Texel.Proofs.Descriptor.Views
import Texel.Proofs.Table
import Texel.Retirement

namespace Texel

/-- The item is a resource. -/
def Retired.isResource : Retired → Bool
  | .resource _ => true
  | .descriptor _ => false

/-- The index of the item, if it is a slot of the kind. -/
def Retired.indexIn? (kind : ViewKind) : Retired → Option Nat
  | .resource _ => none
  | .descriptor slot => if slot.kind = kind then some slot.index else none

/-- An item has an index in the heap of one kind if it is a slot of that kind. -/
theorem Retired.indexIn?_eq_some {kind : ViewKind} {item : Retired} {index : Nat} :
    item.indexIn? kind = some index ↔ item = .descriptor ⟨kind, index⟩ := by
  cases item with
  | resource id => simp [indexIn?]
  | descriptor slot =>
    obtain ⟨found, position⟩ := slot
    simp only [indexIn?, Retired.descriptor.injEq, Slot.mk.injEq]
    by_cases hkind : found = kind <;> simp [hkind]

/-- The item is one that a ledger has right in any case: a resource, or a slot if slots have never
been given up by anyone but their owners. -/
def Retired.IsTracked (linear : Prop) : Retired → Prop
  | .resource _ => True
  | .descriptor _ => linear

/-- If handles are linear, every item is tracked. -/
theorem Retired.isTracked {linear : Prop} (hlinear : linear) (item : Retired) :
    item.IsTracked linear := by
  cases item with
  | resource id => exact trivial
  | descriptor slot => exact hlinear

/-- What is tracked under one condition is tracked under a weaker one. -/
theorem Retired.IsTracked.imp {linear linear' : Prop} {item : Retired} (h : item.IsTracked linear)
    (himp : linear → linear') : item.IsTracked linear' := by
  cases item with
  | resource id => exact trivial
  | descriptor slot => exact himp h

namespace ViewPool

/-- What the device keeps alive is what the list names, each resource once, and an identifier
belongs to one resource for good. A slot that is handed out has a view, and no other slot has one.
As long as slots are `linear`, which means that only their owners give them up, the list also names
each slot that is handed out once. -/
structure Ledger (linear : Prop) (pool : ViewPool SimulatedDevice) (owned : List Retired) :
    Prop where
  unique : ∀ item, item.IsTracked linear → owned.count item ≤ 1
  live : ∀ id, pool.device.isLive id = true ↔ .resource id ∈ owned
  taken : linear → ∀ slot, pool.heaps.isTaken slot = true ↔ .descriptor slot ∈ owned
  shown : ∀ slot, (pool.device.views.get? slot).isSome = pool.heaps.isTaken slot
  heaps : pool.heaps.Sound
  fresh : ∀ id, .resource id ∈ owned → id.raw < pool.device.nextId
  conserved : pool.device.destroyedCount + owned.countP Retired.isResource + 1 = pool.device.nextId

/-- The item is there: a live resource, or a slot that is handed out with a view at it. -/
def Has (pool : ViewPool SimulatedDevice) : Retired → Prop
  | .resource id => pool.device.isLive id = true
  | .descriptor slot =>
    pool.heaps.isTaken slot = true ∧ (pool.device.views.get? slot).isSome = true

/-- The item is gone: a resource that is not live, or a free slot without a view. -/
def Lacks (pool : ViewPool SimulatedDevice) : Retired → Prop
  | .resource id => pool.device.isLive id = false
  | .descriptor slot => pool.heaps.isTaken slot = false ∧ pool.device.views.get? slot = none

variable {linear : Prop} {pool next : ViewPool SimulatedDevice} {owned other : List Retired}
  {item : Retired}

namespace Ledger

/-- The order in which items are listed does not matter. -/
theorem perm (h : pool.Ledger linear owned) (hperm : owned.Perm other) :
    pool.Ledger linear other where
  unique item htracked := hperm.count_eq item ▸ h.unique item htracked
  live id := (h.live id).trans hperm.mem_iff
  taken hlinear slot := (h.taken hlinear slot).trans hperm.mem_iff
  shown := h.shown
  heaps := h.heaps
  fresh id hmem := h.fresh id (hperm.mem_iff.mpr hmem)
  conserved := hperm.countP_eq _ ▸ h.conserved

/-- The parts of a pool that the ledger is about are the same. -/
theorem congr (h : pool.Ledger linear owned)
    (hresources : next.device.resources = pool.device.resources)
    (hviews : next.device.views = pool.device.views) (hheaps : next.heaps = pool.heaps)
    (hnextId : next.device.nextId = pool.device.nextId)
    (hdestroyed : next.device.destroyedCount = pool.device.destroyedCount) :
    next.Ledger linear owned where
  unique := h.unique
  live id := by
    unfold SimulatedDevice.isLive
    rw [hresources]
    exact h.live id
  taken hlinear slot := hheaps ▸ h.taken hlinear slot
  shown slot := hviews ▸ hheaps ▸ h.shown slot
  heaps := hheaps ▸ h.heaps
  fresh id hmem := hnextId ▸ h.fresh id hmem
  conserved := by rw [hdestroyed, hnextId, h.conserved]

/-- A ledger says less if slots need not be linear. -/
theorem weaken {linear' : Prop} (h : pool.Ledger linear owned) (hlinear : linear' → linear) :
    pool.Ledger linear' owned where
  unique item htracked := h.unique item (htracked.imp hlinear)
  live := h.live
  taken hholds := h.taken (hlinear hholds)
  shown := h.shown
  heaps := h.heaps
  fresh := h.fresh
  conserved := h.conserved

/-- Nothing is owned twice. -/
theorem nodup (h : pool.Ledger linear owned) (hlinear : linear) : owned.Nodup :=
  List.nodup_iff_count_le_one.mpr fun item => h.unique item (item.isTracked hlinear)

/-- What is owned by one owner is not owned by another. -/
theorem apart {first second : List Retired} (h : pool.Ledger linear (first ++ second))
    (htracked : item.IsTracked linear) (hfirst : item ∈ first) : item ∉ second := by
  intro hsecond
  have honce := h.unique item htracked
  have hone := List.count_pos_iff.mpr hfirst
  have htwo := List.count_pos_iff.mpr hsecond
  rw [List.count_append] at honce
  omega

/-- A tracked item has one owner. -/
theorem notin_of_cons (h : pool.Ledger linear (item :: owned)) (htracked : item.IsTracked linear) :
    item ∉ owned :=
  @apart _ _ item [item] owned h htracked List.mem_cons_self

/-- A tracked item that is owned is there. -/
theorem has (h : pool.Ledger linear owned) (htracked : item.IsTracked linear)
    (hitem : item ∈ owned) : pool.Has item := by
  cases item with
  | resource id => exact (h.live id).mpr hitem
  | descriptor slot =>
    have htaken := (h.taken htracked slot).mpr hitem
    exact ⟨htaken, (h.shown slot).trans htaken⟩

/-- The slots with views are those that are owned. -/
theorem viewed_iff (h : pool.Ledger linear owned) (hlinear : linear) (slot : Slot) :
    (pool.device.views.get? slot).isSome = true ↔ .descriptor slot ∈ owned := by
  rw [h.shown slot]
  exact h.taken hlinear slot

/-- A free slot has no view. -/
theorem lacks_slot (h : pool.Ledger linear owned) {slot : Slot}
    (hclear : pool.heaps.isTaken slot = false) : pool.Lacks (.descriptor slot) :=
  ⟨hclear, Option.not_isSome_iff_eq_none.mp (Bool.eq_false_iff.mp ((h.shown slot).trans hclear))⟩

/-- A tracked item that nobody owns is not there. -/
theorem lacks (h : pool.Ledger linear owned) (htracked : item.IsTracked linear)
    (hitem : item ∉ owned) : pool.Lacks item := by
  cases item with
  | resource id => exact Bool.eq_false_iff.mpr fun hlive => hitem ((h.live id).mp hlive)
  | descriptor slot =>
    exact h.lacks_slot (Bool.eq_false_iff.mpr fun htaken =>
      hitem ((h.taken htracked slot).mp htaken))

/-- A device with nothing on the ledger is empty. -/
theorem empty (h : pool.Ledger linear []) (hlinear : linear) :
    pool.device.resources = {} ∧ pool.device.views = {} := by
  constructor
  · refine Table.eq_empty_of_get?_eq_none fun id => ?_
    have hdead : pool.Lacks (.resource id) := h.lacks trivial List.not_mem_nil
    simpa [Lacks, SimulatedDevice.isLive, Table.contains] using hdead
  · refine Table.eq_empty_of_get?_eq_none fun slot => ?_
    have hclear : pool.Lacks (.descriptor slot) := h.lacks hlinear List.not_mem_nil
    exact hclear.2

/-- A heap has handed out as many slots as are owned of its kind. -/
theorem allocatedCount (h : pool.Ledger linear owned) (hlinear : linear) (kind : ViewKind) :
    (pool.heaps.heap kind).allocatedCount =
      (owned.filterMap (Retired.indexIn? kind)).length := by
  let heap := pool.heaps.heap kind
  let indices := owned.filterMap (Retired.indexIn? kind)
  have hsound : heap.Sound kind := h.heaps kind
  have hindices : indices.Nodup := by
    apply (h.nodup hlinear).filterMap
    intro first second index hfirst hsecond
    rw [Retired.indexIn?_eq_some.mp hfirst, Retired.indexIn?_eq_some.mp hsecond]
  have hmem (index : Nat) : index ∈ indices ↔ heap.isTaken index = true := by
    have htaken := h.taken hlinear ⟨kind, index⟩
    simp only [indices, List.mem_filterMap, Retired.indexIn?_eq_some, exists_eq_right]
    exact htaken.symm
  -- free slots and owned slots make up the heap
  have hperm : (heap.free ++ indices).Perm (List.range heap.capacity) := by
    refine (List.perm_ext_iff_of_nodup (List.nodup_append.mpr ⟨hsound.nodup, hindices, ?_⟩)
      List.nodup_range).mpr fun index => ?_
    · rintro index hfree _ hindex rfl
      have hclear := ((hsound.mem_free_iff index).mp hfree).2
      rw [(hmem index).mp hindex] at hclear
      cases hclear
    · rw [List.mem_append, List.mem_range, hsound.mem_free_iff, hmem]
      cases htaken : heap.isTaken index with
      | true => simp [Heap.lt_capacity_of_isTaken htaken]
      | false => simp
  have hlength := hperm.length_eq
  rw [List.length_append, List.length_range] at hlength
  change heap.capacity - heap.free.length = indices.length
  omega

/-- A new resource has an identifier that no owned item has. -/
theorem fresh_notin (h : pool.Ledger linear owned) : .resource ⟨pool.device.nextId⟩ ∉ owned :=
  fun hmem => Nat.lt_irrefl _ (h.fresh _ hmem)

/-- The next resource is not there yet. -/
theorem lacks_fresh (h : pool.Ledger linear owned) :
    pool.device.isLive ⟨pool.device.nextId⟩ = false :=
  Bool.eq_false_iff.mpr fun hlive => h.fresh_notin ((h.live _).mp hlive)

/-- An item that nobody owned has one owner. -/
theorem unique_cons (h : pool.Ledger linear owned) (hitem : item.IsTracked linear → item ∉ owned)
    (other : Retired) (htracked : other.IsTracked linear) : (item :: owned).count other ≤ 1 := by
  by_cases heq : other = item
  · subst heq
    have hnone := List.count_eq_zero_of_not_mem (hitem htracked)
    simp [hnone]
  · rw [List.count_cons_of_ne (Ne.symm heq)]
    exact h.unique other htracked

/-- What is left when an item is freed has one owner still. -/
theorem unique_of_cons (h : pool.Ledger linear (item :: owned)) (other : Retired)
    (htracked : other.IsTracked linear) : owned.count other ≤ 1 :=
  Nat.le_trans List.count_le_count_cons (h.unique other htracked)

end Ledger

/-- A new resource belongs to whoever has asked for it. -/
theorem ledger_registered (h : pool.Ledger linear owned) (resource : Simulated.Resource) :
    ({ pool with device := pool.device.registered resource } : ViewPool SimulatedDevice).Ledger
      linear (.resource ⟨pool.device.nextId⟩ :: owned) where
  unique := h.unique_cons fun _ => h.fresh_notin
  live id := by
    have hget := Table.get?_insert pool.device.resources ⟨pool.device.nextId⟩ id resource
    have hlive := h.live id
    simp only [SimulatedDevice.isLive, Table.contains, SimulatedDevice.registered, hget,
      List.mem_cons, Retired.resource.injEq] at hlive ⊢
    by_cases heq : id = ⟨pool.device.nextId⟩ <;> simp [heq, hlive]
  taken hlinear slot := by simpa using h.taken hlinear slot
  shown := h.shown
  heaps := h.heaps
  fresh id hmem := by
    rcases List.mem_cons.mp hmem with heq | hold
    · rw [Retired.resource.inj heq]
      exact Nat.lt_succ_self _
    · exact Nat.lt_succ_of_lt (h.fresh id hold)
  conserved := by
    have := h.conserved
    simp only [List.countP_cons, Retired.isResource, SimulatedDevice.registered, if_true]
    omega

/-- A view at a slot that nobody holds adds the slot. -/
theorem ledger_viewed (h : pool.Ledger linear owned) {slot : Slot} {resource : ResourceId}
    {view : ViewDesc} (hclear : pool.heaps.isTaken slot = false)
    (hdevice : next.device = pool.device.viewed slot resource view) (hheaps : next.heaps.Sound)
    (hmarks : ∀ other, next.heaps.isTaken other =
      if other = slot then true else pool.heaps.isTaken other) :
    next.Ledger linear (.descriptor slot :: owned) where
  unique := by
    refine h.unique_cons fun hlinear hmem => ?_
    rw [(h.taken hlinear slot).mpr hmem] at hclear
    cases hclear
  live id := by
    rw [hdevice]
    simpa [SimulatedDevice.viewed, SimulatedDevice.isLive] using h.live id
  taken hlinear other := by
    have htaken := h.taken hlinear other
    rw [hmarks, List.mem_cons, Retired.descriptor.injEq]
    by_cases heq : other = slot <;> simp [heq, htaken]
  shown other := by
    have hshown := h.shown other
    rw [hdevice, hmarks]
    simp only [SimulatedDevice.viewed, Table.get?_insert]
    by_cases heq : other = slot <;> simp [heq, hshown]
  heaps := hheaps
  fresh id hmem := by
    rw [hdevice]
    exact h.fresh id (by simpa using hmem)
  conserved := by
    have := h.conserved
    rw [hdevice]
    simpa [SimulatedDevice.viewed, Retired.isResource] using this

/-- A slot that a caller brings along may be any. From then on slots are not linear any more. -/
theorem ledger_offered (h : pool.Ledger linear owned) (slot : Slot) :
    pool.Ledger False (.descriptor slot :: owned) where
  unique := (h.weaken False.elim).unique_cons False.elim
  live id := by simpa using h.live id
  taken := False.elim
  shown := h.shown
  heaps := h.heaps
  fresh id hmem := h.fresh id (by simpa using hmem)
  conserved := by simpa [Retired.isResource] using h.conserved

/-- Freeing an owned resource takes it off the ledger. -/
theorem ledger_destroyed {id : ResourceId} (h : pool.Ledger linear (.resource id :: owned)) :
    ({ pool with device := ((Device.destroyResource id).run pool.device).state } :
      ViewPool SimulatedDevice).Ledger linear owned := by
  have hnotin : .resource id ∉ owned := h.notin_of_cons trivial
  have hcontains : pool.device.resources.contains id = true := (h.live id).mpr List.mem_cons_self
  rw [SimulatedDevice.state_destroyResource, if_pos hcontains]
  refine ⟨h.unique_of_cons, fun other => ?_, fun hlinear slot => ?_, h.shown, h.heaps,
    fun other hmem => h.fresh other (List.mem_cons_of_mem _ hmem), ?_⟩
  · have hlive := h.live other
    simp only [SimulatedDevice.isLive, Table.contains, Table.get?_erase, List.mem_cons,
      Retired.resource.injEq] at hlive ⊢
    by_cases heq : other = id
    · subst heq
      simp [hnotin]
    · simpa [heq] using hlive
  · simpa using h.taken hlinear slot
  · have := h.conserved
    simp only [List.countP_cons, Retired.isResource, if_true] at this
    simp only
    omega

/-- Releasing a slot takes it off the ledger. -/
theorem ledger_released {slot : Slot} (h : pool.Ledger linear (.descriptor slot :: owned)) :
    ((release slot).run pool).state.Ledger linear owned := by
  obtain ⟨hdevice, hsound, hmarks⟩ := state_release h.heaps slot
  refine ⟨h.unique_of_cons, fun id => ?_, fun hlinear other => ?_, fun other => ?_, hsound,
    fun id hmem => ?_, ?_⟩
  · rw [hdevice]
    simpa [SimulatedDevice.isLive] using h.live id
  · have hnotin : .descriptor slot ∉ owned := h.notin_of_cons hlinear
    have htaken := h.taken hlinear other
    rw [List.mem_cons, Retired.descriptor.injEq] at htaken
    rw [hmarks]
    by_cases heq : other = slot
    · subst heq
      simp [hnotin]
    · simpa [heq] using htaken
  · have hshown := h.shown other
    rw [hdevice, hmarks]
    simp only [Table.get?_erase]
    by_cases heq : other = slot <;> simp [heq, hshown]
  · rw [hdevice]
    exact h.fresh id (List.mem_cons_of_mem _ hmem)
  · have := h.conserved
    rw [hdevice]
    simpa [Retired.isResource] using this

end ViewPool

end Texel
