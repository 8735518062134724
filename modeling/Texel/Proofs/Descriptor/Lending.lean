import Texel.Proofs.Descriptor.Heap

namespace Texel

attribute [ext] Slot

namespace Heap

/-- A request to a heap. A slot that is offered need not be one that the heap has handed out. -/
inductive Request where
  | allocate
  | takeBack (slot : Slot)
  deriving DecidableEq, Repr

/-- A heap together with the slots that it has handed out and not taken back. -/
structure Lending where
  heap : Heap
  loans : List Slot := []
  deriving DecidableEq, Repr

/-- Nothing is free exactly if every slot is handed out. -/
theorem Sound.free_eq_nil_iff {heap : Heap} {kind : ViewKind} (h : heap.Sound kind) :
    heap.free = [] ↔ ∀ index < heap.capacity, heap.isTaken index = true := by
  rw [List.eq_nil_iff_forall_not_mem]
  refine forall_congr' fun index => ?_
  rw [h.mem_free_iff, not_and, Bool.not_eq_false]

/-- A heap is exhausted when no slot is free. -/
theorem allocate?_eq_none_iff {heap : Heap} : heap.allocate? = none ↔ heap.free = [] := by
  unfold allocate?
  split
  · next hfree => simp [hfree]
  · next hfree => simp [hfree]

/-- What is handed out is the top of the free stack; the number of slots stays. -/
theorem allocate?_eq_some {heap rest : Heap} {slot : Slot}
    (h : heap.allocate? = some (slot, rest)) :
    heap.free = slot.index :: rest.free ∧ rest.capacity = heap.capacity := by
  unfold allocate? at h
  split at h
  · cases h
  · next hfree =>
    cases h
    exact ⟨hfree, Array.size_setIfInBounds⟩

/-- A slot is taken back exactly if it is of the kind of the heap and handed out. -/
theorem release_eq_ok_iff {heap : Heap} {slot : Slot} :
    (∃ rest, heap.release slot = .ok rest) ↔
      slot.kind = heap.kind ∧ heap.isTaken slot.index = true := by
  unfold release
  split
  · next hheld => exact ⟨fun _ => hheld, fun _ => ⟨_, rfl⟩⟩
  · next hheld =>
    refine ⟨?_, fun h => absurd h hheld⟩
    rintro ⟨rest, hrest⟩
    cases hrest

/-- What is taken back goes on top of the free stack; the number of slots stays. -/
theorem release_eq_ok {heap rest : Heap} {slot : Slot} (h : heap.release slot = .ok rest) :
    rest.free = slot.index :: heap.free ∧ rest.capacity = heap.capacity := by
  unfold release at h
  split at h
  · cases h
    exact ⟨rfl, Array.size_setIfInBounds⟩
  · cases h

/-- A slot that is not taken back is given back as it was. -/
theorem release_eq_error {heap : Heap} {slot returned : Slot}
    (h : heap.release slot = .error returned) : returned = slot := by
  unfold release at h
  split at h
  · cases h
  · cases h
    rfl

/-- An exhausted heap stays as it is. -/
theorem run_allocate_none {heap : Heap} (h : heap.allocate? = none) :
    allocate.run heap = ⟨none, heap, []⟩ := by
  simp [allocate, h]

/-- What an allocation answers and leaves. -/
theorem run_allocate_some {heap rest : Heap} {slot : Slot}
    (h : heap.allocate? = some (slot, rest)) : allocate.run heap = ⟨some slot, rest, []⟩ := by
  simp [allocate, h]

/-- What is left when a slot is taken back. -/
theorem run_takeBack_ok {heap rest : Heap} {slot : Slot} (h : heap.release slot = .ok rest) :
    (takeBack slot).run heap = ⟨true, rest, []⟩ := by
  simp [takeBack, h]

/-- A heap that does not take a slot back stays as it is. -/
theorem run_takeBack_error {heap : Heap} {slot returned : Slot}
    (h : heap.release slot = .error returned) :
    ((takeBack slot).run heap).value = false ∧ ((takeBack slot).run heap).state = heap := by
  simp [takeBack, h]

/-- An allocation answers nothing exactly if the heap is exhausted. -/
theorem value_allocate_eq_none_iff {heap : Heap} :
    (allocate.run heap).value = none ↔ heap.allocate? = none := by
  cases hallocate : heap.allocate? with
  | none => simp [run_allocate_none hallocate]
  | some granted => simp [run_allocate_some hallocate]

/-- What an allocation has answered tells what it has left. -/
theorem allocate?_of_value {heap : Heap} {slot : Slot}
    (h : (allocate.run heap).value = some slot) :
    heap.allocate? = some (slot, (allocate.run heap).state) := by
  cases hallocate : heap.allocate? with
  | none =>
    rw [run_allocate_none hallocate] at h
    cases h
  | some granted =>
    rw [run_allocate_some hallocate] at h ⊢
    cases h
    rfl

/-- A slot is taken back if it is of the right kind and handed out. -/
theorem value_takeBack_iff {heap : Heap} {slot : Slot} :
    ((takeBack slot).run heap).value = true ↔
      slot.kind = heap.kind ∧ heap.isTaken slot.index = true := by
  rw [← release_eq_ok_iff]
  cases hrelease : heap.release slot with
  | ok rest => simp [run_takeBack_ok hrelease]
  | error returned => simp [(run_takeBack_error hrelease).1]

/-- A slot that is not taken back goes back to the caller. -/
theorem turned_down_of_value {heap : Heap} {slot : Slot}
    (h : ((takeBack slot).run heap).value = false) :
    heap.release slot = .error slot ∧ ((takeBack slot).run heap).state = heap := by
  cases hrelease : heap.release slot with
  | ok rest =>
    rw [run_takeBack_ok hrelease] at h
    cases h
  | error returned =>
    rw [release_eq_error hrelease]
    exact ⟨rfl, (run_takeBack_error hrelease).2⟩

namespace Lending

/-- A fresh heap, with nothing on loan. -/
def ofCapacity (kind : ViewKind) (capacity : Nat) : Lending := ⟨Heap.ofCapacity kind capacity, []⟩

/-- Handing out makes a loan, and taking back ends one. A request that is turned down changes
nothing. -/
def request (lending : Lending) : Request → Lending
  | .allocate =>
    let outcome := allocate.run lending.heap
    ⟨outcome.state, outcome.value.toList ++ lending.loans⟩
  | .takeBack slot =>
    let outcome := (takeBack slot).run lending.heap
    ⟨outcome.state, if outcome.value then lending.loans.erase slot else lending.loans⟩

/-- The heap and its loans after a sequence of requests. -/
def run (lending : Lending) (requests : List Request) : Lending :=
  requests.foldl request lending

/-- The loans of a heap of this kind and capacity are what its marks say, and all other slots are
free. -/
structure Exact (kind : ViewKind) (capacity : Nat) (lending : Lending) : Prop where
  sound : lending.heap.Sound kind
  capacity_eq : lending.heap.capacity = capacity
  nodup : lending.loans.Nodup
  mem_loans_iff : ∀ slot, slot ∈ lending.loans ↔
    slot.kind = kind ∧ lending.heap.isTaken slot.index = true
  count : lending.loans.length + lending.heap.freeCount = capacity

variable {kind : ViewKind} {capacity : Nat} {lending : Lending}

/-- What is not marked is not on loan. -/
theorem Exact.notin_loans (h : lending.Exact kind capacity) {slot : Slot}
    (hclear : lending.heap.isTaken slot.index = false) : slot ∉ lending.loans := by
  intro hloan
  rw [((h.mem_loans_iff slot).mp hloan).2] at hclear
  cases hclear

/-- What is handed out is a new loan. -/
theorem Exact.grants_new (h : lending.Exact kind capacity) {slot : Slot}
    (hslot : (allocate.run lending.heap).value = some slot) :
    slot.kind = kind ∧ slot.index < capacity ∧ slot ∉ lending.loans ∧
      lending.heap.isTaken slot.index = false ∧
      (allocate.run lending.heap).state.isTaken slot.index = true := by
  have hallocate := allocate?_of_value hslot
  obtain ⟨hkind, hclear, -, hmarks, -⟩ := allocate?_spec h.sound hallocate
  have hfree : slot.index ∈ lending.heap.free := by
    rw [(allocate?_eq_some hallocate).1]
    exact List.mem_cons_self
  refine ⟨hkind, ?_, h.notin_loans hclear, hclear, ?_⟩
  · exact h.capacity_eq ▸ ((h.sound.mem_free_iff _).mp hfree).1
  · rw [hmarks, if_pos rfl]

/-- As many slots are marked as are on loan. -/
theorem Exact.allocatedCount_eq (h : lending.Exact kind capacity) :
    lending.heap.allocatedCount = lending.loans.length := by
  rw [allocatedCount, h.capacity_eq, ← h.count, Nat.add_sub_cancel]

/-- A fresh heap has no loans. -/
theorem exact_ofCapacity (kind : ViewKind) (capacity : Nat) :
    (ofCapacity kind capacity).Exact kind capacity where
  sound := sound_ofCapacity kind capacity
  capacity_eq := Array.size_replicate
  nodup := List.nodup_nil
  mem_loans_iff slot := by simp [ofCapacity, isTaken_ofCapacity]
  count := by simp [ofCapacity, Heap.ofCapacity, freeCount]

/-- A new loan is marked and no longer free. -/
theorem exact_allocate (h : lending.Exact kind capacity) :
    (lending.request .allocate).Exact kind capacity := by
  cases hallocate : lending.heap.allocate? with
  | none =>
    simp only [request, run_allocate_none hallocate]
    exact h
  | some granted =>
    obtain ⟨slot, rest⟩ := granted
    simp only [request, run_allocate_some hallocate]
    obtain ⟨hkind, hclear, hsound, hmarks, -⟩ := allocate?_spec h.sound hallocate
    obtain ⟨hfree, hcapacity⟩ := allocate?_eq_some hallocate
    refine ⟨hsound, hcapacity.trans h.capacity_eq, ?_, fun other => ?_, ?_⟩
    · exact List.nodup_cons.mpr ⟨h.notin_loans hclear, h.nodup⟩
    · change other ∈ slot :: lending.loans ↔ _
      rw [List.mem_cons, h.mem_loans_iff, hmarks]
      by_cases hindex : other.index = slot.index
      · rw [if_pos hindex, hindex, hclear]
        refine ⟨?_, fun hother => .inl (Slot.ext (hother.1.trans hkind.symm) hindex)⟩
        rintro (rfl | ⟨-, hfalse⟩)
        · exact ⟨hkind, rfl⟩
        · cases hfalse
      · rw [if_neg hindex]
        refine ⟨?_, .inr⟩
        rintro (rfl | hother)
        · exact absurd rfl hindex
        · exact hother
    · have hcount := h.count
      simp only [freeCount, hfree, List.length_cons] at hcount
      simp only [freeCount, Option.toList_some, List.singleton_append, List.length_cons]
      omega

/-- A loan that is taken back is free again, and any other slot changes nothing. -/
theorem exact_takeBack (slot : Slot) (h : lending.Exact kind capacity) :
    (lending.request (.takeBack slot)).Exact kind capacity := by
  cases hrelease : lending.heap.release slot with
  | error returned =>
    obtain ⟨hvalue, hstate⟩ := run_takeBack_error hrelease
    simp only [request, hvalue, hstate]
    exact h
  | ok rest =>
    simp only [request, run_takeBack_ok hrelease, if_true]
    obtain ⟨hkind, htaken⟩ := release_eq_ok_iff.mp ⟨rest, hrelease⟩
    rw [h.sound.kind_eq] at hkind
    obtain ⟨same, hsame, hsound, hmarks⟩ := release_spec h.sound hkind htaken
    obtain rfl : same = rest := Except.ok.inj (hsame.symm.trans hrelease)
    obtain ⟨hfree, hcapacity⟩ := release_eq_ok hrelease
    have hloan : slot ∈ lending.loans := (h.mem_loans_iff slot).mpr ⟨hkind, htaken⟩
    refine ⟨hsound, hcapacity.trans h.capacity_eq, h.nodup.erase slot, fun other => ?_, ?_⟩
    · change other ∈ lending.loans.erase slot ↔ _
      rw [h.nodup.mem_erase_iff, h.mem_loans_iff, hmarks]
      by_cases hindex : other.index = slot.index
      · rw [if_pos hindex]
        constructor
        · rintro ⟨hne, hother, -⟩
          exact absurd (Slot.ext (hother.trans hkind.symm) hindex) hne
        · rintro ⟨-, hfalse⟩
          exact absurd hfalse Bool.false_ne_true
      · rw [if_neg hindex]
        refine and_iff_right_of_imp fun _ heq => hindex (congrArg Slot.index heq)
    · have hcount := h.count
      have hlength := List.length_erase_of_mem hloan
      have hpos := List.length_pos_of_mem hloan
      simp only [freeCount] at hcount
      simp only [freeCount, hfree, List.length_cons, hlength]
      omega

/-- Every request keeps free stack, marks and loans in step. -/
theorem exact_request (request : Request) (h : lending.Exact kind capacity) :
    (lending.request request).Exact kind capacity := by
  cases request with
  | allocate => exact exact_allocate h
  | takeBack slot => exact exact_takeBack slot h

/-- Along every run the loans stay what the marks say. -/
theorem exact_run (requests : List Request) (h : lending.Exact kind capacity) :
    (lending.run requests).Exact kind capacity := by
  induction requests generalizing lending with
  | nil => exact h
  | cons request rest ih => exact ih (exact_request request h)

end Lending

/-- After any requests to a heap, also with slots that were never handed out, were handed out by
another heap or were taken back before: the free stack holds each slot that is not marked once and
no other, and free slots and loans make up the capacity. Handing out gives a slot that is not on
loan and fails only when every slot is. A slot is taken back exactly if it is on loan; any other
slot is given back to the caller and the heap stays as it was. -/
theorem slots_are_accounted_for (kind : ViewKind) (capacity : Nat) (requests : List Request) :
    let now := (Lending.ofCapacity kind capacity).run requests
    (now.heap.free.Nodup ∧ ∀ index,
      index ∈ now.heap.free ↔ index < capacity ∧ now.heap.isTaken index = false) ∧
    (now.heap.capacity = capacity ∧ now.heap.allocatedCount = now.loans.length ∧
      now.heap.allocatedCount + now.heap.freeCount = capacity) ∧
    (now.loans.Nodup ∧ ∀ slot, slot ∈ now.loans ↔
      slot.kind = kind ∧ slot.index < capacity ∧ now.heap.isTaken slot.index = true) ∧
    (∀ slot, (allocate.run now.heap).value = some slot →
      slot.kind = kind ∧ slot.index < capacity ∧ slot ∉ now.loans ∧
        now.heap.isTaken slot.index = false ∧
        (allocate.run now.heap).state.isTaken slot.index = true) ∧
    ((allocate.run now.heap).value = none ↔
      ∀ index < capacity, now.heap.isTaken index = true) ∧
    (∀ slot, ((takeBack slot).run now.heap).value = true ↔
      slot.kind = kind ∧ now.heap.isTaken slot.index = true) ∧
    (∀ slot, ((takeBack slot).run now.heap).value = false →
      now.heap.release slot = .error slot ∧ ((takeBack slot).run now.heap).state = now.heap) := by
  intro now
  have h : now.Exact kind capacity := Lending.exact_run requests (Lending.exact_ofCapacity ..)
  have hlt {index : Nat} (htaken : now.heap.isTaken index = true) : index < capacity :=
    h.capacity_eq ▸ lt_capacity_of_isTaken htaken
  refine ⟨⟨h.sound.nodup, fun index => ?_⟩, ⟨h.capacity_eq, h.allocatedCount_eq, ?_⟩,
    ⟨h.nodup, fun slot => ?_⟩, fun slot => h.grants_new, ?_, fun slot => ?_,
    fun slot => turned_down_of_value⟩
  · rw [h.sound.mem_free_iff, h.capacity_eq]
  · rw [h.allocatedCount_eq, h.count]
  · rw [h.mem_loans_iff]
    exact and_congr_right fun _ => (and_iff_right_of_imp hlt).symm
  · rw [value_allocate_eq_none_iff, allocate?_eq_none_iff, h.sound.free_eq_nil_iff,
      h.capacity_eq]
  · rw [value_takeBack_iff, h.sound.kind_eq]

-- A slot that is offered twice enters the free stack once.
example : ((Lending.ofCapacity .renderTarget 3).run
    [.allocate, .takeBack ⟨.renderTarget, 0⟩, .takeBack ⟨.renderTarget, 0⟩]).heap.free =
      [0, 1, 2] := by decide

end Heap

end Texel
