import Texel.Descriptor.Heap
import Mathlib.Data.List.Nodup

namespace Texel

namespace Heap

/-- The free stack holds exactly the slots that are not handed out, each of them once. -/
structure Sound (heap : Heap) (kind : ViewKind) : Prop where
  kind_eq : heap.kind = kind
  nodup : heap.free.Nodup
  mem_free_iff : ∀ index, index ∈ heap.free ↔ index < heap.capacity ∧ heap.isTaken index = false

/-- A slot is handed out if its mark says so; what has no mark is not. -/
theorem isTaken_eq (heap : Heap) (index : Nat) :
    heap.isTaken index = (heap.taken[index]?).getD false :=
  Array.getD_eq_getD_getElem?

/-- Only slots of the heap can be handed out. -/
theorem lt_capacity_of_isTaken {heap : Heap} {index : Nat} (h : heap.isTaken index = true) :
    index < heap.capacity := by
  by_contra hge
  rw [isTaken_eq, Array.getElem?_eq_none (Nat.le_of_not_lt hge)] at h
  cases h

/-- A fresh heap is sound. -/
theorem sound_ofCapacity (kind : ViewKind) (capacity : Nat) :
    (ofCapacity kind capacity).Sound kind where
  kind_eq := rfl
  nodup := List.nodup_range
  mem_free_iff index := by
    simp only [ofCapacity, Heap.capacity, isTaken_eq, List.mem_range, Array.size_replicate,
      Array.getElem?_replicate]
    constructor
    · intro hlt
      rw [if_pos hlt]
      exact ⟨hlt, rfl⟩
    · exact fun h => h.1

/-- A fresh heap has handed out nothing. -/
theorem isTaken_ofCapacity (kind : ViewKind) (capacity index : Nat) :
    (ofCapacity kind capacity).isTaken index = false := by
  simp only [ofCapacity, isTaken_eq, Array.getElem?_replicate]
  split <;> rfl

/-- Marking a slot changes the mark of that slot only. -/
theorem isTaken_setIfInBounds (heap : Heap) (free : List Nat) {index : Nat} (other : Nat)
    (mark : Bool) (h : index < heap.capacity) :
    ({ heap with free, taken := heap.taken.setIfInBounds index mark } : Heap).isTaken other =
      if other = index then mark else heap.isTaken other := by
  simp only [isTaken_eq, Array.getElem?_setIfInBounds]
  by_cases heq : index = other
  · subst heq
    have hlt : index < heap.taken.size := h
    simp [hlt]
  · rw [if_neg heq, if_neg (Ne.symm heq)]

/-- Handing out takes a free slot off the stack and marks it. -/
theorem allocate?_spec {heap rest : Heap} {kind : ViewKind} {slot : Slot} (h : heap.Sound kind)
    (hallocate : heap.allocate? = some (slot, rest)) :
    slot.kind = kind ∧ heap.isTaken slot.index = false ∧ rest.Sound kind ∧
      (∀ index, rest.isTaken index = if index = slot.index then true else heap.isTaken index) ∧
      rest.release slot = .ok heap := by
  obtain ⟨hkind, hnodup, hfree⟩ := h
  unfold allocate? at hallocate
  split at hallocate
  · cases hallocate
  · next index remaining hcons =>
    cases hallocate
    rw [hcons] at hnodup
    obtain ⟨hnotin, hremaining⟩ := List.nodup_cons.mp hnodup
    obtain ⟨hlt, hclear⟩ := (hfree index).mp (hcons ▸ List.mem_cons_self)
    have hmarks (other : Nat) := isTaken_setIfInBounds heap remaining other true hlt
    refine ⟨hkind, hclear, ⟨hkind, hremaining, fun other => ?_⟩, hmarks, ?_⟩
    · have hother := hfree other
      rw [hcons, List.mem_cons] at hother
      change other ∈ remaining ↔ other < (heap.taken.setIfInBounds index true).size ∧ _
      rw [hmarks, Array.size_setIfInBounds]
      change other ∈ remaining ↔ other < heap.capacity ∧ _
      by_cases heq : other = index
      · subst heq
        simp [hnotin]
      · rw [if_neg heq, ← hother]
        simp [heq]
    · have htaken := hmarks index
      rw [if_pos rfl] at htaken
      unfold release
      rw [if_pos ⟨rfl, htaken⟩]
      have hrestored : (heap.taken.setIfInBounds index true).setIfInBounds index false =
          heap.taken := by
        rw [Array.setIfInBounds_setIfInBounds]
        refine Array.ext (by simp) fun position hposition hsize => ?_
        rw [Array.getElem_setIfInBounds]
        split
        · next heq =>
          subst heq
          rw [isTaken_eq, Array.getElem?_eq_getElem hsize] at hclear
          exact hclear.symm
        · rfl
      simp only [hrestored, ← hcons]

/-- Taking back a slot that was handed out makes it free again. -/
theorem release_spec {heap : Heap} {kind : ViewKind} {slot : Slot} (h : heap.Sound kind)
    (hkind : slot.kind = kind) (htaken : heap.isTaken slot.index = true) :
    ∃ rest, heap.release slot = .ok rest ∧ rest.Sound kind ∧
      ∀ index, rest.isTaken index = if index = slot.index then false else heap.isTaken index := by
  obtain ⟨hheap, hnodup, hfree⟩ := h
  have hlt := lt_capacity_of_isTaken htaken
  have hnotin : slot.index ∉ heap.free := by
    intro hmem
    rw [((hfree slot.index).mp hmem).2] at htaken
    cases htaken
  have hmarks (other : Nat) :=
    isTaken_setIfInBounds heap (slot.index :: heap.free) other false hlt
  refine ⟨_, if_pos ⟨hkind.trans hheap.symm, htaken⟩, ⟨hheap, ?_, fun other => ?_⟩, hmarks⟩
  · exact List.nodup_cons.mpr ⟨hnotin, hnodup⟩
  · change other ∈ slot.index :: heap.free ↔
      other < (heap.taken.setIfInBounds slot.index false).size ∧ _
    rw [hmarks, Array.size_setIfInBounds, List.mem_cons, hfree other]
    change _ ↔ other < heap.capacity ∧ _
    by_cases heq : other = slot.index
    · subst heq
      simp [hlt]
    · simp [heq]

end Heap

namespace Heaps

/-- The slot is handed out by the heap of its kind. -/
def isTaken (heaps : Heaps) (slot : Slot) : Bool := (heaps.heap slot.kind).isTaken slot.index

/-- Each heap is sound and hands out slots of its own kind. -/
def Sound (heaps : Heaps) : Prop := ∀ kind, (heaps.heap kind).Sound kind

/-- Fresh heaps are sound. -/
theorem sound_ofCapacities (shaderResource renderTarget depthStencil : Nat) :
    (ofCapacities shaderResource renderTarget depthStencil).Sound := by
  intro kind
  cases kind <;> exact Heap.sound_ofCapacity _ _

/-- Fresh heaps have handed out nothing. -/
theorem isTaken_ofCapacities (shaderResource renderTarget depthStencil : Nat) (slot : Slot) :
    (ofCapacities shaderResource renderTarget depthStencil).isTaken slot = false := by
  unfold isTaken
  cases slot.kind <;> exact Heap.isTaken_ofCapacity _ _ _

/-- Heaps stay sound if a sound one of the right kind is put in. -/
theorem sound_setHeap {heaps : Heaps} {kind : ViewKind} {heap : Heap} (h : heaps.Sound)
    (hheap : heap.Sound kind) : (heaps.setHeap kind heap).Sound := by
  intro other
  rw [heap_setHeap]
  split
  · next heq =>
    rw [heq]
    exact hheap
  · exact h other

/-- A heap in which one mark has changed changes that mark among all heaps. -/
theorem isTaken_setHeap {heaps : Heaps} {slot : Slot} {heap : Heap} {mark : Bool}
    (hmarks : ∀ index, heap.isTaken index =
      if index = slot.index then mark else (heaps.heap slot.kind).isTaken index) (other : Slot) :
    (heaps.setHeap slot.kind heap).isTaken other =
      if other = slot then mark else heaps.isTaken other := by
  unfold isTaken
  rw [heap_setHeap]
  by_cases hkind : other.kind = slot.kind
  · rw [if_pos hkind, hmarks]
    by_cases hindex : other.index = slot.index
    · have heq : other = slot := by
        cases other
        cases slot
        simp only at hkind hindex
        rw [hkind, hindex]
      rw [if_pos hindex, if_pos heq]
    · rw [if_neg hindex, if_neg fun heq => hindex (congrArg Slot.index heq), hkind]
  · rw [if_neg hkind, if_neg fun heq => hkind (congrArg Slot.kind heq)]

end Heaps

end Texel
