import Texel.Proofs.Descriptor.Lending
import Mathlib.Logic.Function.Basic

namespace Texel

namespace Heap

/-- Heaps and the handles that someone holds, each with the heap that has handed it out. -/
structure Fleet (ι : Type) where
  heaps : ι → Heap
  held : List (ι × Slot) := []

namespace Fleet

variable {ι : Type}

/-- A request to one of the heaps. Whoever holds a handle may offer it to any heap. -/
inductive Request (ι : Type) where
  | allocate (heap : ι)
  | offer (handle : ι × Slot) (heap : ι)

/-- Fresh heaps of these kinds and capacities, with no handle held. -/
def ofCapacities (kind : ι → ViewKind) (capacity : ι → Nat) : Fleet ι where
  heaps heap := Heap.ofCapacity (kind heap) (capacity heap)

/-- Each heap gives back what another one has handed out, and stays as it was. -/
def GivesBackForeign (fleet : Fleet ι) : Prop :=
  ∀ owner slot heap, (owner, slot) ∈ fleet.held → heap ≠ owner →
    (fleet.heaps heap).release slot = .error slot ∧
      ((takeBack slot).run (fleet.heaps heap)).state = fleet.heaps heap

/-- No heap hands out a slot again while the handle it gave for it is held. -/
def HandsOutFresh (fleet : Fleet ι) : Prop :=
  ∀ heap slot, (allocate.run (fleet.heaps heap)).value = some slot → (heap, slot) ∉ fleet.held

/-- No two heaps with slots are of the same kind. -/
def Apart (kind : ι → ViewKind) (capacity : ι → Nat) : Prop :=
  ∀ first second, first ≠ second → kind first = kind second →
    capacity first = 0 ∨ capacity second = 0

/-- The heaps of one context cannot be confused. -/
theorem apart_kinds (capacity : ViewKind → Nat) : Apart id capacity :=
  fun _ _ hne hkind => absurd hkind hne

variable [DecidableEq ι]

/-- A handle is used up when a heap takes it back. A handle that nobody holds cannot be offered. -/
def request (fleet : Fleet ι) : Request ι → Fleet ι
  | .allocate heap =>
    let outcome := allocate.run (fleet.heaps heap)
    { heaps := Function.update fleet.heaps heap outcome.state
      held := outcome.value.toList.map (Prod.mk heap) ++ fleet.held }
  | .offer handle heap =>
    if handle ∈ fleet.held then
      let outcome := (takeBack handle.2).run (fleet.heaps heap)
      { heaps := Function.update fleet.heaps heap outcome.state
        held := if outcome.value then fleet.held.erase handle else fleet.held }
    else fleet

/-- The fleet after a sequence of requests. -/
def run (fleet : Fleet ι) (requests : List (Request ι)) : Fleet ι := requests.foldl request fleet

/-- A heap that is offered a foreign handle holds none of its own for the same slot out. -/
def Admits (fleet : Fleet ι) : Request ι → Prop
  | .allocate _ => True
  | .offer handle heap =>
    handle ∈ fleet.held → handle.1 = heap ∨ (heap, handle.2) ∉ fleet.held

/-- No handle is ever offered to a heap that could take it for its own. -/
def Careful (fleet : Fleet ι) : List (Request ι) → Prop
  | [] => True
  | request :: rest => fleet.Admits request ∧ (fleet.request request).Careful rest

/-- The slots for which handles of one heap are held. -/
def loansOf (heap : ι) (held : List (ι × Slot)) : List Slot :=
  held.filterMap fun handle => if handle.1 = heap then some handle.2 else none

/-- The slots that are held of one heap. -/
theorem mem_loansOf {heap : ι} {held : List (ι × Slot)} {slot : Slot} :
    slot ∈ loansOf heap held ↔ (heap, slot) ∈ held := by
  simp only [loansOf, List.mem_filterMap, Option.ite_none_right_eq_some, Option.some.injEq]
  constructor
  · rintro ⟨⟨owner, other⟩, hmem, rfl, rfl⟩
    exact hmem
  · exact fun hmem => ⟨_, hmem, rfl, rfl⟩

/-- Handles in two lists, heap by heap. -/
theorem loansOf_append (heap : ι) (first second : List (ι × Slot)) :
    loansOf heap (first ++ second) = loansOf heap first ++ loansOf heap second :=
  List.filterMap_append

/-- A new handle is one of the heap that grants it, and of no other. -/
theorem loansOf_new (heap other : ι) (granted : Option Slot) :
    loansOf other (granted.toList.map (Prod.mk heap)) =
      if other = heap then granted.toList else [] := by
  cases granted with
  | none => simp [loansOf]
  | some slot => by_cases heq : other = heap <;> simp [loansOf, heq, Ne.symm]

/-- One handle more is one of its own heap. -/
theorem loansOf_cons (heap : ι) (handle : ι × Slot) (rest : List (ι × Slot)) :
    loansOf heap (handle :: rest) =
      if handle.1 = heap then handle.2 :: loansOf heap rest else loansOf heap rest := by
  by_cases heq : handle.1 = heap <;> simp [loansOf, heq]

/-- A handle that is used up is lost to its own heap. -/
theorem loansOf_erase (heap owner : ι) (slot : Slot) (held : List (ι × Slot)) :
    loansOf heap (held.erase (owner, slot)) =
      if owner = heap then (loansOf heap held).erase slot else loansOf heap held := by
  induction held with
  | nil => simp [loansOf]
  | cons handle rest ih =>
    by_cases hhandle : handle = (owner, slot)
    · subst hhandle
      rw [List.erase_cons_head, loansOf_cons]
      split <;> simp
    · rw [List.erase_cons_tail (by simpa using hhandle), loansOf_cons, loansOf_cons, ih]
      by_cases howner : owner = heap
      · subst howner
        by_cases hsame : handle.1 = owner
        · have hslot : handle.2 ≠ slot := fun heq => hhandle (Prod.ext hsame heq)
          simp [hsame, hslot]
        · simp [hsame]
      · simp [howner]

/-- Handles differ if those of each heap do. -/
theorem nodup_of_loansOf {held : List (ι × Slot)} (h : ∀ heap, (loansOf heap held).Nodup) :
    held.Nodup := by
  induction held with
  | nil => exact List.nodup_nil
  | cons handle rest ih =>
    refine List.nodup_cons.mpr ⟨fun hmem => ?_, ih fun heap => ?_⟩
    · have hown := h handle.1
      rw [loansOf_cons, if_pos rfl, List.nodup_cons] at hown
      exact hown.1 (mem_loansOf.mpr hmem)
    · have hheap := h heap
      rw [loansOf_cons] at hheap
      split at hheap
      · exact (List.nodup_cons.mp hheap).2
      · exact hheap

/-- One heap and the slots for which handles of its own are held. -/
def lending (fleet : Fleet ι) (heap : ι) : Lending :=
  ⟨fleet.heaps heap, loansOf heap fleet.held⟩

/-- A heap that is asked for a slot leaves the others alone. -/
theorem lending_allocate (fleet : Fleet ι) (heap other : ι) :
    (fleet.request (.allocate heap)).lending other =
      if other = heap then (fleet.lending other).request .allocate else fleet.lending other := by
  simp only [lending, request, loansOf_append, loansOf_new]
  split
  · next heq =>
    subst heq
    rw [Function.update_self]
    rfl
  · next hne =>
    rw [Function.update_of_ne hne, List.nil_append]

/-- A handle that goes back to its heap leaves the others alone. -/
theorem lending_offer {fleet : Fleet ι} {owner : ι} {slot : Slot}
    (h : (owner, slot) ∈ fleet.held) (other : ι) :
    (fleet.request (.offer (owner, slot) owner)).lending other =
      if other = owner then (fleet.lending other).request (.takeBack slot)
      else fleet.lending other := by
  simp only [lending, request, if_pos h]
  by_cases heq : other = owner
  · subst heq
    rw [if_pos rfl, Function.update_self]
    simp only [Lending.request]
    split
    · rw [loansOf_erase, if_pos rfl]
    · rfl
  · rw [if_neg heq, Function.update_of_ne heq]
    split
    · rw [loansOf_erase, if_neg (Ne.symm heq)]
    · rfl

/-- The handles that are held are what the marks of each heap say. -/
def Exact (kind : ι → ViewKind) (capacity : ι → Nat) (fleet : Fleet ι) : Prop :=
  ∀ heap, (fleet.lending heap).Exact (kind heap) (capacity heap)

variable {kind : ι → ViewKind} {capacity : ι → Nat} {fleet : Fleet ι}

/-- Fresh heaps have no loans. -/
theorem exact_ofCapacities (kind : ι → ViewKind) (capacity : ι → Nat) :
    (ofCapacities kind capacity).Exact kind capacity :=
  fun heap => Lending.exact_ofCapacity (kind heap) (capacity heap)

/-- Whoever has handed out a slot: a heap takes it exactly if a handle of its own for it is held. -/
theorem Exact.takes_iff (h : fleet.Exact kind capacity) (slot : Slot) (heap : ι) :
    ((takeBack slot).run (fleet.heaps heap)).value = true ↔ (heap, slot) ∈ fleet.held := by
  rw [value_takeBack_iff, ← mem_loansOf]
  change slot.kind = (fleet.lending heap).heap.kind ∧ _ ↔ slot ∈ (fleet.lending heap).loans
  rw [(h heap).mem_loans_iff, (h heap).sound.kind_eq]
  rfl

/-- A handle that is not held of a heap is given back by it. -/
theorem Exact.gives_back (h : fleet.Exact kind capacity) {slot : Slot} {heap : ι}
    (hheld : (heap, slot) ∉ fleet.held) :
    (fleet.heaps heap).release slot = .error slot ∧
      ((takeBack slot).run (fleet.heaps heap)).state = fleet.heaps heap := by
  apply turned_down_of_value
  rw [← Bool.not_eq_true, h.takes_iff]
  exact hheld

/-- What is handed out is held by nobody. -/
theorem Exact.handsOutFresh (h : fleet.Exact kind capacity) : fleet.HandsOutFresh := by
  intro heap slot hslot hheld
  exact ((h heap).grants_new hslot).2.2.1 (mem_loansOf.mpr hheld)

/-- An offer that is turned down leaves everything as it was. -/
theorem request_offer_of_not_held (h : fleet.Exact kind capacity) {handle : ι × Slot} {heap : ι}
    (hheld : handle ∈ fleet.held → (heap, handle.2) ∉ fleet.held) :
    fleet.request (.offer handle heap) = fleet := by
  simp only [request]
  split
  · next hmine =>
    have hvalue : ((takeBack handle.2).run (fleet.heaps heap)).value = false := by
      rw [← Bool.not_eq_true, h.takes_iff]
      exact hheld hmine
    simp only [hvalue, (h.gives_back (hheld hmine)).2, Function.update_eq_self,
      Bool.false_eq_true, if_false]
  · rfl

/-- A request that is admitted keeps heaps and handles in step. -/
theorem exact_request (h : fleet.Exact kind capacity) {request : Request ι}
    (hadmits : fleet.Admits request) : (fleet.request request).Exact kind capacity := by
  cases request with
  | allocate heap =>
    intro other
    rw [lending_allocate]
    split
    · exact Lending.exact_allocate (h other)
    · exact h other
  | offer handle heap =>
    obtain ⟨owner, slot⟩ := handle
    by_cases hown : owner = heap ∧ (owner, slot) ∈ fleet.held
    · obtain ⟨rfl, hheld⟩ := hown
      intro other
      rw [lending_offer hheld]
      split
      · exact Lending.exact_takeBack slot (h other)
      · exact h other
    · have hforeign : (owner, slot) ∈ fleet.held → (heap, slot) ∉ fleet.held := fun hheld =>
        (hadmits hheld).resolve_left fun howner => hown ⟨howner, hheld⟩
      rw [request_offer_of_not_held h hforeign]
      exact h

/-- Every careful sequence of requests keeps heaps and handles in step. -/
theorem exact_run {requests : List (Request ι)} (h : fleet.Exact kind capacity)
    (hcareful : fleet.Careful requests) : (fleet.run requests).Exact kind capacity := by
  induction requests generalizing fleet with
  | nil => exact h
  | cons request rest ih => exact ih (exact_request h hcareful.1) hcareful.2

/-- A handle that is held is for one of the slots of its heap. -/
theorem Exact.held (h : fleet.Exact kind capacity) {heap : ι} {slot : Slot}
    (hheld : (heap, slot) ∈ fleet.held) : slot.kind = kind heap ∧ 0 < capacity heap := by
  obtain ⟨hkind, htaken⟩ := ((h heap).mem_loans_iff slot).mp (mem_loansOf.mpr hheld)
  have hlt := lt_capacity_of_isTaken htaken
  rw [(h heap).capacity_eq] at hlt
  exact ⟨hkind, by omega⟩

/-- Where heaps cannot be confused, a handle of one is none of the others. -/
theorem Exact.foreign_of_apart (h : fleet.Exact kind capacity) (hapart : Apart kind capacity)
    {owner heap : ι} {slot : Slot} (hheld : (owner, slot) ∈ fleet.held) (hne : heap ≠ owner) :
    (heap, slot) ∉ fleet.held := by
  intro hother
  obtain ⟨hkind, hpositive⟩ := h.held hheld
  obtain ⟨hkind', hpositive'⟩ := h.held hother
  rcases hapart heap owner hne (hkind'.symm.trans hkind) with hzero | hzero <;> omega

/-- Among such heaps every run is careful. -/
theorem careful_of_apart (h : fleet.Exact kind capacity) (hapart : Apart kind capacity)
    (requests : List (Request ι)) : fleet.Careful requests := by
  induction requests generalizing fleet with
  | nil => trivial
  | cons request rest ih =>
    have hadmits : fleet.Admits request := by
      cases request with
      | allocate heap => trivial
      | offer handle heap =>
        intro hheld
        by_cases howner : handle.1 = heap
        · exact .inl howner
        · exact .inr (h.foreign_of_apart hapart hheld (Ne.symm howner))
    exact ⟨hadmits, ih (exact_request h hadmits)⟩

/-- Two heaps have handed out the same slot. -/
structure Twins (fleet : Fleet ι) (first second : ι) (slot : Slot) : Prop where
  ne : first ≠ second
  first : (first, slot) ∈ fleet.held
  second : (second, slot) ∈ fleet.held

/-- One of two heaps that have handed out the same slot takes the handle of the other. -/
theorem Twins.not_givesBackForeign {first second : ι} {slot : Slot}
    (h : fleet.Exact kind capacity) (htwins : fleet.Twins first second slot) :
    ¬ fleet.GivesBackForeign := by
  intro hgives
  obtain ⟨hrelease, -⟩ := hgives first slot second htwins.first htwins.ne.symm
  obtain ⟨rest, hrest⟩ := release_eq_ok_iff.mpr
    (value_takeBack_iff.mp ((h.takes_iff slot second).mpr htwins.second))
  cases hrelease.symm.trans hrest

/-- Once the second heap has taken the handle of the first, it hands its slot out again. -/
theorem Twins.not_handsOutFresh {first second : ι} {slot : Slot}
    (h : fleet.Exact kind capacity) (htwins : fleet.Twins first second slot) :
    ¬ (fleet.request (.offer (first, slot) second)).HandsOutFresh := by
  have hvalue := (h.takes_iff slot second).mpr htwins.second
  have hkind : slot.kind = kind second := (h.held htwins.second).1
  have htaken := (value_takeBack_iff.mp hvalue).2
  have hheap : (fleet.heaps second).Sound (kind second) := (h second).sound
  obtain ⟨rest, hrest, hsound, -⟩ := release_spec hheap hkind htaken
  have hheaps : (fleet.request (.offer (first, slot) second)).heaps second = rest := by
    simp only [request, if_pos htwins.first, run_takeBack_ok hrest, Function.update_self]
  have hheld : (second, slot) ∈ (fleet.request (.offer (first, slot) second)).held := by
    simp only [request, if_pos htwins.first, hvalue, if_true]
    have hne : (second, slot) ≠ (first, slot) := fun heq => htwins.ne (Prod.ext_iff.mp heq).1.symm
    exact (List.mem_erase_of_ne hne).mpr htwins.second
  intro hfresh
  refine hfresh second slot ?_ hheld
  have hfree := (release_eq_ok hrest).1
  rw [hheaps]
  simp only [allocate, Act.run_bind, Act.run_get, allocate?, hfree, hsound.kind_eq, ← hkind]
  rfl

/-- The first slot of a fresh heap has the index zero. -/
theorem value_allocate_ofCapacity {kind : ViewKind} {capacity : Nat} (h : 0 < capacity) :
    (allocate.run (Heap.ofCapacity kind capacity)).value = some ⟨kind, 0⟩ := by
  obtain ⟨rest, rfl⟩ := Nat.exists_eq_add_one.mpr h
  simp [allocate, allocate?, Heap.ofCapacity, List.range_succ_eq_map]

/-- Two heaps of one kind hand out the same slot first. -/
theorem twins_of_same_kind {first second : ι} (hne : first ≠ second)
    (hkind : kind first = kind second) (hfirst : 0 < capacity first)
    (hsecond : 0 < capacity second) :
    ((ofCapacities kind capacity).run [.allocate first, .allocate second]).Twins first second
      ⟨kind first, 0⟩ := by
  have hheld : ((ofCapacities kind capacity).run [.allocate first, .allocate second]).held =
      [(second, ⟨kind second, 0⟩), (first, ⟨kind first, 0⟩)] := by
    simp [run, request, ofCapacities, Function.update_of_ne hne.symm,
      value_allocate_ofCapacity hfirst, value_allocate_ofCapacity hsecond]
  refine ⟨hne, ?_, ?_⟩
  · rw [hheld]
    exact List.mem_cons_of_mem _ List.mem_cons_self
  · rw [hheld, hkind]
    exact List.mem_cons_self

/-- Heaps that can be confused are so after one request each. -/
theorem apart_of_twinless
    (h : ∀ first second, ¬ ((ofCapacities kind capacity).run
      [.allocate first, .allocate second]).Twins first second ⟨kind first, 0⟩) :
    Apart kind capacity := by
  intro first second hne hkind
  by_contra hpositive
  rw [not_or] at hpositive
  exact h first second (twins_of_same_kind hne hkind (Nat.pos_of_ne_zero hpositive.1)
    (Nat.pos_of_ne_zero hpositive.2))

end Fleet

open Fleet in
/-- Any number of heaps with requests in any order, where each handle that is held may be offered to
any heap. As long as no heap is offered a foreign handle while one of its own for the same slot is
held, no two handles that are held are equal, a heap takes back exactly the slots for which a handle
of its own is held, gives back all others and stays as it was, and hands out none for which a handle
of its own is held. Whatever is offered, heaps give back foreign handles exactly if no two with
slots are of one kind, and that is also when they never hand out a slot again before its handle has
been given up. -/
theorem handles_are_exclusive_iff {ι : Type} [DecidableEq ι] (kind : ι → ViewKind)
    (capacity : ι → Nat) :
    (∀ requests, (ofCapacities kind capacity).Careful requests →
      let now := (ofCapacities kind capacity).run requests
      now.held.Nodup ∧ now.HandsOutFresh ∧
      ∀ slot heap,
        (((takeBack slot).run (now.heaps heap)).value = true ↔ (heap, slot) ∈ now.held) ∧
        ((heap, slot) ∉ now.held → (now.heaps heap).release slot = .error slot ∧
          ((takeBack slot).run (now.heaps heap)).state = now.heaps heap)) ∧
    ((∀ requests, ((ofCapacities kind capacity).run requests).GivesBackForeign) ↔
      Apart kind capacity) ∧
    ((∀ requests, ((ofCapacities kind capacity).run requests).HandsOutFresh) ↔
      Apart kind capacity) := by
  have hstart := exact_ofCapacities kind capacity
  have hpair (first second : ι) : ((ofCapacities kind capacity).run
      [.allocate first, .allocate second]).Exact kind capacity :=
    exact_run hstart ⟨trivial, trivial, trivial⟩
  refine ⟨fun requests hcareful => ?_, ⟨fun hall => ?_, fun hapart requests => ?_⟩,
    ⟨fun hall => ?_, fun hapart requests => ?_⟩⟩
  · have h := exact_run hstart hcareful
    exact ⟨nodup_of_loansOf fun heap => (h heap).nodup, h.handsOutFresh,
      fun slot heap => ⟨h.takes_iff slot heap, h.gives_back⟩⟩
  · exact apart_of_twinless fun first second htwins =>
      htwins.not_givesBackForeign (hpair first second) (hall _)
  · have h := exact_run hstart (careful_of_apart hstart hapart requests)
    exact fun owner slot heap hheld hne => h.gives_back (h.foreign_of_apart hapart hheld hne)
  · refine apart_of_twinless fun first second htwins =>
      htwins.not_handsOutFresh (hpair first second) ?_
    exact hall [.allocate first, .allocate second, .offer (first, ⟨kind first, 0⟩) second]
  · exact (exact_run hstart (careful_of_apart hstart hapart requests)).handsOutFresh

/-- Two heaps of one kind have handed out their only slot. The second takes the handle of the first,
and then hands out its slot again although the handle it gave for it is held. -/
theorem takes_foreign_handle :
    let slot : Slot := ⟨.shaderResource, 0⟩
    let issued := (Fleet.ofCapacities (fun _ : Fin 2 => .shaderResource) fun _ => 1).run
      [.allocate 0, .allocate 1]
    let confused := issued.request (.offer (0, slot) 1)
    issued.held = [(1, slot), (0, slot)] ∧ ¬ issued.GivesBackForeign ∧
      confused.held = [(1, slot)] ∧ (allocate.run (confused.heaps 1)).value = some slot ∧
      ¬ confused.HandsOutFresh := by
  intro slot issued confused
  have hheld : issued.held = [(1, slot), (0, slot)] := by decide
  have htaken : confused.held = [(1, slot)] := by decide
  have hvalue : (allocate.run (confused.heaps 1)).value = some slot := by decide
  refine ⟨hheld, fun hgives => ?_, htaken, hvalue, fun hfresh => ?_⟩
  · have hmem : ((0 : Fin 2), slot) ∈ issued.held := by
      rw [hheld]
      exact List.mem_cons_of_mem _ List.mem_cons_self
    have hstate := (hgives 0 slot 1 hmem (by decide)).2
    have hchanged : ((takeBack slot).run (issued.heaps 1)).state ≠ issued.heaps 1 := by decide
    exact hchanged hstate
  · refine hfresh 1 slot hvalue ?_
    rw [htaken]
    exact List.mem_cons_self

end Heap

end Texel
