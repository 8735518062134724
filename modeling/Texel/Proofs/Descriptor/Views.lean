import Texel.Descriptor.Set
import Texel.Proofs.Descriptor.Heap
import Texel.Proofs.Device.Objects

namespace Texel

namespace Heaps

/-- Of two heaps put in for one kind the later one counts. -/
@[simp] theorem setHeap_setHeap (heaps : Heaps) (kind : ViewKind) (first second : Heap) :
    (heaps.setHeap kind first).setHeap kind second = heaps.setHeap kind second := by
  cases kind <;> rfl

/-- A heap that is put in where it was changes nothing. -/
@[simp] theorem setHeap_heap (heaps : Heaps) (kind : ViewKind) :
    heaps.setHeap kind (heaps.heap kind) = heaps := by
  cases kind <;> rfl

end Heaps

namespace ViewPool

variable {origin : ViewPool SimulatedDevice}

/-- The pool with another heap in place of the one of a kind. -/
def withHeap (pool : ViewPool SimulatedDevice) (kind : ViewKind) (heap : Heap) :
    ViewPool SimulatedDevice :=
  { pool with heaps := pool.heaps.setHeap kind heap }

/-- A slot comes from the heap of its kind, or nothing changes. -/
theorem meets_allocate (origin : ViewPool SimulatedDevice) (kind : ViewKind) :
    (onHeap kind Heap.allocate).Meets (fun pool => pool = origin) fun slot? pool =>
      match slot? with
      | none => pool = origin
      | some slot => ∃ rest, (origin.heaps.heap kind).allocate? = some (slot, rest) ∧
          pool = origin.withHeap kind rest := by
  rintro pool rfl
  unfold onHeap Heap.allocate
  simp only [Act.run_focus, Act.run_bind, Act.run_get]
  cases hallocate : (pool.heaps.heap kind).allocate? with
  | none =>
    simp only [Act.run_pure]
    rw [Heaps.setHeap_heap]
  | some pair =>
    obtain ⟨slot, rest⟩ := pair
    exact ⟨rest, rfl, rfl⟩

/-- A contract of the device, with the heaps as they were. -/
theorem meets_tryDevice {ε α : Type} {attempt : Attempt ε SimulatedDevice α}
    {after : α → SimulatedDevice → Prop} {refused : ε → SimulatedDevice → Prop}
    (h : attempt.Meets (fun device => device = origin.device) after refused) :
    (tryDevice attempt).Meets (fun pool => pool = origin)
      (fun value pool => ∃ device, after value device ∧ pool = { origin with device })
      fun error pool => ∃ device, refused error device ∧ pool = { origin with device } := by
  apply Attempt.Meets.focus
  rintro pool rfl
  exact h.mono (fun _ heq => heq) (fun value device hdevice => ⟨device, hdevice, rfl⟩)
    fun error device hdevice => ⟨device, hdevice, rfl⟩

/-- What is left when the heap of its kind takes a slot back. -/
theorem run_takeBack {pool : ViewPool SimulatedDevice} {kind : ViewKind} {heap : Heap} {slot : Slot}
    (h : (pool.heaps.heap kind).release slot = .ok heap) :
    (onHeap kind (Heap.takeBack slot)).run pool = ⟨true, pool.withHeap kind heap, []⟩ := by
  unfold onHeap Heap.takeBack
  simp only [Act.run_focus, Act.run_bind, Act.run_get, h, Act.run_set, Act.run_pure]
  rfl

/-- A slot that was just taken goes back to where it came from. -/
theorem run_takeBack_taken {heaps : Heaps} {slot : Slot} {rest : Heap}
    (h : rest.release slot = .ok (heaps.heap slot.kind)) (device : SimulatedDevice) :
    (onHeap slot.kind (Heap.takeBack slot)).run ⟨device, heaps.setHeap slot.kind rest⟩ =
      ⟨true, ⟨device, heaps⟩, []⟩ := by
  rw [run_takeBack (by rw [Heaps.heap_setHeap, if_pos rfl]; exact h), withHeap]
  simp only [Heaps.setHeap_setHeap, Heaps.setHeap_heap]

/-- A view takes a free slot of its kind, and releasing the slot gives the heaps back as they were.
A refusal leaves the heaps as they were. -/
theorem meets_createView (h : origin.heaps.Sound) (kind : ViewKind) (resource : ResourceId)
    (desc : TextureDesc) (format : NativeFormat) :
    (createView kind resource desc format).Meets (fun pool => pool = origin)
      (fun slot pool => (slot.kind = kind ∧ origin.heaps.isTaken slot = false) ∧ pool.heaps.Sound ∧
        pool.device = origin.device.viewed slot resource (.ofResource kind format desc) ∧
        (∀ other, pool.heaps.isTaken other =
          if other = slot then true else origin.heaps.isTaken other) ∧
        ∀ device : SimulatedDevice, ((release slot).run ⟨device, pool.heaps⟩).state =
          ⟨{ device with views := device.views.erase slot }, origin.heaps⟩)
      fun _ pool => pool = origin ∨ pool = ⟨origin.device.refusedView, origin.heaps⟩ := by
  refine .bind (.lift (meets_allocate origin kind)) fun slot? => ?_
  cases slot? with
  | none =>
    refine .through (fun _ pool => pool = origin) (.lift fun _ h => h) fun _ => ?_
    exact .after_log (.refuse fun _ h => .inl h)
  | some slot =>
    apply Attempt.Meets.each
    rintro _ ⟨rest, hallocate, rfl⟩
    obtain ⟨rfl, hclear, hrest, hmarks, hback⟩ := Heap.allocate?_spec (h kind) hallocate
    refine .answer (meets_tryDevice (SimulatedDevice.meets_createView _ _ _ _))
      (fun _ => .pure ?_) fun error => .after_log ?_
    · rintro _ ⟨_, rfl, rfl⟩
      refine ⟨⟨rfl, hclear⟩, Heaps.sound_setHeap h hrest, rfl, Heaps.isTaken_setHeap hmarks,
        fun device => ?_⟩
      have htaken := run_takeBack_taken hback { device with views := device.views.erase slot }
      have hviews : ((onDevice (Device.releaseView slot)).run
          ⟨device, origin.heaps.setHeap slot.kind rest⟩).state =
          ⟨{ device with views := device.views.erase slot },
            origin.heaps.setHeap slot.kind rest⟩ := rfl
      unfold release
      simp only [withHeap, Act.run_bind, hviews, htaken, if_true, Act.run_pure]
    · -- the slot goes back to the heap it was just taken from
      refine .through (fun taken pool => taken = true ∧
        pool = ⟨origin.device.refusedView, origin.heaps⟩) (.lift ?_) fun taken => .each ?_
      · rintro _ ⟨_, ⟨-, rfl⟩, rfl⟩
        have htaken := run_takeBack_taken hback origin.device.refusedView
        exact ⟨congrArg Outcome.value htaken, congrArg Outcome.state htaken⟩
      · rintro _ ⟨rfl, rfl⟩
        exact .refuse fun _ h => .inr h

/-- What is not taken back leaves the heaps as they are. -/
theorem state_takeBack_error {pool : ViewPool SimulatedDevice} {slot returned : Slot}
    (h : (pool.heaps.heap slot.kind).release slot = .error returned) :
    ((onHeap slot.kind (Heap.takeBack slot)).run pool).value = false ∧
      ((onHeap slot.kind (Heap.takeBack slot)).run pool).state = pool := by
  unfold onHeap Heap.takeBack
  simp only [Act.run_focus, Act.run_bind, Act.run_get, h, Act.run_log, Act.run_pure]
  rw [Heaps.setHeap_heap]
  exact ⟨trivial, rfl⟩

/-- Releasing a slot removes its view, and the slot is free afterwards, whether it was handed out or
not. -/
theorem state_release {pool : ViewPool SimulatedDevice} (h : pool.heaps.Sound) (slot : Slot) :
    ((release slot).run pool).state.device =
        { pool.device with views := pool.device.views.erase slot } ∧
      ((release slot).run pool).state.heaps.Sound ∧
      ∀ other, ((release slot).run pool).state.heaps.isTaken other =
        if other = slot then false else pool.heaps.isTaken other := by
  let hidden : ViewPool SimulatedDevice :=
    ⟨{ pool.device with views := pool.device.views.erase slot }, pool.heaps⟩
  have hviews : ((onDevice (Device.releaseView slot)).run pool).state = hidden := rfl
  cases htaken : pool.heaps.isTaken slot with
  | true =>
    obtain ⟨rest, hrelease, hrest, hmarks⟩ := Heap.release_spec (h slot.kind) rfl htaken
    have hback : (onHeap slot.kind (Heap.takeBack slot)).run hidden =
        ⟨true, hidden.withHeap slot.kind rest, []⟩ := run_takeBack hrelease
    have hstate : ((release slot).run pool).state = hidden.withHeap slot.kind rest := by
      unfold release
      simp only [Act.run_bind, hviews, hback, if_true, Act.run_pure]
    rw [hstate]
    exact ⟨rfl, Heaps.sound_setHeap h hrest, Heaps.isTaken_setHeap hmarks⟩
  | false =>
    have hrelease : (pool.heaps.heap slot.kind).release slot = .error slot :=
      if_neg fun hheld => Bool.eq_false_iff.mp htaken hheld.2
    obtain ⟨hvalue, hsame⟩ := @state_takeBack_error hidden slot slot hrelease
    have hstate : ((release slot).run pool).state = hidden := by
      unfold release
      simp only [Act.run_bind, hviews, hvalue, hsame, Bool.false_eq_true, if_false]
      rfl
    rw [hstate]
    refine ⟨rfl, h, fun other => ?_⟩
    split
    · next heq => rw [heq, htaken]
    · rfl

/-- A slot of the kind is handed out, and the view at it shows the resource in the shape of `desc`,
seen as `format`. -/
structure Shows (pool : ViewPool SimulatedDevice) (resource : ResourceId) (desc : TextureDesc)
    (kind : ViewKind) (format : NativeFormat) (slot : Slot) : Prop where
  kind_eq : slot.kind = kind
  taken : pool.heaps.isTaken slot = true
  view : pool.device.views.get? slot = some (resource, .ofResource kind format desc)

/-- Views have come at slots that were free, and resources are as they were. -/
structure Grows (origin pool : ViewPool SimulatedDevice) : Prop where
  resources : pool.device.resources = origin.device.resources
  taken : ∀ slot, origin.heaps.isTaken slot = true → pool.heaps.isTaken slot = true
  views : ∀ slot, origin.heaps.isTaken slot = true →
    pool.device.views.get? slot = origin.device.views.get? slot

variable {pool next : ViewPool SimulatedDevice} {resource : ResourceId} {desc : TextureDesc}
  {kind : ViewKind} {format : NativeFormat} {slot : Slot}

/-- A pool grows from itself. -/
theorem Grows.refl (pool : ViewPool SimulatedDevice) : pool.Grows pool :=
  ⟨rfl, fun _ h => h, fun _ _ => rfl⟩

/-- What grows from a grown pool grows from the first one. -/
theorem Grows.trans (h : origin.Grows pool) (h' : pool.Grows next) : origin.Grows next where
  resources := h'.resources.trans h.resources
  taken slot hslot := h'.taken slot (h.taken slot hslot)
  views slot hslot := (h'.views slot (h.taken slot hslot)).trans (h.views slot hslot)

/-- What a view shows is still there when more views have come. -/
theorem Shows.grows (h : origin.Shows resource desc kind format slot) (hgrows : origin.Grows pool) :
    pool.Shows resource desc kind format slot :=
  ⟨h.kind_eq, hgrows.taken slot h.taken, (hgrows.views slot h.taken).trans h.view⟩

/-- A view that was just made shows what it was made for. -/
theorem grows_viewed (hkind : slot.kind = kind) (hclear : origin.heaps.isTaken slot = false)
    (hdevice : pool.device = origin.device.viewed slot resource (.ofResource kind format desc))
    (hmarks : ∀ other, pool.heaps.isTaken other =
      if other = slot then true else origin.heaps.isTaken other) :
    origin.Grows pool ∧ pool.Shows resource desc kind format slot := by
  have hother {other : Slot} (htaken : origin.heaps.isTaken other = true) : other ≠ slot := by
    rintro rfl
    rw [hclear] at htaken
    cases htaken
  refine ⟨⟨hdevice ▸ rfl, fun other htaken => ?_, fun other htaken => ?_⟩, hkind, ?_, ?_⟩
  · rw [hmarks, if_neg (hother htaken)]
    exact htaken
  · rw [hdevice, SimulatedDevice.viewed, Table.get?_insert, if_neg (hother htaken)]
  · rw [hmarks, if_pos rfl]
  · rw [hdevice, SimulatedDevice.viewed, Table.get?_insert, if_pos rfl]

end ViewPool

/-- The format that a texture wants its view of a kind in, if it wants one. -/
def ViewFormats.asked (formats : ViewFormats) (kind : ViewKind) : Option NativeFormat :=
  let format := match kind with
    | .shaderResource => formats.shaderResource
    | .renderTarget => formats.renderTarget
    | .depthStencil => formats.depthStencil
  if format = .unknown then none else some format

/-- The views are those asked for, each at its slot. -/
structure ViewSet.Shown (views : ViewSet) (pool : ViewPool SimulatedDevice) (resource : ResourceId)
    (desc : TextureDesc) (formats : ViewFormats) : Prop where
  sampled : Option.Rel (pool.Shows resource desc .shaderResource) (formats.asked .shaderResource)
    views.shaderResource
  target : Option.Rel (fun wanted => pool.Shows resource desc wanted.1 wanted.2) formats.target?
    views.target

end Texel
