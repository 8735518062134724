import Texel.Proofs.Context.Ledger
import Texel.Proofs.Texture.Commands

namespace Texel

open Simulated

/-- How callers have given things up so far. -/
structure Conduct where
  /-- Nothing was freed at once that commands may name. -/
  deferred : Prop
  /-- Slots were given up by their owners only. -/
  linear : Prop

namespace Conduct

/-- What the first one rules out, the second rules out too. -/
instance : LE Conduct where
  le strict lax := (strict.deferred → lax.deferred) ∧ (strict.linear → lax.linear)

/-- Nothing was freed at once, and no slot was given up by anyone but its owner. -/
def careful : Conduct := ⟨True, True⟩

/-- Something that commands may name was given up, `deferred` or at once. -/
def giving (conduct : Conduct) (deferred : Bool) : Conduct :=
  { conduct with deferred := conduct.deferred ∧ deferred = true }

/-- What was given up deferred does no harm. -/
theorem le_giving_true (conduct : Conduct) : conduct ≤ conduct.giving true :=
  ⟨fun hdeferred => ⟨hdeferred, rfl⟩, fun hlinear => hlinear⟩

/-- Giving something up is no more careful than what was done before. -/
theorem giving_le (conduct : Conduct) (deferred : Bool) : conduct.giving deferred ≤ conduct :=
  ⟨And.left, fun h => h⟩

end Conduct

/-- Who holds the items of a context. -/
structure Books where
  /-- The stream buffer. -/
  stream : ResourceId
  /-- Retired items with the fences they wait for. -/
  queue : List (Nat × Retired)
  /-- Items in the hands of callers, which commands may name. -/
  held : List Retired
  /-- Items in the hands of callers that no command names. -/
  unnamed : List Retired

namespace Books

/-- Everything that has an owner. -/
def owned (books : Books) : List Retired :=
  .resource books.stream :: (books.unnamed ++ (books.held ++ books.queue.map Prod.snd))

/-- A command may name an item that a caller holds, or that waits for its submission; after the
submission has completed it does not matter any more. -/
def Covers (books : Books) (device : SimulatedDevice) (index : Nat) (item : Retired) : Prop :=
  item ∈ books.held ∨ (∃ fence, (fence, item) ∈ books.queue ∧ device.fenceOf index ≤ fence) ∨
    device.fenceOf index ≤ device.completedFence

/-- An item is owned by the stream buffer, by an unnamed or a named owner, or by the queue. -/
theorem mem_owned {books : Books} {item : Retired} :
    item ∈ books.owned ↔ item = .resource books.stream ∨ item ∈ books.unnamed ∨
      item ∈ books.held ∨ item ∈ books.queue.map Prod.snd := by
  simp only [owned, List.mem_cons, List.mem_append]

end Books

/-- Fences of retired items are in order, and no command names an item that it may not. If not all
was `deferred`, items may have been freed while commands named them. -/
structure Guarded (conduct : Conduct) (device : SimulatedDevice) (books : Books) : Prop where
  dated : device.Dated
  sorted : books.queue.Pairwise fun first second => first.1 ≤ second.1
  bounded : ∀ entry ∈ books.queue, entry.1 ≤ device.currentFence
  known : ∀ (index : Nat) (command : Command), device.commands[index]? = some command →
    command.target.raw < device.nextId
  unnamed : ∀ (index : Nat) (command : Command), device.commands[index]? = some command →
    .resource command.target ∉ books.unnamed
  covered : conduct.deferred → ∀ (index : Nat) (command : Command),
    device.commands[index]? = some command →
    books.Covers device index (.resource command.target)

/-- The slot is handed out, and it was not retired with an earlier fence that waits still. -/
structure Context.Secures (context : Context SimulatedDevice) (fence : Nat) (slot : Slot) :
    Prop where
  taken : context.heaps.isTaken slot = true
  first : ∀ entry ∈ context.retirement.entries, entry.2 = .descriptor slot → fence ≤ entry.1

/-- The slot is handed out, no one is about to give it up, and it was not retired with an earlier
fence that waits still. -/
structure Books.Secures (books : Books) (heaps : Heaps) (fence : Nat) (slot : Slot) : Prop where
  taken : heaps.isTaken slot = true
  first : ∀ entry ∈ books.queue, entry.2 = .descriptor slot → fence ≤ entry.1
  named : .descriptor slot ∉ books.unnamed

/-- What waited in the queue of an earlier context waits there still, unless its fence has
completed. If all was deferred, a retired slot that was secure is so still, and shows what it
showed. -/
def Awaits (conduct : Conduct) (origin : Context SimulatedDevice) (pool : ViewPool SimulatedDevice)
    (books : Books) : Prop :=
  ∀ fence item, (fence, item) ∈ origin.retirement.entries → pool.device.completedFence < fence →
    (fence, item) ∈ books.queue ∧
      (conduct.deferred → ∀ slot, item = .descriptor slot → origin.Secures fence slot →
        books.Secures pool.heaps fence slot ∧
          pool.device.views.get? slot = origin.device.views.get? slot)

/-- Resources that were gone in an earlier context do not come back. -/
structure Lasting (origin : Context SimulatedDevice) (device : SimulatedDevice) : Prop where
  nextId : origin.device.nextId ≤ device.nextId
  gone : ∀ id : ResourceId, id.raw < origin.device.nextId → origin.device.isLive id = false →
    device.isLive id = false

/-- The books of a view pool are right: everything has one owner, commands name only what they may,
and what waited in the queue of `origin` goes on waiting. -/
structure Custody (conduct : Conduct) (origin : Context SimulatedDevice) (books : Books)
    (pool : ViewPool SimulatedDevice) : Prop where
  ledger : pool.Ledger conduct.linear books.owned
  guarded : Guarded conduct pool.device books
  awaits : Awaits conduct origin pool books
  lasting : Lasting origin pool.device

variable {conduct : Conduct} {origin : Context SimulatedDevice} {books : Books}
  {pool : ViewPool SimulatedDevice}

/-- Books that the queue and the slots about to be given up have only become shorter in secure a
slot as before. -/
theorem Books.Secures.of_subset {other : Books} {heaps : Heaps} {fence : Nat} {slot : Slot}
    (h : books.Secures heaps fence slot) (hqueue : ∀ entry ∈ other.queue, entry ∈ books.queue)
    (hunnamed : ∀ slot, .descriptor slot ∈ other.unnamed → .descriptor slot ∈ books.unnamed) :
    other.Secures heaps fence slot :=
  ⟨h.taken, fun entry hentry => h.first entry (hqueue entry hentry),
    fun hmem => h.named (hunnamed slot hmem)⟩

/-- Other books and another pool go on waiting for what is in the queue. -/
theorem Awaits.mono {conduct' : Conduct} {other : Books} {next : ViewPool SimulatedDevice}
    (h : Awaits conduct origin pool books) (hconduct : conduct'.deferred → conduct.deferred)
    (hcompleted : pool.device.completedFence ≤ next.device.completedFence)
    (hqueue : ∀ entry ∈ books.queue, next.device.completedFence < entry.1 → entry ∈ other.queue)
    (hslots : conduct'.deferred → ∀ fence slot, next.device.completedFence < fence →
      (fence, .descriptor slot) ∈ books.queue → books.Secures pool.heaps fence slot →
        other.Secures next.heaps fence slot ∧
          next.device.views.get? slot = pool.device.views.get? slot) :
    Awaits conduct' origin next other := by
  intro fence item hitem hpending
  obtain ⟨hmem, hsecure⟩ := h fence item hitem (Nat.lt_of_le_of_lt hcompleted hpending)
  refine ⟨hqueue _ hmem hpending, ?_⟩
  rintro hdeferred slot rfl horigin
  obtain ⟨hbooks, hview⟩ := hsecure (hconduct hdeferred) slot rfl horigin
  obtain ⟨hother, hsame⟩ := hslots hdeferred fence slot hpending hmem hbooks
  exact ⟨hother, hsame.trans hview⟩

namespace Guarded

variable {device next : SimulatedDevice}

/-- Making and freeing things disturbs no command. -/
theorem of_sameTimeline (h : Guarded conduct device books)
    (hsame : SimulatedDevice.SameTimeline device next) : Guarded conduct next books where
  dated := hsame.dated h.dated
  sorted := h.sorted
  bounded entry hentry := by
    rw [hsame.currentFence]
    exact h.bounded entry hentry
  known index command hcommand := by
    rw [hsame.commands] at hcommand
    exact Nat.lt_of_lt_of_le (h.known index command hcommand) hsame.nextId
  unnamed index command hcommand := h.unnamed index command (hsame.commands ▸ hcommand)
  covered hdeferred index command hcommand := by
    unfold Books.Covers
    rw [hsame.fenceOf, hsame.completedFence]
    exact h.covered hdeferred index command (hsame.commands ▸ hcommand)

/-- Other books about the same device. -/
theorem of_books {conduct' : Conduct} {other : Books} (h : Guarded conduct device books)
    (hsorted : other.queue.Pairwise fun first second => first.1 ≤ second.1)
    (hbounded : ∀ entry ∈ other.queue, entry.1 ≤ device.currentFence)
    (hunnamed : ∀ id, .resource id ∈ other.unnamed → .resource id ∈ books.unnamed)
    (hcovers : conduct'.deferred → conduct.deferred ∧
      ∀ index item, books.Covers device index item → other.Covers device index item) :
    Guarded conduct' device other where
  dated := h.dated
  sorted := hsorted
  bounded := hbounded
  known := h.known
  unnamed index command hcommand hmem := h.unnamed index command hcommand (hunnamed _ hmem)
  covered hdeferred index command hcommand :=
    (hcovers hdeferred).2 index _ (h.covered (hcovers hdeferred).1 index command hcommand)

/-- Items change hands among callers. -/
theorem rearrange (h : Guarded conduct device books) {held unnamed : List Retired}
    (hheld : ∀ item ∈ books.held, item ∈ held)
    (hunnamed : ∀ id, .resource id ∈ unnamed → .resource id ∈ books.unnamed) :
    Guarded conduct device { books with held, unnamed } :=
  h.of_books h.sorted h.bounded hunnamed fun hdeferred =>
    ⟨hdeferred, fun _ item hcovers => hcovers.imp_left (hheld item)⟩

end Guarded

/-- Items change hands among callers, and all of them stay. -/
theorem custody_rearrange (h : Custody conduct origin books pool) {held unnamed : List Retired}
    (hperm : (books.unnamed ++ books.held).Perm (unnamed ++ held))
    (hheld : ∀ item ∈ books.held, item ∈ held) (hunnamed : ∀ item ∈ unnamed, item ∈ books.unnamed) :
    Custody conduct origin { books with held, unnamed } pool where
  ledger := by
    refine h.ledger.perm (.cons _ ?_)
    simp only [← List.append_assoc]
    exact hperm.append_right _
  guarded := h.guarded.rearrange hheld fun id => hunnamed _
  awaits := by
    refine h.awaits.mono (fun hdeferred => hdeferred) (Nat.le_refl _)
      (fun _ hentry _ => hentry) fun _ _ _ _ _ hsecure => ⟨?_, rfl⟩
    exact hsecure.of_subset (fun _ hentry => hentry) fun slot => hunnamed _
  lasting := h.lasting

/-- A slot that a caller brings along may be any. From then on slots are not linear any more. -/
theorem custody_offered (h : Custody conduct origin books pool) (slot : Slot) :
    Custody { conduct with linear := False } origin
      { books with held := .descriptor slot :: books.held } pool where
  ledger := by
    refine (ViewPool.ledger_offered h.ledger slot).perm ?_
    refine .trans (.swap ..) (.cons _ ?_)
    exact List.perm_middle.symm
  guarded := h.guarded.of_books h.guarded.sorted h.guarded.bounded (fun _ hid => hid)
    fun hdeferred => ⟨hdeferred, fun _ _ hcovers => hcovers.imp_left (List.mem_cons_of_mem _)⟩
  awaits := by
    refine h.awaits.mono (fun hdeferred => hdeferred) (Nat.le_refl _)
      (fun _ hentry _ => hentry) fun _ _ _ _ _ hsecure => ⟨?_, rfl⟩
    exact hsecure.of_subset (fun _ hentry => hentry) fun _ hmem => hmem
  lasting := h.lasting

/-- Items are retired with the fence of what is being recorded. Commands that name them are part of
that submission or of an earlier one. -/
theorem custody_retired (h : Custody conduct origin books pool) (items held unnamed : List Retired)
    (hperm : (books.unnamed ++ books.held).Perm (unnamed ++ (held ++ items)))
    (hheld : ∀ item ∈ books.held, item ∈ held ∨ item ∈ items)
    (hunnamed : ∀ item ∈ unnamed, item ∈ books.unnamed) :
    Custody conduct origin
      { books with
        queue := books.queue ++ items.map fun item => (pool.device.currentFence, item)
        held, unnamed } pool where
  ledger := by
    refine h.ledger.perm (.cons _ ?_)
    have hitems :
        (items.map fun item => (pool.device.currentFence, item)).map Prod.snd = items := by
      rw [List.map_map]
      exact List.map_id items
    simp only [List.map_append, hitems, ← List.append_assoc] at hperm ⊢
    apply (hperm.append_right _).trans
    simp only [List.append_assoc]
    exact (List.perm_append_comm.append_left _).append_left _
  guarded := by
    refine h.guarded.of_books ?_ ?_ (fun id => hunnamed _) fun hdeferred => ⟨hdeferred, ?_⟩
    · refine List.pairwise_append.mpr ⟨h.guarded.sorted, ?_, ?_⟩
      · exact List.pairwise_map.mpr (List.pairwise_of_forall fun _ _ => Nat.le_refl _)
      · intro entry hentry later hlater
        obtain ⟨item, -, rfl⟩ := List.mem_map.mp hlater
        exact h.guarded.bounded entry hentry
    · intro entry hentry
      rcases List.mem_append.mp hentry with hold | hnew
      · exact h.guarded.bounded entry hold
      · obtain ⟨item, -, rfl⟩ := List.mem_map.mp hnew
        exact Nat.le_refl _
    · rintro index item (hold | ⟨fence, hqueue, hfence⟩ | hcompleted)
      · rcases hheld item hold with hstill | hretired
        · exact .inl hstill
        · exact .inr (.inl ⟨_, List.mem_append_right _ (List.mem_map_of_mem hretired),
            SimulatedDevice.fenceOf_le_currentFence h.guarded.dated index⟩)
      · exact .inr (.inl ⟨fence, List.mem_append_left _ hqueue, hfence⟩)
      · exact .inr (.inr hcompleted)
  awaits := by
    refine h.awaits.mono (fun hdeferred => hdeferred) (Nat.le_refl _)
      (fun _ hentry _ => List.mem_append_left _ hentry) ?_
    intro _ fence slot _ hqueue hsecure
    refine ⟨⟨hsecure.taken, fun entry hentry hslot => ?_, fun hmem =>
      hsecure.named (hunnamed _ hmem)⟩, rfl⟩
    rcases List.mem_append.mp hentry with hold | hnew
    · exact hsecure.first entry hold hslot
    · -- what joins the queue waits for the fence that is current now
      obtain ⟨item, -, rfl⟩ := List.mem_map.mp hnew
      exact h.guarded.bounded _ hqueue
  lasting := h.lasting

/-- A new resource is not named by any command yet. -/
theorem custody_registered (h : Custody conduct origin books pool) (resource : Simulated.Resource) :
    Custody conduct origin
      { books with unnamed := .resource ⟨pool.device.nextId⟩ :: books.unnamed }
      { pool with device := pool.device.registered resource } where
  ledger := (ViewPool.ledger_registered h.ledger resource).perm (.swap ..)
  guarded := by
    have hsame : SimulatedDevice.SameTimeline pool.device (pool.device.registered resource) :=
      ⟨rfl, rfl, rfl, rfl, Nat.le_succ _⟩
    have hguarded := h.guarded.of_sameTimeline hsame
    refine ⟨hguarded.dated, hguarded.sorted, hguarded.bounded, hguarded.known, ?_, hguarded.covered⟩
    intro index command hcommand hmem
    rcases List.mem_cons.mp hmem with heq | hold
    · have hlt := h.guarded.known index command hcommand
      rw [Retired.resource.inj heq] at hlt
      exact Nat.lt_irrefl _ hlt
    · exact h.guarded.unnamed index command hcommand hold
  awaits := by
    refine h.awaits.mono (fun hdeferred => hdeferred) (Nat.le_refl _)
      (fun _ hentry _ => hentry) fun _ _ _ _ _ hsecure => ⟨?_, rfl⟩
    exact hsecure.of_subset (fun _ hentry => hentry) fun _ hmem => by simpa using hmem
  lasting := by
    refine ⟨Nat.le_succ_of_le h.lasting.nextId, fun id hid hdead => ?_⟩
    have hgone := h.lasting.gone id hid hdead
    have hold : id ≠ ⟨pool.device.nextId⟩ := by
      rintro rfl
      exact Nat.lt_irrefl _ (Nat.lt_of_lt_of_le hid h.lasting.nextId)
    simpa [SimulatedDevice.isLive, Table.contains, SimulatedDevice.registered, Table.get?_insert,
      hold] using hgone

/-- A view is made at a slot that nobody holds. -/
theorem custody_viewed {next : ViewPool SimulatedDevice} (h : Custody conduct origin books pool)
    {slot : Slot} {resource : ResourceId} {view : ViewDesc}
    (hclear : pool.heaps.isTaken slot = false)
    (hdevice : next.device = pool.device.viewed slot resource view) (hheaps : next.heaps.Sound)
    (hmarks : ∀ other, next.heaps.isTaken other =
      if other = slot then true else pool.heaps.isTaken other) :
    Custody conduct origin { books with unnamed := .descriptor slot :: books.unnamed } next where
  ledger := (ViewPool.ledger_viewed h.ledger hclear hdevice hheaps hmarks).perm (.swap ..)
  guarded := by
    have hsame : SimulatedDevice.SameTimeline pool.device next.device := by
      rw [hdevice]
      exact ⟨rfl, rfl, rfl, rfl, Nat.le_refl _⟩
    refine (h.guarded.of_sameTimeline hsame).rearrange (fun _ hitem => hitem) fun id hid => ?_
    rcases List.mem_cons.mp hid with heq | hold
    · cases heq
    · exact hold
  awaits := by
    refine h.awaits.mono (fun hdeferred => hdeferred) (Nat.le_of_eq (by rw [hdevice]; rfl))
      (fun _ hentry _ => hentry) ?_
    intro _ fence waiting _ _ hsecure
    have hne : waiting ≠ slot := by
      rintro rfl
      have htaken := hsecure.taken
      rw [hclear] at htaken
      cases htaken
    refine ⟨⟨?_, hsecure.first, fun hmem => ?_⟩, ?_⟩
    · rw [hmarks, if_neg hne]
      exact hsecure.taken
    · rcases List.mem_cons.mp hmem with heq | hold
      · exact hne (Retired.descriptor.inj heq)
      · exact hsecure.named hold
    · rw [hdevice]
      simp only [SimulatedDevice.viewed, Table.get?_insert, if_neg hne]
  lasting := by
    rw [hdevice]
    exact ⟨h.lasting.nextId, h.lasting.gone⟩

/-- The switches of the device do not matter to the books. -/
theorem custody_switched (h : Custody conduct origin books pool) (autoComplete : Bool)
    (failingAllocations failingViews : Nat) :
    Custody conduct origin books { pool with device :=
      { pool.device with autoComplete, failingAllocations, failingViews } } where
  ledger := h.ledger.congr rfl rfl rfl rfl rfl
  guarded := h.guarded.of_sameTimeline ⟨rfl, rfl, rfl, rfl, Nat.le_refl _⟩
  awaits := h.awaits
  lasting := ⟨h.lasting.nextId, h.lasting.gone⟩

namespace ViewPool

variable {linear : Prop} {owned items : List Retired} {item other : Retired}

/-- The pool after an item is freed. -/
def freed (pool : ViewPool SimulatedDevice) : Retired → ViewPool SimulatedDevice
  | .resource id => { pool with device := ((Device.destroyResource id).run pool.device).state }
  | .descriptor slot => ((release slot).run pool).state

/-- What is freed is struck from the ledger. -/
theorem ledger_freed (h : pool.Ledger linear (item :: owned)) :
    (pool.freed item).Ledger linear owned := by
  cases item with
  | resource id => exact ledger_destroyed h
  | descriptor slot => exact ledger_released h

/-- Freeing records nothing and completes nothing. -/
theorem sameTimeline_freed (pool : ViewPool SimulatedDevice) (item : Retired) :
    SimulatedDevice.SameTimeline pool.device (pool.freed item).device := by
  cases item with
  | resource id => exact SimulatedDevice.keeps_destroyResource id _ (.refl _)
  | descriptor slot => exact steady_release slot pool (.refl _)

/-- Freeing keeps the heaps sound. -/
theorem sound_freed (h : pool.heaps.Sound) (item : Retired) : (pool.freed item).heaps.Sound := by
  cases item with
  | resource id => exact h
  | descriptor slot => exact (state_release h slot).2.1

/-- Freeing an item frees no slot but its own and removes no other view. -/
theorem slot_freed (h : pool.heaps.Sound) {slot : Slot} (hne : item ≠ .descriptor slot) :
    (pool.freed item).heaps.isTaken slot = pool.heaps.isTaken slot ∧
      (pool.freed item).device.views.get? slot = pool.device.views.get? slot := by
  cases item with
  | resource id =>
    simp only [freed, SimulatedDevice.state_destroyResource]
    split <;> exact ⟨trivial, rfl⟩
  | descriptor released =>
    obtain ⟨hdevice, -, hmarks⟩ := state_release h released
    have hslot : slot ≠ released := fun heq => hne (congrArg Retired.descriptor heq.symm)
    simp only [freed, hdevice, hmarks, Table.get?_erase, if_neg hslot, and_self]

/-- What is freed is gone. -/
theorem lacks_freed (h : pool.heaps.Sound) (item : Retired) : (pool.freed item).Lacks item := by
  cases item with
  | resource id =>
    simp only [Lacks, freed, SimulatedDevice.state_destroyResource]
    split
    · simp [SimulatedDevice.isLive, Table.contains, Table.get?_erase]
    · next hdead => exact Bool.eq_false_iff.mpr hdead
  | descriptor slot =>
    obtain ⟨hdevice, -, hmarks⟩ := state_release h slot
    simp only [Lacks, freed, hdevice, hmarks, Table.get?_erase, if_true, and_self]

/-- Freeing an item brings nothing back. -/
theorem lacks_freed_of_lacks (h : pool.heaps.Sound) (hlacks : pool.Lacks other) :
    (pool.freed item).Lacks other := by
  by_cases heq : item = other
  · exact heq ▸ lacks_freed h item
  · cases other with
    | descriptor slot =>
      obtain ⟨htaken, hviews⟩ := slot_freed h heq
      simp only [Lacks, htaken, hviews]
      exact hlacks
    | resource id =>
      cases item with
      | resource destroyed =>
        have hne : id ≠ destroyed := fun hsame => heq (congrArg Retired.resource hsame.symm)
        have hdead : pool.device.resources.get? id = none := by
          simpa [Lacks, SimulatedDevice.isLive, Table.contains] using hlacks
        simp only [Lacks, freed, SimulatedDevice.state_destroyResource]
        split
        · simp [SimulatedDevice.isLive, Table.contains, Table.get?_erase, hdead]
        · exact hlacks
      | descriptor slot =>
        simp only [Lacks, SimulatedDevice.isLive, freed, (state_release h slot).1] at hlacks ⊢
        exact hlacks

/-- Freeing an item uses up no identifier. -/
theorem nextId_freed (h : pool.heaps.Sound) (item : Retired) :
    (pool.freed item).device.nextId = pool.device.nextId := by
  cases item with
  | resource id =>
    simp only [freed, SimulatedDevice.state_destroyResource]
    split <;> rfl
  | descriptor slot => simp only [freed, (state_release h slot).1]

/-- Items that are freed one after the other are all gone then. -/
theorem lacks_freedAll (h : pool.heaps.Sound) (hitem : item ∈ items ∨ pool.Lacks item) :
    (items.foldl freed pool).Lacks item := by
  induction items generalizing pool with
  | nil => exact hitem.resolve_left List.not_mem_nil
  | cons first rest ih =>
    refine ih (sound_freed h first) ?_
    rcases hitem with hmem | hlacks
    · rcases List.mem_cons.mp hmem with rfl | hrest
      · exact .inr (lacks_freed h item)
      · exact .inl hrest
    · exact .inr (lacks_freed_of_lacks h hlacks)

/-- Freeing makes no resource. -/
theorem nextId_freedAll (h : pool.heaps.Sound) (items : List Retired) :
    (items.foldl freed pool).device.nextId = pool.device.nextId := by
  induction items generalizing pool with
  | nil => rfl
  | cons item rest ih => exact (ih (sound_freed h item)).trans (nextId_freed h item)

/-- Owned items are freed one after the other, and the rest stays on the ledger. -/
theorem ledger_freedAll (h : pool.Ledger linear (items ++ owned)) :
    (items.foldl freed pool).Ledger linear owned := by
  induction items generalizing pool with
  | nil => exact h
  | cons item rest ih => exact ih (ledger_freed h)

/-- The items are different, they were there and are gone, and nothing else is. -/
structure FreedOnce (before : ViewPool SimulatedDevice) (items : List Retired)
    (after : ViewPool SimulatedDevice) : Prop where
  nodup : items.Nodup
  present : ∀ item ∈ items, before.Has item
  gone : ∀ item ∈ items, after.Lacks item
  resources : after.device.destroyedCount =
    before.device.destroyedCount + items.countP Retired.isResource
  slots : ∀ kind, (before.heaps.heap kind).allocatedCount =
    (after.heaps.heap kind).allocatedCount + (items.filterMap (Retired.indexIn? kind)).length

/-- Each of the items is freed once. -/
theorem freedOnce_freedAll (h : pool.Ledger True (items ++ owned)) :
    pool.FreedOnce items (items.foldl freed pool) := by
  have hafter := ledger_freedAll h
  have hnextId := nextId_freedAll h.heaps items
  refine ⟨(List.nodup_append.mp (h.nodup trivial)).1, fun item hitem => ?_, fun item hitem => ?_,
    ?_, fun kind => ?_⟩
  · exact h.has (item.isTracked trivial) (List.mem_append_left _ hitem)
  · exact lacks_freedAll h.heaps (.inl hitem)
  · have hbefore := h.conserved
    have hconserved := hafter.conserved
    rw [List.countP_append] at hbefore
    omega
  · rw [h.allocatedCount trivial, hafter.allocatedCount trivial, List.filterMap_append,
      List.length_append]
    omega

end ViewPool

/-- An item is freed that is not a secure slot, and the books go on without it. -/
theorem custody_freed {conduct' : Conduct} {item : Retired} {other : Books}
    (h : Custody conduct origin books pool) (hlinear : conduct'.linear → conduct.linear)
    (hdeferred : conduct'.deferred → conduct.deferred)
    (hperm : books.owned.Perm (item :: other.owned)) (hguarded : Guarded conduct' pool.device other)
    (hqueue : ∀ entry ∈ books.queue, pool.device.completedFence < entry.1 → entry ∈ other.queue)
    (hsubset : ∀ entry ∈ other.queue, entry ∈ books.queue)
    (hunnamed : ∀ slot, .descriptor slot ∈ other.unnamed → .descriptor slot ∈ books.unnamed)
    (hsecure : conduct'.deferred → ∀ fence slot, pool.device.completedFence < fence →
      books.Secures pool.heaps fence slot → item ≠ .descriptor slot) :
    Custody conduct' origin other (pool.freed item) := by
  have hledger : pool.Ledger conduct.linear (item :: other.owned) := h.ledger.perm hperm
  have hsame := pool.sameTimeline_freed item
  refine
    { ledger := (ViewPool.ledger_freed hledger).weaken hlinear
      guarded := hguarded.of_sameTimeline hsame
      awaits := ?_
      lasting := ⟨Nat.le_trans h.lasting.nextId hsame.nextId, fun id hid hdead => ?_⟩ }
  · refine h.awaits.mono hdeferred (Nat.le_of_eq hsame.completedFence.symm) ?_ ?_
    · intro entry hentry hpending
      exact hqueue entry hentry (hsame.completedFence ▸ hpending)
    · intro hyes fence slot hpending _ hslot
      rw [hsame.completedFence] at hpending
      obtain ⟨htaken, hviews⟩ :=
        ViewPool.slot_freed hledger.heaps (hsecure hyes fence slot hpending hslot)
      have hkept := hslot.of_subset hsubset hunnamed
      exact ⟨⟨htaken.trans hkept.taken, hkept.first, hkept.named⟩, hviews⟩
  · have hgone : pool.Lacks (.resource id) := h.lasting.gone id hid hdead
    exact ViewPool.lacks_freed_of_lacks hledger.heaps hgone

/-- The first item of the queue is freed once its fence has completed. -/
theorem custody_reaped {fence : Nat} {item : Retired} {rest : List (Nat × Retired)}
    (h : Custody conduct origin { books with queue := (fence, item) :: rest } pool)
    (hfence : fence ≤ pool.device.completedFence) :
    Custody conduct origin { books with queue := rest } (pool.freed item) := by
  refine custody_freed h (fun hlinear => hlinear) (fun hdeferred => hdeferred) ?_ ?_ ?_
    (fun _ hentry => List.mem_cons_of_mem _ hentry) (fun _ hmem => hmem) ?_
  · simp only [Books.owned, List.map_cons]
    refine .trans (.cons _ ?_) (.swap ..)
    simp only [← List.append_assoc]
    exact List.perm_middle
  · refine h.guarded.of_books (List.Pairwise.of_cons h.guarded.sorted)
      (fun entry hentry => h.guarded.bounded entry (List.mem_cons_of_mem _ hentry))
      (fun _ hid => hid) fun hdeferred => ⟨hdeferred, ?_⟩
    rintro index named (hheld | ⟨later, hqueue, hlater⟩ | hcompleted)
    · exact .inl hheld
    · rcases List.mem_cons.mp hqueue with heq | hrest
      · cases heq
        exact .inr (.inr (Nat.le_trans hlater hfence))
      · exact .inr (.inl ⟨later, hrest, hlater⟩)
    · exact .inr (.inr hcompleted)
  · intro entry hentry hpending
    rcases List.mem_cons.mp hentry with rfl | hrest
    · exact absurd hfence (Nat.not_le.mpr hpending)
    · exact hrest
  · -- the item was retired with a fence that has completed, a secure slot was not
    rintro _ later slot hpending hsecure rfl
    exact Nat.not_le.mpr hpending
      (Nat.le_trans (hsecure.first _ List.mem_cons_self rfl) hfence)

/-- What no command names may be freed at once. -/
theorem custody_freed_unnamed {item : Retired} {rest : List Retired}
    (h : Custody conduct origin books pool) (hperm : books.unnamed.Perm (item :: rest)) :
    Custody conduct origin { books with unnamed := rest } (pool.freed item) := by
  have hsub {other : Retired} (hother : other ∈ rest) : other ∈ books.unnamed :=
    hperm.mem_iff.mpr (List.mem_cons_of_mem _ hother)
  refine custody_freed h (fun hlinear => hlinear) (fun hdeferred => hdeferred) ?_
    (h.guarded.rearrange (fun _ hitem => hitem) fun id => hsub)
    (fun _ hentry _ => hentry) (fun _ hentry => hentry) (fun slot => hsub) ?_
  · exact .trans (.cons _ (hperm.append_right _)) (.swap ..)
  · rintro _ fence slot _ hsecure rfl
    exact hsecure.named (hperm.mem_iff.mpr List.mem_cons_self)

/-- What commands may name can be freed at once too, but that is not safe. -/
theorem custody_freed_held {item : Retired} {rest : List Retired}
    (h : Custody conduct origin books pool) (hperm : books.held.Perm (item :: rest)) :
    Custody { conduct with deferred := False } origin { books with held := rest }
      (pool.freed item) := by
  refine custody_freed h (fun hlinear => hlinear) False.elim ?_
    (h.guarded.of_books h.guarded.sorted h.guarded.bounded (fun _ hid => hid) False.elim)
    (fun _ hentry _ => hentry) (fun _ hentry => hentry) (fun _ hmem => hmem) False.elim
  refine .trans (.cons _ ?_) (.swap ..)
  refine .trans (.append_left _ (hperm.append_right _)) ?_
  exact List.perm_middle

/-- Commands may be recorded that name what callers hold. -/
theorem custody_recorded (h : Custody conduct origin books pool) {commands : List Command}
    (htargets : ∀ command ∈ commands, .resource command.target ∈ books.held) :
    Custody conduct origin books { pool with device := pool.device.recorded commands } where
  ledger := h.ledger.congr rfl rfl rfl rfl rfl
  guarded := by
    have hcommand {index : Nat} {command : Command}
        (hget : (pool.device.recorded commands).commands[index]? = some command) :
        pool.device.commands[index]? = some command ∨ .resource command.target ∈ books.held := by
      by_cases hindex : index < pool.device.commands.size
      · exact .inl (Array.getElem?_append_left hindex ▸ hget)
      · refine .inr (htargets command ?_)
        rw [SimulatedDevice.recorded, Array.getElem?_append_right (Nat.le_of_not_lt hindex),
          List.getElem?_toArray] at hget
        exact List.mem_of_getElem? hget
    refine ⟨SimulatedDevice.dated_recorded h.guarded.dated commands, h.guarded.sorted,
      h.guarded.bounded, ?_, ?_, ?_⟩
    · intro index command hget
      rcases hcommand hget with hold | hheld
      · exact h.guarded.known index command hold
      · exact h.ledger.fresh _ (Books.mem_owned.mpr (.inr (.inr (.inl hheld))))
    · intro index command hget
      rcases hcommand hget with hold | hheld
      · exact h.guarded.unnamed index command hold
      · intro hunnamed
        have happart : pool.Ledger conduct.linear ((.resource books.stream :: books.unnamed) ++
          (books.held ++ books.queue.map Prod.snd)) := h.ledger
        have htracked : (Retired.resource command.target).IsTracked conduct.linear := trivial
        exact happart.apart htracked (List.mem_cons_of_mem _ hunnamed)
          (List.mem_append_left _ hheld)
    · intro hdeferred index command hget
      rcases hcommand hget with hold | hheld
      · exact h.guarded.covered hdeferred index command hold
      · exact .inl hheld
  awaits := h.awaits
  lasting := ⟨h.lasting.nextId, h.lasting.gone⟩

/-- A device that goes on with the same commands and resources, with later fences. -/
theorem custody_advanced {device : SimulatedDevice} (h : Custody conduct origin books pool)
    (hdated : device.Dated) (hcommands : device.commands = pool.device.commands)
    (hfenceOf : ∀ index < pool.device.commands.size,
      device.fenceOf index = pool.device.fenceOf index)
    (hcurrent : pool.device.currentFence ≤ device.currentFence)
    (hcompleted : pool.device.completedFence ≤ device.completedFence)
    (hresources : device.resources = pool.device.resources)
    (hviews : device.views = pool.device.views) (hnextId : device.nextId = pool.device.nextId)
    (hdestroyed : device.destroyedCount = pool.device.destroyedCount) :
    Custody conduct origin books { pool with device } where
  ledger := h.ledger.congr hresources hviews rfl hnextId hdestroyed
  guarded := by
    refine ⟨hdated, h.guarded.sorted, fun entry hentry => ?_, ?_, ?_, ?_⟩
    · exact Nat.le_trans (h.guarded.bounded entry hentry) hcurrent
    · rw [hcommands, hnextId]
      exact h.guarded.known
    · rw [hcommands]
      exact h.guarded.unnamed
    · intro hdeferred index command hget
      rw [hcommands] at hget
      have hindex := (Array.getElem?_eq_some_iff.mp hget).1
      unfold Books.Covers
      rw [hfenceOf index hindex]
      exact (h.guarded.covered hdeferred index command hget).imp_right fun hqueue =>
        hqueue.imp_right fun hpast => Nat.le_trans hpast hcompleted
  awaits := h.awaits.mono (fun hdeferred => hdeferred) hcompleted (fun _ hentry _ => hentry)
    fun _ _ _ _ _ hsecure => ⟨hsecure, congrArg (Table.get? · _) hviews⟩
  lasting := by
    refine ⟨hnextId ▸ h.lasting.nextId, fun id hid hdead => ?_⟩
    unfold SimulatedDevice.isLive
    rw [hresources]
    exact h.lasting.gone id hid hdead

/-- Submitting changes no owner. -/
theorem custody_submitted (h : Custody conduct origin books pool) (wait : Bool) :
    Custody conduct origin books { pool with device := pool.device.submitted wait } :=
  custody_advanced h (SimulatedDevice.dated_submitted h.guarded.dated wait) rfl
    (fun _ hindex => SimulatedDevice.fenceOf_submitted wait hindex) (Nat.le_succ _)
    (SimulatedDevice.completedFence_le_submitted h.guarded.dated wait) rfl rfl rfl rfl

/-- Completing work changes no owner. -/
theorem custody_completed (h : Custody conduct origin books pool) :
    Custody conduct origin books { pool with device := pool.device.completeAll } :=
  custody_advanced h (SimulatedDevice.dated_completeAll h.guarded.dated) rfl
    (fun _ _ => rfl) (Nat.le_refl _)
    (SimulatedDevice.completedFence_le_completeAll h.guarded.dated) rfl rfl rfl rfl

end Texel
