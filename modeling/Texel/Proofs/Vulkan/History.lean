import Texel.Proofs.Act
import Texel.Vulkan.Native

namespace Texel.Vulkan

inductive ObjectKind where
  | pool
  | image
  | buffer
  | memory
  | view
  | fence
  | commandBuffer
  deriving DecidableEq, Repr

/-- A native object. Handles are counted for each kind. -/
structure Object where
  kind : ObjectKind
  handle : Nat
  deriving DecidableEq, Repr

/-- What an event means for the objects. -/
inductive Role where
  | makes (object : Object)
  | frees (object : Object)
  | begins (commandBuffer : Nat)
  | ends (commandBuffer : Nat)
  /-- A command that refers to objects is recorded. -/
  | names (commandBuffer : Nat) (objects : List Object)
  /-- The queue takes a command buffer, and signals the fence when it is done. -/
  | submits (commandBuffer : Option Nat) (fence : Nat)
  | signals (fence : Nat)
  | nothing
  deriving DecidableEq, Repr

namespace Role

/-- A call that makes an object, if it does. -/
def ofAnswer (kind : ObjectKind) : Except ResultCode Nat → Role
  | .ok handle => .makes ⟨kind, handle⟩
  | .error _ => .nothing

/-- A call that has an effect unless it was told to fail. -/
def ofTold (told : Option ResultCode) (effect : Role) : Role :=
  if told.bind ResultCode.failure? = none then effect else .nothing

/-- The object that an entry makes. -/
def made? : Role → Option Object
  | .makes object => some object
  | _ => none

/-- The object that an entry frees. -/
def freed? : Role → Option Object
  | .frees object => some object
  | _ => none

/-- The fence of work that the queue takes. -/
def accepted? : Role → Option Nat
  | .submits _ fence => some fence
  | _ => none

/-- The objects made, in order. -/
def made (roles : List Role) : List Object := roles.filterMap made?

/-- The objects freed, in order. -/
def freed (roles : List Role) : List Object := roles.filterMap freed?

/-- The fences of the work that the queue took, in order. -/
def accepted (roles : List Role) : List Nat := roles.filterMap accepted?

/-- Commands are being recorded into the command buffer. -/
def Recording (roles : List Role) (commandBuffer : Nat) : Prop :=
  .begins commandBuffer ∈ roles ∧ .ends commandBuffer ∉ roles ∧
    .frees ⟨.commandBuffer, commandBuffer⟩ ∉ roles

/-- The queue has taken the command buffer and its fence has not signalled. -/
def InFlight (roles : List Role) (commandBuffer : Nat) : Prop :=
  ∃ fence, .submits (some commandBuffer) fence ∈ roles ∧ .signals fence ∉ roles

/-- The commands in the command buffer may have yet to run. -/
def Pending (roles : List Role) (commandBuffer : Nat) : Prop :=
  Recording roles commandBuffer ∨ InFlight roles commandBuffer

/-- A command in the command buffer refers to the object. -/
def Names (roles : List Role) (commandBuffer : Nat) (object : Object) : Prop :=
  ∃ objects, .names commandBuffer objects ∈ roles ∧ object ∈ objects

/-- An entry by which no command buffer gets new commands or is submitted. -/
def Idle : Role → Prop
  | .begins _ | .names .. | .submits .. => False
  | _ => True

/-- A condition on each entry and those before it. -/
def Each (good : List Role → Role → Prop) (roles : List Role) : Prop :=
  ∀ before role after, roles = before ++ role :: after → good before role

/-- No object is freed while a command that may have yet to run refers to it. -/
def SparesPending : List Role → Prop :=
  Each fun before role => ∀ object, role = .frees object →
    ∀ commandBuffer, Pending before commandBuffer → ¬Names before commandBuffer object

/-- Only objects that were made and not freed since are freed. -/
def FreesLive : List Role → Prop :=
  Each fun before role => ∀ object, role = .frees object →
    (freed before).count object < (made before).count object

variable {roles : List Role} {good : List Role → Role → Prop}

theorem each_nil : Each good [] := by
  intro before role after h
  simp at h

theorem Each.snoc {role : Role} (h : Each good roles) (hrole : good roles role) :
    Each good (roles ++ [role]) := by
  intro before found after hsplit
  rcases List.eq_nil_or_concat after with rfl | ⟨rest, last, rfl⟩
  · obtain ⟨rfl, rfl⟩ := List.append_inj' hsplit rfl |>.imp_right List.singleton_inj.mp
    exact hrole
  · refine h before found rest ?_
    rw [List.concat_eq_append, ← List.cons_append, ← List.append_assoc] at hsplit
    exact (List.append_inj' hsplit rfl).1

@[simp] theorem made_append (first second : List Role) :
    made (first ++ second) = made first ++ made second :=
  List.filterMap_append

@[simp] theorem freed_append (first second : List Role) :
    freed (first ++ second) = freed first ++ freed second :=
  List.filterMap_append

@[simp] theorem accepted_append (first second : List Role) :
    accepted (first ++ second) = accepted first ++ accepted second :=
  List.filterMap_append

/-- The fence of work that was submitted was accepted. -/
theorem mem_accepted {commandBuffer : Option Nat} {fence : Nat}
    (h : .submits commandBuffer fence ∈ roles) : fence ∈ accepted roles :=
  List.mem_filterMap.mpr ⟨_, h, rfl⟩

/-- An entry other than the last was there before. -/
theorem mem_of_snoc {role other : Role} (h : role ∈ roles ++ [other]) (hne : role ≠ other) :
    role ∈ roles :=
  (List.mem_append.mp h).resolve_right fun hlast => hne (List.mem_singleton.mp hlast)

/-- Only a command adds to what a command buffer refers to. -/
theorem names_of_snoc {role : Role}
    (hrole : ∀ commandBuffer objects, role ≠ .names commandBuffer objects)
    {commandBuffer : Nat} {object : Object} (h : Names (roles ++ [role]) commandBuffer object) :
    Names roles commandBuffer object := by
  obtain ⟨objects, hmem, hobject⟩ := h
  exact ⟨objects, mem_of_snoc hmem (hrole commandBuffer objects).symm, hobject⟩

/-- New commands of a command buffer refer to more objects. -/
theorem names_snoc_names {commandBuffer other : Nat} {objects : List Object} {object : Object}
    (h : Names (roles ++ [.names commandBuffer objects]) other object) :
    Names roles other object ∨ other = commandBuffer ∧ object ∈ objects := by
  obtain ⟨found, hmem, hobject⟩ := h
  rcases List.mem_append.mp hmem with hold | hnew
  · exact .inl ⟨found, hold, hobject⟩
  · obtain ⟨rfl, rfl⟩ := Role.names.inj (List.mem_singleton.mp hnew)
    exact .inr ⟨rfl, hobject⟩

/-- A command buffer that takes commands has taken them before, unless it was just begun. -/
theorem recording_of_snoc {role : Role} {commandBuffer : Nat}
    (hrole : role ≠ .begins commandBuffer) (h : Recording (roles ++ [role]) commandBuffer) :
    Recording roles commandBuffer := by
  obtain ⟨hbegins, hends, hfrees⟩ := h
  exact ⟨mem_of_snoc hbegins hrole.symm, fun hold => hends (List.mem_append_left _ hold),
    fun hold => hfrees (List.mem_append_left _ hold)⟩

end Role

namespace Call

/-- What the call means for the objects. -/
def role : Call → Role
  | .createCommandPool _ answer => .ofAnswer .pool answer
  | .createImage _ answer => .ofAnswer .image answer
  | .createBuffer _ answer => .ofAnswer .buffer answer
  | .createImageView _ answer => .ofAnswer .view answer
  | .createFence answer => .ofAnswer .fence answer
  | .allocateCommandBuffer _ answer => .ofAnswer .commandBuffer answer
  | .destroyCommandPool pool => .frees ⟨.pool, pool⟩
  | .destroyImage image => .frees ⟨.image, image⟩
  | .destroyBuffer buffer => .frees ⟨.buffer, buffer⟩
  | .destroyImageView view => .frees ⟨.view, view⟩
  | .destroyFence fence => .frees ⟨.fence, fence⟩
  | .freeCommandBuffer commandBuffer => .frees ⟨.commandBuffer, commandBuffer⟩
  | .beginCommandBuffer commandBuffer told => .ofTold told (.begins commandBuffer)
  | .endCommandBuffer commandBuffer _ => .ends commandBuffer
  | .pipelineBarrier commandBuffer barrier => .names commandBuffer [⟨.image, barrier.image⟩]
  | .copyBufferToImage commandBuffer copy =>
    .names commandBuffer [⟨.buffer, copy.buffer⟩, ⟨.image, copy.image⟩]
  | .queueSubmit commandBuffer fence told => .ofTold told (.submits commandBuffer fence)
  | .bindImageMemory .. | .bindBufferMemory .. | .waitForFence .. | .deviceWaitIdle _ => .nothing

end Call

/-- What the event means for the objects. -/
def Event.role : Event → Role
  | .call made => made.role
  | .memoryAllocated memory => .makes ⟨.memory, memory⟩
  | .memoryFreed memory => .frees ⟨.memory, memory⟩
  | .fenceSignalled fence => .signals fence

namespace Native

/-- What happened, as far as it means something for the objects. -/
def roles (native : Native) : List Role := native.history.toList.map Event.role

/-- A call that frees an object is in the history as such. -/
theorem mem_freed_of_mem_calls {native : Native} {call : Call} {object : Object}
    (h : call ∈ native.calls) (hrole : call.role = .frees object) :
    object ∈ Role.freed native.roles := by
  obtain ⟨event, hevent, hcall⟩ := List.mem_filterMap.mp h
  refine List.mem_filterMap.mpr ⟨event.role, List.mem_map_of_mem hevent, ?_⟩
  cases event with
  | call made =>
    obtain rfl := Option.some.inj hcall
    change made.role.freed? = _
    rw [hrole]
    rfl
  | _ => cases hcall

/-- The highest handle handed out for a kind of object. -/
def last (native : Native) : ObjectKind → Nat
  | .pool => native.pools
  | .image => native.images
  | .buffer => native.buffers
  | .memory => native.allocations
  | .view => native.views
  | .fence => native.fences
  | .commandBuffer => native.commandBuffers

/-- Hands out one more handle of a kind. -/
def advance (native : Native) : ObjectKind → Native
  | .pool => { native with pools := native.pools + 1 }
  | .image => { native with images := native.images + 1 }
  | .buffer => { native with buffers := native.buffers + 1 }
  | .memory => { native with allocations := native.allocations + 1 }
  | .view => { native with views := native.views + 1 }
  | .fence => { native with fences := native.fences + 1 }
  | .commandBuffer => { native with commandBuffers := native.commandBuffers + 1 }

/-- The implementation after one more event. -/
def note (native : Native) (event : Event) : Native :=
  { native with history := native.history.push event }

/-- The implementation after the next answer for an operation was given. -/
def consume (native : Native) (operation : Operation) : Native :=
  native.plan operation (native.script operation).tail

/-- The failure that an operation is told next, if it is told one. -/
def failure? (native : Native) (operation : Operation) : Option ResultCode :=
  (native.script operation).head?.bind ResultCode.failure?

@[simp] theorem roles_note (native : Native) (event : Event) :
    (native.note event).roles = native.roles ++ [event.role] := by
  simp [roles, note]

theorem mem_roles_note {native : Native} {event : Event} {role : Role} (h : event.role = role) :
    role ∈ (native.note event).roles :=
  roles_note native event ▸ List.mem_append_right _ (h ▸ List.mem_singleton_self _)

@[simp] theorem last_note (native : Native) (event : Event) :
    (native.note event).last = native.last :=
  rfl

@[simp] theorem script_note (native : Native) (event : Event) :
    (native.note event).script = native.script :=
  rfl

@[simp] theorem waiting_note (native : Native) (event : Event) :
    (native.note event).waiting = native.waiting :=
  rfl

@[simp] theorem signalled_note (native : Native) (event : Event) :
    (native.note event).signalled = native.signalled :=
  rfl

/-- One handle more has been given out for objects of the kind, and no more for others. -/
@[simp] theorem last_advance (native : Native) (kind other : ObjectKind) :
    (native.advance kind).last other = native.last other + if other = kind then 1 else 0 := by
  cases kind <;> cases other <;> rfl

@[simp] theorem history_advance (native : Native) (kind : ObjectKind) :
    (native.advance kind).history = native.history := by
  cases kind <;> rfl

@[simp] theorem roles_advance (native : Native) (kind : ObjectKind) :
    (native.advance kind).roles = native.roles := by
  rw [roles, history_advance, roles]

@[simp] theorem waiting_advance (native : Native) (kind : ObjectKind) :
    (native.advance kind).waiting = native.waiting := by
  cases kind <;> rfl

@[simp] theorem signalled_advance (native : Native) (kind : ObjectKind) :
    (native.advance kind).signalled = native.signalled := by
  cases kind <;> rfl

@[simp] theorem script_advance (native : Native) (kind : ObjectKind) :
    (native.advance kind).script = native.script := by
  cases kind <;> rfl

/-- Answers are taken from the front. -/
theorem script_consume_subset (native : Native) (operation other : Operation) :
    (native.consume operation).script other ⊆ native.script other := by
  intro answer hanswer
  change answer ∈ if other = operation then _ else _ at hanswer
  split at hanswer
  · next h => exact h ▸ List.mem_of_mem_tail hanswer
  · exact hanswer

/-- The next answer of an operation is the first of those in the script, which is used up. -/
theorem run_nextAnswer (operation : Operation) (native : Native) :
    (nextAnswer operation).run native =
      ⟨(native.script operation).head?, native.consume operation, []⟩ := by
  simp only [nextAnswer, Act.run_bind, Act.run_get, consume]
  cases h : native.script operation with
  | nil =>
    have hplan : native.plan operation [] = native := by
      have hscript : (native.plan operation []).script = native.script := by
        funext other
        change (if other = operation then [] else native.script other) = _
        split
        · next heq => rw [heq, h]
        · rfl
      calc native.plan operation []
          = { native with script := (native.plan operation []).script } := rfl
        _ = native := by rw [hscript]
    simp [hplan]
  | cons answer rest => simp

theorem run_nextFailure (operation : Operation) (native : Native) :
    (nextFailure operation).run native =
      ⟨native.failure? operation, native.consume operation, []⟩ := by
  simp [nextFailure, run_nextAnswer, failure?]

/-- A call that can fail is written into the history with the answer that it got. -/
theorem run_attempt (operation : Operation) (call : Option ResultCode → Call) (native : Native) :
    (attempt operation call).run native =
      ⟨native.failure? operation,
        (native.consume operation).note (.call (call (native.script operation).head?)), []⟩ := by
  simp [attempt, run_nextAnswer, record, failure?, note]

/-- A call that makes an object fails as it is told, or hands out the next handle of its kind. -/
theorem run_make (operation : Operation) (call : Except ResultCode Nat → Call) (kind : ObjectKind)
    (native : Native) :
    (make operation call fun native => (native.last kind + 1, native.advance kind)).run native =
      match native.failure? operation with
      | some failure =>
        ⟨.error failure, (native.consume operation).note (.call (call (.error failure))), []⟩
      | none =>
        ⟨.ok (native.last kind + 1),
          ((native.consume operation).advance kind).note
            (.call (call (.ok (native.last kind + 1)))), []⟩ := by
  have hlast : (native.consume operation).last kind = native.last kind := by cases kind <;> rfl
  simp only [make, Act.run_bind, run_nextFailure]
  cases native.failure? operation <;> simp [record, note, hlast]

/-- A fence that was waiting signals; for any other nothing happens. -/
theorem run_signal (fence : Nat) (native : Native) :
    (signal fence).run native =
      ⟨(), if fence ∈ native.waiting then
          { native with
            waiting := native.waiting.filter (· ≠ fence)
            signalled := native.signalled ++ [fence]
            history := native.history.push (.fenceSignalled fence) }
        else native, []⟩ := by
  simp only [signal, Act.run_bind, Act.run_get]
  by_cases h : fence ∈ native.waiting <;> simp [h, record]

/-- The implementation after the queue took work with a fence. -/
def accept (native : Native) (commandBuffer : Option Nat) (fence : Nat) : Native :=
  { (native.consume .queueSubmit).note (.call (.queueSubmit commandBuffer fence
      (native.script .queueSubmit).head?)) with waiting := native.waiting ++ [fence] }

/-- The queue fails as it is told, or takes the work; the fence may then signal at once. -/
theorem outcome_queueSubmit (commandBuffer : Option Nat) (fence : Nat) (native : Native) :
    ((queueSubmit commandBuffer fence).run native).value = native.failure? .queueSubmit ∧
      ((queueSubmit commandBuffer fence).run native).state =
        match native.failure? .queueSubmit with
        | some _ => (native.consume .queueSubmit).note
          (.call (.queueSubmit commandBuffer fence (native.script .queueSubmit).head?))
        | none =>
          if native.signalsAtOnce then
            ((signal fence).run (native.accept commandBuffer fence)).state
          else native.accept commandBuffer fence := by
  simp only [queueSubmit, Act.run_bind, run_attempt]
  cases native.failure? .queueSubmit with
  | some failure => exact ⟨rfl, rfl⟩
  | none =>
    let answered : Act Native (Option ResultCode) :=
      if native.signalsAtOnce then signal fence >>= fun _ => pure none else pure none
    change (answered.run (native.accept commandBuffer fence)).value = none ∧
      (answered.run (native.accept commandBuffer fence)).state = _
    unfold answered
    cases native.signalsAtOnce with
    | true => exact ⟨rfl, rfl⟩
    | false => exact ⟨rfl, rfl⟩

end Native

end Texel.Vulkan
