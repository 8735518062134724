import Texel.Proofs.Vulkan.Operations

namespace Texel.Vulkan

/-- What a caller asks of a device. -/
inductive Request where
  | importImage (image : Nat) (desc : TextureDesc)
  | createTexture (desc : TextureDesc) (state : UsageState)
  | createHostBuffer (size : Nat)
  | createView (resource : ResourceId) (view : ViewDesc) (slot : Slot)
  | releaseView (slot : Slot)
  | recordBarrier (resource : ResourceId) (before after : UsageState)
  | recordCopy (copy : BufferCopy)
  | submit (wait : Bool)
  | pollFence
  | waitIdle
  | destroyResource (resource : ResourceId)

namespace Request

open VulkanDevice

/-- The operation on a device, without its answer. -/
def act : Request → Act VulkanDevice Unit
  | .importImage image desc => discard (VulkanDevice.importImage image desc)
  | .createTexture desc state => discard (VulkanDevice.createTexture desc state).act
  | .createHostBuffer size => discard (VulkanDevice.createHostBuffer size).act
  | .createView resource view slot => discard (VulkanDevice.createView resource view slot).act
  | .releaseView slot => VulkanDevice.releaseView slot
  | .recordBarrier resource before after => VulkanDevice.recordBarrier resource before after
  | .recordCopy copy => VulkanDevice.recordCopy copy
  | .submit wait => discard (VulkanDevice.submit wait)
  | .pollFence => discard VulkanDevice.pollFence
  | .waitIdle => VulkanDevice.waitIdle
  | .destroyResource resource => VulkanDevice.destroyResource resource

end Request

/-- What the implementation does while no operation runs. -/
inductive Move where
  | signal (fence : Nat)
  /-- The next answers for an operation. -/
  | plan (operation : Operation) (answers : List ResultCode)
  | signalAtOnce (on : Bool)
  /-- An image is made for someone else. -/
  | makeImage

namespace Move

/-- What the implementation does of its own accord. -/
def act : Move → Act Native Unit
  | .signal fence => Native.signal fence
  | .plan operation answers => Act.modify fun native => native.plan operation answers
  | .signalAtOnce on => Act.modify fun native => { native with signalsAtOnce := on }
  | .makeImage => Act.modify fun native => { native with images := native.images + 1 }

/-- The operations in `reliable` are never told to fail. -/
def Spares (reliable : Operation → Prop) : Move → Prop
  | .plan operation answers => reliable operation → ∀ answer ∈ answers, answer.failure? = none
  | _ => True

end Move

/-- A caller's request, or a move of the implementation. -/
inductive Turn where
  | request (request : Request)
  | move (move : Move)

namespace Turn

/-- What happens in a turn. -/
def act : Turn → Act VulkanDevice Unit
  | .request asked => asked.act
  | .move made => VulkanDevice.onNative made.act

/-- The turn brings no failure of what has to be reliable. -/
def Spares (reliable : Operation → Prop) : Turn → Prop
  | .request _ => True
  | .move made => made.Spares reliable

theorem spares_none (turn : Turn) : turn.Spares fun _ => False := by
  cases turn with
  | request asked => trivial
  | move made =>
    cases made with
    | plan operation answers => exact False.elim
    | _ => trivial

end Turn

namespace VulkanDevice

/-- The device after a turn. -/
def after (device : VulkanDevice) (turn : Turn) : VulkanDevice := (turn.act.run device).state

/-- The device after turns, one after the other. -/
def run (device : VulkanDevice) (turns : List Turn) : VulkanDevice := turns.foldl after device

/-- A device that was just opened on a new implementation, which is going to give these answers,
whatever its memory allocator refuses of its own accord. -/
def Opened (script : Operation → List ResultCode) (device : VulkanDevice) : Prop :=
  ∃ refuses signalsAtOnce family,
    (ofNative { script, refuses, signalsAtOnce } true family).1 = .ok device

/-- A run in two parts is one part after the other. -/
theorem run_append (device : VulkanDevice) (first second : List Turn) :
    device.run (first ++ second) = (device.run first).run second :=
  List.foldl_append

/-- A device that has made its pool and nothing else. -/
def withPool (script : Operation → List ResultCode)
    (refuses : MemoryRequest → Option AllocatorRefusal) (signalsAtOnce : Bool) (family : Nat) :
    VulkanDevice where
  native :=
    ((Native.consume { script, refuses, signalsAtOnce } .createCommandPool).advance .pool).note
      (.call (.createCommandPool family (.ok 1)))
  pool := 1

/-- A command pool is made unless the first answer in the script is a failure. -/
theorem run_createCommandPool (family : Nat) (native : Native) :
    (Native.createCommandPool family).run native =
      match native.failure? .createCommandPool with
      | some failure => ⟨.error failure, (native.consume .createCommandPool).note
          (.call (.createCommandPool family (.error failure))), []⟩
      | none => ⟨.ok (native.pools + 1), ((native.consume .createCommandPool).advance .pool).note
          (.call (.createCommandPool family (.ok (native.pools + 1)))), []⟩ :=
  Native.run_make .createCommandPool (.createCommandPool family) .pool native

/-- A device that opened is one with a command pool and nothing else. -/
theorem Opened.eq_withPool {script : Operation → List ResultCode} {device : VulkanDevice}
    (h : Opened script device) :
    ∃ refuses signalsAtOnce family, device = withPool script refuses signalsAtOnce family := by
  obtain ⟨refuses, signalsAtOnce, family, h⟩ := h
  refine ⟨refuses, signalsAtOnce, family, ?_⟩
  simp only [ofNative, Bool.true_eq_false, if_false, run_createCommandPool] at h
  cases hfailure : Native.failure? { script, refuses, signalsAtOnce } .createCommandPool with
  | some failure =>
    rw [hfailure] at h
    cases h
  | none =>
    rw [hfailure] at h
    cases h
    rfl

/-- A device opens unless the implementation is told to fail. -/
theorem opened_withPool {script : Operation → List ResultCode}
    (refuses : MemoryRequest → Option AllocatorRefusal) (signalsAtOnce : Bool) (family : Nat)
    (h : Native.failure? { script, refuses, signalsAtOnce } .createCommandPool = none) :
    Opened script (withPool script refuses signalsAtOnce family) := by
  refine ⟨refuses, signalsAtOnce, family, ?_⟩
  simp only [ofNative, Bool.true_eq_false, if_false, run_createCommandPool, h]
  rfl

end VulkanDevice

/-- The start of a device that was just opened: it has its pool, and nobody knows of a resource. -/
def Work.opened (device : VulkanDevice) : Work :=
  ⟨device, { hand := [⟨.pool, device.pool⟩], roster := {} }⟩

/-- A device between two operations, and what is known of its resources. -/
def Work.resting (device : VulkanDevice) (roster : Roster) : Work :=
  ⟨device, { hand := [⟨.pool, device.pool⟩], roster }⟩

@[simp] theorem Work.device_resting (device : VulkanDevice) (roster : Roster) :
    (Work.resting device roster).device = device := rfl

@[simp] theorem Work.roster_resting (device : VulkanDevice) (roster : Roster) :
    (Work.resting device roster).holding.roster = roster := rfl

/-- Nothing but the pool of the device is out. -/
def Rest (rules : Rules) (start : Work) (roster : Roster) (device : VulkanDevice) : Prop :=
  Reaches rules start { hand := [⟨.pool, start.device.pool⟩], roster } device

section Resting

variable {rules : Rules} {start : Work} {roster after : Roster} {device next : VulkanDevice}
  {script : Operation → List ResultCode}

/-- A device opens with everything in order, if nothing that has to be reliable is told to fail. -/
theorem valid_opened (h : VulkanDevice.Opened script device)
    (hscript : ∀ operation, rules.reliable operation →
      ∀ answer ∈ script operation, answer.failure? = none) :
    Valid rules (Work.opened device) := by
  obtain ⟨refuses, signalsAtOnce, family, rfl⟩ := h.eq_withPool
  exact
    { trusted := fun operation hreliable answer hanswer => hscript operation hreliable answer
        (Native.script_consume_subset _ _ _ hanswer)
      fenced := fun _ hnone => nomatch hnone
      fence := rfl
      completed := Nat.le_refl _
      known := fun _ _ hnone => nomatch hnone
      listed := fun _ => ⟨fun hsome => (nomatch hsome.choose_spec), fun hsome =>
        nomatch hsome.choose_spec.1⟩
      imaged := fun _ _ hnone => nomatch hnone }

/-- Nothing is on its way when a device opens. -/
theorem rest_opened (h : Valid rules (Work.opened device)) :
    Rest rules (Work.opened device) {} device :=
  .refl h

/-- No image is imported when a device opens. -/
theorem Imports.opened (h : VulkanDevice.Opened script device) : Imports (Work.opened device) := by
  obtain ⟨refuses, signalsAtOnce, family, rfl⟩ := h.eq_withPool
  exact fun _ _ _ hnone => nomatch hnone

/-- A device keeps its pool. -/
theorem Reaches.pool {holding : Holding} (h : Reaches rules start holding device) :
    device.pool = start.device.pool :=
  h.induction (P := fun work => work.device.pool = start.device.pool) rfl
    fun _ _ hbefore hstep => by cases hstep <;> exact hbefore

/-- A device at rest, as a start of its own. -/
theorem Rest.restart (h : Rest rules start roster device) :
    Rest rules (Work.resting device roster) roster device := by
  have hvalid : Valid rules (Work.resting device roster) := { Reaches.validNow h with }
  exact .refl hvalid

/-- What is reached from there is reached from the first start. -/
theorem Rest.resume (h : Rest rules start roster device)
    (hlater : Rest rules (Work.resting device roster) after next) :
    Rest rules start after next := by
  have hpath := hlater.path
  rw [Work.resting, Reaches.pool h] at hpath
  exact ⟨h.valid, h.path.trans hpath⟩

/-- What the implementation does on its own. -/
theorem rest_move {move : Move} (h : move.Spares rules.reliable) :
    (VulkanDevice.onNative move.act).Keeps (Rest rules start roster) := by
  cases move with
  | signal fence => exact meets_signal fence
  | plan operation answers =>
    refine fun device hrest => hrest.step (.resumed _ ⟨rfl, rfl, rfl, fun _ => ?_, ?_⟩)
    · exact Nat.le_refl _
    · intro other hreliable hall answer hanswer
      change answer ∈ if other = operation then answers else _ at hanswer
      split at hanswer
      · next heq => exact h (heq ▸ hreliable) answer hanswer
      · exact hall answer hanswer
  | signalAtOnce on =>
    exact fun device hrest => hrest.step
      (.resumed _ ⟨rfl, rfl, rfl, fun _ => Nat.le_refl _, fun _ _ hall => hall⟩)
  | makeImage =>
    refine fun device hrest => hrest.step
      (.resumed _ ⟨rfl, rfl, rfl, fun kind => ?_, fun _ _ hall => hall⟩)
    cases kind <;> first | exact Nat.le_refl _ | exact Nat.le_succ _

/-- Callers that may do as they like. -/
def Rules.free (reliable : Operation → Prop) : Rules where
  reliable
  careful := False
  tracked := False
  careful_idle := False.elim
  tracked_commands := False.elim

/-- Nothing is on its way after a request. Either the queue was not looked at, or its front waits
now, if the queries can be relied on. -/
theorem rest_request {reliable : Operation → Prop} (request : Request) :
    request.act.Meets (Rest (Rules.free reliable) start roster) fun _ device =>
      ∃ after, Rest (Rules.free reliable) start after device ∧
        (after.lagging = roster.lagging ∨ (reliable .getFenceStatus → device.FrontWaits)) := by
  have hsame : ∀ {lagging after device}, Rest (Rules.free reliable) start after device →
      after.lagging = lagging → ∃ after, Rest (Rules.free reliable) start after device ∧
        (after.lagging = lagging ∨ (reliable .getFenceStatus → device.FrontWaits)) :=
    fun h hlagging => ⟨_, h, .inl hlagging⟩
  have hpolled : ∀ {lagging after device}, Rest (Rules.free reliable) start after device →
      (reliable .getFenceStatus → device.FrontWaits) →
      ∃ after, Rest (Rules.free reliable) start after device ∧
        (after.lagging = lagging ∨ (reliable .getFenceStatus → device.FrontWaits)) :=
    fun h hfront => ⟨_, h, .inr hfront⟩
  cases request with
  | importImage image desc =>
    refine .discard (Act.Meets.mono (VulkanDevice.meets_importImage image desc)
      (fun device h => ⟨h, fun hrules => (hrules.elim id id).elim⟩) fun _ _ h => h) ?_
    exact fun id device h => hsame h.1 rfl
  | createTexture desc state =>
    exact Attempt.Meets.discard
      (VulkanDevice.meets_createTexture desc state none fun _ hnone => nomatch hnone)
      (fun id device h => hsame h.1 rfl) fun error device h => hsame h rfl
  | createHostBuffer size =>
    exact Attempt.Meets.discard (VulkanDevice.meets_createHostBuffer size)
      (fun made device h => hsame h.1 rfl) fun error device h => hsame h rfl
  | createView resource view slot =>
    exact Attempt.Meets.discard (.of_keeps (VulkanDevice.keeps_createView resource view slot))
      (fun _ device h => hsame h rfl) fun _ device h => hsame h rfl
  | releaseView slot =>
    exact fun device h => hsame (VulkanDevice.keeps_releaseView slot device h) rfl
  | recordBarrier resource before after =>
    exact fun device h => hsame (VulkanDevice.meets_transitionImage resource (stateLayout before)
      (stateAccess before) (stateStage before) after False.elim False.elim device h) rfl
  | recordCopy copy =>
    exact fun device h => hsame (VulkanDevice.meets_recordCopy copy False.elim False.elim device
      ⟨h, False.elim⟩) rfl
  | submit wait =>
    refine .discard (VulkanDevice.meets_submit wait rfl) ?_
    rintro value device ⟨-, roster, -, -, -, h, hfront⟩
    exact hpolled h hfront
  | pollFence =>
    refine .discard VulkanDevice.meets_pollFence ?_
    rintro value device ⟨-, passed, -, -, h, hfront⟩
    exact hpolled h hfront
  | waitIdle =>
    intro device h
    obtain ⟨after, -, -, -, -, hrest, hfront⟩ := VulkanDevice.meets_waitIdle rfl device h
    exact hpolled hrest hfront
  | destroyResource resource =>
    exact fun device h =>
      hsame (VulkanDevice.meets_destroyResource resource rfl False.elim device h) rfl

/-- Nothing is on its way between two turns. -/
theorem rest_run {reliable : Operation → Prop} {turns : List Turn}
    (hturns : ∀ turn ∈ turns, turn.Spares reliable)
    (h : Rest (Rules.free reliable) start roster device) :
    ∃ after, Rest (Rules.free reliable) start after (device.run turns) := by
  induction turns generalizing device roster with
  | nil => exact ⟨roster, h⟩
  | cons turn turns ih =>
    obtain ⟨hturn, hrest⟩ := List.forall_mem_cons.mp hturns
    cases turn with
    | request request =>
      obtain ⟨after, hafter, -⟩ := rest_request request device h
      exact ih hrest hafter
    | move move =>
      have hmove : move.Spares (Rules.free reliable).reliable := hturn
      exact ih hrest (rest_move hmove device h)

end Resting

end Texel.Vulkan
