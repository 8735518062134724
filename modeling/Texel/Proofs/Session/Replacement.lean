import Texel.Proofs.Session.Deferral
import Texel.Proofs.Texture.Rollback

namespace Texel

open Context

namespace Session

variable {session : Session SimulatedDevice} {slot source : Nat} {id : ResourceId}
  {formats : ViewFormats} {state : UsageState}

/-- What the texture in a slot held has joined the queue with the fence of what is being recorded,
and nothing else has. -/
def Displaced (session : Session SimulatedDevice) (slot : Nat)
    (next : Context SimulatedDevice) : Prop :=
  next.retirement.entries = session.context.retirement.entries ++
    (session.texture slot).holdings.map fun item => (session.context.device.currentFence, item)

/-- No slot has changed, and of the context only counters of the device. -/
def Undisturbed (session next : Session SimulatedDevice) : Prop :=
  ∃ context, next = { session with context } ∧ session.context.Restored context

/-- Creating queues what the texture held, or disturbs nothing. -/
theorem displaced_or_undisturbed_create {linear : Prop} {owned : List Retired}
    (h : session.context.viewPool.Ledger linear owned) (slot : Nat) (desc : TextureDesc)
    (formats : ViewFormats) :
    (((Session.create slot desc formats).run session).value = .ok () →
      session.Displaced slot ((Session.create slot desc formats).run session).state.context) ∧
    ∀ error, ((Session.create slot desc formats).run session).value = .error error →
      session.Undisturbed ((Session.create slot desc formats).run session).state := by
  have hcreate := Texture.replaces_create h (session.texture slot) desc formats
  refine ⟨fun hok => ?_, fun error herror => ?_⟩
  · obtain ⟨value, next, hstate, -, hqueued, -⟩ := accepted_changeTexture hcreate hok
    unfold Session.create
    rw [hstate]
    exact hqueued.entries
  · exact refused_changeTexture hcreate herror

/-- Adopting queues what the texture held, or disturbs nothing. -/
theorem displaced_or_undisturbed_adopt {linear : Prop} {owned : List Retired}
    (h : session.context.viewPool.Ledger linear owned) (slot : Nat)
    (hid : session.resources.get? source = some id) (formats : ViewFormats) (state : UsageState) :
    (((Session.adopt slot source formats state).run session).value = some (.ok ()) →
      session.Displaced slot
        ((Session.adopt slot source formats state).run session).state.context) ∧
    ∀ refusal, ((Session.adopt slot source formats state).run session).value =
        some (.error refusal) →
      refusal.resource = id ∧
        session.Undisturbed ((Session.adopt slot source formats state).run session).state := by
  have hadopt := Texture.replaces_adopt h (session.texture slot) id formats state
  obtain ⟨hok, herror⟩ := hadopt.of_run rfl
  have hvalue := @value_adopt session slot source id formats state hid
  cases hinner : (((session.texture slot).adopt id formats state).run session.context).value with
  | ok value =>
    have hstate : ((Session.adopt slot source formats state).run session).state = _ :=
      state_adopt_ok hid hinner
    have hanswer := (@changeTexture_ok _ session slot
      (fun texture => texture.adopt id formats state) value hinner).1
    rw [hanswer] at hvalue
    rw [hstate, hvalue]
    exact ⟨fun _ => (hok value hinner).2.1.entries,
      fun _ hrefusal => (nomatch Option.some.inj hrefusal)⟩
  | error refusal =>
    have hstate : ((Session.adopt slot source formats state).run session).state = _ :=
      state_adopt_error hid hinner
    have hanswer := (@changeTexture_error _ session slot
      (fun texture => texture.adopt id formats state) refusal hinner).1
    rw [hanswer] at hvalue
    rw [hstate, hvalue]
    refine ⟨fun haccepted => (nomatch Option.some.inj haccepted), fun other hother => ?_⟩
    obtain rfl := Except.error.inj (Option.some.inj hother)
    obtain ⟨hresource, hrestored⟩ := herror _ hinner
    exact ⟨hresource, _, rfl, hrestored⟩

/-- In every context that a run can lead to, a texture that is created or adopts a resource queues
what it held before and nothing else, or it is refused and nothing changes but counters of the
device: the texture, free slots and their order, views, resources, commands, the queue, the ring and
the statistics are what they were. A resource that is refused is handed back. -/
theorem replacement_is_all_or_nothing {config : Config} {session : Session SimulatedDevice}
    (hopened : Opened config session) (operations : List Operation)
    {caller : Session SimulatedDevice}
    (hcaller : caller.context = (session.run operations).context) (slot : Nat)
    (formats : ViewFormats) :
    (∀ desc,
      (((Session.create slot desc formats).run caller).value = .ok () →
        caller.Displaced slot ((Session.create slot desc formats).run caller).state.context) ∧
      ∀ error, ((Session.create slot desc formats).run caller).value = .error error →
        caller.Undisturbed ((Session.create slot desc formats).run caller).state) ∧
    ∀ source id state, caller.resources.get? source = some id →
      (((Session.adopt slot source formats state).run caller).value = some (.ok ()) →
        caller.Displaced slot
          ((Session.adopt slot source formats state).run caller).state.context) ∧
      ∀ refusal, ((Session.adopt slot source formats state).run caller).value =
          some (.error refusal) →
        refusal.resource = id ∧
          caller.Undisturbed ((Session.adopt slot source formats state).run caller).state := by
  have hstreams := streams_opened hopened
  have hcustody := ((inCustody_opened hopened).run hstreams operations).custody
  have hledger : caller.context.viewPool.Ledger _ _ := hcaller ▸ hcustody.ledger
  exact ⟨fun desc => displaced_or_undisturbed_create hledger slot desc formats,
    fun source id state hid => displaced_or_undisturbed_adopt hledger slot hid formats state⟩

/-- Without a slot for its second view, a texture is not created after its first view was made, and
a resource is not adopted; without that view the texture replaces the one before it. -/
theorem replacement_is_all_or_nothing_exhausted :
    let config : Config := { streamSize := 64, pitchAlignment := 4, placementAlignment := 8,
                             renderTargetSlots := 0 }
    let desc : TextureDesc := { width := 2, height := 2, layers := 1, levels := 1, samples := 1,
                                format := .rgba8Unorm }
    let sampled : ViewFormats := { shaderResource := .rgba8Unorm }
    let both : ViewFormats := { sampled with renderTarget := .rgba8Unorm }
    let operations : List Operation := [.create 0 desc sampled, .createResource 0 desc .common]
    let caller := (opening config).run operations
    caller.Undisturbed ((Session.create 0 desc both).run caller).state ∧
      caller.Undisturbed ((Session.adopt 0 0 both .common).run caller).state ∧
      ((Session.create 0 desc sampled).run caller).state.context.retirement.entries =
        [(1, .resource ⟨2⟩), (1, .descriptor ⟨.shaderResource, 0⟩)] := by
  intro config desc sampled both operations caller
  have hopened : Opened config (opening config) :=
    opened_iff.mpr ⟨Config.validate_eq_ok_iff.mpr (by decide), by decide, rfl⟩
  obtain ⟨hcreate, hadopt⟩ :=
    @replacement_is_all_or_nothing config (opening config) hopened operations caller rfl 0 both
  obtain ⟨hreplace, -⟩ :=
    @replacement_is_all_or_nothing config (opening config) hopened operations caller rfl 0 sampled
  refine ⟨?_, ?_, ?_⟩
  · exact (hcreate desc).2 (.allocationFailure "RenderTarget descriptor heap exhausted")
      (by decide +kernel)
  · exact ((hadopt 0 ⟨3⟩ .common (by decide +kernel)).2
      ⟨.allocationFailure "RenderTarget descriptor heap exhausted", ⟨3⟩⟩ (by decide +kernel)).2
  · rw [(hreplace desc).1 (by decide +kernel)]
    decide +kernel

end Session

end Texel
