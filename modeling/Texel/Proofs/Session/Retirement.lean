import Texel.Proofs.Retirement
import Texel.Proofs.Session.Deferral

namespace Texel

open Simulated Context RetirementQueue

namespace Session

variable {conduct : Conduct} {origin : Context SimulatedDevice} {session : Session SimulatedDevice}
  {leaked : List Retired}

/-- Calls on a queue that account for what happens to it: they retire the same items with the same
fences in the same order, lead to the same queue, and give back what leaves it. -/
structure Accounts (calls : List Call) (before after : RetirementQueue)
    (retired released : List (Nat × Retired)) : Prop where
  retired_eq : retiredBy calls = retired
  run_eq : ∀ returned, ({ queue := before, returned } : Account).run calls =
    { queue := after, returned := returned ++ released.map Prod.snd }

/-- Calls after other calls account for what both have retired and released. -/
theorem Accounts.append {first second : List Call} {before between after : RetirementQueue}
    {retired more released later : List (Nat × Retired)}
    (h : Accounts first before between retired released)
    (h' : Accounts second between after more later) :
    Accounts (first ++ second) before after (retired ++ more) (released ++ later) where
  retired_eq := by
    rw [retiredBy, List.filterMap_append]
    exact congrArg₂ _ h.retired_eq h'.retired_eq
  run_eq returned := by
    have hfirst := h.run_eq returned
    have hsecond := h'.run_eq (returned ++ released.map Prod.snd)
    unfold Account.run at hfirst hsecond ⊢
    rw [List.foldl_append, hfirst, hsecond, List.map_append, List.append_assoc]

/-- Where items only join the queue, the calls are retirements. -/
theorem accounts_queued {operation : Operation}
    (h : Queued session.context (operation.retires session) (operation.after session).context) :
    Accounts ((operation.retires session).map fun item =>
        .retire item session.context.device.currentFence)
      session.context.retirement (operation.after session).context.retirement
      (operation.retirements session) (operation.releases session) where
  retired_eq := retiredBy_retire ..
  run_eq returned := by
    rw [releases_of_queued h, Account.run_retire, ← h.entries, List.map_nil, List.append_nil]

/-- Where items only leave the queue, the call is one reap. -/
theorem accounts_reaped {operation : Operation} {departed : List (Nat × Retired)}
    (h : Reaped session.context departed (operation.after session).context)
    (hretires : operation.retires session = []) :
    Accounts [.reap (operation.after session).context.device.completedFence]
      session.context.retirement (operation.after session).context.retirement
      (operation.retirements session) (operation.releases session) where
  retired_eq := by
    rw [Operation.retirements, hretires]
    rfl
  run_eq returned := by
    rw [releases_of_reaped h]
    simp only [Account.run, List.foldl_cons, List.foldl_nil, Account.call, Account.giveBack,
      reap_of_split h.entries h.due h.waiting]

/-- What one operation does to the queue is done by calls on it. -/
theorem exists_accounts (h : session.InCustody conduct origin leaked)
    (hstreams : session.context.Streams) (operation : Operation) :
    ∃ calls, Accounts calls session.context.retirement
      (operation.after session).context.retirement (operation.retirements session)
      (operation.releases session) := by
  have hturned := (after_operation h hstreams operation).handled.turned
  generalize hitems : operation.retires session = items at hturned
  cases hturned with
  | queued hqueued => exact ⟨_, accounts_queued (hitems ▸ hqueued)⟩
  | reaped hreaped => exact ⟨_, accounts_reaped hreaped hitems⟩

/-- So is what a run does to it. -/
theorem exists_accounts_run (h : session.InCustody conduct origin leaked)
    (hstreams : session.context.Streams) (operations : List Operation) :
    ∃ calls, Accounts calls session.context.retirement
      (session.run operations).context.retirement (session.retired operations)
      (session.released operations) := by
  induction operations generalizing session conduct leaked with
  | nil => exact ⟨[], rfl, fun returned => by simp [Account.run, released, history, run]⟩
  | cons operation rest ih =>
    obtain ⟨first, hfirst⟩ := exists_accounts h hstreams operation
    obtain ⟨later, hlater⟩ := ih (h.after hstreams operation) (streams_after hstreams operation)
    exact ⟨_, hfirst.append hlater⟩

/-- The fences that items are retired with never decrease along a run. -/
theorem inOrder_retired (hstreams : session.context.Streams) (operations : List Operation) :
    InOrder (session.retired operations) ∧
      ∀ entry ∈ session.retired operations, session.context.device.currentFence ≤ entry.1 := by
  induction operations generalizing session with
  | nil => exact ⟨.nil, fun _ hentry => absurd hentry List.not_mem_nil⟩
  | cons operation rest ih =>
    obtain ⟨horder, hle⟩ := ih (streams_after hstreams operation)
    have hlater := (evolves_act hstreams operation session .refl).continues.currentFence
    have hnow : ∀ entry ∈ operation.retirements session,
        entry.1 = session.context.device.currentFence := by
      intro entry hentry
      obtain ⟨item, -, rfl⟩ := List.mem_map.mp hentry
      rfl
    refine ⟨List.pairwise_append.mpr ⟨?_, horder, ?_⟩, fun entry hentry => ?_⟩
    · exact List.pairwise_of_forall_mem_list fun first hfirst second hsecond =>
        Nat.le_of_eq ((hnow first hfirst).trans (hnow second hsecond).symm)
    · intro first hfirst second hsecond
      rw [hnow first hfirst]
      exact Nat.le_trans hlater (hle second hsecond)
    · rcases List.mem_append.mp hentry with hfirst | hrest
      · exact Nat.le_of_eq (hnow entry hfirst).symm
      · exact Nat.le_trans hlater (hle entry hrest)

/-- A queue on which items are retired with fences that never decrease: at every point a reap gives
back exactly the items whose fences have completed, in the order in which they were retired, and
keeps exactly the others; all that was given back followed by what is queued is all that was
retired. The queue of a context is such a queue, whatever is done in a session: it is the outcome of
calls that retire what the operations retire and give back what leaves it, and each item is retired
with a fence no less than those before it. -/
theorem retirement_returns_what_is_due {config : Config} {session : Session SimulatedDevice}
    (hopened : Opened config session) (operations : List Operation) :
    (∀ calls, InOrder (retiredBy calls) →
      let now := ({} : Account).run calls
      (∀ completed, now.queue.reap completed =
        ((now.queue.entries.filter fun entry => entry.1 ≤ completed).map Prod.snd,
          ⟨now.queue.entries.filter fun entry => completed < entry.1⟩)) ∧
      now.returned ++ now.queue.entries.map Prod.snd = (retiredBy calls).map Prod.snd) ∧
    InOrder (session.retired operations) ∧
    ∃ calls, retiredBy calls = session.retired operations ∧
      ({} : Account).run calls =
        { queue := (session.run operations).context.retirement
          returned := (session.released operations).map Prod.snd } := by
  have hstreams := streams_opened hopened
  refine ⟨reaps_what_is_due, (inOrder_retired hstreams operations).1, ?_⟩
  obtain ⟨calls, hretired, hrun⟩ :=
    exists_accounts_run (inCustody_opened hopened) hstreams operations
  have hempty : session.context.retirement = {} := by
    obtain ⟨-, -, rfl⟩ := opened_iff.mp hopened
    rfl
  rw [hempty] at hrun
  exact ⟨calls, hretired, hrun []⟩

/-- With completion held back, a texture and its view are retired before a submission and a staging
buffer after it. The first two go once the fence before that submission has completed. -/
theorem retirement_returns_what_is_due_staged :
    let config : Config := { streamSize := 64, pitchAlignment := 4, placementAlignment := 8 }
    let operations : List Operation := [.setAutoComplete false,
      .create 0 { width := 2, height := 1, layers := 1, levels := 1, samples := 1,
                  format := .rgba8Unorm } { shaderResource := .rgba8Unorm },
      .createStaging 0 2 1 .rgba8Unorm true, .destroyTexture 0 true, .submit false,
      .destroyStaging 0 true]
    let now := (opening config).run operations
    let view : Retired := .descriptor ⟨.shaderResource, 0⟩
    (opening config).retired operations =
      [(1, .resource ⟨2⟩), (1, view), (2, .resource ⟨3⟩)] ∧
    InOrder ((opening config).retired operations) ∧
    now.context.retirement.reap 1 = ([.resource ⟨2⟩, view], ⟨[(2, .resource ⟨3⟩)]⟩) := by
  intro config operations now view
  have hopened : Opened config (opening config) :=
    opened_iff.mpr ⟨Config.validate_eq_ok_iff.mpr (by decide), by decide, rfl⟩
  obtain ⟨hqueue, horder, calls, hretired, hrun⟩ :=
    retirement_returns_what_is_due hopened operations
  obtain ⟨hreap, -⟩ := hqueue calls (hretired ▸ horder)
  have hentries : now.context.retirement.entries =
      [(1, .resource ⟨2⟩), (1, view), (2, .resource ⟨3⟩)] := by decide +kernel
  have hdue := hreap 1
  rw [hrun] at hdue
  -- both sides name the run in full, so that nothing is evaluated to compare them
  have hnow : now = (opening config).run operations := rfl
  rw [hnow] at hentries ⊢
  simp only [hentries] at hdue
  refine ⟨by decide +kernel, horder, ?_⟩
  rw [hdue]
  decide

end Session

end Texel
