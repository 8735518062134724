import Texel.Proofs.Context.Quiet

namespace Texel

open Simulated

namespace SimulatedDevice

/-- A submission that is waited for leaves nothing to wait for. -/
theorem completeAll_submitted (device : SimulatedDevice) :
    (device.submitted true).completeAll = device.submitted true := by
  simp [completeAll, submitted]

/-- Everything that was recorded is submitted, and every submission is complete. -/
structure Finished (device : SimulatedDevice) : Prop where
  completed : device.completedFence + 1 = device.currentFence
  submissions : ∀ submission ∈ device.submissions.toList, submission.1 ≤ device.completedFence
  commands : ∀ index < device.commands.size, ¬ device.IsPending index

/-- A submission that is waited for leaves no work unfinished. -/
theorem finished_submitted {device : SimulatedDevice} (h : device.Dated) :
    (device.submitted true).Finished where
  completed := by simp [submitted]
  submissions submission hsubmission := by
    have hearlier := (dated_submitted h true).fences submission hsubmission
    simp only [submitted, Bool.or_true, if_true] at hearlier ⊢
    omega
  commands index hindex := by
    have hfence := fenceOf_le_currentFence h index
    unfold IsPending
    rw [fenceOf_submitted true (show index < device.commands.size from hindex)]
    simp only [submitted, Bool.or_true, if_true]
    omega

/-- Finished work stays finished while nothing is recorded or submitted. -/
theorem Finished.of_sameTimeline {device next : SimulatedDevice} (h : device.Finished)
    (hsame : SameTimeline device next) : next.Finished where
  completed := by
    rw [hsame.completedFence, hsame.currentFence]
    exact h.completed
  submissions := by
    rw [hsame.submissions, hsame.completedFence]
    exact h.submissions
  commands := by
    unfold IsPending
    rw [hsame.commands, hsame.fenceOf, hsame.completedFence]
    exact h.commands

end SimulatedDevice

namespace Context

variable {context : Context SimulatedDevice} {items more : List Retired}

/-- What a shutdown frees, in order. -/
def dues (context : Context SimulatedDevice) : List Retired :=
  context.retirement.entries.map Prod.snd ++ [.resource context.stream.resource]

/-- The view pool once a shutdown has waited for all work. -/
def finishedPool (context : Context SimulatedDevice) : ViewPool SimulatedDevice :=
  { context.viewPool with device := context.device.submitted true }

/-- A report changes nothing. -/
theorem state_reportLeaked (count : Nat) (context : Context SimulatedDevice) :
    ((reportLeaked count : Act (Context SimulatedDevice) Unit).run context).state = context := by
  unfold reportLeaked
  split <;> rfl

/-- What a shutdown leaves: an empty queue, and a device without what was due. -/
theorem state_shutdown (context : Context SimulatedDevice) :
    ((shutdown : Act (Context SimulatedDevice) Unit).run context).state =
      { context with retirement := {} }.setViewPool
        (context.dues.foldl ViewPool.freed context.finishedPool) := by
  have hwaited : (Device.waitIdle.run ((Device.submit true).run context.device).state).state =
      context.device.submitted true := context.device.completeAll_submitted
  unfold shutdown dues
  simp only [Act.run_bind, Act.run_get, Act.run_set, Act.run_log, onDevice, Act.run_focus, hwaited,
    state_releaseAll, state_reportLeaked, List.foldl_append]
  rfl

/-- A shutdown frees the queue and the stream buffer, once all work is complete, and leaves the rest
on the ledger. -/
structure Ended (start : Context SimulatedDevice) (kept : List Retired)
    (context : Context SimulatedDevice) : Prop where
  finished : context.device.Finished
  freed : start.viewPool.FreedOnce start.dues context.viewPool
  queue : context.retirement.entries = []
  left : context.viewPool.Ledger True kept

/-- Each of these items is freed once, and nothing else is. -/
theorem ended_shutdown {kept : List Retired} (hdated : context.device.Dated)
    (h : context.viewPool.Ledger True (context.dues ++ kept)) :
    Ended context kept ((shutdown : Act (Context SimulatedDevice) Unit).run context).state := by
  have hledger : context.finishedPool.Ledger True (context.dues ++ kept) :=
    h.congr rfl rfl rfl rfl rfl
  have hfreed := ViewPool.freedOnce_freedAll hledger
  rw [state_shutdown]
  refine ⟨?_, ?_, rfl, ViewPool.ledger_freedAll hledger⟩
  · exact (SimulatedDevice.finished_submitted hdated).of_sameTimeline
      (sameTimeline_freedAll context.dues context.finishedPool)
  · refine ⟨hfreed.nodup, fun item hitem => ?_, hfreed.gone, hfreed.resources, hfreed.slots⟩
    exact h.has (item.isTracked trivial) (List.mem_append_left _ hitem)

/-- What is held beside the items that are freed is still there afterwards. -/
theorem holds_releaseAll (h : context.Holds (items ++ more)) :
    ((releaseAll items : Act (Context SimulatedDevice) Unit).run context).state.Holds more := by
  obtain ⟨rest, hledger⟩ := h
  rw [List.append_assoc] at hledger
  rw [state_releaseAll]
  exact ⟨rest, ViewPool.ledger_freedAll hledger⟩

/-- A report of what was leaked is no complaint. -/
theorem quiet_reportLeaked (count : Nat) {before : Context SimulatedDevice → Prop} :
    (reportLeaked count : Act (Context SimulatedDevice) Unit).Quiet before := by
  unfold reportLeaked
  split
  · exact .silent fun _ => rfl
  · exact .report (by simp)

/-- Freeing them logs no complaint. -/
theorem quiet_shutdown : (shutdown : Act (Context SimulatedDevice) Unit).Quiet fun context =>
    context.Holds context.dues := by
  refine .through (fun _ now => now.Holds now.dues)
    (.focus fun _ _ => SimulatedDevice.quiet_submit true) ?_ fun _ => ?_
  · rintro context ⟨rest, hledger⟩
    exact ⟨rest, hledger.congr rfl rfl rfl rfl rfl⟩
  refine .through (fun _ now => now.Holds now.dues) (.silent fun _ => rfl) ?_ fun _ => ?_
  · rintro context ⟨rest, hledger⟩
    exact ⟨rest, hledger.congr rfl rfl rfl rfl rfl⟩
  refine .get fun waited => ?_
  refine .through (fun _ now => now.stream = waited.stream ∧ now.Holds waited.dues)
    (.silent fun _ => rfl) ?_ fun _ => ?_
  · rintro _ ⟨rfl, hholds⟩
    exact ⟨rfl, hholds⟩
  refine .through (fun _ now => now.stream = waited.stream ∧
    now.Holds [.resource waited.stream.resource])
    ((quiet_releaseAll _).mono fun _ hholds => Holds.prefix hholds.2) ?_ fun _ => ?_
  · rintro now ⟨hstream, hholds⟩
    refine ⟨?_, holds_releaseAll hholds⟩
    rw [state_releaseAll]
    exact hstream
  refine .get fun freed => ?_
  refine .through (fun _ now => now = freed ∧ now.stream = waited.stream ∧
    now.Holds [.resource waited.stream.resource]) (quiet_reportLeaked _) ?_ fun _ => ?_
  · intro now hnow
    rw [state_reportLeaked]
    exact hnow
  refine .andThen (.focus ?_) fun _ => .note (by decide)
  rintro _ ⟨rfl, hstream, rest, hledger⟩
  rw [hstream]
  exact (SimulatedDevice.quiet_destroyResource _).at_state ((hledger.live _).mpr List.mem_cons_self)

end Context

end Texel
