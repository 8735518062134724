import Texel.Proofs.Context.Evolution
import Texel.Proofs.Ring.Inside

namespace Texel

open SimulatedDevice

namespace Context

/-- The ring of the stream buffer covers the whole buffer and is in order, and it has tracked
nothing but past submissions. -/
structure Streams (context : Context SimulatedDevice) : Prop where
  dated : context.device.Dated
  inside : context.stream.ring.Inside context.stream.memory.size
  ordered : context.stream.ring.Ordered
  fences : ∀ entry ∈ context.stream.ring.tracked, entry.1 < context.device.currentFence
  pitch : context.config.pitchAlignment.isPowerOfTwo
  placement : context.config.placementAlignment.isPowerOfTwo
  identifier : context.stream.resource.raw < context.device.nextId

/-- The ring covers all of the stream buffer. -/
theorem Streams.capacity {context : Context SimulatedDevice} (h : context.Streams) :
    context.stream.ring.capacity = context.stream.memory.size :=
  h.inside.capacity

/-- The bytes of the stream buffer from `start` on are those of `bytes`, and no upload may take
their place, for as long as `fence` has not completed. -/
def Shields (context : Context SimulatedDevice) (bytes : Memory) (start size fence : Nat) : Prop :=
  context.device.completedFence < fence →
    fence ≤ context.device.currentFence ∧
    context.stream.ring.Keeps start size
      (if fence < context.device.currentFence then some fence else none) ∧
    ∀ index, start ≤ index → index < start + size →
      context.stream.memory.byteAt index = bytes.byteAt index

variable {origin context next : Context SimulatedDevice}

/-- The stream buffer and the submissions still belong together after a submission. -/
theorem streams_submitted (h : context.Streams) (wait : Bool) :
    (context.submitted wait).Streams where
  dated := dated_submitted h.dated wait
  inside := Ring.inside_track h.inside _
  ordered := Ring.ordered_track h.ordered h.fences
  fences entry hentry := by
    change entry ∈ (context.stream.ring.track context.device.currentFence).tracked at hentry
    change entry.1 < context.device.currentFence + 1
    rcases Ring.mem_tracked_track hentry with hold | hnew
    · have := h.fences entry hold
      omega
    · omega
  pitch := h.pitch
  placement := h.placement
  identifier := h.identifier

/-- They belong together after every small change. -/
theorem streams_change (h : context.Streams) (change : Change context next) : next.Streams := by
  cases change with
  | steady hsteady =>
    refine ⟨hsteady.timeline.dated h.dated, ?_, ?_, ?_, ?_, ?_, ?_⟩
    · rw [hsteady.stream]
      exact h.inside
    · rw [hsteady.stream]
      exact h.ordered
    · rw [hsteady.stream, hsteady.timeline.currentFence]
      exact h.fences
    · rw [hsteady.config]
      exact h.pitch
    · rw [hsteady.config]
      exact h.placement
    · rw [hsteady.stream]
      exact Nat.lt_of_lt_of_le h.identifier hsteady.timeline.nextId
  | record commands =>
    exact ⟨dated_recorded h.dated commands, h.inside, h.ordered, h.fences, h.pitch, h.placement,
      h.identifier⟩
  | submit wait => exact streams_submitted h wait
  | reclaim =>
    exact ⟨h.dated, Ring.inside_reclaim h.inside _, Ring.ordered_reclaim h.ordered _,
      fun entry hentry => h.fences entry (Ring.mem_tracked_reclaim hentry), h.pitch, h.placement,
      h.identifier⟩
  | complete =>
    exact ⟨dated_completeAll h.dated, h.inside, h.ordered, h.fences, h.pitch, h.placement,
      h.identifier⟩
  | reserve hreserve =>
    obtain ⟨-, htracked, -⟩ := Ring.reserve_spec (h.capacity ▸ h.inside.read_le) hreserve
    exact ⟨h.dated, (Ring.inside_reserve h.inside hreserve).1,
      Ring.ordered_reserve h.ordered h.placement hreserve,
      fun entry hentry => h.fences entry (htracked ▸ hentry), h.pitch, h.placement, h.identifier⟩
  | write hreserved hsize houtside =>
    exact ⟨h.dated, hsize ▸ h.inside, h.ordered, h.fences, h.pitch, h.placement, h.identifier⟩
  | commit hcommit =>
    have hinside := Ring.inside_commit h.inside hcommit
    have hordered := Ring.ordered_commit h.ordered hcommit
    obtain ⟨_, _, _, rfl⟩ := Ring.commit?_eq_some hcommit
    exact ⟨h.dated, hinside, hordered, h.fences, h.pitch, h.placement, h.identifier⟩

/-- They belong together after every chain of changes. -/
theorem Evolves.streams (h : Evolves origin context) (horigin : origin.Streams) :
    context.Streams := by
  induction h with
  | refl => exact horigin
  | step _ change ih => exact streams_change ih change

/-- No change touches bytes that a copy may still read. -/
theorem shields_change {bytes : Memory} {start size fence : Nat} (hstreams : context.Streams)
    (hsize : 0 < size) (h : context.Shields bytes start size fence)
    (change : Change context next) : next.Shields bytes start size fence := by
  intro hpending
  have hordered := hstreams.ordered
  have hcontinues := continues_change change
  obtain ⟨hle, hkeeps, hbytes⟩ :=
    h (Nat.lt_of_le_of_lt (hcontinues.completedFence hstreams.dated) hpending)
  refine ⟨Nat.le_trans hle hcontinues.currentFence, ?_⟩
  cases change with
  | steady hsteady =>
    rw [hsteady.timeline.currentFence, hsteady.stream]
    exact ⟨hkeeps, hbytes⟩
  | record commands => exact ⟨hkeeps, hbytes⟩
  | complete => exact ⟨hkeeps, hbytes⟩
  | submit wait =>
    refine ⟨?_, hbytes⟩
    have hnow : fence < context.device.currentFence + 1 := by omega
    change (context.stream.ring.track context.device.currentFence).Keeps start size
      (if fence < context.device.currentFence + 1 then some fence else none)
    rw [if_pos hnow]
    have hearlier : ∀ earlier, (if fence < context.device.currentFence then some fence else none) =
        some earlier → earlier ≤ context.device.currentFence := by
      intro earlier hearlier
      split at hearlier
      · cases hearlier
        omega
      · cases hearlier
    have htrack := Ring.keeps_track hearlier hkeeps
    split at htrack
    · exact htrack
    · have heq : fence = context.device.currentFence := by omega
      rw [heq]
      exact htrack
  | reclaim =>
    refine ⟨Ring.keeps_reclaim hordered (fun later hlater => ?_) hkeeps, hbytes⟩
    split at hlater
    · cases hlater
      exact hpending
    · cases hlater
  | reserve hreserve =>
    exact ⟨Ring.keeps_reserve hordered hstreams.placement hreserve hsize hkeeps, hbytes⟩
  | commit hcommit => exact ⟨Ring.keeps_commit hordered hcommit hkeeps, hbytes⟩
  | write hreserved hmemory houtside =>
    refine ⟨hkeeps, fun index hlow hhigh => ?_⟩
    have hfits := hordered.reserved_fits _ hreserved
    have hdisjoint := hkeeps.disjoint hfits hordered.read_le hsize
    have hwithin := hkeeps.within
    rw [hstreams.capacity] at hwithin
    exact (houtside index (by omega) (by omega)).trans (hbytes index hlow hhigh)

/-- Bytes that a copy reads stay what they are until its fence completes, whatever happens to the
context. -/
theorem Evolves.shields {bytes : Memory} {start size fence : Nat} (h : Evolves origin context)
    (horigin : origin.Streams) (hsize : 0 < size)
    (hshields : origin.Shields bytes start size fence) :
    context.Shields bytes start size fence := by
  induction h with
  | refl => exact hshields
  | step hevolves change ih => exact shields_change (hevolves.streams horigin) hsize ih change

/-- What has just been committed is shielded from then on, until the submission that is being
recorded completes. -/
theorem shields_committed {ring : Ring} {size : Nat} (h : context.Streams)
    (hcommit : context.stream.ring.commit? size = some ring) :
    (context.withRing ring).Shields context.stream.memory context.stream.ring.cursor size
      context.device.currentFence := by
  intro _
  refine ⟨Nat.le_refl _, ?_, fun _ _ _ => rfl⟩
  change ring.Keeps _ _ (if context.device.currentFence < context.device.currentFence then _ else _)
  rw [if_neg (Nat.lt_irrefl _)]
  exact Ring.keeps_committed h.ordered hcommit

end Context

end Texel
