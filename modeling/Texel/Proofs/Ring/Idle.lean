import Texel.Proofs.Ring.Traffic

namespace Texel

namespace Ring

/-- No submission is waited for, and the device has read all that lies behind the cursor. -/
def Idle (ring : Ring) : Prop := ring.cursor = ring.readPosition ∧ ring.tracked = []

instance (ring : Ring) : Decidable ring.Idle := inferInstanceAs (Decidable (_ ∧ _))

/-- The read position once every tracked submission has completed. -/
def frontier (ring : Ring) : Nat := (ring.tracked.getLast?.map Prod.snd).getD ring.readPosition

/-- With nothing tracked, work is known to read up to the read position. -/
@[simp] theorem frontier_of_tracked_nil {ring : Ring} (h : ring.tracked = []) :
    ring.frontier = ring.readPosition := by
  simp [frontier, h]

/-- The last submission tracked tells how far work is known to read. -/
theorem frontier_of_getLast? {ring : Ring} {entry : Nat × Nat}
    (h : ring.tracked.getLast? = some entry) : ring.frontier = entry.2 := by
  simp [frontier, h]

/-- The read position may follow a submission without a change to the last one. -/
@[simp] theorem frontier_advance {ring : Ring} {fence position : Nat} {rest : List (Nat × Nat)}
    (h : ring.tracked = (fence, position) :: rest) :
    (ring.advance position rest).frontier = ring.frontier := by
  cases rest with
  | nil => simp [frontier, advance, h]
  | cons entry later => simp [frontier, advance, h, List.getLast?_eq_some_getLast]

/-- An idle ring starts again from its beginning. -/
theorem restart_of_idle {ring : Ring} (h : ring.Idle) :
    ring.restart = { ring with cursor := 0, readPosition := 0 } := by
  apply if_pos
  exact h

/-- A ring with something in flight does not start again. -/
theorem restart_of_not_idle {ring : Ring} (h : ¬ ring.Idle) : ring.restart = ring := by
  apply if_neg
  exact h

/-- An idle ring has room at its start for whatever it can hold. -/
theorem reserve_of_idle {ring : Ring} {size alignment : Nat} (h : ring.Idle)
    (hsize : size ≤ ring.capacity) (halignment : alignment ≤ maxWord) :
    ring.reserve size alignment =
      .granted { ring with cursor := 0, readPosition := 0, reserved := some size } := by
  have hstart : alignPlain? 0 alignment = some 0 := alignWithin?_zero halignment
  have hend : 0 + size ≤ ring.capacity := by omega
  simp only [reserve_eq hsize, restart_of_idle h, hstart, place?, Nat.le_refl, if_true, hend,
    Option.elim_some]

/-- What an idle ring can hold is never refused for lack of room. -/
theorem not_refused_of_idle {ring : Ring} {size alignment : Nat} (h : ring.Idle)
    (hsize : size ≤ ring.capacity) : ring.reserve size alignment ≠ .refused := by
  by_cases halignment : alignment ≤ maxWord
  · rw [reserve_of_idle h hsize halignment]
    simp
  · have habort : ring.reserve size alignment = .abort :=
      reserve_eq_abort_iff.mpr ⟨hsize, by omega⟩
    rw [habort]
    simp

/-- Room that an idle ring grants lies at its start. -/
theorem eq_of_granted_of_idle {ring after : Ring} {size alignment : Nat} (h : ring.Idle)
    (hreserve : ring.reserve size alignment = .granted after) :
    after = { ring with cursor := 0, readPosition := 0, reserved := some size } := by
  obtain ⟨hsize, aligned, haligned, -⟩ := place?_of_reserve hreserve
  rw [restart_of_idle h] at haligned
  have hfits := add_le_maxWord_of_alignWithin? haligned
  rw [reserve_of_idle h hsize (by omega)] at hreserve
  cases hreserve
  rfl

/-- A ring that was refused room could align its cursor: had the request found the ring idle, it
would have been granted. So the program does not end at a second request, from the same cursor. -/
theorem not_abort_after_refused {ring later : Ring} {size alignment : Nat}
    (h : ring.reserve size alignment = .refused) (hcapacity : later.capacity = ring.capacity)
    (hcursor : later.cursor = ring.cursor) : later.reserve size alignment ≠ .abort := by
  intro habort
  obtain ⟨hsize, hlimit⟩ := reserve_eq_abort_iff.mp habort
  rw [hcapacity] at hsize
  have hrestart := restart_cursor_le later
  have hfirst : ring.reserve size alignment ≠ .abort := by
    rw [h]
    simp
  rw [ne_eq, reserve_eq_abort_iff, not_and] at hfirst
  have haligns := hfirst hsize
  by_cases hidle : ring.Idle
  · rw [restart_of_idle hidle] at haligns
    rw [reserve_of_idle hidle hsize (by omega)] at h
    cases h
  · rw [restart_of_not_idle hidle] at haligns
    omega

/-- Whether or not the submission is remembered, what it reads ends at the cursor. -/
theorem track_eq_of_frontier (ring : Ring) (fence : Nat) :
    ring.track fence = if ring.frontier = ring.cursor then ring
      else { ring with tracked := ring.tracked ++ [(fence, ring.cursor)] } := by
  unfold track
  split
  · next first position hlast =>
    rw [frontier_of_getLast? hlast]
  · next hlast =>
    have hnil := List.getLast?_eq_none_iff.mp hlast
    simp only [frontier_of_tracked_nil hnil, hnil, List.nil_append, eq_comm]

/-- After a submission, work is known to read up to the cursor. -/
@[simp] theorem frontier_track (ring : Ring) (fence : Nat) :
    (ring.track fence).frontier = ring.cursor := by
  rw [track_eq_of_frontier]
  split
  · assumption
  · simp [frontier]

/-- The read position catches up with the last tracked submission. -/
theorem reclaim_of_all_passed {ring : Ring} {completed : Nat}
    (h : ∀ entry ∈ ring.tracked, entry.1 ≤ completed) :
    ring.reclaim completed = ring.advance ring.frontier [] := by
  generalize htracked : ring.tracked = tracked
  induction tracked generalizing ring with
  | nil =>
    rw [reclaim_of_tracked_nil htracked, frontier_of_tracked_nil htracked]
    simp [advance, ← htracked]
  | cons entry rest ih =>
    obtain ⟨fence, position⟩ := entry
    rw [htracked] at h
    have hfirst : fence ≤ completed := h (fence, position) List.mem_cons_self
    have hrest : ∀ later ∈ (ring.advance position rest).tracked, later.1 ≤ completed := by
      intro later hlater
      exact h later (List.mem_cons_of_mem _ hlater)
    rw [reclaim_of_passed htracked hfirst, ih hrest rfl, frontier_advance htracked]
    rfl

/-- A ring is idle once every submission has completed, if the cursor has not moved since the last.
-/
theorem idle_reclaim_of_frontier {ring : Ring} {completed : Nat}
    (hfrontier : ring.frontier = ring.cursor) (h : ∀ entry ∈ ring.tracked, entry.1 ≤ completed) :
    (ring.reclaim completed).Idle := by
  rw [reclaim_of_all_passed h]
  exact ⟨hfrontier.symm, rfl⟩

/-- When the latest submission has completed nothing is in flight, whatever was tracked before and
even if the cursor was moved by reservations that nobody committed. -/
theorem idle_reclaim_track {ring : Ring} {fence completed : Nat}
    (hfences : ∀ entry ∈ ring.tracked, entry.1 < fence) (h : fence ≤ completed) :
    ((ring.track fence).reclaim completed).Idle := by
  apply idle_reclaim_of_frontier
  · rw [frontier_track, cursor_track]
  · intro entry hentry
    rcases mem_tracked_track hentry with hold | hnew
    · have := hfences entry hold
      omega
    · omega

namespace Traffic

/-- Whatever was called before, a further submission that has completed leaves the ring idle. -/
theorem idle_run_completed {capacity fence completed : Nat} (calls : List Call)
    (hadmissible : ∀ call ∈ calls, call.Admissible capacity)
    (hincreasing : ((calls ++ [Call.track fence]).filterMap Call.fence?).Pairwise (· < ·))
    (hcompleted : fence ≤ completed) :
    let now := (start capacity).run (calls ++ [.track fence, .reclaim completed])
    now.ring.Idle ∧ now.ring.capacity = capacity := by
  intro now
  have hordered : (calls.filterMap Call.fence?).Pairwise (· < ·) := by
    rw [List.filterMap_append] at hincreasing
    exact (List.pairwise_append.mp hincreasing).1
  have hbefore := before_run calls hadmissible hincreasing
  have hsafe : ((start capacity).run calls).Safe capacity :=
    safe_run calls (safe_start capacity) hadmissible hordered fun earlier _ =>
      before_start capacity earlier
  have hring : now.ring = (((start capacity).run calls).ring.track fence).reclaim completed := by
    simp [now, run, call]
  rw [hring]
  refine ⟨idle_reclaim_track hbefore.tracked hcompleted, ?_⟩
  exact (capacity_track _ fence).trans hsafe.capacity

end Traffic

end Ring

end Texel
