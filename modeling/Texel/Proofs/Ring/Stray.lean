import Texel.Proofs.Ring.Idle
import Mathlib.Data.List.Chain

namespace Texel

namespace Ring

/-- The call asks for a reservation. -/
def Call.reserves : Call → Bool
  | .reserve .. => true
  | _ => false

/-- Each tracked submission reads further than what was tracked before it. -/
def Stepped (ring : Ring) : Prop :=
  (ring.readPosition :: ring.tracked.map Prod.snd).IsChain (· ≠ ·)

/-- With nothing tracked there is no step to take. -/
theorem stepped_of_tracked_nil {ring : Ring} (h : ring.tracked = []) : ring.Stepped := by
  simp [Stepped, h]

/-- The last of the positions that work reads up to. -/
theorem getLast?_positions (ring : Ring) :
    (ring.readPosition :: ring.tracked.map Prod.snd).getLast? = some ring.frontier := by
  rw [List.getLast?_cons, List.getLast?_map, frontier]

/-- Tracking a submission adds a step only if the cursor has moved. -/
theorem stepped_track {ring : Ring} (h : ring.Stepped) (fence : Nat) :
    (ring.track fence).Stepped := by
  rw [track_eq_of_frontier]
  split
  · exact h
  · next hfrontier =>
    have hlast : ∀ position ∈ (ring.readPosition :: ring.tracked.map Prod.snd).getLast?,
        ∀ next ∈ [ring.cursor].head?, position ≠ next := by
      rw [getLast?_positions]
      rintro position ⟨⟩ next ⟨⟩
      exact hfrontier
    have happend := List.isChain_append.mpr ⟨h, List.isChain_singleton ring.cursor, hlast⟩
    simpa [Stepped] using happend

/-- Getting space back takes steps away. -/
theorem stepped_reclaim {ring : Ring} (h : ring.Stepped) (completed : Nat) :
    (ring.reclaim completed).Stepped := by
  refine reclaim_induction (motive := Stepped) ?_ ring h
  intro now fence position rest htracked _ hnow
  unfold Stepped at hnow
  rw [htracked] at hnow
  exact hnow.tail

/-- A reservation adds no step. -/
theorem stepped_reserve {ring after : Ring} {size alignment : Nat} (h : ring.Stepped)
    (hreserve : ring.reserve size alignment = .granted after) : after.Stepped := by
  obtain ⟨-, _, -, hplace⟩ := place?_of_reserve hreserve
  by_cases hidle : ring.Idle
  · rw [eq_of_granted_of_idle hidle hreserve]
    exact stepped_of_tracked_nil hidle.2
  · rw [restart_of_not_idle hidle] at hplace
    obtain ⟨_, _, rfl, -⟩ := place?_eq_some hplace
    exact h

/-- The cursor stands at the read position only if there is nothing between them. -/
theorem idle_of_cursor_eq {ring : Ring} (h : ring.Ordered) (hstepped : ring.Stepped)
    (hcursor : ring.cursor = ring.readPosition) : ring.Idle := by
  refine ⟨hcursor, ?_⟩
  cases htracked : ring.tracked with
  | nil => rfl
  | cons entry rest =>
    have hmem : entry ∈ ring.tracked := by simp [htracked]
    have hahead := h.tracked_ahead entry hmem
    have hle := h.tracked_le entry hmem
    have hne : ring.readPosition ≠ entry.2 := by
      unfold Stepped at hstepped
      rw [htracked, List.map_cons] at hstepped
      exact (List.isChain_cons_cons.mp hstepped).1
    have hread := h.read_le
    simp only [ahead, hcursor] at hahead
    split_ifs at hahead <;> omega

/-- A ring that is not idle cannot be filled as a whole. -/
theorem reserve_capacity_ne_granted {ring : Ring} (h : ring.Ordered) (hstepped : ring.Stepped)
    (hidle : ¬ ring.Idle) (after : Ring) : ring.reserve ring.capacity 1 ≠ .granted after := by
  intro hgranted
  obtain ⟨-, aligned, haligned, hplace⟩ := place?_of_reserve hgranted
  obtain ⟨-, rfl⟩ := (alignPlain?_eq_some_iff Nat.isPowerOfTwo_one).mp haligned
  rw [alignUp_one, restart_of_not_idle hidle] at hplace
  obtain ⟨start, wraps, -, hroom⟩ := place?_eq_some hplace
  have hapart : ring.cursor ≠ ring.readPosition := fun heq =>
    hidle (idle_of_cursor_eq h hstepped heq)
  have hread := h.read_le
  omega

/-- Bytes that no submission reads yet lie ahead of every tracked position. -/
theorem ahead_frontier_le_of_keeps {ring : Ring} {start size : Nat}
    (h : ring.Keeps start size none) : ring.ahead ring.frontier ≤ ring.ahead start := by
  cases hlast : ring.tracked.getLast? with
  | none =>
    rw [frontier_of_tracked_nil (List.getLast?_eq_none_iff.mp hlast)]
    simp [ahead]
  | some entry =>
    rw [frontier_of_getLast? hlast]
    apply h.after_tracked entry (List.mem_of_getLast? hlast)
    intro later hlater
    cases hlater

/-- Bytes that no submission covers lie between what work reads and the cursor. -/
theorem frontier_ne_cursor_of_keeps {ring : Ring} {start size : Nat}
    (h : ring.Keeps start size none) (hsize : 0 < size) : ring.frontier ≠ ring.cursor := by
  intro heq
  have hfrontier := ahead_frontier_le_of_keeps h
  have hbefore := h.before_cursor
  rw [heq] at hfrontier
  omega

/-- The last submission tracked has the highest fence. -/
theorem fence_le_of_getLast? {ring : Ring} {fence position : Nat} (h : ring.Ordered)
    (hlast : ring.tracked.getLast? = some (fence, position)) :
    ∀ entry ∈ ring.tracked, entry.1 ≤ fence := by
  intro entry hentry
  obtain ⟨earlier, hsplit⟩ := List.getLast?_eq_some_iff.mp hlast
  have hfences := h.fences
  rw [hsplit] at hentry hfences
  rcases List.mem_append.mp hentry with hold | hnew
  · have := (List.pairwise_append.mp hfences).2.2 entry hold (fence, position) List.mem_cons_self
    omega
  · rw [List.mem_singleton.mp hnew]

/-- A submission that has not completed stays the latest one. -/
theorem getLast?_reclaim {ring : Ring} {fence position completed : Nat}
    (hlast : ring.tracked.getLast? = some (fence, position)) (hpending : completed < fence) :
    (ring.reclaim completed).tracked.getLast? = some (fence, position) := by
  refine reclaim_induction (motive := fun now => now.tracked.getLast? = some (fence, position)) ?_
    ring hlast
  intro now passed other rest htracked hpassed hnow
  rw [htracked, List.getLast?_cons, Option.some.injEq] at hnow
  change rest.getLast? = _
  cases hrest : rest.getLast? with
  | none =>
    rw [hrest] at hnow
    cases hnow
    omega
  | some entry =>
    rw [hrest] at hnow
    exact congrArg some hnow

namespace Traffic

/-- The ring is idle, or the bytes committed last are in flight. A submission that reads them is
then the latest that was tracked, and it reads up to the cursor. -/
def Settled (traffic : Traffic) : Prop :=
  traffic.ring.Idle ∨ ∃ flight ∈ traffic.inFlight, 0 < flight.size ∧
    ∀ fence, flight.fence = some fence →
      traffic.ring.tracked.getLast? = some (fence, traffic.ring.cursor)

variable {traffic : Traffic} {capacity : Nat}

/-- A ring with nothing in flight is idle unless its cursor has strayed. -/
theorem Settled.idle (h : traffic.Settled)
    (hflights : ∀ flight ∈ traffic.inFlight, flight.size = 0) : traffic.ring.Idle := by
  rcases h with hidle | ⟨flight, hflight, hsize, -⟩
  · exact hidle
  · have := hflights flight hflight
    omega

/-- A reservation that does not move the cursor leaves a settled ring settled. -/
theorem settled_reserve {size alignment : Nat} (h : traffic.Safe capacity)
    (hsettled : traffic.Settled)
    (hstays : (traffic.call (.reserve size alignment)).ring.cursor = traffic.ring.cursor) :
    (traffic.call (.reserve size alignment)).Settled := by
  cases hreserve : traffic.ring.reserve size alignment with
  | refused => simpa only [call, hreserve] using hsettled
  | abort => simpa only [call, hreserve] using hsettled
  | granted after =>
    simp only [call, hreserve] at hstays ⊢
    obtain ⟨-, htracked, -⟩ := reserve_spec h.ordered.read_le hreserve
    rcases hsettled with hidle | ⟨flight, hflight, hsize, hlast⟩
    · rw [eq_of_granted_of_idle hidle hreserve]
      exact .inl ⟨rfl, hidle.2⟩
    · refine .inr ⟨flight, hflight, hsize, ?_⟩
      simp only [htracked, hstays]
      exact hlast

/-- Committing bytes settles the ring, wherever the reservation had moved the cursor. -/
theorem settled_commit {size : Nat}
    (hsettled : (traffic.call (.commit size)).ring.cursor = traffic.ring.cursor →
      traffic.Settled) : (traffic.call (.commit size)).Settled := by
  cases hcommit : traffic.ring.commit? size with
  | none => simpa only [call, hcommit, forall_const] using hsettled
  | some after =>
    obtain ⟨_, -, -, rfl⟩ := commit?_eq_some hcommit
    simp only [call, hcommit] at hsettled ⊢
    rcases Nat.eq_zero_or_pos size with rfl | hsize
    · rcases hsettled rfl with hidle | ⟨flight, hflight, hpositive, hlast⟩
      · exact .inl hidle
      · exact .inr ⟨flight, List.mem_append_left _ hflight, hpositive, hlast⟩
    · refine .inr ⟨_, List.mem_append_right _ List.mem_cons_self, hsize, ?_⟩
      intro fence hfence
      cases hfence

/-- Tracking a submission leaves a settled ring settled. -/
theorem settled_track {fence : Nat} (h : traffic.Safe capacity) (hsettled : traffic.Settled) :
    (traffic.call (.track fence)).Settled := by
  simp only [call]
  rcases hsettled with hidle | ⟨flight, hflight, hsize, hlast⟩
  · have hfrontier : traffic.ring.frontier = traffic.ring.cursor := by
      rw [frontier_of_tracked_nil hidle.2, hidle.1]
    rw [Settled, track_eq_of_frontier, if_pos hfrontier]
    exact .inl hidle
  · refine .inr ⟨flight.follow fence, List.mem_map_of_mem hflight, hsize, ?_⟩
    intro later hlater
    rw [track_eq_of_frontier]
    cases hfence : flight.fence with
    | none =>
      have hkeeps := h.keeps flight hflight hsize
      rw [hfence] at hkeeps
      simp only [Flight.follow, hfence, Option.getD_none, Option.some.injEq] at hlater
      simp [frontier_ne_cursor_of_keeps hkeeps hsize, hlater]
    | some first =>
      simp only [Flight.follow, hfence, Option.getD_some, Option.some.injEq] at hlater
      have hlatest := hlast first hfence
      rw [if_pos (frontier_of_getLast? hlatest), ← hlater]
      exact hlatest

/-- Getting space back leaves a settled ring settled. -/
theorem settled_reclaim {completed : Nat} (h : traffic.Safe capacity)
    (hsettled : traffic.Settled) : (traffic.call (.reclaim completed)).Settled := by
  simp only [call]
  rcases hsettled with hidle | ⟨flight, hflight, hsize, hlast⟩
  · rw [Settled, reclaim_of_tracked_nil hidle.2]
    exact .inl hidle
  · cases hfence : flight.fence with
    | none =>
      have hawaits : flight.awaits completed = true := by simp [Flight.awaits, hfence]
      refine .inr ⟨flight, List.mem_filter.mpr ⟨hflight, hawaits⟩, hsize, ?_⟩
      intro fence hsome
      cases hfence.symm.trans hsome
    | some fence =>
      have hlatest := hlast fence hfence
      by_cases hpending : completed < fence
      · have hawaits : flight.awaits completed = true := by simp [Flight.awaits, hfence, hpending]
        refine .inr ⟨flight, List.mem_filter.mpr ⟨hflight, hawaits⟩, hsize, ?_⟩
        intro later hlater
        cases hfence.symm.trans hlater
        exact getLast?_reclaim hlatest hpending
      · refine .inl (idle_reclaim_of_frontier (frontier_of_getLast? hlatest) ?_)
        intro entry hentry
        have := fence_le_of_getLast? h.ordered hlatest entry hentry
        omega

/-- Every call keeps the steps. -/
theorem stepped_call (call : Call) (hstepped : traffic.ring.Stepped) :
    (traffic.call call).ring.Stepped := by
  cases call with
  | reserve size alignment =>
    simp only [Traffic.call]
    split
    · next after hreserve =>
      exact stepped_reserve hstepped hreserve
    · exact hstepped
    · exact hstepped
  | commit size =>
    simp only [Traffic.call]
    split
    · next after hcommit =>
      obtain ⟨_, -, -, rfl⟩ := commit?_eq_some hcommit
      exact hstepped
    · exact hstepped
  | track fence => exact stepped_track hstepped fence
  | reclaim completed => exact stepped_reclaim hstepped completed

end Traffic

/-- A run of a ring that also knows whether the cursor has strayed. -/
structure Trail where
  traffic : Traffic
  strayed : Bool := false

namespace Trail

/-- A ring that was never used, with a cursor that has not strayed. -/
def start (capacity : Nat) : Trail := { traffic := .start capacity }

/-- A reservation that moves the cursor makes it stray. Committing bytes there makes up for it, and
so does an idle ring. -/
def call (trail : Trail) (call : Call) : Trail :=
  let next := trail.traffic.call call
  { traffic := next
    strayed :=
      if next.ring.Idle then false
      else if next.ring.cursor = trail.traffic.ring.cursor then trail.strayed
      else call.reserves }

/-- The trail of a sequence of calls. -/
def run (trail : Trail) (calls : List Call) : Trail := calls.foldl call trail

/-- The trail of a run goes along with its traffic. -/
theorem traffic_run (trail : Trail) (calls : List Call) :
    (trail.run calls).traffic = trail.traffic.run calls := by
  induction calls generalizing trail with
  | nil => rfl
  | cons call rest ih => exact ih (trail.call call)

/-- What every run keeps: only an idle ring or bytes in flight account for a cursor that has not
strayed, and the cursor of an idle ring has not. -/
structure Followed (trail : Trail) : Prop where
  stepped : trail.traffic.ring.Stepped
  settled : trail.strayed = false → trail.traffic.Settled
  idle : trail.traffic.ring.Idle → trail.strayed = false

/-- A cursor that has not moved has not strayed. -/
theorem followed_start (capacity : Nat) : (start capacity).Followed where
  stepped := stepped_of_tracked_nil rfl
  settled _ := .inl ⟨rfl, rfl⟩
  idle _ := rfl

/-- A call that does not make the cursor stray leaves the ring settled. -/
theorem settled_call {trail : Trail} {capacity : Nat} (call : Call)
    (h : trail.traffic.Safe capacity) (hadmissible : call.Admissible capacity)
    (hsettled : trail.strayed = false → trail.traffic.Settled)
    (hstrayed : (trail.call call).strayed = false) : (trail.call call).traffic.Settled := by
  by_cases hidle : (trail.traffic.call call).ring.Idle
  · exact .inl hidle
  by_cases hstays : (trail.traffic.call call).ring.cursor = trail.traffic.ring.cursor
  · have hbefore : trail.traffic.Settled := by
      apply hsettled
      simpa only [Trail.call, if_neg hidle, if_pos hstays] using hstrayed
    cases call with
    | reserve size alignment =>
      exact Traffic.settled_reserve h hbefore hstays
    | commit size => exact Traffic.settled_commit fun _ => hbefore
    | track fence => exact Traffic.settled_track h hbefore
    | reclaim completed => exact Traffic.settled_reclaim h hbefore
  · -- only reservations and commits move the cursor, and the cursor has not strayed
    cases call with
    | reserve size alignment =>
      simp only [Trail.call, if_neg hidle, if_neg hstays] at hstrayed
      cases hstrayed
    | commit size => exact Traffic.settled_commit fun hsame => absurd hsame hstays
    | track fence => exact absurd (cursor_track _ fence) hstays
    | reclaim completed => exact absurd rfl hstays

/-- Every call moves the trail as it moves the cursor. -/
theorem followed_call {trail : Trail} {capacity : Nat} (call : Call)
    (h : trail.traffic.Safe capacity) (hadmissible : call.Admissible capacity)
    (hfollowed : trail.Followed) : (trail.call call).Followed where
  stepped := Traffic.stepped_call call hfollowed.stepped
  settled := settled_call call h hadmissible hfollowed.settled
  idle hidle := if_pos hidle

/-- The trail of a run tells whether the cursor has strayed. -/
theorem followed_run {capacity : Nat} (calls : List Call)
    (hadmissible : ∀ call ∈ calls, call.Admissible capacity)
    (hincreasing : (calls.filterMap Call.fence?).Pairwise (· < ·)) :
    ((start capacity).run calls).traffic.Safe capacity ∧ ((start capacity).run calls).Followed :=
  Traffic.foldl_induction traffic (fun _ _ => rfl) calls (Traffic.safe_start capacity) hadmissible
    hincreasing (fun fence _ => Traffic.before_start capacity fence) (followed_start capacity)
    fun _ call _ hsafe hadmits _ hfollowed => followed_call call hsafe hadmits hfollowed

end Trail

namespace Traffic

/-- With no bytes in flight, a ring grants every request that it can hold exactly if reservations
alone have not moved its cursor since bytes were last committed or the ring was last idle. -/
theorem grants_all_iff_not_strayed {capacity : Nat} (hcapacity : capacity ≤ maxWord)
    (calls : List Call) (hadmissible : ∀ call ∈ calls, call.Admissible capacity)
    (hincreasing : (calls.filterMap Call.fence?).Pairwise (· < ·))
    (hflights : ∀ flight ∈ ((start capacity).run calls).inFlight, flight.size = 0) :
    let now := ((start capacity).run calls).ring
    (∀ size alignment, size ≤ capacity → (Call.reserve size alignment).Admissible capacity →
      ∃ after, now.reserve size alignment = .granted after) ↔
    ((Trail.start capacity).run calls).strayed = false := by
  intro now
  obtain ⟨hsafe, hfollowed⟩ := Trail.followed_run calls hadmissible hincreasing
  have htraffic : ((Trail.start capacity).run calls).traffic = (start capacity).run calls :=
    Trail.traffic_run _ calls
  obtain ⟨hstepped, hsettled, hidle⟩ := hfollowed
  rw [htraffic] at hsafe hstepped hsettled hidle
  constructor
  · intro hgrants
    apply hidle
    by_contra hbusy
    obtain ⟨after, hafter⟩ :=
      hgrants capacity 1 (Nat.le_refl _) ⟨Nat.isPowerOfTwo_one, by decide, by omega⟩
    rw [← hsafe.capacity] at hafter
    exact reserve_capacity_ne_granted hsafe.ordered hstepped hbusy after hafter
  · rintro hstrayed size alignment hsize ⟨-, halignment, -⟩
    have hroom : size ≤ now.capacity := by rwa [hsafe.capacity]
    exact ⟨_, reserve_of_idle ((hsettled hstrayed).idle hflights) hroom halignment⟩

/-- Nine bytes were committed in two regions, the second one aligned, and all of them were read: the
ring grants whatever it can hold. If the second region is reserved but never committed, it does
not. -/
theorem grants_all_iff_not_strayed_aligned :
    (∀ size alignment, size ≤ 32 → (Call.reserve size alignment).Admissible 32 →
      ∃ after, ((start 32).run [.reserve 5 1, .commit 5, .track 1, .reserve 4 8, .commit 4,
        .track 2, .reclaim 2]).ring.reserve size alignment = .granted after) ∧
    ¬ ∀ size alignment, size ≤ 32 → (Call.reserve size alignment).Admissible 32 →
      ∃ after, ((start 32).run [.reserve 5 1, .commit 5, .track 1, .reserve 4 8,
        .reclaim 1]).ring.reserve size alignment = .granted after := by
  have hcommitted := grants_all_iff_not_strayed (by decide : 32 ≤ maxWord)
    [.reserve 5 1, .commit 5, .track 1, .reserve 4 8, .commit 4, .track 2, .reclaim 2] (by decide)
    (by decide) (by decide)
  have habandoned := grants_all_iff_not_strayed (by decide : 32 ≤ maxWord)
    [.reserve 5 1, .commit 5, .track 1, .reserve 4 8, .reclaim 1] (by decide) (by decide)
    (by decide)
  refine ⟨hcommitted.mpr (by decide), fun hgrants => ?_⟩
  cases habandoned.mp hgrants

/-- Five bytes were committed and read, and a reservation for four more was given up. Nothing is in
flight, and still the ring cannot be filled. -/
theorem refuses_with_nothing_in_flight :
    let calls : List Call := [.reserve 5 1, .commit 5, .track 1, .reserve 4 8, .reclaim 1]
    (∀ call ∈ calls, call.Admissible 32) ∧ (calls.filterMap Call.fence?).Pairwise (· < ·) ∧
      (Call.reserve 32 1).Admissible 32 ∧
      (∀ flight ∈ ((start 32).run calls).inFlight, flight.size = 0) ∧
      ((start 32).run calls).ring.reserve 32 1 = .refused := by
  decide

end Traffic

end Ring

end Texel
