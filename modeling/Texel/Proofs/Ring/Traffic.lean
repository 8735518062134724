import Texel.Proofs.Ring.Reserve

namespace Texel

namespace Ring

/-- A call on a ring. Reserving may be repeated and commits may be left out in any order. -/
inductive Call where
  | reserve (size alignment : Nat)
  | commit (size : Nat)
  | track (fence : Nat)
  | reclaim (completed : Nat)
  deriving DecidableEq, Repr

namespace Call

/-- The fence of a tracked submission. -/
def fence? : Call → Option Nat
  | .track fence => some fence
  | _ => none

/-- Alignments are powers of two that fit 32 bits, and so does any position of the ring padded for
them. -/
def Admissible (capacity : Nat) : Call → Prop
  | .reserve _ alignment =>
    alignment.isPowerOfTwo ∧ alignment ≤ maxWord ∧ capacity + (alignment - 1) ≤ maxWord
  | _ => True

instance {capacity : Nat} (call : Call) : Decidable (call.Admissible capacity) :=
  match call with
  | .reserve _ _ => inferInstanceAs (Decidable (_ ∧ _ ∧ _))
  | .commit _ | .track _ | .reclaim _ => isTrue trivial

end Call

/-- A committed region with the fence of the first submission tracked since, if there is one. -/
structure Flight where
  start : Nat
  size : Nat
  fence : Option Nat := none
  deriving DecidableEq, Repr

namespace Flight

/-- The byte at a position belongs to the region. -/
def Covers (flight : Flight) (position : Nat) : Prop :=
  flight.start ≤ position ∧ position < flight.start + flight.size

/-- Only the first submission after the commit counts. -/
def follow (flight : Flight) (fence : Nat) : Flight :=
  { flight with fence := some (flight.fence.getD fence) }

/-- The work that reads the region is not known to be complete. -/
def awaits (completed : Nat) (flight : Flight) : Bool :=
  flight.fence.all fun fence => completed < fence

end Flight

/-- The outcome of a reservation that is neither committed nor replaced. -/
structure Reservation where
  start : Nat
  size : Nat
  alignment : Nat
  deriving DecidableEq, Repr

/-- The position is one of the reserved ones. -/
def Reservation.Covers (reservation : Reservation) (position : Nat) : Prop :=
  reservation.start ≤ position ∧ position < reservation.start + reservation.size

/-- A ring together with what its calls have brought about: the outstanding reservation, and the
committed regions in flight. A region is in flight from its commit until a reclaim has seen the
fence of the first submission tracked after the commit. -/
structure Traffic where
  ring : Ring
  reservation : Option Reservation := none
  inFlight : List Flight := []
  deriving DecidableEq, Repr

namespace Traffic

/-- A ring that was never used, with nothing in flight. -/
def start (capacity : Nat) : Traffic := { ring := { capacity } }

/-- The ring and what is in flight after a call. -/
def call (traffic : Traffic) : Call → Traffic
  | .reserve size alignment =>
    match traffic.ring.reserve size alignment with
    | .granted ring => { traffic with ring, reservation := some ⟨ring.cursor, size, alignment⟩ }
    | .refused | .abort => traffic
  | .commit size =>
    match traffic.ring.commit? size with
    | some ring =>
      { ring, reservation := none
        inFlight := traffic.inFlight ++ [{ start := traffic.ring.cursor, size }] }
    | none => traffic
  | .track fence =>
    { traffic with
      ring := traffic.ring.track fence
      inFlight := traffic.inFlight.map fun flight => flight.follow fence }
  | .reclaim completed =>
    { traffic with
      ring := traffic.ring.reclaim completed
      inFlight := traffic.inFlight.filter (Flight.awaits completed) }

/-- The ring and what is in flight after a sequence of calls. -/
def run (traffic : Traffic) (calls : List Call) : Traffic := calls.foldl call traffic

/-- What every run keeps: positions stay in order, the ring keeps each region in flight, and it
knows the outstanding reservation. -/
structure Safe (traffic : Traffic) (capacity : Nat) : Prop where
  ordered : traffic.ring.Ordered
  capacity : traffic.ring.capacity = capacity
  keeps : ∀ flight ∈ traffic.inFlight, 0 < flight.size →
    traffic.ring.Keeps flight.start flight.size flight.fence
  reserved : ∀ reservation, traffic.reservation = some reservation →
    reservation.start = traffic.ring.cursor ∧ traffic.ring.reserved = some reservation.size ∧
      reservation.alignment ∣ reservation.start

/-- Every submission that the run has seen is older than `fence`. -/
structure Before (traffic : Traffic) (fence : Nat) : Prop where
  tracked : ∀ entry ∈ traffic.ring.tracked, entry.1 < fence
  flights : ∀ flight ∈ traffic.inFlight, ∀ earlier, flight.fence = some earlier → earlier < fence

/-- A ring that was never used is safe. -/
theorem safe_start (capacity : Nat) : (start capacity).Safe capacity where
  ordered := ordered_empty capacity
  capacity := rfl
  keeps := by simp [start]
  reserved := by simp [start]

/-- A reservation avoids what is in flight. -/
theorem safe_reserve {traffic : Traffic} {capacity size alignment : Nat}
    (h : traffic.Safe capacity) (hadmissible : (Call.reserve size alignment).Admissible capacity) :
    (traffic.call (.reserve size alignment)).Safe capacity := by
  simp only [call]
  split
  · next ring hreserve =>
    obtain ⟨hpower, -, -⟩ := hadmissible
    obtain ⟨hcapacity, -, hreserved, -, hdvd⟩ := reserve_spec h.ordered.read_le hreserve
    refine ⟨ordered_reserve h.ordered hpower hreserve, hcapacity.trans h.capacity,
      fun flight hflight hsize => ?_, ?_⟩
    · exact keeps_reserve h.ordered hpower hreserve hsize (h.keeps flight hflight hsize)
    · rintro reservation ⟨⟩
      exact ⟨rfl, hreserved, hdvd hpower⟩
  · exact h
  · exact h

/-- What is committed comes in flight. -/
theorem safe_commit {traffic : Traffic} {capacity size : Nat} (h : traffic.Safe capacity) :
    (traffic.call (.commit size)).Safe capacity := by
  simp only [call]
  split
  · next ring hcommit =>
    have hcapacity : ring.capacity = capacity := by
      obtain ⟨_, _, _, rfl⟩ := commit?_eq_some hcommit
      exact h.capacity
    refine ⟨ordered_commit h.ordered hcommit, hcapacity, fun flight hflight hsize => ?_, ?_⟩
    · rcases List.mem_append.mp hflight with hold | hnew
      · exact keeps_commit h.ordered hcommit (h.keeps flight hold hsize)
      · rw [List.mem_singleton.mp hnew]
        exact keeps_committed h.ordered hcommit
    · rintro reservation ⟨⟩
  · exact h

/-- A submission takes over what was committed before it. -/
theorem safe_track {traffic : Traffic} {capacity fence : Nat} (h : traffic.Safe capacity)
    (hbefore : traffic.Before fence) : (traffic.call (.track fence)).Safe capacity := by
  refine ⟨ordered_track h.ordered hbefore.tracked, (capacity_track _ _).trans h.capacity, ?_, ?_⟩
  · intro flight hflight hsize
    obtain ⟨older, holder, rfl⟩ := List.mem_map.mp hflight
    exact keeps_track (fun earlier hearlier =>
      Nat.le_of_lt (hbefore.flights older holder earlier hearlier)) (h.keeps older holder hsize)
  · intro reservation hreservation
    obtain ⟨hstart, hsize, hdvd⟩ := h.reserved reservation hreservation
    exact ⟨hstart.trans (cursor_track _ _).symm, (reserved_track _ _).trans hsize, hdvd⟩

/-- What has completed is no longer in flight. -/
theorem safe_reclaim {traffic : Traffic} {capacity completed : Nat} (h : traffic.Safe capacity) :
    (traffic.call (.reclaim completed)).Safe capacity := by
  refine ⟨ordered_reclaim h.ordered completed, h.capacity, fun flight hflight hsize => ?_,
    h.reserved⟩
  obtain ⟨hmem, hawaits⟩ := List.mem_filter.mp hflight
  refine keeps_reclaim h.ordered ?_ (h.keeps flight hmem hsize)
  intro later hlater
  simpa [Flight.awaits, hlater] using hawaits

/-- Every admissible call keeps a ring safe. -/
theorem safe_call {traffic : Traffic} {capacity : Nat} (call : Call) (h : traffic.Safe capacity)
    (hadmissible : call.Admissible capacity)
    (hfence : ∀ fence, call.fence? = some fence → traffic.Before fence) :
    (traffic.call call).Safe capacity := by
  cases call with
  | reserve size alignment => exact safe_reserve h hadmissible
  | commit size => exact safe_commit h
  | track fence => exact safe_track h (hfence fence rfl)
  | reclaim completed => exact safe_reclaim h

/-- Later fences stay later. -/
theorem before_call {traffic : Traffic} {capacity fence : Nat} (call : Call)
    (h : traffic.Safe capacity) (hadmissible : call.Admissible capacity)
    (hbefore : traffic.Before fence)
    (hlater : ∀ tracked, call.fence? = some tracked → tracked < fence) :
    (traffic.call call).Before fence := by
  cases call with
  | reserve size alignment =>
    simp only [Traffic.call]
    split
    · next ring hreserve =>
      obtain ⟨-, htracked, -⟩ := reserve_spec h.ordered.read_le hreserve
      exact ⟨by rw [htracked]; exact hbefore.tracked, hbefore.flights⟩
    · exact hbefore
    · exact hbefore
  | commit size =>
    simp only [Traffic.call]
    split
    · next ring hcommit =>
      obtain ⟨_, _, _, rfl⟩ := commit?_eq_some hcommit
      refine ⟨hbefore.tracked, fun flight hflight earlier hearlier => ?_⟩
      rcases List.mem_append.mp hflight with hold | hnew
      · exact hbefore.flights flight hold earlier hearlier
      · rw [List.mem_singleton.mp hnew] at hearlier
        cases hearlier
    · exact hbefore
  | track tracked =>
    have htracked := hlater tracked rfl
    refine ⟨fun entry hentry => ?_, fun flight hflight earlier hearlier => ?_⟩
    · rcases mem_tracked_track hentry with hold | hnew
      · exact hbefore.tracked entry hold
      · omega
    · obtain ⟨older, holder, rfl⟩ := List.mem_map.mp hflight
      cases hfence : older.fence with
      | none =>
        simp only [Flight.follow, hfence, Option.getD_none, Option.some.injEq] at hearlier
        omega
      | some first =>
        simp only [Flight.follow, hfence, Option.getD_some, Option.some.injEq] at hearlier
        have := hbefore.flights older holder first hfence
        omega
  | reclaim completed =>
    exact ⟨fun entry hentry => hbefore.tracked entry (mem_tracked_reclaim hentry),
      fun flight hflight => hbefore.flights flight (List.mem_filter.mp hflight).1⟩

/-- What every call keeps holds along a run whose submissions are tracked in the order of their
fences. The run may carry more than the traffic with it. -/
theorem foldl_induction {State : Type} (traffic : State → Traffic) {step : State → Call → State}
    (htraffic : ∀ state call, traffic (step state call) = (traffic state).call call)
    {motive : State → Prop} {capacity : Nat} (calls : List Call) {state : State}
    (h : (traffic state).Safe capacity) (hadmissible : ∀ call ∈ calls, call.Admissible capacity)
    (hincreasing : (calls.filterMap Call.fence?).Pairwise (· < ·))
    (hbefore : ∀ fence ∈ calls.filterMap Call.fence?, (traffic state).Before fence)
    (hstart : motive state)
    (hstep : ∀ now, ∀ call ∈ calls, (traffic now).Safe capacity → call.Admissible capacity →
      (∀ fence, call.fence? = some fence → (traffic now).Before fence) → motive now →
      motive (step now call)) :
    (traffic (calls.foldl step state)).Safe capacity ∧ motive (calls.foldl step state) := by
  induction calls generalizing state with
  | nil => exact ⟨h, hstart⟩
  | cons call rest ih =>
    have hcall := hadmissible call List.mem_cons_self
    have hfirst : ∀ fence, call.fence? = some fence → (traffic state).Before fence :=
      fun fence hfence =>
        hbefore fence (List.mem_filterMap.mpr ⟨call, List.mem_cons_self, hfence⟩)
    refine ih (htraffic state call ▸ safe_call call h hcall hfirst)
      (fun later hlater => hadmissible later (List.mem_cons_of_mem _ hlater)) ?_ ?_
      (hstep state call List.mem_cons_self h hcall hfirst hstart)
      fun now later hlater => hstep now later (List.mem_cons_of_mem _ hlater)
    · cases hfence : call.fence? with
      | none => rwa [List.filterMap_cons_none hfence] at hincreasing
      | some fence =>
        rw [List.filterMap_cons_some hfence] at hincreasing
        exact hincreasing.of_cons
    · intro later hlater
      obtain ⟨source, hsource, heq⟩ := List.mem_filterMap.mp hlater
      rw [htraffic]
      refine before_call call h hcall (hbefore later
        (List.mem_filterMap.mpr ⟨source, List.mem_cons_of_mem _ hsource, heq⟩)) ?_
      intro fence hfence
      rw [List.filterMap_cons_some hfence] at hincreasing
      exact List.rel_of_pairwise_cons hincreasing hlater

/-- Every admissible sequence of calls keeps a ring safe, if the fences of its submissions increase.
-/
theorem safe_run {traffic : Traffic} {capacity : Nat} (calls : List Call)
    (h : traffic.Safe capacity) (hadmissible : ∀ call ∈ calls, call.Admissible capacity)
    (hincreasing : (calls.filterMap Call.fence?).Pairwise (· < ·))
    (hbefore : ∀ fence ∈ calls.filterMap Call.fence?, traffic.Before fence) :
    (traffic.run calls).Safe capacity :=
  (foldl_induction id (fun _ _ => rfl) (motive := fun _ => True) calls h hadmissible hincreasing
    hbefore trivial fun _ _ _ _ _ _ _ => trivial).1

/-- Every fence comes after those of a ring that was never used. -/
theorem before_start (capacity fence : Nat) : (start capacity).Before fence :=
  ⟨by simp [start], by simp [start]⟩

/-- A submission tracked after a run is later than every submission of the run. -/
theorem before_run {capacity fence : Nat} (calls : List Call)
    (hadmissible : ∀ call ∈ calls, call.Admissible capacity)
    (hincreasing : ((calls ++ [Call.track fence]).filterMap Call.fence?).Pairwise (· < ·)) :
    ((start capacity).run calls).Before fence := by
  rw [List.filterMap_append, List.pairwise_append] at hincreasing
  obtain ⟨hordered, -, hlater⟩ := hincreasing
  refine (foldl_induction id (fun _ _ => rfl) (motive := fun now => now.Before fence) calls
    (safe_start capacity) hadmissible hordered (fun earlier _ => before_start capacity earlier)
    (before_start capacity fence) ?_).2
  intro now call hcall hsafe hadmits _ hbefore
  refine before_call call hsafe hadmits hbefore fun tracked htracked => ?_
  exact hlater tracked (List.mem_filterMap.mpr ⟨call, hcall, htracked⟩) fence List.mem_cons_self

/-- Whatever was called before, with submissions tracked in the order of their fences: the cursor
stays within the ring, so that its padding for another alignment fits 32 bits and a request for room
ends the program only at the end of a ring that an alignment takes to 2 ^ 32; and while a
reservation is outstanding its region starts at the cursor, is aligned, ends within the ring and
shares no byte with a region in flight. -/
theorem reservation_avoids_in_flight {capacity : Nat} (calls : List Call)
    (hadmissible : ∀ call ∈ calls, call.Admissible capacity)
    (hincreasing : (calls.filterMap Call.fence?).Pairwise (· < ·)) :
    let now := (start capacity).run calls
    (now.ring.cursor ≤ capacity ∧ ∀ size alignment,
      (Call.reserve size alignment).Admissible capacity →
      alignUp? now.ring.cursor alignment = some (alignUp now.ring.cursor alignment) ∧
      (now.ring.reserve size alignment = .abort →
        now.ring.cursor = capacity ∧ capacity + alignment = maxWord + 1)) ∧
    ∀ reservation, now.reservation = some reservation →
      reservation.start = now.ring.cursor ∧ now.ring.reserved = some reservation.size ∧
      reservation.alignment ∣ reservation.start ∧
      reservation.start + reservation.size ≤ capacity ∧
      ∀ flight ∈ now.inFlight, ∀ position,
        ¬ (flight.Covers position ∧ reservation.Covers position) := by
  intro now
  have hsafe : now.Safe capacity := safe_run calls (safe_start capacity) hadmissible hincreasing
    fun fence _ => ⟨by simp [start], by simp [start]⟩
  have hcursor : now.ring.cursor ≤ capacity := hsafe.capacity ▸ hsafe.ordered.cursor_le
  refine ⟨⟨hcursor, ?_⟩, ?_⟩
  · rintro size alignment ⟨hpower, halignment, hword⟩
    refine ⟨(alignUp?_eq_some_iff hpower).mpr ⟨by omega, rfl⟩, fun habort => ?_⟩
    obtain ⟨-, hover⟩ := reserve_eq_abort_iff.mp habort
    have hrestart := restart_cursor_le now.ring
    omega
  · intro reservation hreservation
    obtain ⟨hstart, hreserved, hdvd⟩ := hsafe.reserved reservation hreservation
    have hfits := hsafe.ordered.reserved_fits _ hreserved
    refine ⟨hstart, hreserved, hdvd, ?_, ?_⟩
    · rw [hstart, ← hsafe.capacity]
      exact hfits.1
    · rintro flight hflight position ⟨⟨hlow, hhigh⟩, hfirst, hlast⟩
      have hdisjoint := (hsafe.keeps flight hflight (by omega)).disjoint hfits
        hsafe.ordered.read_le (by omega)
      omega

/-- A ring of 32 bytes that has wrapped: the reservation at its start, made while twelve bytes are
in flight, outlasts another submission and a reclaim. -/
theorem reservation_avoids_in_flight_wrapped :
    let now := (start 32).run [.reserve 16 4, .commit 16, .track 1, .reserve 12 4, .commit 12,
      .track 2, .reclaim 1, .reserve 8 4, .track 3, .reclaim 1]
    now.reservation = some ⟨0, 8, 4⟩ ∧ now.inFlight = [⟨16, 12, some 2⟩] ∧
      ∀ position, ¬ ((⟨16, 12, some 2⟩ : Flight).Covers position ∧
        (⟨0, 8, 4⟩ : Reservation).Covers position) := by
  intro now
  have hreservation : now.reservation = some ⟨0, 8, 4⟩ := by decide
  have hinFlight : now.inFlight = [⟨16, 12, some 2⟩] := by decide
  obtain ⟨-, h⟩ := @reservation_avoids_in_flight 32 [.reserve 16 4, .commit 16, .track 1,
    .reserve 12 4, .commit 12, .track 2, .reclaim 1, .reserve 8 4, .track 3, .reclaim 1]
    (by decide) (by decide)
  obtain ⟨-, -, -, -, havoids⟩ := h _ hreservation
  have hmem : (⟨16, 12, some 2⟩ : Flight) ∈ now.inFlight := by
    rw [hinFlight]
    exact List.mem_singleton_self _
  exact ⟨hreservation, hinFlight, havoids _ hmem⟩

end Traffic

end Ring

end Texel
