import Texel.Proofs.Ring.Idle
import Texel.Proofs.Session.Operation

namespace Texel

namespace Ring

/-- Where a reservation looks for room first. Nothing if the cursor cannot be rounded up in 32
bits. -/
def rounded? (ring : Ring) (alignment : Nat) : Option Nat :=
  alignPlain? ring.restart.cursor alignment

/-- The rounded position is computed, and it is the next one that the alignment allows. -/
def RoundsExactly (ring : Ring) (alignment : Nat) : Prop :=
  ∃ position, ring.rounded? alignment = some position ∧
    IsLeast { multiple | alignment ∣ multiple ∧ ring.restart.cursor ≤ multiple } position

/-- The sum on the way is that of the cursor and the whole alignment. -/
theorem roundsExactly_iff {ring : Ring} {alignment : Nat} (hpower : alignment.isPowerOfTwo) :
    ring.RoundsExactly alignment ↔ ring.restart.cursor + alignment ≤ maxWord := by
  constructor
  · rintro ⟨position, hrounded, -⟩
    exact ((alignPlain?_eq_some_iff hpower).mp hrounded).1
  · intro hsum
    exact ⟨_, (alignPlain?_eq_some_iff hpower).mpr ⟨hsum, rfl⟩,
      isLeast_alignUp (Nat.pos_of_isPowerOfTwo hpower)⟩

/-- A reservation that does not wrap is made at the rounded position. -/
theorem cursor_reserve {ring after : Ring} {size alignment : Nat}
    (h : ring.reserve size alignment = .granted after) (hwraps : after.wraps = ring.wraps) :
    ring.rounded? alignment = some after.cursor := by
  have hbefore : ring.restart.wraps = ring.wraps := by
    unfold restart
    split <;> rfl
  obtain ⟨-, aligned, haligned, hplace⟩ := place?_of_reserve h
  obtain ⟨start, wraps, rfl, ⟨hstart, -⟩ | ⟨-, hwrapped, -⟩⟩ := place?_eq_some hplace
  · rw [hstart]
    exact haligned
  · simp only at hwraps
    omega

/-- A reservation that the call makes is placed at a multiple of `alignment`. -/
def Call.PlacedAt (alignment : Nat) : Call → Prop
  | .reserve _ other => other = alignment
  | _ => True

instance {alignment : Nat} (call : Call) : Decidable (call.PlacedAt alignment) :=
  match call with
  | .reserve _ other => inferInstanceAs (Decidable (other = alignment))
  | .commit _ | .track _ | .reclaim _ => isTrue trivial

namespace Traffic

variable {capacity : Nat}

/-- Whatever its alignment, a call leaves the positions within the ring. -/
theorem inside_call {traffic : Traffic} (h : traffic.ring.Inside capacity) (call : Call) :
    (traffic.call call).ring.Inside capacity := by
  cases call with
  | reserve size alignment =>
    simp only [Traffic.call]
    split
    · next ring hreserve => exact (inside_reserve h hreserve).1
    · exact h
    · exact h
  | commit size =>
    simp only [Traffic.call]
    split
    · next ring hcommit => exact inside_commit h hcommit
    · exact h
  | track fence => exact inside_track h fence
  | reclaim completed => exact inside_reclaim h completed

/-- Every run keeps the positions of a ring within its memory. -/
theorem inside_run {traffic : Traffic} (h : traffic.ring.Inside capacity) (calls : List Call) :
    (traffic.run calls).ring.Inside capacity := by
  induction calls generalizing traffic with
  | nil => exact h
  | cons call rest ih => exact ih (inside_call h call)

/-- All bytes of a ring are written at once and submitted. -/
def filling (capacity alignment fence : Nat) : List Call :=
  [.reserve capacity alignment, .commit capacity, .track fence]

/-- The calls that fill a ring are placed at the alignment. -/
theorem placed_filling (capacity alignment fence : Nat) :
    ∀ call ∈ filling capacity alignment fence, call.PlacedAt alignment := by
  simp [filling, Call.PlacedAt]

/-- The cursor of a ring that was filled stands at its end. -/
theorem run_filling {capacity alignment : Nat} (fence : Nat) (h : 0 < capacity)
    (halignment : alignment ≤ maxWord) :
    (start capacity).run (filling capacity alignment fence) =
      { ring := { capacity, cursor := capacity, tracked := [(fence, capacity)] }
        inFlight := [⟨0, capacity, some fence⟩] } := by
  have hreserve : ({ capacity } : Ring).reserve capacity alignment =
      .granted { capacity, reserved := some capacity } :=
    reserve_of_idle ⟨rfl, rfl⟩ (Nat.le_refl _) halignment
  have hmoved : capacity ≠ 0 := by omega
  simp [run, filling, start, call, hreserve, commit?, track, Flight.follow, hmoved]

end Traffic

end Ring

namespace Session

open Ring.Traffic

/-- The ring of a context after calls on it. -/
def ringAfter (session : Session SimulatedDevice) (calls : List Ring.Call) : Ring.Traffic :=
  ({ ring := session.context.stream.ring } : Ring.Traffic).run calls

/-- The ring of a session starts as one that was never used. -/
theorem ringAfter_opened {config : Config} {session : Session SimulatedDevice}
    (h : Opened config session) (calls : List Ring.Call) :
    session.ringAfter calls = (Ring.Traffic.start config.streamSize).run calls := by
  obtain ⟨-, -, rfl⟩ := opened_iff.mp h
  rfl

/-- The cursor of a full ring is at its end, whatever is in flight there. -/
theorem cursor_filled {config : Config} {session : Session SimulatedDevice}
    (hopened : Opened config session) (halignment : config.placementAlignment ≤ maxWord)
    (fence : Nat) :
    let full := session.ringAfter (filling config.streamSize config.placementAlignment fence)
    full.ring.restart.cursor = config.streamSize ∧
      full.inFlight = [⟨0, config.streamSize, some fence⟩] := by
  intro full
  obtain ⟨hvalid, -, -⟩ := opened_iff.mp hopened
  obtain ⟨hpositive, -, -⟩ := Config.validate_eq_ok_iff.mp hvalid
  have hfull : full = _ := (ringAfter_opened hopened _).trans
    (run_filling fence (Nat.pos_of_ne_zero hpositive) halignment)
  have hidle : ¬ ({ capacity := config.streamSize, cursor := config.streamSize,
                    tracked := [(fence, config.streamSize)] } : Ring).Idle := by
    simp [Ring.Idle]
  rw [hfull, Ring.restart_of_not_idle hidle]
  exact ⟨rfl, rfl⟩

/-- Whatever was called on the ring of a context: the position that the next reservation rounds lies
within the ring, and the result is the least multiple of the placement alignment from there on
exactly if the position and the whole alignment fit 32 bits together. Where they do not, every
request for room that the ring could hold ends the program. All positions that calls with this
alignment can reach are rounded exactly if the stream size and the alignment fit together. If they
do not, a ring whose bytes are all in flight is one whose cursor cannot be rounded. -/
theorem cursor_rounds_exactly_iff {config : Config} {session : Session SimulatedDevice}
    (hopened : Opened config session) (halignment : config.placementAlignment ≤ maxWord) :
    let alignment := config.placementAlignment
    (∀ calls,
      let ring := (session.ringAfter calls).ring
      ring.restart.cursor ≤ config.streamSize ∧
      (ring.RoundsExactly alignment ↔ ring.restart.cursor + alignment ≤ maxWord) ∧
      (∀ size ≤ config.streamSize,
        (ring.reserve size alignment = .abort ↔ ¬ ring.RoundsExactly alignment)) ∧
      ∀ size after, ring.reserve size alignment = .granted after → after.wraps = ring.wraps →
        ring.rounded? alignment = some after.cursor) ∧
    ((∀ calls : List Ring.Call, (∀ call ∈ calls, call.PlacedAt alignment) →
        (session.ringAfter calls).ring.RoundsExactly alignment) ↔
      config.streamSize + alignment ≤ maxWord) ∧
    (maxWord < config.streamSize + alignment → ∀ fence, ∀ size ≤ config.streamSize,
      let full := session.ringAfter (filling config.streamSize alignment fence)
      full.inFlight = [⟨0, config.streamSize, some fence⟩] ∧
        full.ring.reserve size alignment = .abort) := by
  intro alignment
  obtain ⟨hvalid, -, -⟩ := opened_iff.mp hopened
  obtain ⟨-, -, hpower⟩ := Config.validate_eq_ok_iff.mp hvalid
  have hinside (calls : List Ring.Call) :
      (session.ringAfter calls).ring.Inside config.streamSize := by
    rw [ringAfter_opened hopened]
    exact inside_run (Ring.inside_empty _) calls
  have hcursor (calls : List Ring.Call) :
      (session.ringAfter calls).ring.restart.cursor ≤ config.streamSize :=
    (Ring.inside_restart (hinside calls)).cursor_le
  have habort (calls : List Ring.Call) {size : Nat} (hsize : size ≤ config.streamSize) :
      (session.ringAfter calls).ring.reserve size alignment = .abort ↔
        maxWord < (session.ringAfter calls).ring.restart.cursor + alignment := by
    rw [Ring.reserve_eq_abort_iff, (hinside calls).capacity]
    exact and_iff_right hsize
  refine ⟨fun calls => ⟨hcursor calls, Ring.roundsExactly_iff hpower, fun size hsize => ?_,
    fun size after => Ring.cursor_reserve⟩, ⟨fun hall => ?_, fun hword calls _ => ?_⟩,
    fun hover fence size hsize => ?_⟩
  · rw [habort calls hsize, Ring.roundsExactly_iff hpower, Nat.not_le]
  · -- the cursor of a full ring is the furthest that calls can take it
    have hfull := (Ring.roundsExactly_iff hpower).mp
      (hall _ (placed_filling config.streamSize alignment 0))
    rwa [(cursor_filled hopened halignment 0).1] at hfull
  · have hle := hcursor calls
    rw [Ring.roundsExactly_iff hpower]
    omega
  · obtain ⟨hfull, hflight⟩ := cursor_filled hopened halignment fence
    refine ⟨hflight, (habort _ hsize).mpr ?_⟩
    rwa [hfull]

/-- A ring of 64 bytes rounds all its positions exactly. In a ring of 2 GiB and one byte of which
work reads all, a request for one byte ends the program. -/
theorem cursor_rounds_exactly_iff_extremes :
    let small : Config := { streamSize := 64, placementAlignment := 2147483648 }
    let large : Config := { streamSize := 2147483649, placementAlignment := 2147483648 }
    (∀ calls : List Ring.Call, (∀ call ∈ calls, call.PlacedAt 2147483648) →
      ((opening small).ringAfter calls).ring.RoundsExactly 2147483648) ∧
    let full := (opening large).ringAfter (filling 2147483649 2147483648 1)
    full.inFlight = [⟨0, 2147483649, some 1⟩] ∧ full.ring.reserve 1 2147483648 = .abort := by
  intro small large
  have hpower : Nat.isPowerOfTwo 2147483648 := ⟨31, rfl⟩
  have hsmall : Opened small (opening small) :=
    opened_iff.mpr ⟨Config.validate_eq_ok_iff.mpr ⟨by decide, ⟨8, rfl⟩, hpower⟩, by decide, rfl⟩
  have hlarge : Opened large (opening large) :=
    opened_iff.mpr ⟨Config.validate_eq_ok_iff.mpr ⟨by decide, ⟨8, rfl⟩, hpower⟩, by decide, rfl⟩
  obtain ⟨-, hexact, -⟩ := cursor_rounds_exactly_iff hsmall (by decide)
  obtain ⟨-, -, hover⟩ := cursor_rounds_exactly_iff hlarge (by decide)
  exact ⟨hexact.mpr (by decide), hover (by decide) 1 1 (by decide)⟩

/-- The parameters of the large ring are accepted, and the cursor of the full ring is rounded to
nothing at all. -/
theorem full_cursor_aborts :
    let config : Config := { streamSize := 2147483649, placementAlignment := 2147483648 }
    let calls := filling 2147483649 2147483648 1
    let full := ((opening config).ringAfter calls).ring
    config.validate = .ok () ∧ (∀ call ∈ calls, call.PlacedAt 2147483648) ∧
      full.restart.cursor = 2147483649 ∧ full.reserve 1 2147483648 = .abort ∧
      ¬ full.RoundsExactly 2147483648 := by
  intro config calls full
  have hrounded : full.rounded? 2147483648 = none := by decide
  refine ⟨Config.validate_eq_ok_iff.mpr ⟨by decide, ⟨8, rfl⟩, ⟨31, rfl⟩⟩, by decide, by decide,
    by decide, ?_⟩
  rintro ⟨position, hposition, -⟩
  rw [hrounded] at hposition
  cases hposition

end Session

end Texel
