import Texel.Alignment

namespace Texel

/-- Positions in a ring of bytes shared by uploads. A write cursor moves through the ring and wraps
to the start; what lies between the read position of the device and the cursor is in flight.
Submissions remember the cursor, and the read position follows them as their fences complete. -/
structure Ring where
  capacity : Nat
  /-- Where the next write goes. -/
  cursor : Nat := 0
  /-- Everything before this position has been read by the device. -/
  readPosition : Nat := 0
  /-- Fences of submissions with the cursor at that time, oldest first. -/
  tracked : List (Nat × Nat) := []
  /-- How often the cursor wrapped to the start. -/
  wraps : Nat := 0
  /-- Size of the reservation that has not been committed yet. -/
  reserved : Option Nat := none
  deriving DecidableEq, Repr

namespace Ring

/-- An idle ring starts again from its beginning. -/
def restart (ring : Ring) : Ring :=
  if ring.cursor = ring.readPosition ∧ ring.tracked = [] then
    { ring with cursor := 0, readPosition := 0 }
  else ring

/-- Reserves at `start`, where the cursor is aligned, or at the start of the ring if its end is too
near. Behind the read position a byte stays free, so that a full ring never looks like an empty
one. -/
def place? (ring : Ring) (size start : Nat) : Option Ring :=
  if ring.readPosition ≤ ring.cursor then
    if start + size ≤ ring.capacity then
      some { ring with cursor := start, reserved := some size }
    else if size < ring.readPosition then
      some { ring with cursor := 0, wraps := ring.wraps + 1, reserved := some size }
    else none
  else if start + size < ring.readPosition then
    some { ring with cursor := start, reserved := some size }
  else none

/-- What a request for room comes to. -/
inductive Room where
  /-- The ring with the reservation made. -/
  | granted (ring : Ring)
  /-- There is no room until more submitted work completes. -/
  | refused
  /-- The cursor cannot be aligned in 32 bits; the program ends there. -/
  | abort
  deriving DecidableEq, Repr

/-- Moves the cursor to an aligned position with `size` free bytes after it and reserves them. -/
def reserve (ring : Ring) (size alignment : Nat) : Room :=
  if ring.capacity < size then .refused
  else
    match alignPlain? ring.restart.cursor alignment with
    | none => .abort
    | some start => (ring.restart.place? size start).elim .refused .granted

/-- Moves the cursor past `size` bytes written, which consumes the reservation. Nothing if no
reservation of at least that size is outstanding. -/
def commit? (ring : Ring) (size : Nat) : Option Ring :=
  match ring.reserved with
  | some reserved =>
    if size ≤ reserved then some { ring with cursor := ring.cursor + size, reserved := none }
    else none
  | none => none

/-- Work that signals `fence` reads everything up to the cursor. A submission that adds nothing is
not remembered. -/
def track (ring : Ring) (fence : Nat) : Ring :=
  match ring.tracked.getLast? with
  | some (_, position) =>
    if position = ring.cursor then ring
    else { ring with tracked := ring.tracked ++ [(fence, ring.cursor)] }
  | none =>
    if ring.cursor = ring.readPosition then ring
    else { ring with tracked := [(fence, ring.cursor)] }

/-- The read position and the fences left once every fence up to `completed` has passed. -/
def passed (completed : Nat) : Nat → List (Nat × Nat) → Nat × List (Nat × Nat)
  | position, [] => (position, [])
  | position, (fence, next) :: later =>
    if fence ≤ completed then passed completed next later else (position, (fence, next) :: later)

/-- Frees what work up to the fence `completed` has read. -/
def reclaim (ring : Ring) (completed : Nat) : Ring :=
  let left := passed completed ring.readPosition ring.tracked
  { ring with readPosition := left.1, tracked := left.2 }

end Ring

end Texel
