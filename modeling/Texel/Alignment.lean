namespace Texel

/-- The largest size or offset that fits 32 bits. -/
def maxWord : Nat := 4294967295

/-- The value without its bits below `alignment`, which is a power of two. -/
def alignDown (value alignment : Nat) : Nat :=
  (BitVec.ofNat 32 value &&& ~~~(BitVec.ofNat 32 alignment - 1)).toNat

/-- Rounds up to a multiple of `alignment` in 32 bits. Nothing if `room` more than the value does
not fit them. -/
def alignWithin? (room value alignment : Nat) : Option Nat :=
  if value + room ≤ maxWord then some (alignDown (value + (alignment - 1)) alignment) else none

/-- Rounds up under a guard that turns a value away if its padding does not fit. -/
def alignUp? (value alignment : Nat) : Option Nat :=
  alignWithin? (alignment - 1) value alignment

/-- Rounds up without a guard. The whole alignment is added before one is taken off again, and the
program ends if that sum does not fit. -/
def alignPlain? (value alignment : Nat) : Option Nat :=
  alignWithin? alignment value alignment

end Texel
