import Texel.Text

namespace Texel

/-- A rectangle of pixels within a texture, by its top left corner and its size. -/
structure Region where
  x : Nat := 0
  y : Nat := 0
  width : Nat := 0
  height : Nat := 0
  deriving DecidableEq, Repr, Inhabited

namespace Region

/-- The rectangle lies within a texture of this size. -/
def fitsWithin (region : Region) (width height : Nat) : Bool :=
  region.x + region.width ≤ width && region.y + region.height ≤ height

def describe (region : Region) : String :=
  Text.record "Rect" [("x", toString region.x), ("y", toString region.y),
    ("width", toString region.width), ("height", toString region.height)]

/-- A rectangle fits if neither of its sides reaches too far. -/
@[simp] theorem fitsWithin_iff {region : Region} {width height : Nat} :
    region.fitsWithin width height ↔
      region.x + region.width ≤ width ∧ region.y + region.height ≤ height := by
  simp [fitsWithin]

end Region

end Texel
