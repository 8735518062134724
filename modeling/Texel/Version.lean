namespace Texel

/-- The version of the behaviour described by this library. -/
def version : String := "0.1.0"

end Texel
