import HintSchema.Files.Path

/-!
How modules are read and where they are searched for.
-/

namespace HintSchema

structure Version where
  major : Int
  minor : Int
  deriving DecidableEq, Repr

/-- `origin` is the settings file that was read, if there was one. -/
structure Settings where
  version : Option Version := none
  searchPaths : List String := []
  origin : Option Path := none
  deriving DecidableEq, Repr

end HintSchema
