/-!
# Structs by files

Which structs are taken from a C file, and how.
-/

namespace Disasm.C

structure StructFile where
  /-- where the structs are said to be, and come from unless there is another source -/
  file : String
  source : Option String := none
  structs : List String
  /-- a struct, a member that is an array, and the texts for its lengths -/
  lengths : List (String × String × List String) := []
  newNames : List (String × String) := []
  deriving DecidableEq, Repr

end Disasm.C
