/-!
# Places in annotation files

Problems in an annotation file are reported with the line on which they stand.  Lines are counted from
zero and shown from one.
-/

namespace Disasm

structure Location where
  file : String
  index : Int
  /-- the line as far as it had been read -/
  line : String
  deriving DecidableEq, Repr, Inhabited

/-- a message with the place to which it belongs -/
def Location.say (l : Location) (message : String) : String :=
  message ++ " in line " ++ toString (l.index + 1) ++ " of " ++ l.file ++ ": " ++ l.line

end Disasm
