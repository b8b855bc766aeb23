import Disasm.Text.Runs

/-!
# Blanks

The characters that part words: the white space of every script, the four separators `1c` to `1f`
among them.
-/

namespace Disasm.Text

/-- white space, as runs of code points -/
def blankRuns : List (Nat × Nat) := [
   (9, 13), (28, 32), (133, 133), (160, 160), (5760, 5760), (8192, 8202), (8232, 8233),
   (8239, 8239), (8287, 8287), (12288, 12288)]

def isBlank (c : Char) : Bool := inRuns blankRuns c

end Disasm.Text
