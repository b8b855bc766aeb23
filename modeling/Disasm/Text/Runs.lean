/-!
# Runs of code points

A class of characters is a list of runs, each given by its first and its last code point.
-/

namespace Disasm.Text

def inRuns (runs : List (Nat × Nat)) (c : Char) : Bool :=
  runs.any fun run => run.1 ≤ c.toNat && c.toNat ≤ run.2

theorem inRuns_nil (c : Char) : inRuns [] c = false := rfl

theorem inRuns_cons (run : Nat × Nat) (runs : List (Nat × Nat)) (c : Char) :
    inRuns (run :: runs) c = ((run.1 ≤ c.toNat && c.toNat ≤ run.2) || inRuns runs c) := rfl

end Disasm.Text
