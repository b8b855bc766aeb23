import Std.Data.TreeMap

/-!
# What is known about the code

Tables over instruction addresses.  A function is known by the address of its `enter`; -1 stands for the
code in front of the first one.
-/

namespace Disasm

/-- a switch: the least and the greatest case, and the address of its table of targets -/
structure Switch where
  least : Int
  greatest : Int
  table : Int
  deriving DecidableEq, Repr

/-- a value read through a pointer: where the pointer is, and the offset behind what it points to -/
structure PointerRead where
  isLocal : Bool
  pointer : Int
  offset : Int
  deriving DecidableEq, Repr

structure Analysis where
  /-- by function: instructions counted from its `enter` to the next one, that one included -/
  sizes : Std.TreeMap Int Int := {}
  hashes : Std.TreeMap Int Int := {}
  /-- the functions with a given hash -/
  byHash : Std.TreeMap Int (List Int) := {}
  /-- by function: the largest place at which it leaves an argument for a call, 8 at least -/
  maxArgs : Std.TreeMap Int Int := {}
  /-- by called function: the last argument place that its callers fill, -1 when they differ -/
  parmCounts : Std.TreeMap Int Int := {}
  /-- by target: the branches and jumps that lead to it -/
  jumps : Std.TreeMap Int (List Int) := {}
  /-- by target: the functions that call it -/
  calls : Std.TreeMap Int (List Int) := {}
  /-- by the address of the jump that ends it -/
  switches : Std.TreeMap Int Switch := {}
  /-- the addresses at which switches start -/
  switchStarts : List Int := []
  /-- by target: the switches and cases that lead to it -/
  cases : Std.TreeMap Int (List (Int × Int)) := {}
  /-- by data address: the switches whose tables hold it -/
  switchData : Std.TreeMap Int (List Int) := {}
  pointerReads : Std.TreeMap Int PointerRead := {}

/-- adds to the list at a key -/
def append {β : Type} (t : Std.TreeMap Int (List β)) (key : Int) (b : β) :
    Std.TreeMap Int (List β) :=
  t.alter key fun bs => some (bs.getD [] ++ [b])

end Disasm
