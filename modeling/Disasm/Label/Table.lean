import Disasm.Label.Range

/-!
# Labels

The names that annotation files give to addresses: symbols of the data segments, functions with their
arguments and locals, and constants at code addresses.  Symbols and locals come in two forms, a plain
name for one address and named ranges.
-/

namespace Disasm

structure Labels where
  symbols : Std.TreeMap Int String := {}
  ranges : RangeTable := {}
  functions : Std.TreeMap Int String := {}
  /-- by function, then by `arg` and the number of the argument -/
  args : Std.TreeMap Int (Std.TreeMap String Range) := {}
  locals : Std.TreeMap Int (Std.TreeMap Int String) := {}
  localRanges : Std.TreeMap Int RangeTable := {}
  /-- the name of the value that a code address loads, and the value -/
  constants : Std.TreeMap Int (String × Int) := {}

namespace Labels

def localsOf (l : Labels) (func : Int) : Std.TreeMap Int String := l.locals.getD func {}

def localRangesOf (l : Labels) (func : Int) : RangeTable := l.localRanges.getD func {}

end Labels
end Disasm
