import Std.Data.TreeMap
import Disasm.Fault
import Disasm.Shape

/-!
# Named ranges

A range is a named run of bytes.  Ranges are kept by the address at which they start, several at one
address in the order in which they were declared.  A range never is a whole template: a template is
expanded into its members when it is placed, so the one shape with a template that is left is an array
of it, and arrays count as plain bytes.

The search for an address gives the names of the ranges that start there, and the closest range that
starts before the address and reaches beyond it: the one with the largest start, among these the
smallest, and of these the first.
-/

namespace Disasm

structure Range where
  size : Int
  name : String
  kind : Kind := .raw
  pointer : Option Pointer := none
  array : Option Dimensions := none
  /-- the template of the elements of an array; empty where none was asked for -/
  elementTemplate : Option String := some ""
  deriving DecidableEq, Repr

namespace Range

/-- the range as it is kept: arrays are plain bytes, and a template has to be an array -/
def checked (r : Range) : Except Fault Range :=
  if r.array.isSome then .ok { r with kind := .raw }
  else if r.kind = .template then .error .templateRange
  else .ok r

/-- what an argument, a symbol or a local of a given shape is kept as -/
def ofShape (name : String) (s : Shape) : Range :=
  { size := s.size, name, kind := s.kind, pointer := s.pointer, array := s.array
    elementTemplate := s.template }

end Range

/-- ranges by the address at which they start -/
abbrev RangeTable := Std.TreeMap Int (List Range)

/-- a range around an address -/
structure Nearest where
  start : Int
  name : String
  distance : Int
  size : Int
  deriving DecidableEq, Repr

structure Found where
  /-- the names of the ranges that start at the address -/
  exact : List String := []
  nearest : Option Nearest := none
  deriving DecidableEq, Repr

namespace Found

/-- takes one range into account; it does not start at `x` -/
def closer (x start : Int) (r : Range) (best : Option Nearest) : Option Nearest :=
  if start ≤ x ∧ x < start + r.size then
    let candidate : Nearest := ⟨start, r.name, x - start, r.size⟩
    match best with
    | none => some candidate
    | some b =>
      if x - start < b.distance then some candidate
      else if x - start = b.distance ∧ r.size < b.size then some candidate
      else some b
  else best

def visit (x start : Int) (found : Found) (r : Range) : Found :=
  if x = start then { found with exact := found.exact ++ [r.name] }
  else { found with nearest := closer x start r found.nearest }

end Found

/-- what the table says about the address `x` -/
def RangeTable.find (t : RangeTable) (x : Int) : Found :=
  t.foldl (fun found start rs => rs.foldl (Found.visit x start) found) {}

def RangeTable.add (t : RangeTable) (start : Int) (r : Range) : RangeTable :=
  t.alter start fun rs => some (rs.getD [] ++ [r])

end Disasm
