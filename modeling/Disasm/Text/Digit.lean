import Disasm.Text.Runs

/-!
# Digits

A decimal digit is a character of one of the ten-character rows of the Unicode class Nd; its value is
its place in the row.  A wider class also counts superscripts, circled digits and the like as digits:
a name may not start with one of those either, although no numeral may hold one.
-/

namespace Disasm.Text

/-- the code points at which a row of ten decimal digits starts -/
def digitRows : List Nat := [
   48, 1632, 1776, 1984, 2406, 2534, 2662, 2790, 2918, 3046, 3174, 3302, 3430, 3558, 3664, 3792,
   3872, 4160, 4240, 6112, 6160, 6470, 6608, 6784, 6800, 6992, 7088, 7232, 7248, 42528, 43216,
   43264, 43472, 43504, 43600, 44016, 65296, 66720, 68912, 69734, 69872, 69942, 70096, 70384,
   70736, 70864, 71248, 71360, 71472, 71904, 72016, 72784, 73040, 73120, 92768, 92864, 93008,
   120782, 120792, 120802, 120812, 120822, 123200, 123632, 125264, 130032]

/-- digits outside the decimal rows, as runs of code points -/
def digitSigns : List (Nat × Nat) := [
   (178, 179), (185, 185), (4969, 4977), (6618, 6618), (8304, 8304), (8308, 8313), (8320, 8329),
   (9312, 9320), (9332, 9340), (9352, 9360), (9450, 9450), (9461, 9469), (9471, 9471),
   (10102, 10110), (10112, 10120), (10122, 10130), (68160, 68163), (69216, 69224),
   (69714, 69722), (127232, 127242)]

/-- the value of a decimal digit of any script -/
def decimalValue? (c : Char) : Option Nat :=
  (digitRows.find? fun row => row ≤ c.toNat && c.toNat < row + 10).map (c.toNat - ·)

/-- a decimal digit of any script, or another sign that stands for one digit -/
def isDigit (c : Char) : Bool :=
  (decimalValue? c).isSome || inRuns digitSigns c

theorem decimalValue?_lt {c : Char} {v : Nat} (h : decimalValue? c = some v) : v < 10 := by
  simp only [decimalValue?, Option.map_eq_some_iff] at h
  obtain ⟨row, hrow, rfl⟩ := h
  have := List.find?_some hrow
  simp only [Bool.and_eq_true, decide_eq_true_eq] at this
  omega

end Disasm.Text
