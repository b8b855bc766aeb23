import Disasm.Text.Numeral

/-!
# Faults

The ways in which work on an image, its annotations or a tool's input can end early.  `stopped` is the
orderly one: the reason has been reported on the console.  All others name the cause alone.
-/

namespace Disasm

/-- what is wrong with the header of an image -/
inductive HeaderFault where
  | magic (found : Int)
  | negative (field : String) (found : Int)
  deriving DecidableEq, Repr

namespace HeaderFault

def message : HeaderFault → String
  | .magic found =>
    "not a valid qvm file, magic 0x" ++ Text.hex found ++ " != (0x12721444 | 0x12721445)"
  | .negative field found => "bad header: " ++ field ++ " " ++ toString found

end HeaderFault

inductive Fault where
  /-- the problem was reported, or the usage shown; the exit code is left to the caller -/
  | stopped (code : Int)
  | badHeader (why : HeaderFault)
  /-- a range that is a whole template, and no array of it -/
  | templateRange
  /-- not exactly the bytes of one word, or a number that no word holds -/
  | badWord
  /-- a place outside a segment, a list or the table of opcodes -/
  | outOfBounds
  | unknownName
  | badNumeral
  /-- not exactly one byte or character -/
  | notSingle
  /-- an operand or a name without text -/
  | noText
  /-- a local address outside every function -/
  | noFrame
  /-- a part of a syntax tree that its node does not have -/
  | noField
  | divisionByZero
  /-- a whole number beyond all floating-point numbers -/
  | tooLarge
  | badEncoding
  | noSuchFile
  | negativePosition
  | closedFile
  | commandFailed
  deriving DecidableEq, Repr

/-- why a computation without a console of its own ends early -/
inductive Interruption where
  | fault (f : Fault)
  /-- a problem that is to be reported -/
  | problem (message : String)
  deriving DecidableEq, Repr

end Disasm
