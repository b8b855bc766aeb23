import Disasm.Comment
import Disasm.Instruction
import Disasm.OperandStack
import Disasm.Text.Numeral

/-!
# Entries of a code listing

What a listing shows for one instruction, part by part.  An entry has a full form and a brief one.  The
full form shows everything.  The brief form is what stays when a decompiled statement takes the place of
the instructions that make it up: comments and what is known about constants, no labels and no plain
instructions.

Entries are collected until one of them ends a statement, or enters or leaves a function.  A statement is
added below the full forms of its entries, or replaces them by their brief forms.  What is collected when
the code ends is not shown.
-/

namespace Disasm

/-- text about the constant that an instruction loads -/
structure Note where
  full : String := ""
  brief : String := ""
  deriving DecidableEq, Repr

structure Entry where
  index : Nat
  instruction : Instruction
  before : Option CommentBlock := none
  after : Option CommentBlock := none
  /-- where control may come from: by jumps, or through the jump table alone -/
  jumpLabel : String := ""
  /-- the cases of switches that lead here -/
  caseLabel : String := ""
  /-- the head of a function -/
  heading : String := ""
  note : Note := {}
  /-- what is known about the parameter -/
  remark : String := ""
  /-- the comment of the user beside the instruction -/
  inline : Option String := none
  /-- the statement that the instruction completes -/
  statement : Option String := none
  deriving DecidableEq, Repr

namespace Entry

def isEnter (e : Entry) : Bool := e.instruction.op = .enter

def address (e : Entry) : String := Text.hex8 e.index

def hasComment (e : Entry) : Bool := e.remark != "" || e.inline.isSome

/-! ## the line of an instruction -/

/-- the name of the opcode, padded when something follows it -/
def opcodeText (i : Instruction) : String :=
  if i.op.stackChange != 0 || i.hasParm then Text.padEnd 13 i.op.name else i.op.name

def changeText (e : Entry) : String :=
  let change := e.instruction.op.stackChange
  if change < 0 then "  " ++ toString change
  else if change > 0 then "   " ++ toString change
  else if e.instruction.hasParm || e.hasComment then "    "
  else ""

def magnitude (n : Int) : String :=
  if n < 0 then "-0x" ++ Text.hexDigits n.natAbs else "0x" ++ Text.hexDigits n.natAbs

def parmText (i : Instruction) : String :=
  if i.hasParm then (if i.parm < 0 then "  " else "   ") ++ magnitude i.parm else ""

def remarkText (gap : String) (e : Entry) : String :=
  (if e.remark = "" then "" else gap ++ "; " ++ e.remark) ++
    ((e.inline.map fun c => gap ++ "; " ++ c).getD "")

def line (e : Entry) : String :=
  e.address ++ "  " ++ opcodeText e.instruction ++ e.changeText ++ parmText e.instruction ++
    e.remarkText "  " ++ "\n"

def briefLine (e : Entry) : String :=
  if e.hasComment then
    "    ; " ++ e.address ++ " " ++ e.instruction.op.name ++ " " ++
      (if e.instruction.hasParm then " " ++ magnitude e.instruction.parm else "") ++
      e.remarkText " " ++ "\n"
  else ""

/-! ## comment blocks -/

def blockText (b : Option CommentBlock) : String := (b.map CommentBlock.text).getD ""

/-- in the brief form the address follows each line of a block before an instruction -/
def briefBefore (e : Entry) : String :=
  match e.before with
  | none => ""
  | some b =>
    b.above ++ String.join (b.lines.map fun l =>
      CommentBlock.comment l ++ "; " ++ e.address ++ " [\n") ++ b.below

/-- and precedes each line of a block after it -/
def briefAfter (e : Entry) : String :=
  match e.after with
  | none => ""
  | some b =>
    b.above ++ String.join (b.lines.map fun l =>
      "; " ++ e.address ++ " ]\n" ++ CommentBlock.comment l) ++ b.below

/-! ## the two forms -/

/-- a block before the start of a function stands below the head of the function -/
def full (e : Entry) : String :=
  if e.isEnter then
    e.jumpLabel ++ e.caseLabel ++ e.heading ++ blockText e.before ++ e.line ++ blockText e.after
  else
    blockText e.before ++ e.jumpLabel ++ e.caseLabel ++ e.note.full ++ e.line ++ blockText e.after

def brief (e : Entry) : String :=
  (if e.isEnter then "" else e.briefBefore) ++ e.note.brief ++ e.briefLine ++ e.briefAfter

/-- nothing is collected beyond the start or the end of a function -/
def isBoundary (e : Entry) : Bool := e.instruction.op = .enter || e.instruction.op = .leave

end Entry

namespace Listing

/-- a statement that says that there is none -/
def isHollow (s : String) : Bool := s = OperandStack.noStatement || s = OperandStack.badSize

/-- the text of some entries; `out` is what has been shown, `full` and `brief` what is collected -/
def layOutFrom (replace : Bool) : String → String → String → List Entry → String
  | out, _, _, [] => out
  | out, full, brief, e :: rest =>
    let full := full ++ e.full
    let brief := brief ++ e.brief
    match e.statement with
    | some s =>
      if !replace || isHollow s then
        layOutFrom replace (out ++ full ++ "    ;; dec: " ++ s ++ "\n\n") "" "" rest
      else layOutFrom replace (out ++ brief ++ "    " ++ s ++ ";\n") "" "" rest
    | none =>
      if e.isBoundary then layOutFrom replace (out ++ full) "" "" rest
      else layOutFrom replace out full brief rest

/-- the listing of some entries, with statements in the place of instructions if `replace` is given -/
def layOut (replace : Bool) (entries : List Entry) : String := layOutFrom replace "" "" "" entries

end Listing
end Disasm
