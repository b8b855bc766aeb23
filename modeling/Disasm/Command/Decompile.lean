import Disasm.CodeLine
import Disasm.Command.Basic
import Disasm.OperandStack

/-!
# Decompiling line by line

Each line of the input is carried out on one operand stack.  A line that completes a statement shows it
and leaves the stack empty.  Two words are no opcodes but talk to the stack: `:print` shows it, `:clear`
empties it.  Other unknown words are passed over.
-/

namespace Disasm.Command

open Disasm.Action

abbrev StackWork (α : Type) := Action OperandStack α

def onStack {α : Type} (w : OperandStack.Work α) : StackWork α := fun s =>
  match w s.state with
  | .ok a t => .ok a { s with state := t }
  | .error f t => .error f { s with state := t }

/-- shows operands, each on a line of its own -/
def printOperands : List Operand → StackWork Unit
  | [] => return ()
  | v :: rest => do
    print ("  " ++ (← ofOption .noText v) ++ "\n")
    printOperands rest

def printStatement (v : Operand) : StackWork Unit :=
  match v with
  | some text => print ("    ;; dec: " ++ text ++ "\n")
  | none => return ()

/-- carries out one opcode; `parm` is the text of its parameter -/
def carryOut (parm : Operand) (op : Opcode) : StackWork Unit := do
  if op = .enter then write .empty
  else if op = .localAddr || op = .const then onStack (OperandStack.push parm)
  else if op.breaksStack then update OperandStack.markInvalid
  else match op.operation? with
    | none => return ()
    | some o =>
      onStack (OperandStack.perform parm o)
      if op.endsStatement then
        let statement := (← read).result
        write .empty
        printStatement statement

def followLine (l : CodeLine) : StackWork Unit := do
  if l.word == ":clear" then write .empty
  else if l.word == ":print" then printOperands (← read).items.reverse
  else match Opcode.ofName? l.word with
    | some op => carryOut l.parm op
    | none => return ()

def followText (line : String) : StackWork Unit := do
  match CodeLine.read line with
  | .ok none => return ()
  | .ok (some l) => followLine l
  | .error .noOpcode => fail .outOfBounds
  | .error (.unknownOpcode word) =>
    complain ("couldn't get stack change for opcode '" ++ word ++ "'")

def followAll : List String → StackWork Unit
  | [] => return ()
  | line :: rest => do
    followText line
    followAll rest

/-- decompiles the lines of a text -/
def decompile (input : String) : Work Unit := do
  print "enter lines:\n"
  let _ ← apart .empty (followAll (Text.lines input))

end Disasm.Command
