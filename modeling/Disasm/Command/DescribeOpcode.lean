import Disasm.Command.Basic
import Disasm.Opcode

/-!
# Describing an opcode

What an opcode does: its effect on the height of the operand stack, in words, and as C text where there
is one.
-/

namespace Disasm.Command

open Disasm.Action

def opcodeUsage (name : String) : String :=
  name ++ " <opcode>\n" ++
  "\nSpecific opcodes (Q3VM bytecode): (TOS = Top Of Stack; NIS = Next In Stack (next value after TOS)) (Hack syntax: $PARM = code parameter)\n"

def opcodeText (op : Opcode) : String :=
  op.name ++ ": stack change " ++ toString op.stackChange ++ "\n\n" ++ op.description ++ "\n" ++
    (if op.effect = "" then ""
     else "\n// r2 = $PARM, r1 = NIS, r0 = TOS\n\n" ++ op.effect ++ "\n\n")

def describeOpcode (name : String) (args : List String) : Work Unit :=
  match args with
  | [] => refuse (opcodeUsage name)
  | word :: _ => do
    match Opcode.ofName? word with
    | some op =>
      print (opcodeText op)
      finish
    | none => refuse ("unknown opcode: " ++ word ++ "\n")

end Disasm.Command
