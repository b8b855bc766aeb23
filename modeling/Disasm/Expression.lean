import Disasm.Opcode

/-!
# Expressions as C text

How the effect of an opcode on its operands is written as C text.  Operands are texts; a result encloses
each of them in parentheses, with the casts that the opcode implies.  An operation takes the operand
that was pushed last as its right-hand side.
-/

namespace Disasm

/-- operations on one operand -/
inductive Unary where
  | load1 | load2 | load4 | sex8 | sex16 | bcom | cvif | cvfi
  deriving DecidableEq, Repr

/-- sign changes -/
inductive Negation where
  | negi | negf
  deriving DecidableEq, Repr

/-- operations on two operands that leave a value -/
inductive Binary where
  | add | sub | divi | divu | modi | modu | muli | mulu | band | bor | bxor | lsh | rshi | rshu
  | addf | subf | divf | mulf
  deriving DecidableEq, Repr

/-- stores, by the size of what is stored -/
inductive Store where
  | store1 | store2 | store4
  deriving DecidableEq, Repr

namespace Unary

def render (v : String) : Unary → String
  | .load1 => "*(byte *)(" ++ v ++ ")"
  | .load2 => "*(unsigned short *)(" ++ v ++ ")"
  | .load4 => "*(int *)(" ++ v ++ ")"
  | .sex8 => "(signed char)(" ++ v ++ ")"
  | .sex16 => "(short)(" ++ v ++ ")"
  | .bcom => "~((unsigned int)(" ++ v ++ "))"
  | .cvif => "(float)(" ++ v ++ ")"
  | .cvfi => "Q_ftol((float)(" ++ v ++ "))"

end Unary

namespace Negation

def render (v : String) : Negation → String
  | .negi => "-(" ++ v ++ ")"
  | .negf => "-(float)(" ++ v ++ ")"

end Negation

namespace Binary

def plain (l sign r : String) : String := "(" ++ l ++ ") " ++ sign ++ " (" ++ r ++ ")"

def unsigned (l sign r : String) : String :=
  "((unsigned int)(" ++ l ++ ")) " ++ sign ++ " ((unsigned int)(" ++ r ++ "))"

def floating (l sign r : String) : String :=
  "(float)(" ++ l ++ ") " ++ sign ++ " (float)(" ++ r ++ ")"

def render (l r : String) : Binary → String
  | .add => plain l "+" r
  | .sub => plain l "-" r
  | .divi => plain l "/" r
  | .divu => unsigned l "/" r
  | .modi => plain l "%" r
  | .modu => unsigned l "%" r
  | .muli => plain l "*" r
  | .mulu => unsigned l "*" r
  | .band => unsigned l "&" r
  | .bor => unsigned l "|" r
  | .bxor => unsigned l "^" r
  | .lsh => plain l "<<" r
  | .rshi => plain l ">>" r
  | .rshu => "((unsigned int)(" ++ l ++ ")) >> (" ++ r ++ ")"
  | .addf => floating l "+" r
  | .subf => floating l "-" r
  | .divf => floating l "/" r
  | .mulf => floating l "*" r

end Binary

namespace Store

def typeName : Store → String
  | .store1 => "byte"
  | .store2 => "short"
  | .store4 => "int"

def render (place value : String) (w : Store) : String :=
  "*(" ++ w.typeName ++ " *)(" ++ place ++ ") = " ++ value

end Store

/-- the statement that passes an argument -/
def renderArg (parm value : String) : String := "Arg[" ++ parm ++ "] = " ++ value

/-- the statement that copies a block -/
def renderCopy (target source parm : String) : String :=
  "VM_BlockCopy(" ++ target ++ ", " ++ source ++ ", " ++ parm ++ ")"

/-- what an opcode does to the operand stack, as far as it is written as C text -/
inductive Operation where
  | unary (u : Unary)
  | negate (n : Negation)
  | binary (b : Binary)
  | store (w : Store)
  | arg
  | copy
  deriving DecidableEq, Repr

namespace Opcode

/-- `none` for opcodes that push leaves, steer control or have no text -/
def operation? : Opcode → Option Operation
  | .load1 => some (.unary .load1)
  | .load2 => some (.unary .load2)
  | .load4 => some (.unary .load4)
  | .store1 => some (.store .store1)
  | .store2 => some (.store .store2)
  | .store4 => some (.store .store4)
  | .arg => some .arg
  | .blockCopy => some .copy
  | .sex8 => some (.unary .sex8)
  | .sex16 => some (.unary .sex16)
  | .negi => some (.negate .negi)
  | .add => some (.binary .add)
  | .sub => some (.binary .sub)
  | .divi => some (.binary .divi)
  | .divu => some (.binary .divu)
  | .modi => some (.binary .modi)
  | .modu => some (.binary .modu)
  | .muli => some (.binary .muli)
  | .mulu => some (.binary .mulu)
  | .band => some (.binary .band)
  | .bor => some (.binary .bor)
  | .bxor => some (.binary .bxor)
  | .bcom => some (.unary .bcom)
  | .lsh => some (.binary .lsh)
  | .rshi => some (.binary .rshi)
  | .rshu => some (.binary .rshu)
  | .negf => some (.negate .negf)
  | .addf => some (.binary .addf)
  | .subf => some (.binary .subf)
  | .divf => some (.binary .divf)
  | .mulf => some (.binary .mulf)
  | .cvif => some (.unary .cvif)
  | .cvfi => some (.unary .cvfi)
  | _ => none

/-- opcodes that end the validity of the operand stack -/
def breaksStack (op : Opcode) : Bool :=
  op = .jump || op = .leave || op = .call || op.isBranch

/-- opcodes that complete a statement -/
def endsStatement (op : Opcode) : Bool :=
  op = .store1 || op = .store2 || op = .store4 || op = .arg || op = .blockCopy

end Opcode
end Disasm
