/-!
# Opcodes

The sixty opcodes of the machine, in the order of their codes.  An opcode has a name, the number of
parameter bytes behind it, whether its parameter is a place to jump to, and the change that it makes to
the depth of the operand stack.  What each one does is kept in words and, for most, as C text over the
top of stack `r0`, the next in stack `r1` and the parameter `r2`.
-/

namespace Disasm

inductive Opcode where
  | undef | ignore | brk | enter | leave | call | push | pop | const | localAddr | jump | eq | ne
  | lti | lei | gti | gei | ltu | leu | gtu | geu | eqf | nef | ltf | lef | gtf | gef | load1
  | load2 | load4 | store1 | store2 | store4 | arg | blockCopy | sex8 | sex16 | negi | add | sub
  | divi | divu | modi | modu | muli | mulu | band | bor | bxor | bcom | lsh | rshi | rshu | negf
  | addf | subf | divf | mulf | cvif | cvfi
  deriving DecidableEq, Repr, Inhabited

namespace Opcode

/-- the opcodes in the order of their codes -/
def all : Array Opcode := #[
  .undef, .ignore, .brk, .enter, .leave, .call, .push, .pop, .const, .localAddr, .jump, .eq, .ne,
  .lti, .lei, .gti, .gei, .ltu, .leu, .gtu, .geu, .eqf, .nef, .ltf, .lef, .gtf, .gef, .load1,
  .load2, .load4, .store1, .store2, .store4, .arg, .blockCopy, .sex8, .sex16, .negi, .add, .sub,
  .divi, .divu, .modi, .modu, .muli, .mulu, .band, .bor, .bxor, .bcom, .lsh, .rshi, .rshu, .negf,
  .addf, .subf, .divf, .mulf, .cvif, .cvfi]

/-- the byte that stands for an opcode -/
def code (op : Opcode) : Nat := op.ctorIdx

def ofCode? (n : Nat) : Option Opcode := all[n]?

/-- the number of parameter bytes -/
def width : Opcode → Nat
  | .arg => 1
  | .enter | .leave | .const | .localAddr | .eq | .ne | .lti | .lei | .gti | .gei | .ltu | .leu
  | .gtu | .geu | .eqf | .nef | .ltf | .lef | .gtf | .gef | .blockCopy => 4
  | _ => 0

/-- the opcodes that jump to their parameter -/
def isBranch : Opcode → Bool
  | .eq | .ne | .lti | .lei | .gti | .gei | .ltu | .leu | .gtu | .geu | .eqf | .nef | .ltf | .lef
  | .gtf | .gef => true
  | _ => false

/-- the change in the depth of the operand stack -/
def stackChange : Opcode → Int
  | .push | .const | .localAddr => 1
  | .call | .pop | .jump | .arg | .add | .sub | .divi | .divu | .modi | .modu | .muli | .mulu
  | .band | .bor | .bxor | .lsh | .rshi | .rshu | .addf | .subf | .divf | .mulf => -1
  | .eq | .ne | .lti | .lei | .gti | .gei | .ltu | .leu | .gtu | .geu | .eqf | .nef | .ltf | .lef
  | .gtf | .gef | .store1 | .store2 | .store4 | .blockCopy => -2
  | _ => 0

def name : Opcode → String
  | .undef => "undef"
  | .ignore => "ignore"
  | .brk => "break"
  | .enter => "enter"
  | .leave => "leave"
  | .call => "call"
  | .push => "push"
  | .pop => "pop"
  | .const => "const"
  | .localAddr => "local"
  | .jump => "jump"
  | .eq => "eq"
  | .ne => "ne"
  | .lti => "lti"
  | .lei => "lei"
  | .gti => "gti"
  | .gei => "gei"
  | .ltu => "ltu"
  | .leu => "leu"
  | .gtu => "gtu"
  | .geu => "geu"
  | .eqf => "eqf"
  | .nef => "nef"
  | .ltf => "ltf"
  | .lef => "lef"
  | .gtf => "gtf"
  | .gef => "gef"
  | .load1 => "load1"
  | .load2 => "load2"
  | .load4 => "load4"
  | .store1 => "store1"
  | .store2 => "store2"
  | .store4 => "store4"
  | .arg => "arg"
  | .blockCopy => "block_copy"
  | .sex8 => "sex8"
  | .sex16 => "sex16"
  | .negi => "negi"
  | .add => "add"
  | .sub => "sub"
  | .divi => "divi"
  | .divu => "divu"
  | .modi => "modi"
  | .modu => "modu"
  | .muli => "muli"
  | .mulu => "mulu"
  | .band => "band"
  | .bor => "bor"
  | .bxor => "bxor"
  | .bcom => "bcom"
  | .lsh => "lsh"
  | .rshi => "rshi"
  | .rshu => "rshu"
  | .negf => "negf"
  | .addf => "addf"
  | .subf => "subf"
  | .divf => "divf"
  | .mulf => "mulf"
  | .cvif => "cvif"
  | .cvfi => "cvfi"

def ofName? (s : String) : Option Opcode := all.find? fun op => op.name == s

/-! ## what the opcodes do -/

/-- in words -/
def description : Opcode → String
  | .undef =>
    "undefined opcode."
  | .ignore =>
    "no-operation (nop) instruction."
  | .brk =>
    "set debugging break point."
  | .enter =>
    "Begin procedure body, adjust stack $PARM octets for frame (always at least 8 (i.e. 2 words)).  Frame contains all local storage/variables and arguments space for any calls within this procedure."
  | .leave =>
    "End procedure body, $PARM is same as that of the matching ENTER."
  | .call =>
    "make call to procedure (code address <- TOS)."
  | .push =>
    "push nonsense (void) value to opstack (TOS <- 0)."
  | .pop =>
    "pop a value from stack (remove TOS, decrease stack by 1)."
  | .const =>
    "push literal value onto stack (TOS <- $PARM)"
  | .localAddr =>
    "get address of local storage (local variable or argument) (TOS <- (frame + $PARM))."
  | .jump =>
    "branch (code address <- TOS)"
  | .eq =>
    "check equality (signed integer) (compares NIS vs TOS, jump to $PARM if true)."
  | .ne =>
    "check inequality (signed integer) (NIS vs TOS, jump to $PARM if true)."
  | .lti =>
    "check less-than (signed integer) (NIS vs TOS, jump to $PARM if true)."
  | .lei =>
    "check less-than or equal-to (signed integer) (NIS vs TOS, jump to $PARM if true)."
  | .gti =>
    "check greater-than (signed integer) (NIS vs TOS), jump to $PARM if true."
  | .gei =>
    "check greater-than or equal-to (signed integer) (NIS vs TOS), jump to $PARM if true."
  | .ltu =>
    "check less-than (unsigned integer) (NIS vs TOS), jump to $PARM if true."
  | .leu =>
    "check less-than or equal-to (unsigned integer) (NIS vs TOS), jump to $PARM if true."
  | .gtu =>
    "check greater-than (unsigned integer) (NIS vs TOS), jump to $PARM if true."
  | .geu =>
    "check greater-than or equal-to (unsigned integer) (NIS vs TOS), jump to $PARM if true."
  | .eqf =>
    "check equality (float) (NIS vs TOS, jump to $PARM if true)."
  | .nef =>
    "check inequality (float) (NIS vs TOS, jump to $PARM if true)."
  | .ltf =>
    "check less-than (float) (NIS vs TOS, jump to $PARM if true)."
  | .lef =>
    "check less-than or equal-to (float) (NIS vs TOS, jump to $PARM if true)."
  | .gtf =>
    "check greater-than (float) (NIS vs TOS, jump to $PARM if true)."
  | .gef =>
    "check greater-than or equal-to (float) (NIS vs TOS, jump to $PARM if true)."
  | .load1 =>
    "Load 1-octet value from address in TOS (TOS <- [TOS])"
  | .load2 =>
    "Load 2-octet value from address in TOS (TOS <- [TOS])"
  | .load4 =>
    "Load 4-octet value from address in TOS (TOS <- [TOS])"
  | .store1 =>
    "lowest octet of TOS is 1-octet value to store, destination address in next-in-stack ([NIS] <- TOS)."
  | .store2 =>
    "lowest two octets of TOS is 2-octet value to store, destination address in next-in-stack ([NIS] <- TOS)."
  | .store4 =>
    "TOS is 4-octet value to store, destination address in next-in-stack ([NIS] <- TOS)."
  | .arg =>
    "TOS is 4-octet value to store into arguments-marshalling space of the indicated octet offset (ARGS[offset] <- TOS)."
  | .blockCopy =>
    "copy $PARM bytes from TOS into NIS."
  | .sex8 =>
    "Sign-extend 8-bit (TOS <- TOS)."
  | .sex16 =>
    "Sign-extend 16-bit (TOS <- TOS)."
  | .negi =>
    "Negate signed integer (TOS <- -TOS)."
  | .add =>
    "Add integer-wise (TOS <- NIS + TOS)."
  | .sub =>
    "Subtract integer-wise (TOS <- NIS - TOS)."
  | .divi =>
    "Divide integer-wise (TOS <- NIS / TOS)."
  | .divu =>
    "Divide unsigned integer (TOS <- NIS / TOS)."
  | .modi =>
    "Modulo (signed integer) (TOS <- NIS mod TOS)."
  | .modu =>
    "Modulo (unsigned integer) (TOS <- NIS mod TOS)."
  | .muli =>
    "Multiply (signed integer) (TOS <- NIS * TOS)."
  | .mulu =>
    "Multiply (unsigned integer) (TOS <- NIS * TOS)."
  | .band =>
    "Bitwise AND (TOS <- NIS & TOS)."
  | .bor =>
    "Bitwise OR (TOS <- NIS | TOS)."
  | .bxor =>
    "Bitwise XOR (TOS <- NIS ^ TOS)."
  | .bcom =>
    "Bitwise complement (TOS <- ~TOS)."
  | .lsh =>
    "Bitwise left-shift (TOS <- NIS << TOS)."
  | .rshi =>
    "Algebraic (signed) right-shift (TOS <- NIS >> TOS)."
  | .rshu =>
    "Bitwise (unsigned) right-shift (TOS <- NIS >> TOS)."
  | .negf =>
    "Negate float value (TOS <- -TOS)."
  | .addf =>
    "Add floats (TOS <- NIS + TOS)."
  | .subf =>
    "Subtract floats (TOS <- NIS - TOS)."
  | .divf =>
    "Divide floats (TOS <- NIS / TOS)."
  | .mulf =>
    "Multiply floats (TOS <- NIS x TOS)."
  | .cvif =>
    "Convert signed integer to float (TOS <- TOS)."
  | .cvfi =>
    "Convert float to signed integer (TOS <- TOS)."

/-- as C text; empty for opcodes that only steer control or have no effect of their own -/
def effect : Opcode → String
  | .const =>
    "r1 = r0;\nr0 = opStack[opStackOfs] = r2;"
  | .localAddr =>
    "r1 = r0;\nr0 = opStack[opStackOfs] = r2+programStack;"
  | .eq =>
    "if ( r1 == r0 ) \x7b programCounter = r2; \x7d"
  | .ne =>
    "if ( r1 != r0 ) \x7b programCounter = r2; \x7d"
  | .lti =>
    "if ( r1 < r0 ) \x7b programCounter = r2; \x7d"
  | .lei =>
    "if ( r1 <= r0 ) \x7b programCounter = r2; \x7d"
  | .gti =>
    "if ( r1 > r0 ) \x7b programCounter = r2; \x7d"
  | .gei =>
    "if ( r1 >= r0 ) \x7b programCounter = r2; \x7d"
  | .ltu =>
    "if ( ((unsigned)r1) < ((unsigned)r0) ) \x7b programCounter = r2; \x7d"
  | .leu =>
    "if ( ((unsigned)r1) <= ((unsigned)r0) ) \x7b programCounter = r2; \x7d\n"
  | .gtu =>
    "if ( ((unsigned)r1) > ((unsigned)r0) ) \x7b programCounter = r2; \x7d\n"
  | .geu =>
    "if ( ((unsigned)r1) >= ((unsigned)r0) ) \x7b programCounter = r2; \x7d"
  | .eqf =>
    "if(((float *) opStack)[(uint8_t) (opStackOfs + 1)] == ((float *) opStack)[(uint8_t) (opStackOfs + 2)]) \x7b programCounter = r2; \x7d"
  | .nef =>
    "if(((float *) opStack)[(uint8_t) (opStackOfs + 1)] != ((float *) opStack)[(uint8_t) (opStackOfs + 2)]) \x7b programCounter = r2; \x7d"
  | .ltf =>
    "if(((float *) opStack)[(uint8_t) (opStackOfs + 1)] < ((float *) opStack)[(uint8_t) (opStackOfs + 2)]) \x7b programCounter = r2; \x7d"
  | .lef =>
    "if(((float *) opStack)[(uint8_t) ((uint8_t) (opStackOfs + 1))] <= ((float *) opStack)[(uint8_t) ((uint8_t) (opStackOfs + 2))]) \x7b programCounter = r2; \x7d"
  | .gtf =>
    "if(((float *) opStack)[(uint8_t) (opStackOfs + 1)] > ((float *) opStack)[(uint8_t) (opStackOfs + 2)]) \x7b programCounter = r2; \x7d"
  | .gef =>
    "if(((float *) opStack)[(uint8_t) (opStackOfs + 1)] >= ((float *) opStack)[(uint8_t) (opStackOfs + 2)]) \x7b programCounter = r2; \x7d"
  | .load1 =>
    "r0 = opStack[opStackOfs] = image[ r0 & dataMask ];"
  | .load2 =>
    "r0 = opStack[opStackOfs] = *(unsigned short *)&image[ r0 & dataMask ];"
  | .load4 =>
    "r0 = opStack[opStackOfs] = *(int *) &image[ r0 & dataMask ];"
  | .store1 =>
    "image[ r1 & dataMask ] = r0;"
  | .store2 =>
    "*(short *)&image[ r1 & dataMask ] = r0;"
  | .store4 =>
    "*(int *)&image[ r1 & dataMask ] = r0;"
  | .arg =>
    "*(int *)&image[ (codeImage[programCounter] + programStack) & dataMask ] = r0;"
  | .blockCopy =>
    "VM_BlockCopy(r1, r0, r2);"
  | .sex8 =>
    "opStack[opStackOfs] = (signed char) opStack[opStackOfs];"
  | .sex16 =>
    "opStack[opStackOfs] = (short) opStack[opStackOfs];"
  | .negi =>
    "opStack[opStackOfs] = -r0;"
  | .add =>
    "opStack[opStackOfs] = r1 + r0;"
  | .sub =>
    "opStack[opStackOfs] = r1 - r0;"
  | .divi =>
    "opStack[opStackOfs] = r1 / r0;"
  | .divu =>
    "opStack[opStackOfs] = ((unsigned) r1) / ((unsigned) r0);"
  | .modi =>
    "opStack[opStackOfs] = r1 % r0;"
  | .modu =>
    "opStack[opStackOfs] = ((unsigned) r1) % ((unsigned) r0);"
  | .muli =>
    "opStack[opStackOfs] = r1 * r0;"
  | .mulu =>
    "opStack[opStackOfs] = ((unsigned) r1) * ((unsigned) r0);"
  | .band =>
    "opStack[opStackOfs] = ((unsigned) r1) & ((unsigned) r0);"
  | .bor =>
    "opStack[opStackOfs] = ((unsigned) r1) | ((unsigned) r0);"
  | .bxor =>
    "opStack[opStackOfs] = ((unsigned) r1) ^ ((unsigned) r0);"
  | .bcom =>
    "opStack[opStackOfs] = ~((unsigned) r0);"
  | .lsh =>
    "opStack[opStackOfs] = r1 << r0;"
  | .rshi =>
    "opStack[opStackOfs] = r1 >> r0;"
  | .rshu =>
    "opStack[opStackOfs] = ((unsigned) r1) >> r0;"
  | .negf =>
    "((float *) opStack)[opStackOfs] =  -((float *) opStack)[opStackOfs];"
  | .addf =>
    "((float *) opStack)[opStackOfs] = ((float *) opStack)[opStackOfs] + ((float *) opStack)[(uint8_t) (opStackOfs + 1)];"
  | .subf =>
    "((float *) opStack)[opStackOfs] = ((float *) opStack)[opStackOfs] - ((float *) opStack)[(uint8_t) (opStackOfs + 1)];"
  | .divf =>
    "((float *) opStack)[opStackOfs] = ((float *) opStack)[opStackOfs] / ((float *) opStack)[(uint8_t) (opStackOfs + 1)];"
  | .mulf =>
    "((float *) opStack)[opStackOfs] = ((float *) opStack)[opStackOfs] * ((float *) opStack)[(uint8_t) (opStackOfs + 1)];"
  | .cvif =>
    "((float *) opStack)[opStackOfs] = (float) opStack[opStackOfs];"
  | .cvfi =>
    "opStack[opStackOfs] = Q_ftol(((float *) opStack)[opStackOfs]);"
  | _ => ""

/-! ## codes and opcodes -/

theorem ofCode?_code (op : Opcode) : ofCode? op.code = some op := by cases op <;> rfl

theorem code_lt (op : Opcode) : op.code < 60 := by cases op <;> decide

end Opcode
end Disasm
