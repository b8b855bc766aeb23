import Disasm.Cursor
import Disasm.Opcode

/-!
# Instructions and their bytes

An instruction is an opcode with its parameter.  Its bytes are the code of the opcode and then nothing,
one byte (an unsigned parameter) or a little-endian word (a signed one).

* `Instruction.encode`  the bytes of an instruction;
* `Instruction.decodeOne`  the instruction at the start of some bytes, and the bytes behind it;
* `Instruction.decode`  a given number of instructions, as far as they can be read.
-/

namespace Disasm

structure Instruction where
  op : Opcode
  /-- 0 for an opcode without parameter -/
  parm : Int := 0
  deriving DecidableEq, Repr, Inhabited

namespace Instruction

def hasParm (i : Instruction) : Bool := i.op.width != 0

/-- the parameter is one that the bytes of the opcode can hold -/
def Fits (i : Instruction) : Prop :=
  match i.op.width with
  | 0 => i.parm = 0
  | 1 => 0 ≤ i.parm ∧ i.parm < 0x100
  | _ => -0x80000000 ≤ i.parm ∧ i.parm < 0x80000000

/-! ## bytes -/

/-- the four bytes of a word -/
def wordBytes (n : Int) : List UInt8 :=
  let u := (n % 0x100000000).toNat
  [u.toUInt8, (u / 0x100).toUInt8, (u / 0x10000).toUInt8, (u / 0x1000000).toUInt8]

def parmBytes (i : Instruction) : List UInt8 :=
  match i.op.width with
  | 0 => []
  | 1 => [i.parm.toNat.toUInt8]
  | _ => wordBytes i.parm

def encode (i : Instruction) : List UInt8 := i.op.code.toUInt8 :: i.parmBytes

def encodeAll (is : List Instruction) : List UInt8 := is.flatMap encode

/-- the parameter of `op` at the start of the bytes behind its code -/
def readParm (op : Opcode) (bytes : List UInt8) : Except Fault (Int × List UInt8) :=
  match op.width with
  | 0 => .ok (0, bytes)
  | 1 =>
    match bytes with
    | b :: rest => .ok (b.toNat, rest)
    | [] => .error .notSingle
  | _ =>
    match bytes with
    | b0 :: b1 :: b2 :: b3 :: rest => .ok (signedWord (wordValue b0 b1 b2 b3), rest)
    | _ => .error .badWord

def decodeOne : List UInt8 → Except Fault (Instruction × List UInt8)
  | [] => .error .outOfBounds
  | b :: bytes =>
    match Opcode.ofCode? b.toNat with
    | none => .error .outOfBounds
    | some op =>
      match readParm op bytes with
      | .ok (parm, rest) => .ok (⟨op, parm⟩, rest)
      | .error f => .error f

end Instruction

/-- the instructions that were read, the bytes behind them, and why no more were read if fewer than
wanted are there -/
structure Decoded where
  instructions : List Instruction
  rest : List UInt8
  fault : Option Fault

namespace Instruction

/-- reads up to `n` instructions; `done` holds those before, last one first -/
def decodeFrom : Nat → List UInt8 → List Instruction → Decoded
  | 0, bytes, done => ⟨done.reverse, bytes, none⟩
  | n + 1, bytes, done =>
    match decodeOne bytes with
    | .ok (i, rest) => decodeFrom n rest (i :: done)
    | .error f => ⟨done.reverse, bytes, some f⟩

def decode (n : Nat) (bytes : List UInt8) : Decoded := decodeFrom n bytes []

end Instruction
end Disasm
