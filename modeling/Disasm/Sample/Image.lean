import Disasm.Fault
import Disasm.Image

/-!
# Sample images

Images for trying things out, of any number of functions.  All functions have the same instructions, up
to the addresses in them: stores of every width, all arithmetic, reads through pointers, calls of the
system and of the next function (the last one calls the address 0), every branch, and a switch whose
cases lead to the end of the first function.

The data starts with a few words that the code uses and the table of the switch; the literals hold shown
and hidden characters.  More words and more literals may follow.
-/

namespace Disasm.Sample

structure SampleImage where
  bytes : List UInt8
  instructionCount : Nat
  dataLength : Nat
  litLength : Nat
  bssLength : Nat
  /-- the addresses of the functions -/
  functions : List Nat
  deriving DecidableEq, Repr

/-! ## code -/

/-- the instructions of a function -/
def functionLength : Nat := 157

/-- an instruction without parameter -/
def op (o : Opcode) : Instruction := ⟨o, 0⟩

def const (n : Int) : Instruction := ⟨.const, n⟩

def loc (n : Int) : Instruction := ⟨.localAddr, n⟩

/-- the bytes of locals of a function -/
def frame : Int := 64

/-- copies between locals, of one, two and four bytes -/
def moves : List Instruction :=
  [loc 16, loc 72, op .store4, loc 20, loc 16, op .load1, op .sex8, op .store1,
    loc 20, loc 16, op .load2, op .sex16, op .store2]

/-- arithmetic on whole numbers: each operand is a constant -/
def wholeArithmetic : List Instruction :=
  [loc 24, const 4, op .load4] ++
  ([(3, .add), (2, .sub), (5, .muli), (7, .mulu), (3, .divi), (3, .divu), (4, .modi), (4, .modu),
    (15, .band), (48, .bor), (17, .bxor)] : List (Int × Opcode)).flatMap (fun (n, o) => [const n, op o]) ++
  [op .bcom] ++
  ([(2, .lsh), (1, .rshi), (1, .rshu)] : List (Int × Opcode)).flatMap (fun (n, o) => [const n, op o]) ++
  [op .negi, op .store4]

def realArithmetic : List Instruction :=
  [loc 28, const 0, op .cvif] ++
  ([.addf, .subf, .mulf, .divf] : List Opcode).flatMap (fun o => [const 0, op .cvif, op o]) ++
  [op .negf, op .cvfi, op .store4]

/-- the word behind what a pointer points to -/
def pointerRead (target : Int) (pointer : Instruction) : List Instruction :=
  [loc target, pointer, op .load4, const 4, op .add, op .load4, op .store4]

def pointerReads : List Instruction :=
  pointerRead 32 (const 8) ++ pointerRead 36 (loc 16) ++ pointerRead 36 (loc 72)

/-- calls of the system and of the function at `next`; `lit` and `bss` are addresses in segments -/
def calls (next lit bss : Int) : List Instruction :=
  [const lit, ⟨.arg, 8⟩, const bss, ⟨.arg, 12⟩, const (-1), op .call, op .pop,
    const next, ⟨.arg, 8⟩, const next, op .call, op .pop, loc 16, loc 32, ⟨.blockCopy, 16⟩]

/-- every branch, and a jump, to `target` -/
def branches (target : Int) : List Instruction :=
  ([.eq, .ne, .lti, .lei, .gti, .gei, .ltu, .leu, .gtu, .geu, .eqf, .nef, .ltf, .lef, .gtf, .gef] :
    List Opcode).flatMap (fun o => [const 0, ⟨o, target⟩]) ++
  [const target, op .jump, op .ignore, op .brk, op .undef]

/-- a switch over three cases, with its table at 16; each of the two checks leads twenty instructions
on -/
def switch (start : Int) : List Instruction :=
  [loc 16, op .load4, const 0, ⟨.lti, start + 162⟩, loc 16, op .load4, const 2, ⟨.gti, start + 166⟩,
    loc 16, op .load4, const 2, op .lsh, const 16, op .add, op .load4, op .jump]

/-- the function at `start` -/
def function (start next lit bss : Int) : List Instruction :=
  [⟨.enter, frame⟩] ++ moves ++ wholeArithmetic ++ realArithmetic ++ pointerReads ++
    calls next lit bss ++ branches (start + 136) ++ switch start ++ [op .push, ⟨.leave, frame⟩]

/-- the addresses of `n` functions -/
def starts (n : Nat) : List Nat := (List.range n).map (· * functionLength)

def functions (n : Nat) (lit bss : Int) : List Instruction :=
  (List.range n).flatMap fun (i : Nat) =>
    let next := if i + 1 < n then (i + 1) * functionLength else 0
    function (i * functionLength : Nat) next lit bss

/-! ## the other segments -/

/-- the address to which all cases of the switches lead -/
def caseTarget : Nat := functionLength - 1

def dataWords (extra : Nat) : List Int :=
  ([0, 0x11223344, 0, 0, caseTarget, caseTarget, caseTarget] ++
    (List.range extra).map (3 * ·)).map Int.ofNat

/-- the bytes of an ASCII text, and a zero byte -/
def literal (s : String) : List UInt8 := s.toUTF8.toList ++ [0]

def literals (extra : Nat) : List UInt8 :=
  literal "Hello q3vm world" ++ ([7, 8, 9, 10, 11, 12, 13, 31] ++ literal " mix") ++ literal "another" ++
    (List.range extra).flatMap fun i => literal ("str_" ++ toString i ++ "_\t\n!")

def bssLength : Nat := 512

def words (ns : List Int) : List UInt8 := ns.flatMap Instruction.wordBytes

/-- an image of `n` functions; the magic number is taken as it is given -/
def image (n extraWords extraLits : Nat) (magic : Int) : Except Fault SampleImage :=
  match (starts n).getLast? with
  | none => .error .outOfBounds
  | some last =>
    let data := words (dataWords extraWords)
    let lit := literals extraLits
    let code := Instruction.encodeAll
      (functions n (data.length + 1) (data.length + lit.length + 4))
    let isTwo := magic = Version.two.magic
    let jumps := if isTwo then words [caseTarget, last] else []
    let codeOffset := if isTwo then 36 else 32
    let header : List Int :=
      [magic, n * functionLength, codeOffset, code.length, codeOffset + code.length, data.length,
        lit.length, bssLength] ++ (if isTwo then [(jumps.length : Int)] else [])
    .ok {
      bytes := words header ++ code ++ data ++ lit ++ jumps
      instructionCount := n * functionLength
      dataLength := data.length
      litLength := lit.length
      bssLength
      functions := starts n }

end Disasm.Sample
