import Disasm.Analysis.Basic
import Disasm.Hash
import Disasm.Image

/-!
# Walking over the code

One walk over the instructions fills the tables.  A function's hash is the hash of a text: the codes of
its opcodes in decimal, with the negative constants and the frame addresses behind theirs.  The walk
looks back at the instructions before the current one for two patterns:

* a pointer read: an address, `load4`, `const`, `add` and a load;
* a switch: sixteen instructions that compare a local with the least and the greatest case and jump
  through a table in the data segment.

A switch whose cases or whose table make no sense is skipped with a warning, and so is a table entry that
points behind the code.
-/

namespace Disasm

/-- what the walk carries from one instruction to the next -/
structure Walk where
  tables : Analysis
  /-- the number of the next instruction -/
  index : Int := 0
  /-- the place of its first byte; the place behind it while it is visited -/
  pos : Nat := 0
  /-- the current function -/
  func : Int := -1
  /-- instructions counted for it -/
  count : Int := 0
  /-- its text for the hash -/
  text : String := ""
  maxArg : Int := 8
  lastArg : Int := 0
  /-- the instruction before -/
  prev : Instruction := ⟨.undef, 0⟩
  /-- the instructions behind the last `enter`, the last one first; the visited one is among them -/
  ops : List Instruction := []
  /-- the last one first -/
  warnings : List String := []

namespace Walk

def warn (w : Walk) (text : String) : Walk := { w with warnings := text :: w.warnings }

def setTables (w : Walk) (f : Analysis → Analysis) : Walk := { w with tables := f w.tables }

/-! ## functions -/

/-- enters the current function into the tables -/
def endFunction (w : Walk) : Walk :=
  let hash := textHash w.text
  w.setTables fun t => { t with
    sizes := t.sizes.insert w.func w.count
    hashes := t.hashes.insert w.func hash
    byHash := append t.byHash hash w.func
    maxArgs := t.maxArgs.insert w.func w.maxArg }

/-- starts the function at the current instruction; no other one is before an `enter` in the first five bytes -/
def startFunction (w : Walk) : Walk :=
  let w := if w.pos > 5 then w.endFunction else w
  { w with func := w.index, count := 1, text := "", maxArg := 8, lastArg := 0, ops := [] }

/-! ## jumps and calls -/

def addJump (w : Walk) (target : Int) : Walk :=
  w.setTables fun t => { t with jumps := append t.jumps target w.index }

/-- the number of parameters of a function after one more call -/
def parmCount (lastArg : Int) : Option Int → Int
  | none => lastArg
  | some n => if n = lastArg then n else -1

def addCall (w : Walk) (target : Int) : Walk :=
  w.setTables fun t => { t with
    calls := append t.calls target w.func
    parmCounts := t.parmCounts.insert target (parmCount w.lastArg t.parmCounts[target]?) }

/-! ## pointer reads -/

/-- the pointer read that a load completes -/
def pointerRead? : List Instruction → Option PointerRead
  | add :: offset :: load :: address :: _ =>
    if add.op = .add ∧ offset.op = .const ∧ load.op = .load4 then
      if address.op = .const then some ⟨false, address.parm, offset.parm⟩
      else if address.op = .localAddr then some ⟨true, address.parm, offset.parm⟩
      else none
    else none
  | _ => none

def addPointerRead (w : Walk) : Walk :=
  match pointerRead? w.ops.tail with
  | some r => w.setTables fun t => { t with pointerReads := t.pointerReads.insert w.index r }
  | none => w

/-! ## switches -/

/-- the opcodes before the jump of a switch, the last one first -/
def switchPattern : List Opcode :=
  [.load4, .add, .const, .lsh, .const, .load4, .localAddr, .gti, .const, .load4, .localAddr, .lti,
    .const, .load4, .localAddr]

/-- the switch that a jump completes -/
def switch? (past : List Instruction) : Option Switch :=
  let before := past.take 15
  if before.map Instruction.op = switchPattern then
    let parm (i : Nat) : Int := (before.getD i default).parm
    some ⟨parm 12, parm 8, parm 2⟩
  else none

/-- what is wrong with a switch at `index` over `size` bytes of data -/
def switchProblems (index : Int) (size : Nat) (s : Switch) : List String :=
  let place := " at 0x" ++ Text.hex index ++ ": "
  let first := s.table + s.least * 4
  let last := s.table + s.greatest * 4
  (if s.least < 0 then ["invalid min value for switch" ++ place ++ toString s.least] else []) ++
  (if s.greatest < 0 then ["invalid max value for switch" ++ place ++ toString s.greatest]
    else []) ++
  (if s.least > s.greatest then
    ["min greater than max for switch" ++ place ++ toString s.least ++ " > " ++
      toString s.greatest] else []) ++
  (if first < 0 ∨ first ≥ size then
    ["invalid min switch address" ++ place ++ "0x" ++ Text.hex first] else []) ++
  (if last < 0 ∨ last ≥ size then
    ["invalid max switch address" ++ place ++ "0x" ++ Text.hex last] else [])

/-- takes one table entry into account -/
def addCase (codeSize : Nat) (w : Walk) (s : Switch) (value : Int) (target : Nat) : Walk :=
  if codeSize ≤ target then
    w.warn ("invalid switch target address at 0x" ++ Text.hex w.index ++ ": 0x" ++ Text.hex target)
  else
    w.setTables fun t => { t with
      switchData := append t.switchData (s.table + value * 4) w.index
      cases := append t.cases target (w.index, value) }

/-- the entries of a table for `n` cases from `value` on -/
def addCases (image : Image) (s : Switch) : Nat → Int → Walk → Walk × Option Fault
  | 0, _, w => (w, none)
  | n + 1, value, w =>
    match Image.wordAt image.data (s.table + value * 4).toNat with
    | .ok target => addCases image s n (value + 1) (addCase image.code.size w s value target)
    | .error f => (w, some f)

def addSwitch (image : Image) (s : Switch) (w : Walk) : Walk × Option Fault :=
  match switchProblems w.index image.data.size s with
  | [] =>
    addCases image s (s.greatest - s.least + 1).toNat s.least
      (w.setTables fun t => { t with
        switchStarts := t.switchStarts ++ [w.index - 15]
        switches := t.switches.insert w.index s })
  | problems => (problems.foldl warn w, none)

/-! ## instructions -/

/-- a jump leads to the constant pushed before it, or ends a switch -/
def visitJump (image : Image) (w : Walk) : Walk × Option Fault :=
  if w.prev.op = .const then (w.addJump w.prev.parm, none)
  else match switch? w.ops.tail with
    | some s => w.addSwitch image s
    | none => (w, none)

def visitCall (w : Walk) : Walk := if w.prev.op = .const then w.addCall w.prev.parm else w

/-- the text that the parameter of an instruction adds to the hash -/
def parmText (i : Instruction) : String :=
  match i.op with
  | .const => if i.parm < 0 then toString i.parm else ""
  | .localAddr => toString i.parm
  | _ => ""

def counted (i : Instruction) (w : Walk) : Walk :=
  { w with
    pos := w.pos + (1 + i.op.width)
    count := w.count + 1
    text := w.text ++ toString i.op.code ++ parmText i
    ops := i :: w.ops }

/-- what an instruction does to the tables -/
def visit (image : Image) (i : Instruction) (w : Walk) : Walk × Option Fault :=
  match i.op with
  | .pop => ({ w with lastArg := 0 }, none)
  | .arg => ({ w with maxArg := max w.maxArg i.parm, lastArg := i.parm }, none)
  | .load1 | .load2 | .load4 => (w.addPointerRead, none)
  | .enter => (w.startFunction, none)
  | .jump => w.visitJump image
  | .call => (w.visitCall, none)
  | op => if op.isBranch then (w.addJump i.parm, none) else (w, none)

def advance (i : Instruction) (w : Walk) : Walk :=
  { w with index := w.index + 1, prev := i }

def step (image : Image) (i : Instruction) (w : Walk) : Walk × Option Fault :=
  let r := visit image i (counted i w)
  (advance i r.1, r.2)

/-- the walk over some instructions; a fault ends it -/
def run (image : Image) : List Instruction → Walk → Walk × Option Fault
  | [], w => (w, none)
  | i :: rest, w =>
    match step image i w with
    | (w, none) => run image rest w
    | (w, some f) => (w, some f)

end Walk

namespace Analysis

/-- the tables after a walk over the whole code, what it warns of, and the fault that ended it -/
def extend (image : Image) (code : Decoded) (tables : Analysis) :
    Analysis × List String × Option Fault :=
  match Walk.run image code.instructions { tables } with
  | (w, some f) => (w.tables, w.warnings.reverse, some f)
  | (w, none) =>
    match code.fault with
    | some f => (w.tables, w.warnings.reverse, some f)
    | none => (w.endFunction.tables, w.warnings.reverse, none)

end Analysis
end Disasm
