import Disasm.Listing.Entry
import Disasm.Program

/-!
# The code listing

The entry of each instruction: labels for the places to which control may jump, the head of a function,
what is known about addresses and constants, and the statement that the instructions since the last one
make up on the operand stack.
-/

namespace Disasm.Listing

abbrev Step (α : Type) := Except Interruption α

def fail {α : Type} (f : Fault) : Step α := .error (.fault f)

def lift {α : Type} : Except Fault α → Step α
  | .ok a => .ok a
  | .error f => fail f

def get {α : Type} : Option α → Step α
  | some a => .ok a
  | none => fail .unknownName

/-- what is carried from one instruction to the next -/
structure State where
  stack : OperandStack := {}
  /-- the current function -/
  func : Option Int := none
  /-- the size of its frame -/
  frame : Option Int := none

/-! ## labels -/

def rule : String := "\n;----------------------------------- "

/-- whether the jump table leads to an address -/
def inJumpTable (p : Program) (index : Nat) : Bool := p.jumpTargets.contains index

def star (p : Program) (index : Nat) : String := if inJumpTable p index then "*" else ""

def jumpLabel (p : Program) (index : Nat) : String :=
  match p.analysis.jumps[(index : Int)]? with
  | some sources =>
    rule ++ star p index ++ "from " ++
      String.join (sources.map fun s => " 0x" ++ Text.hex s) ++ "\n"
  | none =>
    if inJumpTable p index && !p.analysis.cases.contains index then rule ++ "table jump\n" else ""

def caseLabel (p : Program) (index : Nat) : String :=
  match p.analysis.cases[(index : Int)]? with
  | some sources =>
    rule ++ "case " ++ star p index ++ "from " ++
      String.join (sources.map fun s => " 0x" ++ Text.hex s.1 ++ "(0x" ++ Text.hex s.2 ++ ")") ++
      "\n"
  | none => ""

/-- control may come from elsewhere -/
def isTarget (p : Program) (index : Nat) : Bool :=
  p.analysis.jumps.contains index || p.analysis.cases.contains index

/-! ## heads of functions -/

/-- the names that the base game has for a hash, as guesses -/
def guesses (p : Program) (hash : Int) : Option String :=
  (p.names.functions[hash]?).map fun names =>
    String.join (names.map fun n => " ?" ++ n ++ "()")

def callerText (p : Program) (caller : Int) : Step String := do
  match p.labels.functions[caller]? with
  | some name => return " " ++ name ++ "()"
  | none =>
    let hash ← get p.analysis.hashes[caller]?
    return (guesses p hash).getD (" 0x" ++ Text.hex caller)

def callersText (p : Program) : List Int → Step String
  | [] => return ""
  | c :: rest => do
    let text ← callerText p c
    return text ++ (← callersText p rest)

def callersLine (p : Program) (index : Nat) : Step String :=
  match p.analysis.calls[(index : Int)]? with
  | none => .ok ""
  | some callers => do return "\n; called from" ++ (← callersText p callers) ++ "\n"

def nameLine (p : Program) (index : Nat) : Step String := do
  match p.labels.functions[(index : Int)]? with
  | some name => return "; func " ++ name ++ "()\n"
  | none =>
    let hash ← get p.analysis.hashes[(index : Int)]?
    return ((guesses p hash).map fun g => ";" ++ g ++ "\n").getD ""

def parmsLine (p : Program) (index : Nat) : String :=
  match p.analysis.parmCounts[(index : Int)]? with
  | none => ""
  | some n =>
    ";" ++ (if n = 0 then " no" else if n = -1 then " var" else " 0x" ++ Text.hex n) ++ " args\n"

def heading (p : Program) (index : Nat) : Step String := do
  let callers ← callersLine p index
  let name ← nameLine p index
  let largest ← get p.analysis.maxArgs[(index : Int)]?
  return callers ++ "\n" ++ name ++ parmsLine p index ++ "; max local arg 0x" ++
    Text.hex largest ++ "\n; ========================\n"

/-! ## addresses -/

/-- a remark on an address, and the text that stands for it on the operand stack -/
structure Naming where
  remark : String
  operand : String

/-- the names of the ranges that start at an address, or the range around it -/
def foundNaming? (found : Found) : Option Naming :=
  match found.exact with
  | first :: _ => some ⟨", ".intercalate found.exact, "&" ++ first⟩
  | [] =>
    found.nearest.map fun n =>
      let text := n.name ++ " + 0x" ++ Text.hex n.distance
      ⟨text, "(&" ++ text ++ ")"⟩

def dataNaming? (p : Program) (addr : Int) : Option Naming :=
  match p.labels.symbols[addr]? with
  | some name => some ⟨name, "&" ++ name⟩
  | none => foundNaming? (p.labels.ranges.find addr)

/-- the key of the argument at a distance behind the frame -/
def argKey (distance : Int) : String := "arg" ++ toString (distance / 4)

def argRange? (p : Program) (func : Int) (key : String) : Option Range :=
  (p.labels.args[func]?).bind (·[key]?)

def argNaming (p : Program) (func : Int) (distance : Int) : Naming :=
  let key := argKey distance
  match argRange? p func key with
  | some r => ⟨key ++ " : " ++ r.name, "&" ++ r.name⟩
  | none => ⟨key, "&" ++ key⟩

/-- plain names of locals hide the ranges of the function -/
def localNaming? (p : Program) (func addr : Int) : Option Naming :=
  match p.labels.locals[func]? with
  | some names => (names[addr]?).map fun n => ⟨n, "&" ++ n⟩
  | none => (p.labels.localRanges[func]?).bind fun t => foundNaming? (t.find addr)

/-- a local or, behind the frame and two words, an argument -/
def frameNaming (p : Program) (func frame addr : Int) : Naming :=
  let plain : Naming := ⟨"", "&local" ++ Text.hex addr⟩
  if addr - frame - 8 ≥ 0 then argNaming p func (addr - frame - 8)
  else (localNaming? p func addr).getD plain

/-! ## constants -/

structure ConstantText where
  note : Note := {}
  naming : Naming

/-- the four bytes at a data address, and the word they make -/
def dataText (image : Image) (addr : Int) : Except Fault String := do
  let b0 ← Image.byteAt image.data addr
  let b1 ← Image.byteAt image.data (addr + 1)
  let b2 ← Image.byteAt image.data (addr + 2)
  let b3 ← Image.byteAt image.data (addr + 3)
  return Text.hexByte b0 ++ " " ++ Text.hexByte b1 ++ " " ++ Text.hexByte b2 ++ " " ++
    Text.hexByte b3 ++ "  (0x" ++ Text.hexDigits (wordValue b0 b1 b2 b3) ++ ")\n"

/-- what is known about the target of a call -/
def callRemark (p : Program) (target : Int) : String :=
  match (if target < 0 then p.names.calls[target]? else none) with
  | some name => name ++ "()"
  | none =>
    match p.labels.functions[target]? with
    | some name => name ++ "()"
    | none =>
      match p.analysis.hashes[target]? with
      | some hash => (guesses p hash).getD ":unknown function:"
      | none => ""

/-- `next` is the code of the opcode that follows -/
def constantText (p : Program) (index : Nat) (value : Int) (next : Nat) : Step ConstantText := do
  let plain : Naming := ⟨"", "0x" ++ Text.hex value⟩
  let h := p.header
  let isCall := next = Opcode.call.code
  let isCode := isCall || next = Opcode.jump.code
  match p.labels.constants[(index : Int)]? with
  | some (name, expected) =>
    if value = expected then return { naming := ⟨name, name⟩ }
    else return { naming := { plain with remark := "FIXME constant val != to code val" } }
  | none =>
    if h.dataLength ≤ value ∧ value < h.dataLength + h.litLength ∧ !isCode then
      let text ← lift (p.image.literal value)
      return {
        note := ⟨"\n  ; " ++ text ++ "\n", "\n    ;  lit 0x" ++ Text.hex value ++ " : " ++ text ++ "\n"⟩
        naming := plain }
    else if 0 ≤ value ∧ value < h.dataLength ∧ !isCode then
      let text ← lift (dataText p.image value)
      return {
        note := ⟨"\n  ; " ++ text, "    ; const 0x" ++ Text.hex value ++ " : " ++ text ++ "\n"⟩
        naming := (dataNaming? p value).getD plain }
    else if isCall then return { naming := { plain with remark := callRemark p value } }
    else if h.dataLength ≤ value ∧ !isCode then
      return { naming := (dataNaming? p value).getD plain }
    else return { naming := plain }

/-! ## pointer reads -/

/-- the ranges among which the pointer of a read is looked for -/
def pointerRanges (p : Program) (s : State) (r : PointerRead) : Step (List Range) := do
  if !r.isLocal then return p.labels.ranges.getD r.pointer []
  match s.frame with
  | none => fail .noFrame
  | some frame =>
    let func := s.func.getD (-1)
    let distance := r.pointer - frame - 8
    if distance ≥ 0 then return (argRange? p func (argKey distance)).toList
    else return (p.labels.localRangesOf func).getD r.pointer []

/-- a pointer of depth one to something -/
def isPlainPointer (r : Range) : Bool :=
  r.size = 4 && (r.pointer.map Pointer.depth) == some 1 &&
    (r.kind = .pointerToTemplate || r.kind = .pointerToVoid || r.kind = .pointerToBasic)

def pointerTail (r : PointerRead) : String :=
  "*0x" ++ Text.hex r.pointer ++ " -> (0x" ++ Text.hex r.offset ++ ")\n"

/-- what a load at a pointer read reads -/
def pointerNote (p : Program) (s : State) (r : PointerRead) : Step String := do
  match (← pointerRanges p s r).find? isPlainPointer with
  | none => return "; pointer dereference  (no template) " ++ pointerTail r
  | some range =>
    let target := (range.pointer.map Pointer.target).getD ""
    if range.kind = .pointerToTemplate then
      match p.library.templates[target]? with
      | none => .error (.problem ("unknown template " ++ target))
      | some t =>
        match t.members.find? fun m => m.offset = r.offset with
        | some m => return "; pointer dereference " ++ range.name ++ "->" ++ m.name ++ "\n"
        | none => return "; pointer dereference (couldn't match offset) " ++ pointerTail r
    else return "; pointer dereference  (basic type: " ++ target ++ ") " ++ pointerTail r

/-! ## entries -/

/-- an operation on the operand stack -/
def operate (stack : OperandStack) (w : OperandStack.Work Unit) : Step OperandStack :=
  match w.run stack with
  | .ok _ stack => .ok stack
  | .error f _ => fail f

/-- the parameter as an operation shows it -/
def parmOperand (i : Instruction) : Operand := some ("0x" ++ Text.hex i.parm)

/-- the entry of an instruction with labels and comments only -/
def bareEntry (p : Program) (index : Nat) (i : Instruction) : Entry :=
  { index, instruction := i
    before := p.annotations.code.block? index .before
    after := p.annotations.code.block? index .after
    jumpLabel := jumpLabel p index
    caseLabel := caseLabel p index
    inline := p.annotations.code.inline[(index : Int)]? }

def enterEntry (p : Program) (e : Entry) : Step (Entry × State) := do
  let text ← heading p e.index
  return ({ e with heading := text },
    { stack := {}, func := some e.index, frame := some e.instruction.parm })

def localEntry (p : Program) (s : State) (e : Entry) : Step (Entry × State) := do
  match s.frame with
  | none => fail .noFrame
  | some frame =>
    let start :=
      if p.analysis.switchStarts.contains (e.index : Int) then "; possible switch start\n" else ""
    let naming := frameNaming p (s.func.getD (-1)) frame e.instruction.parm
    return ({ e with note := ⟨start, ""⟩, remark := naming.remark },
      { s with stack := s.stack.pushed (some naming.operand) })

def constEntry (p : Program) (s : State) (e : Entry) (next : Option Nat) :
    Step (Entry × State) := do
  match next with
  | none => fail .outOfBounds
  | some next =>
    let text ← constantText p e.index e.instruction.parm next
    return ({ e with note := text.note, remark := text.naming.remark },
      { s with stack := s.stack.pushed (some text.naming.operand) })

def switchNote (p : Program) (index : Nat) : String :=
  match p.analysis.switches[(index : Int)]? with
  | some w =>
    "; possible switch jump: 0x" ++ Text.hex w.table ++ " (0x" ++ Text.hex w.least ++ " -> 0x" ++
      Text.hex w.greatest ++ ")\n"
  | none => ""

def readNote (p : Program) (s : State) (index : Nat) : Step String :=
  match p.analysis.pointerReads[(index : Int)]? with
  | some r => pointerNote p s r
  | none => .ok ""

/-- the entry of an instruction that works on the operand stack -/
def operationEntry (p : Program) (s : State) (e : Entry) (o : Operation) :
    Step (Entry × State) := do
  let op := e.instruction.op
  let note ← if op = .load1 || op = .load2 || op = .load4 then readNote p s e.index else pure ""
  let stack ← operate s.stack (OperandStack.perform (parmOperand e.instruction) o)
  if op.endsStatement then
    return ({ e with statement := stack.result }, { s with stack := {} })
  else return ({ e with note := ⟨note, ""⟩ }, { s with stack })

/-- the entry of an instruction, and what is carried on -/
def entry (p : Program) (index : Nat) (i : Instruction) (next : Option Nat) (s : State) :
    Step (Entry × State) :=
  let e := bareEntry p index i
  let s := if isTarget p index then { s with stack := s.stack.markInvalid } else s
  match i.op with
  | .enter => enterEntry p e
  | .localAddr => localEntry p s e
  | .const => constEntry p s e next
  | op =>
    match op.operation? with
    | some o => operationEntry p s e o
    | none =>
      let e := if op = .jump then { e with note := ⟨switchNote p index, ""⟩ } else e
      .ok (e, if op.breaksStack then { s with stack := s.stack.markInvalid } else s)

/-! ## the walk over the code -/

/-- the parameter of an opcode at a position of the code: a byte is looked up by its index, a word is made of
the four bytes from the position on -/
def parmAt (code : Array UInt8) (op : Opcode) (pos : Nat) : Except Fault Int :=
  match op.width with
  | 0 => .ok 0
  | 1 => (Image.byteAt code pos).map fun b => (b.toNat : Int)
  | _ => (Image.wordAt code pos).map signedWord

/-- the instruction at a position of the code, and the position behind it -/
def instructionAt (code : Array UInt8) (pos : Nat) : Except Fault (Instruction × Nat) :=
  match Image.byteAt code pos with
  | .error f => .error f
  | .ok b =>
    match Opcode.ofCode? b.toNat with
    | none => .error .outOfBounds
    | some op => (parmAt code op (pos + 1)).map fun parm => (⟨op, parm⟩, pos + (1 + op.width))

/-- the entries of `n` instructions from a position on, behind those of `done`, which has the last one first;
and what ended them -/
def entriesFrom (p : Program) :
    Nat → Nat → Nat → State → List Entry → List Entry × Option Interruption
  | 0, _, _, _, done => (done.reverse, none)
  | n + 1, index, pos, s, done =>
    match instructionAt p.image.code pos with
    | .error f => (done.reverse, some (.fault f))
    | .ok (i, next) =>
      match entry p index i (p.image.code[next]?.map UInt8.toNat) s with
      | .ok (e, s) => entriesFrom p n (index + 1) next s (e :: done)
      | .error why => (done.reverse, some why)

def entries (p : Program) : List Entry × Option Interruption :=
  entriesFrom p p.header.instructionCount.toNat 0 0 {} []

/-- prints the listing of the code -/
def printCode {σ : Type} (p : Program) (replace : Bool) : Action σ Unit := do
  let (es, why) := entries p
  Action.print (layOut replace es)
  match why with
  | none => return ()
  | some why => Action.interrupt why

end Disasm.Listing
