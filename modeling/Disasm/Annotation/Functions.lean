import Disasm.Annotation.Symbols

/-!
# The functions file

A line that starts with an address names a function.  The lines behind it describe that function:

* `arg` with a number, an optional type word and a name: an argument, which is a value of four bytes;
* `local`, an address in the frame, an optional type word and a name.

Arguments and locals are expected in increasing order within a function, functions in increasing order
behind one that does not stand at address 0.
-/

namespace Disasm.Annotations

open Disasm.Action

def functionsFile : String := "functions.dat"

/-- the function being described, and what the next argument and the next local are compared with -/
structure FunctionCursor where
  func : Option Int := none
  lastArg : Int := -1
  lastLocal : Int := -1

/-! ## arguments -/

/-- the number behind `arg`, without padding -/
def argNumber (loc : Location) (text : List Char) : Work Int := do
  if text.isEmpty || !text.all Text.isDigit then
    stop (loc.say ("invalid arg number '" ++ String.ofList text ++ "'"))
  if text.head? == some '0' && text.length > 1 then stop (loc.say "zero padded arg number")
  Action.ofOption .badNumeral (Text.readInt? 10 (String.ofList text))

def setArg (func : Int) (key : String) (r : Range) : Work Unit := do
  let r ← Action.ofExcept r.checked
  setLabels fun l => { l with args := l.args.alter func fun t => some ((t.getD {}).insert key r) }

/-- the range of an argument: one that is declared as plain bytes has at most four -/
def argRange (loc : Location) (words : List String) : Work Range := do
  match words with
  | type :: name :: _ =>
    let shape ← onLibrary (Library.declare loc none [type, name])
    if shape.kind = .raw ∧ shape.size > 4 then
      stop (loc.say "invalid argument range size, arguments are integers (values or pointers)")
    if shape.kind = .template then
      stop (loc.say "invalid argument type, arguments are integers (values or pointers)")
    return { size := shape.size, name, kind := shape.kind, pointer := shape.pointer }
  | name :: _ => return { size := 4, name }
  | [] => fail .outOfBounds

def readArg (loc : Location) (cur : FunctionCursor) (key : String) (words : List String) :
    Work FunctionCursor := do
  match cur.func with
  | none => stop (loc.say "function not defined yet")
  | some func =>
    let n ← argNumber loc (key.toList.drop 3)
    warnIf (n < cur.lastArg) loc "arg number out of order"
    setLabels fun l => { l with args := l.args.alter func fun t => some (t.getD {}) }
    warnIf (((← getLabels).args.getD func {}).contains key) loc "replacing arg"
    setArg func key (← argRange loc words)
    return { cur with lastArg := n }

/-! ## locals -/

def hasLocal (func addr : Int) : Work Bool := do return ((← getLabels).localsOf func).contains addr

/-- keeps a range among the locals of a function -/
def addLocalRange (func addr : Int) (r : Range) : Work Unit := do
  let r ← Action.ofExcept r.checked
  setLabels fun l => { l with
    localRanges := l.localRanges.alter func fun t => some ((t.getD {}).add addr r) }

/-- the range of a member of a template in a frame, where the depth of pointers is not kept -/
def localMemberRange (name : String) (m : Member) : Range :=
  { memberRange name m with pointer := m.pointer.map fun p => { p with depth := 0 } }

def placeLocalMembers (loc : Location) (func addr : Int) (name : String) : List Member → Work Unit
  | [] => return ()
  | m :: rest => do
    addLocalRange func (addr + m.offset) (localMemberRange name m)
    warnIf (← hasLocal func (addr + m.offset)) loc
      "local member template range would be override by simple symbol"
    placeLocalMembers loc func addr name rest

def placeLocalTemplate (loc : Location) (func addr : Int) (inner name : String) : Work Unit := do
  match (← read).library.templates[inner]? with
  | none => fail .unknownName
  | some t =>
    addLocalRange func addr { size := t.size, name }
    warnIf (← hasLocal func addr) loc
      "local template range would be overriden by local simple symbol"
    placeLocalMembers loc func addr name t.members

def placeLocal (loc : Location) (func addr : Int) (name : String) (shape : Shape) : Work Unit := do
  match shape.template, shape.array with
  | some inner, none => placeLocalTemplate loc func addr inner name
  | _, _ =>
    addLocalRange func addr (Range.ofShape name shape)
    warnIf (← hasLocal func addr) loc "local range would be override by simple symbol"

def readLocalRange (loc : Location) (cur : FunctionCursor) (func : Int) (w type name : String) :
    Work FunctionCursor := do
  let addr ← number loc "couldn't parse local address of range" w
  if addr < 0 then stop (loc.say "invalid local address range")
  warnIf (addr < cur.lastLocal) loc "local address out of order"
  let shape ← onLibrary (Library.declare loc none [type, name])
  placeLocal loc func addr name shape
  return { cur with lastLocal := addr }

def readLocalName (loc : Location) (cur : FunctionCursor) (func : Int) (w name : String) :
    Work FunctionCursor := do
  setLabels fun l => { l with locals := l.locals.alter func fun t => some (t.getD {}) }
  let addr ← number loc "couldn't parse address" w
  warnIf (← hasLocal func addr) loc "replacing local simple symbol"
  warnIf (addr < cur.lastLocal) loc "local address out of order"
  setLabels fun l => { l with
    locals := l.locals.alter func fun t => some ((t.getD {}).insert addr name) }
  warnIf (((← getLabels).localRangesOf func).contains addr) loc
    "local simple symbol overrides range"
  return { cur with lastLocal := addr }

def readLocal (loc : Location) (cur : FunctionCursor) (words : List String) :
    Work FunctionCursor := do
  match cur.func, words with
  | none, _ => stop (loc.say "function not defined yet")
  | some func, [w, name] => readLocalName loc cur func w name
  | some func, w :: type :: name :: _ => readLocalRange loc cur func w type name
  | some _, _ => stop (loc.say "invalid local specification")

/-! ## functions -/

def readFunction (loc : Location) (cur : FunctionCursor) (w name : String) :
    Work FunctionCursor := do
  let addr ← symbolAddress loc w
  setLabels fun l => { l with functions := l.functions.insert addr name }
  match cur.func with
  | some prev => warnIf (prev != 0 && addr < prev) loc "function out of order"
  | none => pure ()
  return { func := some addr }

def readFunctionLine (loc : Location) (cur : FunctionCursor) (words : List String) :
    Work FunctionCursor := do
  match words with
  | [] => return cur
  | [_] => stop (loc.say "invalid word count")
  | first :: second :: rest =>
    if "arg".isPrefixOf first then readArg loc cur first (second :: rest)
    else if first == "local" then readLocal loc cur (second :: rest)
    else readFunction loc cur first second

def readFunctions : Nat → FunctionCursor → List String → Work Unit
  | _, _, [] => return ()
  | index, cur, line :: rest => do
    let line := Text.uncomment line
    let cur ← readFunctionLine ⟨functionsFile, index, line⟩ cur (Text.words line)
    readFunctions (index + 1) cur rest

def loadFunctions (text : String) : Work Unit := readFunctions 0 {} (Text.lines text)

end Disasm.Annotations
