import Disasm.Annotation.Basic

/-!
# The symbols file

A line gives an address and a name, or an address, a type word and a name.  The first form is a plain
symbol.  The second one makes a range; a template makes a range for itself and one for each of its
members.  Addresses are expected in increasing order.
-/

namespace Disasm.Annotations

open Disasm.Action

def symbolsFile : String := "symbols.dat"

/-- keeps a range among the symbols -/
def addRange (addr : Int) (r : Range) : Work Unit := do
  let r ← Action.ofExcept r.checked
  setLabels fun l => { l with ranges := l.ranges.add addr r }

/-- the range of a member of a template that was placed under the name `name` -/
def memberRange (name : String) (m : Member) : Range :=
  { size := m.size, name := name ++ "." ++ m.name, kind := m.kind, pointer := m.pointer
    array := m.array, elementTemplate := m.elementTemplate }

def plainSymbol (loc : Location) (prev addr : Int) (name : String) : Work Unit := do
  warnIf ((← getLabels).symbols.contains addr) loc "replacing simple symbol"
  warnIf (addr < prev) loc "simple symbol out of order"
  setLabels fun l => { l with symbols := l.symbols.insert addr name }
  warnIf ((← getLabels).ranges.contains addr) loc "simple symbol overrides range"

/-- places the members of a template at `addr` -/
def placeMembers (loc : Location) (addr : Int) (name : String) : List Member → Work Unit
  | [] => return ()
  | m :: rest => do
    addRange (addr + m.offset) (memberRange name m)
    warnIf ((← getLabels).symbols.contains addr) loc
      "member template range would be overriden by simple symbol"
    placeMembers loc addr name rest

def placeTemplate (loc : Location) (addr : Int) (inner name : String) : Work Unit := do
  match (← read).library.templates[inner]? with
  | none => fail .unknownName
  | some t =>
    addRange addr { size := t.size, name }
    warnIf ((← getLabels).symbols.contains addr) loc
      "template range would be overriden by simple symbol"
    placeMembers loc addr name t.members

def placeSymbol (loc : Location) (addr : Int) (name : String) (shape : Shape) : Work Unit := do
  match shape.template, shape.array with
  | some inner, none => placeTemplate loc addr inner name
  | _, _ =>
    addRange addr (Range.ofShape name shape)
    warnIf ((← getLabels).symbols.contains addr) loc "range would be overriden by simple symbol"

def symbolAddress (loc : Location) (word : String) : Work Int := do
  let addr ← number loc "couldn't parse address" word
  if addr < 0 then stop (loc.say "invalid address")
  return addr

/-- reads one line; the result is the address to compare the next one with -/
def readSymbol (loc : Location) (prev : Int) (words : List String) : Work Int := do
  match words with
  | [] => return prev
  | [_] => stop (loc.say "invalid word count")
  | [w, name] =>
    let addr ← symbolAddress loc w
    plainSymbol loc prev addr name
    return addr
  | [w, type, name] =>
    let addr ← symbolAddress loc w
    warnIf (addr < prev) loc "symbol out of order"
    let shape ← onLibrary (Library.declare loc none [type, name])
    placeSymbol loc addr name shape
    return addr
  | _ => stop (loc.say "extra text specified")

def readSymbols : Nat → Int → List String → Work Unit
  | _, _, [] => return ()
  | index, prev, line :: rest => do
    let line := Text.uncomment line
    let addr ← readSymbol ⟨symbolsFile, index, line⟩ prev (Text.words line)
    readSymbols (index + 1) addr rest

def loadSymbols (text : String) : Work Unit := readSymbols 0 (-1) (Text.lines text)

end Disasm.Annotations
