import Disasm.Annotation.Symbols

/-!
# The constants file

A line gives a code address, a name and the value that the name stands for at that address.  Addresses
are expected in increasing order.
-/

namespace Disasm.Annotations

open Disasm.Action

def constantsFile : String := "constants.dat"

def readConstant (loc : Location) (prev : Int) (words : List String) : Work Int := do
  match words with
  | [] => return prev
  | [w, name, v] =>
    let addr ← number loc "couldn't parse address or value" w
    let value ← number loc "couldn't parse address or value" v
    if addr < 0 then stop (loc.say "invalid address")
    setLabels fun l => { l with constants := l.constants.insert addr (name, value) }
    warnIf (addr < prev) loc "constant address out of order"
    return addr
  | _ => stop (loc.say "invalid word count")

def readConstants : Nat → Int → List String → Work Unit
  | _, _, [] => return ()
  | index, prev, line :: rest => do
    let line := Text.uncomment line
    let addr ← readConstant ⟨constantsFile, index, line⟩ prev (Text.words line)
    readConstants (index + 1) addr rest

def loadConstants (text : String) : Work Unit := readConstants 0 (-1) (Text.lines text)

end Disasm.Annotations
