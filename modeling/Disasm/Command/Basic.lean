import Disasm.Program

/-!
# Commands

A command works on a directory: it reads files there, may write some, and prints.  It is given the name
under which it was called, for the text on its usage, and its arguments.
-/

namespace Disasm.Command

open Disasm.Action
variable {α : Type}

abbrev Work (α : Type) := Action Directory α

/-- ends a command early, with nothing to complain about -/
def finish : Work α := fail (.stopped 0)

/-- complains on the error stream alone and ends the command -/
def refuse (text : String) : Work α := do
  printErr text
  fail (.stopped 1)

/-- an argument that has to be there -/
def argument (args : List String) (i : Nat) : Work String := ofOption .outOfBounds args[i]?

/-- the program in a file of the directory -/
def openProgram (file : String) (type : Option String) : Work Program := fun s =>
  match s.state.bytes file with
  | .error f => .error f s
  | .ok bytes =>
    match Program.load s.state type bytes s.console with
    | (.ok p, c) => .ok p { s with console := c }
    | (.error f, c) => .error f { s with console := c }

/-- the templates of the directory -/
def openLibrary : Work Library := do
  let ((), lib) ← apart {} (Library.loadDefaults (← read))
  return lib

/-- the lines of a text file of the directory -/
def fileLines (name : String) : Work (List String) := do
  return Text.lines (← Action.ofExcept ((← read).text name))

def fileBytes (name : String) : Work (List UInt8) := do
  return (← Action.ofExcept ((← read).bytes name)).toList

/-- makes a file anew with some bytes -/
def writeFile (name : String) (bytes : List UInt8) : Work Unit := do
  write (← Action.ofExcept ((← read).create name))
  update (·.append name bytes)

end Disasm.Command
