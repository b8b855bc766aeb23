import Disasm.Action
import Disasm.Data.ClientCalls
import Disasm.Data.ClientHashes
import Disasm.Data.MenuCalls
import Disasm.Data.MenuHashes
import Disasm.Data.ServerCalls
import Disasm.Data.ServerHashes
import Disasm.Directory
import Disasm.Location
import Disasm.Text.Numeral

/-!
# Names known beforehand

An image is the client, the server or the menu program.  For each of them the names of the system calls
are known by their numbers, and the names of the functions of the base game by the hashes of their code.
Both come from a file of the directory where there is one and from the built-in text otherwise.
-/

namespace Disasm

inductive ProgramType where
  | client | server | menu
  deriving DecidableEq, Repr

namespace ProgramType

/-- how the type is written -/
def name : ProgramType → String
  | .client => "cgame"
  | .server => "game"
  | .menu => "ui"

def ofName? (s : String) : Option ProgramType :=
  [ProgramType.client, .server, .menu].find? fun t => t.name == s

def callsFile : ProgramType → String × String
  | .client => ("cg_syscalls.asm", Data.ClientCalls.text)
  | .server => ("g_syscalls.asm", Data.ServerCalls.text)
  | .menu => ("ui_syscalls.asm", Data.MenuCalls.text)

def hashesFile : ProgramType → String × String
  | .client => ("baseq3-cgame-functions.hmap", Data.ClientHashes.text)
  | .server => ("baseq3-game-functions.hmap", Data.ServerHashes.text)
  | .menu => ("baseq3-ui-functions.hmap", Data.MenuHashes.text)

end ProgramType

structure KnownNames where
  /-- by the number of the call -/
  calls : Std.TreeMap Int String := {}
  /-- by the hash of the code, in the order in which they were read -/
  functions : Std.TreeMap Int (List String) := {}

namespace KnownNames

open Disasm.Action

abbrev Work (α : Type) := Action KnownNames α

/-- a line with three words names a call by its second word and numbers it by the third -/
def readCall (loc : Location) (words : List String) : Work Unit := do
  match words with
  | [_, name, w] =>
    match Text.readNumber? w with
    | some n => update fun k => { k with calls := k.calls.insert n name }
    | none => stop (loc.say "couldn't parse system call number")
  | _ => return ()

/-- a line with three words or more names a function by its second word; the third is the hash -/
def readHash (loc : Location) (words : List String) : Work Unit := do
  match words with
  | _ :: name :: w :: _ =>
    match Text.readInt? 16 w with
    | some h => update fun k => { k with
        functions := k.functions.alter h fun names => some (names.getD [] ++ [name]) }
    | none => stop (loc.say "couldn't parse hash value")
  | _ => return ()

def readLines (file : String) (readLine : Location → List String → Work Unit) :
    Nat → List String → Work Unit
  | _, [] => return ()
  | index, line :: rest => do
    readLine ⟨file, index, line⟩ (Text.words line)
    readLines file readLine (index + 1) rest

/-- the text of a file of the directory, or the built-in one -/
def fileText (d : Directory) (file : String × String) : Work String :=
  if d.holds file.1 then Action.ofExcept (d.text file.1) else pure file.2

/-- adds the names for a type of program; the tables are not emptied first -/
def load (d : Directory) (type : ProgramType) : Work Unit := do
  readLines type.callsFile.1 readCall 0 (Text.lines (← fileText d type.callsFile))
  readLines type.hashesFile.1 readHash 0 (Text.lines (← fileText d type.hashesFile))

end KnownNames
end Disasm
