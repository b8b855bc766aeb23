import Disasm.Command.Disassemble

/-!
# Naming hashes

The map that an assembler leaves behind gives the names of functions by their addresses.  Together with
the hashes of the functions of the image it becomes a table of names by hashes, in the order of the
addresses.  Lines of the map that are not about functions are passed over; so are system calls, which
have addresses at the upper end, and the two marks of the stack.
-/

namespace Disasm.Command

open Disasm.Action

def hashNamesUsage (name : String) : String :=
  "usage: " ++ name ++ " <qvm .map file> <qvm file>\n" ++
  "    example:  " ++ name ++ " cgame.map cgame.qvm > cgame-func.hmap\n"

def stackMarks : List String := ["_stackStart", "_stackEnd"]

/-- the address and the name on a line of the map -/
def mapEntry (line : String) : Work (Option (Int × String)) := do
  match Text.words line with
  | segment :: addr :: name :: _ =>
    if segment == "0" then
      let addr ← ofOption .badNumeral (Text.readInt? 16 addr)
      return if addr < 0x7fffffff && !stackMarks.contains name then some (addr, name) else none
    else return none
  | _ => return none

/-- a later line for an address replaces an earlier one -/
def mapEntries (names : Std.TreeMap Int String) : List String → Work (Std.TreeMap Int String)
  | [] => return names
  | line :: rest => do
    match ← mapEntry line with
    | some (addr, name) => mapEntries (names.insert addr name) rest
    | none => mapEntries names rest

/-- what a run of the disassembler prints about the hashes of a file, its complaints aside -/
def hashLines (file : String) : Work (List String) := do
  match disassemble "" ["--func-hash", file] ⟨← read, {}⟩ with
  | .ok _ s => return Text.lines s.console.out
  | .error _ _ => fail .commandFailed

/-- the first word is the address, the third the hash -/
def hashEntries (hashes : Std.TreeMap Int String) : List String → Work (Std.TreeMap Int String)
  | [] => return hashes
  | line :: rest => do
    let words := Text.words line
    let addr ← ofOption .badNumeral (Text.readInt? 16 (← argument words 0))
    let hash ← argument words 2
    hashEntries (hashes.insert addr hash) rest

def printHashNames (hashes : Std.TreeMap Int String) : List (Int × String) → Work Unit
  | [] => return ()
  | (addr, name) :: rest => do
    let hash ← ofOption .unknownName hashes[addr]?
    print ("0x" ++ Text.hex addr ++ " " ++ name ++ " " ++ hash ++ "\n")
    printHashNames hashes rest

def hashNames (name : String) (args : List String) : Work Unit := do
  if args.isEmpty then refuse (hashNamesUsage name)
  let mapFile ← argument args 0
  let file ← argument args 1
  let names ← mapEntries {} (← fileLines mapFile)
  let hashes ← hashEntries {} (← hashLines file)
  printHashNames hashes names.toList

end Disasm.Command
