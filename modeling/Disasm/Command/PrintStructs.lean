import Disasm.C.Struct
import Disasm.Command.Basic

/-!
# Printing the structs of a C file

The structs of a file that are asked for by name, or all of them.  The trees of C files come from a
parser that is not part of this library: the sources hold them by the paths of the files.
-/

namespace Disasm.Command

open Disasm.Action C

/-- a directory, and the trees of the C files in it -/
structure Sources where
  directory : Directory := {}
  trees : Std.TreeMap String (List Tree) := {}

namespace Sources

def addTrees (s : Sources) (name : String) (trees : List Tree) : Sources :=
  { s with trees := s.trees.insert (Directory.path name) trees }

/-- the definitions at the top level of a file -/
def parse (name : String) : Action Sources (List Tree) := do
  return (← read).trees.getD (Directory.path name) []

end Sources

structure PrintOptions where
  debug : Nat := 0
  printAll : Bool := false
  offsets : Bool := false
  deriving DecidableEq, Repr

def printStructsUsage (name : String) : String :=
  name ++ " [--debug, --debug-node, --print-all, --offset, --link <additional object file>] <c file> [structureName1[:newName1]] [structureName2[:newName2]] ...\n"

/-- complains and shows how the command is used -/
def misuse {σ α : Type} (name text : String) : Action σ α := do
  printErr ("ERROR: " ++ text ++ "\n" ++ printStructsUsage (Directory.lastPart name))
  fail (.stopped 1)

/-- the options in front of the file, and the arguments from it on; what is to be linked plays no part -/
def readPrintOptions {σ : Type} (o : PrintOptions) :
    List String → Action σ (PrintOptions × List String)
  | [] => return (o, [])
  | arg :: rest => do
    if arg == "--" then return (o, rest)
    match arg.toList.head? with
    | none => fail .outOfBounds
    | some c =>
      if c != '-' then return (o, arg :: rest)
      else if arg == "--debug" then readPrintOptions { o with debug := 1 } rest
      else if arg == "--debug-node" then readPrintOptions { o with debug := 2 } rest
      else if arg == "--print-all" then readPrintOptions { o with printAll := true } rest
      else if arg == "--offset" then readPrintOptions { o with offsets := true } rest
      else if arg == "--link" then
        match rest with
        | _ :: rest => readPrintOptions o rest
        | [] =>
          printErr "missing link object\n"
          fail (.stopped 1)
      else
        printErr ("unknown option: " ++ arg ++ "\n")
        fail (.stopped 1)

/-- the name of a struct and, behind a colon, the name under which it is printed -/
def readStructName {σ : Type} (arg : String) : Action σ (String × Option String) := do
  let parts := Text.splitOn ':' arg
  let name := parts.headD ""
  if name == "" then complain "empty name"
  if parts[1]? == some "" then complain "empty alternate name"
  return (name, parts[1]?)

def readStructNames {σ : Type} : List String → Action σ (List (String × Option String))
  | [] => return []
  | arg :: rest => do
    let first ← readStructName arg
    return first :: (← readStructNames rest)

/-- the names under which structs are printed; a later one replaces an earlier one -/
def newNameTable (names : List (String × Option String)) : Std.TreeMap String String :=
  names.foldl (fun table (name, new?) =>
    match new? with
    | some new => table.insert name new
    | none => table) {}

def printStructs (name : String) (args : List String) : Action Sources Unit := do
  let (o, rest) ← readPrintOptions {} args
  match rest with
  | [] => misuse name "missing c file name"
  | file :: words =>
    if !o.printAll && words.isEmpty then misuse name "missing structure name"
    let names ← readStructNames words
    let trees ← Sources.parse file
    if o.offsets then printOffsets
    let (found, _) ← C.printStructs
      { printAll := o.printAll, names := names.map (·.1), newNames := newNameTable names,
        debug := o.debug } trees
    match names with
    | (first, _) :: _ =>
      if !o.printAll && !found.contains (some first) then complain "couldn't find structure"
    | [] => return ()

end Disasm.Command
