import Disasm.Command.BuildStubs
import Disasm.Command.PrintStructs
import Disasm.Data.GameStructs
import Disasm.Data.TemplateHeading

/-!
# Printing the default templates

The structs of the base game, taken from the files of its kit, one file after the other.  Every struct
that is asked for has to be found, and every name for a length has to be used.
-/

namespace Disasm.Command

open Disasm.Action C

/-- the tables of names for lengths: by keys, and the keys in the order in which they first occur -/
structure LengthNames where
  table : Std.TreeMap String (List String) := {}
  keys : List String := []

def LengthNames.insert (l : LengthNames) (key : String) (texts : List String) : LengthNames :=
  { table := l.table.insert key texts
    keys := if l.table.contains key then l.keys else l.keys ++ [key] }

def LengthNames.ofList (lengths : List (String × String × List String)) : LengthNames :=
  lengths.foldl (fun l (struct, member, texts) => l.insert (struct ++ "." ++ member) texts) {}

/-- the stub that offsets of the structs in a file need -/
def stubOf? (file : String) : Option String :=
  if "cgame".isPrefixOf file then some "cgame"
  else if "game".isPrefixOf file then some "game"
  else if "q3_ui".isPrefixOf file then some "q3_ui"
  else none

/-- no stub is there before it has been built -/
def printFileOffsets (file : String) : Action Sources Unit :=
  match stubOf? file with
  | some stub => complain ("need to generate 'tools/q3stubs/" ++ stub ++ ".o' stub file")
  | none => printOffsets

def printFileStructs (f : StructFile) (trees : List Tree) : Action Sources Unit := do
  let lengths := LengthNames.ofList f.lengths
  let (found, used) ← C.printStructs
    { names := f.structs, newNames := Std.TreeMap.ofList f.newNames,
      arrayConstants := lengths.table } trees
  match lengths.keys.find? fun key => !used.contains key with
  | some key => complain (key ++ " not used in " ++ f.file)
  | none => pure ()
  match f.structs.find? fun s => !found.contains (some s) with
  | some s => complain ("couldn't find " ++ s ++ " in " ++ f.file)
  | none => pure ()

/-- the templates for the structs of one file of the kit -/
def printFile (kit : String) (offsets : Bool) (f : StructFile) : Action Sources Unit := do
  let source := match f.source with
    | some s => if s == "" then f.file else s
    | none => f.file
  let path := Directory.join (Directory.join kit "code") source
  if !(← read).directory.holds path then complain (path ++ " doesn't exist")
  let trees ← Sources.parse path
  print ("; " ++ f.file ++ "\n\n")
  if offsets then printFileOffsets f.file else printFileStructs f trees

def printFiles (kit : String) (offsets : Bool) : List StructFile → Action Sources Unit
  | [] => return ()
  | f :: rest => do
    printFile kit offsets f
    printFiles kit offsets rest

def printTemplates (args : List String) : Action Sources Unit := do
  let offsets := args.contains "--offset"
  let kit := (args.filter (· != "--offset")).headD defaultKit
  let d := (← read).directory
  if !d.holds kit then complain "SDK location doesn't exist"
  if !d.isDirectory kit then complain "SDK location isn't a directory"
  print Data.TemplateHeading.text
  printFiles kit offsets Data.GameStructs.files

end Disasm.Command
