import Disasm.Command.Decompile
import Disasm.Command.DescribeOpcode
import Disasm.Command.DescribeTemplate
import Disasm.Command.Disassemble
import Disasm.Command.HashNames
import Disasm.Command.Join
import Disasm.Command.Split

/-!
# The command line

The first argument chooses the command; the others are its own.  The files that a command may need are
read before it starts, and those that it has changed are written when it has ended, also early.
-/

namespace Disasm.CommandLine

/-- the names under which the commands are called -/
def commandNames : List String :=
  ["disassemble", "decompile", "opcode", "template", "split", "join", "hashes"]

/-- the command of a given name; `input` is what it may read from the standard input -/
def command? (input name : String) (args : List String) : Option (Command.Work Unit) :=
  match name with
  | "disassemble" => some (Command.disassemble name args)
  | "decompile" => some (Command.decompile input)
  | "opcode" => some (Command.describeOpcode name args)
  | "template" => some (Command.describeTemplate name args)
  | "split" => some (Command.split name args)
  | "join" => some (Command.join name args)
  | "hashes" => some (Command.hashNames name args)
  | _ => none

/-- the files that commands read without being given their names -/
def usualFiles : List String :=
  [Library.defaultFile, Library.userFile, Annotations.symbolsFile, Annotations.functionsFile,
    Annotations.constantsFile, Annotations.commentsFile, Command.headerFile, Command.codeFile,
    Command.dataFile, Command.litFile, Command.jumpFile] ++
  [ProgramType.client, .server, .menu].flatMap fun t => [t.callsFile.1, t.hashesFile.1]

/-- the files of `after` that `before` does not hold with the same bytes -/
def changedFiles (before after : Directory) : List (String × ByteArray) :=
  after.files.toList.filter fun (name, data) => before.files[name]?.map (·.data) != some data.data

/-- the exit code of a command that ends with a fault, and what is still to be said about it -/
def ending : Fault → UInt32 × String
  | .stopped code => ((code % 256).toNat.toUInt32, "")
  | .badHeader why => (1, why.message ++ "\n")
  | .noSuchFile => (1, "no such file\n")
  | .badEncoding => (1, "a file is not text\n")
  | _ => (1, "the work could not be ended\n")

def usage : String := "Usage: disasm <" ++ "|".intercalate commandNames ++ "> ...\n"

/-! ## outside -/

/-- adds a file to the directory, if it can be read -/
def readFile (d : Directory) (name : String) : IO Directory := do
  try return d.write name (← IO.FS.readBinFile name)
  catch _ => return d

def readInput (name : String) : IO String := do
  if name == "decompile" then (← IO.getStdin).readToEnd else return ""

def run (before : Directory) (work : Command.Work Unit) : IO UInt32 := do
  let (after, code, message) := match work ⟨before, {}⟩ with
    | .ok _ s => (s, 0, "")
    | .error f s => (s, ending f)
  for (name, data) in changedFiles before after.state do
    IO.FS.writeBinFile name data
  IO.print after.console.out
  IO.eprint (after.console.err ++ message)
  return code

end Disasm.CommandLine

open Disasm.CommandLine in
def main (args : List String) : IO UInt32 := do
  match args with
  | [] =>
    IO.eprint usage
    return 1
  | name :: args =>
    match command? (← readInput name) name args with
    | none =>
      IO.eprint usage
      return 1
    | some work =>
      let before ← (usualFiles ++ args).foldlM readFile {}
      run before work
