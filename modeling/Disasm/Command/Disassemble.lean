import Disasm.Command.Basic
import Disasm.Listing.Code
import Disasm.Listing.Segments

/-!
# Disassembling a file

The whole listing of an image, segment by segment, or the hashes of its functions alone.  Options may
stand anywhere in front of `--`; the first other argument is the file, the second the type of program,
and more are ignored.
-/

namespace Disasm.Command

open Disasm.Action

structure DisassembleOptions where
  hashesOnly : Bool := false
  quiet : Bool := false
  replace : Bool := false
  file : Option String := none
  type : Option String := none
  deriving DecidableEq, Repr

namespace DisassembleOptions

/-- takes an argument that is no option -/
def operand (o : DisassembleOptions) (arg : String) : DisassembleOptions :=
  if o.file.isNone then { o with file := some arg }
  else if o.type.isNone then { o with type := some arg }
  else o

/-- `parsing` tells whether options are still looked for -/
def readFrom (parsing : Bool) (o : DisassembleOptions) : List String → DisassembleOptions
  | [] => o
  | arg :: rest =>
    if parsing && arg == "--func-hash" then readFrom parsing { o with hashesOnly := true } rest
    else if parsing && arg == "-q" then readFrom parsing { o with quiet := true } rest
    else if parsing && arg == "-dr" then readFrom parsing { o with replace := true } rest
    else if parsing && arg == "--" then readFrom false o rest
    else readFrom parsing (o.operand arg) rest

def read (args : List String) : DisassembleOptions := readFrom true {} args

end DisassembleOptions

def disassembleUsage (name : String) : String :=
  "Usage: " ++ name ++ " [--func-hash, -q] <qvm file> [cgame|game|ui]\n" ++
  "  optionally specify cgame, game, or ui qvm to match syscalls and function hashes\n" ++
  "  --func-hash  :  only print function hash values\n" ++
  "  -q           :  suppress warnings\n" ++
  "  -dr          :  replace code disassembly with decompiled output\n" ++
  "\n" ++
  "  ex: " ++ name ++ " cgame.qvm cgame > cgame.dis\n"

def printListing (p : Program) (replace : Bool) : Work Unit := do
  print (";; header\n" ++ Listing.headerText p.header ++ "\n")
  print (";; function hashes\n" ++ Listing.functionsText p ++ "\n")
  print ";; code segment\n"
  Listing.printCode p replace
  print "\n;; data segment\n"
  Listing.printData p
  print "\n;; lit segment\n"
  Listing.printLit p
  if p.header.version = .two then
    print "\n;; jump table\n"
    Listing.printJumpTable p

def disassemble (name : String) (args : List String) : Work Unit := do
  let o := DisassembleOptions.read args
  onConsole fun c => { c with quiet := o.quiet }
  match o.file with
  | none => refuse (disassembleUsage (Directory.lastPart name))
  | some file =>
    match o.type with
    | some type =>
      if (ProgramType.ofName? type).isNone then
        print ("invalid qvm type '" ++ type ++ "'\n")
        refuse (disassembleUsage (Directory.lastPart name))
    | none => pure ()
    let p ← openProgram file o.type
    if o.hashesOnly then print (Listing.functionsText p) else printListing p o.replace

end Disasm.Command
