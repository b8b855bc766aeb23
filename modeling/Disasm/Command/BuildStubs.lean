import Disasm.Command.Basic

/-!
# Building the stubs

Each of the three stubs is compiled by a command of the shell.  The commands are collected; what each of
them answers is given beforehand, and the first one that does not answer 0 ends the work.
-/

namespace Disasm.Command

open Disasm.Action

/-- a shell that answers each command with the next of some numbers, and 0 after them -/
structure Shell where
  directory : Directory
  answers : List Int := []
  /-- last one first -/
  commands : List String := []

/-- the place where the kit of the game is looked for -/
def defaultKit : String := "/home/acano/tmp/sdk1/mod-sdk-1.32"

def stubNames : List String := ["cgame", "game", "q3_ui"]

def compileCommand (kit stub : String) : String :=
  "gcc -Wall -m32 -c -I\"" ++ kit ++ "\" " ++ stub ++ ".c -o " ++ stub ++ ".o"

/-- runs one command of the shell -/
def runCommand (command : String) : Action Shell Int := do
  let s ← read
  write { s with answers := s.answers.drop 1, commands := command :: s.commands }
  return s.answers.headD 0

def buildEach (kit : String) : List String → Action Shell Unit
  | [] => return ()
  | stub :: rest => do
    let answer ← runCommand (compileCommand kit stub)
    if answer ≠ 0 then complain "failed to create stub"
    buildEach kit rest

def buildStubs (name : String) (args : List String) : Action Shell Unit := do
  if args.any fun a => a == "-h" || a == "--help" then
    printErr (Directory.lastPart name ++ " [-h, --help] [quake3 sdk location]\n")
    fail (.stopped 1)
  let kit := args.headD defaultKit
  if (← read).directory.holds kit then buildEach kit stubNames
  else complain ("quake3 sdk location doesn't exist: " ++ kit)

end Disasm.Command
