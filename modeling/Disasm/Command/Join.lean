import Disasm.Command.Split

/-!
# Putting an image together

The files of an image that was taken apart become one file again.  The header comes from the lines of its
text, by their order; the number of instructions is counted anew.  Zero bytes fill the places in front of
the code and the data; there has to be room for what stands before them.
-/

namespace Disasm.Command

open Disasm.Action

/-- the number at the end of line `i` -/
def lineNumber (lines : List String) (i : Nat) : Work Int := do
  let line ← ofOption .outOfBounds lines[i]?
  let word ← ofOption .outOfBounds (Text.words line).getLast?
  ofOption .badNumeral (Text.readInt? 10 word)

/-- the numbers in the header of a file; the magic number may be any -/
structure JoinHeader where
  magic : Int
  codeOffset : Int
  codeLength : Int
  dataOffset : Int
  dataLength : Int
  litLength : Int
  bssLength : Int
  /-- absent in the first version of the format -/
  jumpLength : Option Int
  deriving DecidableEq, Repr

namespace JoinHeader

def read (lines : List String) : Work JoinHeader := do
  let magic ← lineNumber lines 0
  let codeOffset ← lineNumber lines 2
  let codeLength ← lineNumber lines 3
  let dataOffset ← lineNumber lines 4
  let dataLength ← lineNumber lines 5
  let litLength ← lineNumber lines 6
  let bssLength ← lineNumber lines 7
  let jumpLength ← if magic = Version.one.magic then pure none else some <$> lineNumber lines 8
  return { magic, codeOffset, codeLength, dataOffset, dataLength, litLength, bssLength, jumpLength }

def words (h : JoinHeader) (count : Nat) : List Int :=
  [h.magic, count, h.codeOffset, h.codeLength, h.dataOffset, h.dataLength, h.litLength,
    h.bssLength] ++ h.jumpLength.toList

end JoinHeader

/-- the number of instructions in some bytes; the last one may lack bytes of its parameter -/
def countInstructions : List UInt8 → Except Fault Nat
  | [] => .ok 0
  | b :: rest =>
    match Opcode.ofCode? b.toNat with
    | none => .error .outOfBounds
    | some op => do return (← countInstructions (rest.drop op.width)) + 1
termination_by bytes => bytes.length
decreasing_by rw [List.length_drop, List.length_cons]; omega

/-- writes numbers as words behind a file, up to one that no word holds -/
def appendWords (name : String) : List Int → Work Unit
  | [] => return ()
  | n :: rest => do
    if n < -0x80000000 || 0x80000000 ≤ n then fail .badWord
    update (·.append name (Instruction.wordBytes n))
    appendWords name rest

/-- zero bytes up to `offset`, then a segment; `field` names the offset -/
def appendAt (name field : String) (offset : Int) (bytes : List UInt8) : Work Unit := do
  let size := (((← read).bytes? name).map ByteArray.size).getD 0
  if offset < size then
    complain ("invalid " ++ field ++ " " ++ toString offset ++ " (pos " ++ toString size ++ ")")
  update (·.append name (List.replicate (offset.toNat - size) 0 ++ bytes))

def join (name : String) (args : List String) : Work Unit :=
  match args with
  | [] => refuse (name ++ " <output qvm name>\n")
  | file :: _ => do
    let h ← JoinHeader.read (← fileLines headerFile)
    let code ← fileBytes codeFile
    let count ← Action.ofExcept (countInstructions code)
    let data ← fileBytes dataFile
    let lit ← fileBytes litFile
    let jumps ← if h.jumpLength.isSome then fileBytes jumpFile else pure []
    writeFile file []
    appendWords file (h.words count)
    appendAt file "codeSegOffset" h.codeOffset code
    appendAt file "dataSegOffset" h.dataOffset data
    update (·.append file (lit ++ jumps))

end Disasm.Command
