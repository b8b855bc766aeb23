import Disasm.Program

/-!
# Listings of the header, the functions and the other segments

Data is listed word by word, literals string by string, both with the comments of the user; the jump
table is listed word by word.  A segment that the file does not hold ends its listing with a fault, after
the address of the row that could not be read.
-/

namespace Disasm.Listing

open Disasm.Action
variable {σ : Type}

/-! ## header and functions -/

def headerText (h : Header) : String :=
  let segment (name : String) (offset length : Int) : String :=
    "; " ++ name ++ " seg offset: 0x" ++ Text.hex8 offset ++ "  length: 0x" ++ Text.hex length ++ "\n"
  "; magic 0x" ++ Text.hex h.version.magic ++ "\n" ++
  "; instruction count: 0x" ++ Text.hex h.instructionCount ++ "\n" ++
  segment "CODE" h.codeOffset h.codeLength ++
  segment "DATA" h.dataOffset h.dataLength ++
  segment "LIT " h.litOffset h.litLength ++
  segment "BSS " h.bssOffset h.bssLength ++
  (if h.version = .two then "; jump table length: 0x" ++ Text.hex h.jumpLength ++ "\n" else "")

/-- one line for each function: its address, size and hash, and the names that match the hash -/
def functionLine (p : Program) (addr hash : Int) : String :=
  "0x" ++ Text.hex8 addr ++ "  0x" ++ Text.hex (p.analysis.sizes.getD addr 0) ++ "  " ++
    Text.hex hash ++
    (match p.names.functions[hash]? with
      | some names => "\tpossible match to" ++ String.join (names.map (" " ++ ·))
      | none => "") ++ "\n"

def functionsText (p : Program) : String :=
  String.join (p.analysis.hashes.toList.map fun (addr, hash) => functionLine p addr hash)

/-! ## words -/

/-- the four bytes at `i` and the word that they make -/
def wordRow (bytes : Array UInt8) (i : Nat) : Except Fault String := do
  let b0 ← Image.byteAt bytes i
  let b1 ← Image.byteAt bytes (i + 1 : Nat)
  let b2 ← Image.byteAt bytes (i + 2 : Nat)
  let b3 ← Image.byteAt bytes (i + 3 : Nat)
  return " " ++ Text.hexByte b0 ++ " " ++ Text.hexByte b1 ++ " " ++ Text.hexByte b2 ++ " " ++
    Text.hexByte b3 ++ "    0x" ++ Text.hexDigits (wordValue b0 b1 b2 b3)

def addressText (addr : Int) : String := "0x" ++ Text.hex8 addr ++ "  "

/-- the comment of the user beside a data address -/
def inlineText (p : Program) (addr : Int) : String :=
  ((p.annotations.data.inline[addr]?).map ("  ; " ++ ·)).getD ""

def switchText (p : Program) (addr : Int) : String :=
  match p.analysis.switchData[addr]? with
  | some sources =>
    "  ; switch table data from" ++ String.join (sources.map fun s => " 0x" ++ Text.hex s)
  | none => ""

/-- `n` rows of the data segment from the address `addr` on -/
def printDataRows (p : Program) : Nat → Nat → Action σ Unit
  | 0, _ => return ()
  | n + 1, addr => do
    print (p.annotations.data.blockText addr .before)
    print (addressText addr)
    let row ← Action.ofExcept (wordRow p.image.data addr)
    print (row ++ inlineText p addr ++ switchText p addr ++ "\n")
    print (p.annotations.data.blockText addr .after)
    printDataRows p n (addr + 4)

/-- the number of words that cover some bytes -/
def wordCount (length : Int) : Nat := (length.toNat + 3) / 4

def printData (p : Program) : Action σ Unit := printDataRows p (wordCount p.header.dataLength) 0

def printJumpRows (p : Program) : Nat → Nat → Action σ Unit
  | 0, _ => return ()
  | n + 1, i => do
    print (addressText i)
    print ((← Action.ofExcept (wordRow p.image.jumps i)) ++ "\n")
    printJumpRows p n (i + 4)

def printJumpTable (p : Program) : Action σ Unit := printJumpRows p (wordCount p.header.jumpLength) 0

/-! ## literals -/

/-- rows for the literals from `offset` on, at most `n` -/
def printLitRows (p : Program) : Nat → Nat → Action σ Unit
  | 0, _ => return ()
  | n + 1, offset => do
    if offset < p.header.litLength then
      let addr : Int := p.header.dataLength + offset
      print (p.annotations.data.blockText addr .before)
      print (addressText addr)
      let bytes ← Action.ofExcept (p.image.literalBytes offset)
      print (Image.quoteLiteral bytes ++ inlineText p addr ++ "\n")
      print (p.annotations.data.blockText addr .after)
      printLitRows p n (offset + bytes.length + 1)

def printLit (p : Program) : Action σ Unit := printLitRows p p.header.litLength.toNat 0

end Disasm.Listing
