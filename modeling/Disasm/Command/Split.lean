import Disasm.Command.Basic
import Disasm.Listing.Segments

/-!
# Taking an image apart

An image becomes files in the directory: a text with the fields of the header, the code (without the
bytes that fill its segment, and with them), the data, the literals, and for the second version of the
format the jump table.
-/

namespace Disasm.Command

open Disasm.Action

/-- the names of the files -/
def headerFile : String := "header-info.txt"
def codeFile : String := "x.code"
def paddedCodeFile : String := "xpadded.code"
def dataFile : String := "x.data"
def litFile : String := "x.lit"
def jumpFile : String := "x.jump"

/-- the fields of a header, one a line -/
def headerFields (h : Header) : List (String × Int) :=
  [("magic", h.version.magic), ("instruction count", h.instructionCount),
    ("code segment offset", h.codeOffset), ("code segment length", h.codeLength),
    ("data segment offset", h.dataOffset), ("data segment length", h.dataLength),
    ("lit segment length", h.litLength), ("bss segment length", h.bssLength)] ++
  (if h.version = .two then [("jump table length", h.jumpLength)] else [])

def headerFileText (h : Header) : String :=
  String.join ((headerFields h).map fun (name, n) => name ++ ": " ++ toString n ++ "\n")

/-- the first bytes of a segment, as many as its length says -/
def segmentBytes (bytes : Array UInt8) (length : Int) : List UInt8 :=
  bytes.toList.take length.toNat

/-- writes the code; of code that cannot be copied nothing -/
def writeCode (p : Program) : Work Unit :=
  match p.image.copied.fault with
  | none => writeFile codeFile p.codeBytes
  | some f => do
    writeFile codeFile []
    fail f

def writeParts (p : Program) : Work Unit := do
  writeFile headerFile (headerFileText p.header).toUTF8.toList
  writeCode p
  writeFile paddedCodeFile (segmentBytes p.image.code p.header.codeLength)
  writeFile dataFile (segmentBytes p.image.data p.header.dataLength)
  writeFile litFile (segmentBytes p.image.lit p.header.litLength)
  if p.header.version = .two then
    writeFile jumpFile (segmentBytes p.image.jumps p.header.jumpLength)

def split (name : String) (args : List String) : Work Unit :=
  match args with
  | [] => refuse (name ++ " <qvm file>\n")
  | file :: _ => do
    let p ← openProgram file none
    print (Listing.headerText p.header)
    writeParts p

end Disasm.Command
