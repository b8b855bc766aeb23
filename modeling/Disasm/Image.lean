import Disasm.Cursor
import Disasm.Instruction

/-!
# Images

An image is a header and four segments.  The header gives the number of instructions, the place and
length of the code, the place of the data and the lengths of data, literals and uninitialised data; the
literals follow the data.  The second version of the format adds the length of a jump table, which
follows the literals.

A file that ends too early gives shorter segments.  Zero bytes follow the code, the data and the literals
for readers that look a little further.
-/

namespace Disasm

inductive Version where
  | one | two
  deriving DecidableEq, Repr

namespace Version

/-- the number with which an image of the version starts -/
def magic : Version → Int
  | .one => 0x12721444
  | .two => 0x12721445

def ofMagic? (n : Int) : Option Version :=
  if n = Version.one.magic then some .one else if n = Version.two.magic then some .two else none

end Version

structure Header where
  version : Version
  instructionCount : Int
  codeOffset : Int
  codeLength : Int
  dataOffset : Int
  dataLength : Int
  litLength : Int
  bssLength : Int
  /-- 0 in the first version -/
  jumpLength : Int
  deriving DecidableEq, Repr

namespace Header

def litOffset (h : Header) : Int := h.dataOffset + h.dataLength

def bssOffset (h : Header) : Int := h.dataOffset + h.dataLength + h.litLength

/-- the fields that may not be negative, in the order in which they are checked -/
def fields (h : Header) : List (String × Int) :=
  [("instructionCount", h.instructionCount), ("codeSegOffset", h.codeOffset),
    ("codeSegLength", h.codeLength), ("dataSegOffset", h.dataOffset),
    ("dataSegLength", h.dataLength), ("litSegLength", h.litLength),
    ("bssSegLength", h.bssLength), ("jumpTableLength", h.jumpLength)]

def check (h : Header) : Except Fault Unit :=
  match h.fields.find? fun f => f.2 < 0 with
  | some (name, n) => .error (.badHeader (.negative name n))
  | none => .ok ()

open Cursor in
def read : EStateM Fault Cursor Header := do
  let magic ← readWord
  match Version.ofMagic? magic with
  | none => throw (.badHeader (.magic magic))
  | some version =>
    let instructionCount ← readWord
    let codeOffset ← readWord
    let codeLength ← readWord
    let dataOffset ← readWord
    let dataLength ← readWord
    let litLength ← readWord
    let bssLength ← readWord
    let jumpLength ← if version = .two then readWord else pure 0
    return { version, instructionCount, codeOffset, codeLength, dataOffset, dataLength, litLength,
             bssLength, jumpLength }

end Header

structure Image where
  header : Header
  /-- with five zero bytes behind -/
  code : Array UInt8
  /-- with four zero bytes behind -/
  data : Array UInt8
  /-- with four zero bytes behind -/
  lit : Array UInt8
  jumps : Array UInt8

namespace Image

def zeros (n : Nat) : Array UInt8 := Array.replicate n 0

open Cursor in
def readSegments (h : Header) : EStateM Fault Cursor Image := do
  seek h.codeOffset
  let code ← Cursor.read h.codeLength
  seek h.dataOffset
  let data ← Cursor.read h.dataLength
  seek h.litOffset
  let lit ← Cursor.read h.litLength
  let jumps ← if h.version = .two then Cursor.read h.jumpLength else pure #[]
  return { header := h, code := code ++ zeros 5, data := data ++ zeros 4, lit := lit ++ zeros 4,
           jumps }

def readAll : EStateM Fault Cursor Image := do
  let h ← Header.read
  match h.check with
  | .ok _ => readSegments h
  | .error f => throw f

/-- the image in the bytes of a file -/
def ofBytes (bytes : ByteArray) : Except Fault Image :=
  match readAll.run (Cursor.ofBytes bytes) with
  | .ok image _ => .ok image
  | .error f _ => .error f

/-- the byte at an index, which counts from the end when it is negative -/
def byteAt (bytes : Array UInt8) (i : Int) : Except Fault UInt8 :=
  let j := if i < 0 then i + bytes.size else i
  if j < 0 then .error .outOfBounds
  else match bytes[j.toNat]? with
    | some b => .ok b
    | none => .error .outOfBounds

/-- the unsigned word at an index -/
def wordAt (bytes : Array UInt8) (i : Nat) : Except Fault Nat :=
  match unsignedWord? (bytes.extract i (i + 4)).toList with
  | some n => .ok n
  | none => .error .badWord

/-- the words of the jump table from byte `i` on -/
def targetsFrom (image : Image) : Nat → Nat → Except Fault (List Nat)
  | 0, _ => .ok []
  | n + 1, i => do
    let target ← wordAt image.jumps i
    return target :: (← image.targetsFrom n (i + 4))

/-- the entries of the jump table -/
def jumpTargets (image : Image) : Except Fault (List Nat) :=
  image.targetsFrom ((image.header.jumpLength.toNat + 3) / 4) 0

/-- the instructions of the image, as far as they can be read -/
def decoded (image : Image) : Decoded :=
  Instruction.decode image.header.instructionCount.toNat image.code.toList

/-! ## the code without what follows it -/

/-- the bytes that were copied, and why no more were -/
structure Copied where
  bytes : List UInt8
  fault : Option Fault

/-- the bytes of `n` instructions from a position on, behind those of `done`.  Only the opcodes are looked at:
the end of the code may cut a parameter short. -/
def copyFrom (code : Array UInt8) : Nat → Nat → Array UInt8 → Copied
  | 0, _, done => ⟨done.toList, none⟩
  | n + 1, pos, done =>
    match (code.extract pos (pos + 1)).toList with
    | [b] =>
      match Opcode.ofCode? b.toNat with
      | none => ⟨done.toList, some .outOfBounds⟩
      | some op =>
        copyFrom code n (pos + 1 + op.width) (done.push b ++ code.extract (pos + 1) (pos + 1 + op.width))
    | _ => ⟨done.toList, some .notSingle⟩

/-- the bytes of the instructions of the image -/
def copied (image : Image) : Copied := copyFrom image.code image.header.instructionCount.toNat 0 #[]

/-! ## literals -/

/-- a byte of a literal outside quotes -/
def escaped (b : UInt8) : String :=
  if b = 7 then "\\a"
  else if b = 8 then "\\b"
  else if b = 9 then "\\t"
  else if b = 10 then "\\n"
  else if b = 11 then "\\v"
  else if b = 12 then "\\f"
  else if b = 13 then "\\r"
  else "\\x" ++ Text.hexByte b

def isShown (b : UInt8) : Bool := 31 < b && b < 127

/-- the bytes of a literal from the offset `i` on: up to a zero byte or the end of the segment.
Offsets before the segment count from the end of its bytes. -/
def literalFrom (image : Image) : Nat → Int → Except Fault (List UInt8)
  | 0, _ => .error .outOfBounds
  | n + 1, i => do
    let b ← byteAt image.lit i
    if b = 0 || i ≥ image.header.litLength then return []
    return b :: (← image.literalFrom n (i + 1))

/-- the bytes of the literal at an offset; no literal is longer than its segment is twice -/
def literalBytes (image : Image) (offset : Int) : Except Fault (List UInt8) :=
  image.literalFrom (2 * image.lit.size + 1) offset

/-- the text of the bytes behind the first: shown characters stand in quotes, with blanks between
quoted and escaped stretches; `inQuote` tells whether a quote is open -/
def quoteRest (inQuote : Bool) : List UInt8 → String
  | [] => if inQuote then "\"" else ""
  | b :: rest =>
    if isShown b then
      (if inQuote then "" else " \"") ++ String.singleton (Char.ofNat b.toNat) ++ quoteRest true rest
    else (if inQuote then "\" " else "") ++ escaped b ++ quoteRest false rest

/-- a literal as listings show it -/
def quoteLiteral : List UInt8 → String
  | [] => "\"\""
  | b :: rest =>
    if isShown b then "\"" ++ String.singleton (Char.ofNat b.toNat) ++ quoteRest true rest
    else escaped b ++ quoteRest false rest

/-- the literal at a data address, in the form in which listings show it -/
def literal (image : Image) (addr : Int) : Except Fault String := do
  return quoteLiteral (← image.literalBytes (addr - image.header.dataLength))

end Image
end Disasm
