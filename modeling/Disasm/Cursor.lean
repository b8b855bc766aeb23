import Disasm.Fault

/-!
# Reading a file of little-endian words

A cursor walks over the bytes of a file.  It may stand behind the end, where nothing is read; it may not
stand before the start.  A word that is cut short by the end is a fault, and the cursor has moved.
-/

namespace Disasm

/-- four bytes as an unsigned word, least significant byte first -/
def wordValue (b0 b1 b2 b3 : UInt8) : Nat :=
  b0.toNat + 0x100 * b1.toNat + 0x10000 * b2.toNat + 0x1000000 * b3.toNat

/-- an unsigned word as a signed one -/
def signedWord (n : Nat) : Int := if n < 0x80000000 then n else (n : Int) - 0x100000000

def unsignedWord? : List UInt8 → Option Nat
  | [b0, b1, b2, b3] => some (wordValue b0 b1 b2 b3)
  | _ => none

structure Cursor where
  bytes : Array UInt8
  pos : Nat := 0
  isOpen : Bool := true

namespace Cursor

def ofBytes (data : ByteArray) : Cursor := { bytes := data.data }

/-- the next `n` bytes, fewer at the end; all that are left for a negative `n` -/
def take (c : Cursor) (n : Int) : Array UInt8 :=
  if n < 0 then c.bytes.extract c.pos c.bytes.size
  else c.bytes.extract c.pos (c.pos + n.toNat)

def read (n : Int) : EStateM Fault Cursor (Array UInt8) := fun c =>
  if c.isOpen then .ok (c.take n) { c with pos := c.pos + (c.take n).size }
  else .error .closedFile c

def readWord : EStateM Fault Cursor Int := do
  match unsignedWord? (← read 4).toList with
  | some n => return signedWord n
  | none => throw .badWord

def readByte : EStateM Fault Cursor UInt8 := do
  match (← read 1).toList with
  | [b] => return b
  | _ => throw .notSingle

def seek (p : Int) : EStateM Fault Cursor Unit := fun c =>
  if !c.isOpen then .error .closedFile c
  else if p < 0 then .error .negativePosition c
  else .ok () { c with pos := p.toNat }

def tell : EStateM Fault Cursor Nat := fun c =>
  if c.isOpen then .ok c.pos c else .error .closedFile c

def close : EStateM Fault Cursor Unit := fun c => .ok () { c with isOpen := false }

end Cursor
end Disasm
