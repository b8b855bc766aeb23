import Disasm.Expression
import Disasm.Text.Numeral
import Disasm.Text.Split

/-!
# Lines of code

A line of code is written in one of two forms.

* the direct form, an opcode word and its parameter: `local 0x30`;
* the listed form, as a listing shows an instruction: address, opcode word, the change in the depth of
  the operand stack unless it is 0, parameter: `00000002  local           1   0x30`.

The first word decides: a hexadecimal number is the address of a listed form.  A line whose first
character is a semicolon is a comment and says nothing, like an empty one.
-/

namespace Disasm

/-- an opcode word and the text of its parameter; the word of a direct form may be any -/
structure CodeLine where
  word : String
  parm : Option String := none
  deriving DecidableEq, Repr

namespace CodeLine

/-- what is wrong with a listed form -/
inductive Problem where
  /-- nothing follows the address -/
  | noOpcode
  | unknownOpcode (word : String)
  deriving DecidableEq, Repr

def isAddress (word : String) : Bool := (Text.readInt? 16 word).isSome

/-- the words behind the address of a listed form -/
def readListed : List String → Except Problem CodeLine
  | [] => .error .noOpcode
  | word :: rest =>
    match Opcode.ofName? word with
    | none => .error (.unknownOpcode word)
    | some op => .ok ⟨word, if op.stackChange = 0 then rest[0]? else rest[1]?⟩

/-- the instruction on a line that is not blank -/
def readWords : List String → Except Problem (Option CodeLine)
  | [] => .ok none
  | first :: rest =>
    if isAddress first then (readListed rest).map some else .ok (some ⟨first, rest[0]?⟩)

def isComment (line : String) : Bool := (Text.trimStart line.toList).head? == some ';'

/-- what a line says, `none` for nothing -/
def read (line : String) : Except Problem (Option CodeLine) :=
  if isComment line then .ok none else readWords (Text.words line)

end CodeLine
end Disasm
