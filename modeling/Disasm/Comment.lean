import Std.Data.TreeMap
import Disasm.Text.Split

/-!
# Comments of the user

A comment stands beside an address, or on lines of its own before or after it.  A block of lines may ask
for empty lines around it.
-/

namespace Disasm

inductive Side where
  | before | after
  deriving DecidableEq, Repr

/-- the empty lines before and after a block -/
structure Spacing where
  above : Int
  below : Int
  deriving DecidableEq, Repr

structure CommentTable where
  inline : Std.TreeMap Int String := {}
  before : Std.TreeMap Int (List String) := {}
  beforeSpacing : Std.TreeMap Int Spacing := {}
  after : Std.TreeMap Int (List String) := {}
  afterSpacing : Std.TreeMap Int Spacing := {}

namespace CommentTable

def setInline (t : CommentTable) (addr : Int) (text : String) : CommentTable :=
  { t with inline := t.inline.insert addr text }

def setLines (t : CommentTable) (addr : Int) (lines : List String) : Side → CommentTable
  | .before => { t with before := t.before.insert addr lines }
  | .after => { t with after := t.after.insert addr lines }

def setSpacing (t : CommentTable) (addr : Int) (s : Spacing) : Side → CommentTable
  | .before => { t with beforeSpacing := t.beforeSpacing.insert addr s }
  | .after => { t with afterSpacing := t.afterSpacing.insert addr s }

def linesOf (t : CommentTable) (addr : Int) : Side → List String
  | .before => t.before.getD addr []
  | .after => t.after.getD addr []

def addLine (t : CommentTable) (addr : Int) (line : String) (side : Side) : CommentTable :=
  t.setLines addr (t.linesOf addr side ++ [line]) side

end CommentTable

/-- a block of comment lines with its spacing -/
structure CommentBlock where
  lines : List String
  spacing : Option Spacing
  deriving DecidableEq, Repr

namespace CommentBlock

def above (b : CommentBlock) : String := Text.copies ((b.spacing.map Spacing.above).getD 0).toNat "\n"

def below (b : CommentBlock) : String := Text.copies ((b.spacing.map Spacing.below).getD 0).toNat "\n"

def comment (line : String) : String := "; " ++ line ++ "\n"

/-- the block as a listing shows it -/
def text (b : CommentBlock) : String := b.above ++ String.join (b.lines.map comment) ++ b.below

end CommentBlock

namespace CommentTable

/-- the block on one side of an address -/
def block? (t : CommentTable) (addr : Int) : Side → Option CommentBlock
  | .before => (t.before[addr]?).map fun lines => ⟨lines, t.beforeSpacing[addr]?⟩
  | .after => (t.after[addr]?).map fun lines => ⟨lines, t.afterSpacing[addr]?⟩

/-- the text of that block, empty when there is none -/
def blockText (t : CommentTable) (addr : Int) (side : Side) : String :=
  ((t.block? addr side).map CommentBlock.text).getD ""

end CommentTable
end Disasm
