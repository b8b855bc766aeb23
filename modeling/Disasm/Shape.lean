import Disasm.Text.Digit

/-!
# Shapes of stored values

What is known about the bytes at an address: their number and whether they are a value of a basic type,
a pointer, a template, plain bytes, or an array of one of these.  A pointer occupies four bytes, whatever
it points to and however deep.  Types that are wider elsewhere still have four bytes here.
-/

namespace Disasm

inductive BasicType where
  | byte | char | uchar | short | ushort | int | uint | float
  deriving DecidableEq, Repr

namespace BasicType

def all : List BasicType := [.byte, .char, .uchar, .short, .ushort, .int, .uint, .float]

def name : BasicType → String
  | .byte => "byte"
  | .char => "char"
  | .uchar => "uchar"
  | .short => "short"
  | .ushort => "ushort"
  | .int => "int"
  | .uint => "uint"
  | .float => "float"

def ofName? (s : String) : Option BasicType := all.find? fun t => t.name == s

/-- the bytes of a value, which are also its alignment -/
def size : BasicType → Int
  | .byte | .char | .uchar => 1
  | .short | .ushort => 2
  | .int | .uint | .float => 4

end BasicType

/-- what stands at an address -/
inductive Kind where
  | raw
  | template
  | pointerToVoid
  | pointerToBasic
  | pointerToTemplate
  | basic (t : BasicType)
  /-- a number that stands for none of the kinds above -/
  | unlisted (code : Int)
  deriving DecidableEq, Repr

namespace Kind

/-- kinds are numbered from 0 to 12 -/
def code : Kind → Int
  | .raw => 0
  | .template => 1
  | .pointerToVoid => 2
  | .pointerToBasic => 3
  | .pointerToTemplate => 4
  | .basic .byte => 5
  | .basic .char => 6
  | .basic .uchar => 7
  | .basic .short => 8
  | .basic .ushort => 9
  | .basic .int => 10
  | .basic .uint => 11
  | .basic .float => 12
  | .unlisted n => n

def listed : List Kind :=
  [.raw, .template, .pointerToVoid, .pointerToBasic, .pointerToTemplate] ++
    BasicType.all.map .basic

def ofCode (n : Int) : Kind := (listed.find? fun k => k.code == n).getD (.unlisted n)

end Kind

structure Pointer where
  /-- the name of the type pointed to; a template of that name may be replaced later -/
  target : String
  depth : Nat
  deriving DecidableEq, Repr

/-- one dimension of an array, with the name of the constant that gave it -/
structure Level where
  value : Int
  name : Option String := none
  deriving DecidableEq, Repr

structure Dimensions where
  levels : List Level
  elementSize : Int
  deriving DecidableEq, Repr

/-- what a type word or a size word declares -/
structure Shape where
  /-- of the whole, an array included -/
  size : Int
  kind : Kind := .raw
  template : Option String := none
  pointer : Option Pointer := none
  array : Option Dimensions := none
  aliased : Bool := false
  deriving DecidableEq, Repr

/-- the number of elements of an array -/
def Level.product (levels : List Level) : Int := levels.foldr (fun l n => l.value * n) 1

/-! ## names -/

/-- a sign or a digit starts a number, never a name -/
def startsNumber : List Char → Bool
  | c :: _ => Text.isDigit c || c == '+' || c == '-'
  | [] => false

/-- a name is not empty, does not start like a number and is no basic type and not `void` -/
def isName (s : String) : Bool :=
  !s.isEmpty && !startsNumber s.toList && s != "void" && (BasicType.ofName? s).isNone

end Disasm
