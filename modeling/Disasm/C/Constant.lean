import Disasm.C.Tree
import Disasm.Number.Shortest
import Disasm.Text.Numeral

/-!
# Constant expressions

The value of an expression that gives the length of an array: constants under signs, sums, differences,
products and quotients.  A constant is a numeral (hexadecimal behind `0x`, octal behind another `0`) or a
character, of which an escaped one stands for the letter behind the backslash.  A quotient is a
floating-point number even where it is whole, and so is all that is computed from it.
-/

namespace Disasm.C

inductive Quantity where
  | whole (n : Int)
  | real (x : Binary64)
  deriving DecidableEq, Repr

namespace Quantity

def text : Quantity → String
  | .whole n => toString n
  | .real x => x.text

def toReal : Quantity → Except Fault Binary64
  | .real x => .ok x
  | .whole n =>
    let x := Binary64.ofInt n
    if x.isInfinite then .error .tooLarge else .ok x

def neg : Quantity → Quantity
  | .whole n => .whole (-n)
  | .real x => .real x.neg

/-- an operation that is exact on whole numbers -/
def combine (onWhole : Int → Int → Int) (onReal : Binary64 → Binary64 → Binary64) :
    Quantity → Quantity → Except Fault Quantity
  | .whole a, .whole b => .ok (.whole (onWhole a b))
  | x, y => do return .real (onReal (← x.toReal) (← y.toReal))

def add : Quantity → Quantity → Except Fault Quantity := combine (· + ·) Binary64.add

def sub : Quantity → Quantity → Except Fault Quantity := combine (· - ·) Binary64.sub

def mul : Quantity → Quantity → Except Fault Quantity := combine (· * ·) Binary64.mul

def divReal (x y : Binary64) : Except Fault Quantity :=
  if y.isZero then .error .divisionByZero else .ok (.real (x.div y))

/-- the quotient of whole numbers is rounded once -/
def divWhole (a b : Int) : Except Fault Quantity :=
  if b = 0 then .error .divisionByZero
  else
    let x := Binary64.ofRatio ((a < 0) != (b < 0)) a.natAbs b.natAbs
    if x.isInfinite then .error .tooLarge else .ok (.real x)

def div : Quantity → Quantity → Except Fault Quantity
  | .whole a, .whole b => divWhole a b
  | x, y => do divReal (← x.toReal) (← y.toReal)

end Quantity

/-! ## constants -/

/-- the character of a text in single quotes: three characters, or four with a backslash -/
def quotedChar? : List Char → Option Char
  | [q, c, r] => if q == Text.single && r == Text.single then some c else none
  | [q, b, c, r] => if q == Text.single && b == '\\' && r == Text.single then some c else none
  | _ => none

def numeral (base : Int) (s : String) : Except Interruption Quantity :=
  match Text.readInt? base s with
  | some n => .ok (.whole n)
  | none => .error (.fault .badNumeral)

def isMarkedHex : List Char → Bool
  | '0' :: x :: _ => x == 'x' || x == 'X'
  | _ => false

def constantValue (s : String) : Except Interruption Quantity :=
  match s.toList with
  | [] => .error (.fault .outOfBounds)
  | c :: rest =>
    if c == '0' then numeral (if isMarkedHex (c :: rest) then 16 else 8) s
    else if '1' ≤ c && c ≤ '9' then numeral 10 s
    else match quotedChar? (c :: rest) with
      | some d => .ok (.whole d.toNat)
      | none => .error (.problem ("invalid constant " ++ Text.quoted s))

/-! ## expressions -/

def lift (r : Except Fault Quantity) : Except Interruption Quantity :=
  match r with
  | .ok q => .ok q
  | .error f => .error (.fault f)

def binary? (op : String) : Option (Quantity → Quantity → Except Fault Quantity) :=
  if op == "+" then some Quantity.add
  else if op == "-" then some Quantity.sub
  else if op == "*" then some Quantity.mul
  else if op == "/" then some Quantity.div
  else none

/-- other expressions have no value; where they stand is not known either -/
def evaluate : Tree → Except Interruption Quantity
  | .node .constant [_, .text s] => constantValue s
  | .node .unaryOp [.text op, e] =>
    if op == "+" then evaluate e
    else if op == "-" then do return (← evaluate e).neg
    else .error (.fault .noField)
  | .node .binaryOp [.text op, l, r] =>
    match binary? op with
    | some f => do
      let x ← evaluate l
      let y ← evaluate r
      lift (f x y)
    | none => .error (.fault .noField)
  | _ => .error (.fault .noField)

end Disasm.C
