/-!
# Floating-point numbers of 53 bits

A finite number is a sign and a magnitude, counted in units of the smallest positive number, `2 ^ -1074`.
A magnitude below `2 ^ 53` units may be any; of a larger one the first 53 binary digits are free and the
others are 0.  Every operation takes the exact result to the nearest such number, a tie to the one whose
last free digit is 0, and beyond the largest one to infinity.

* `Binary64.ofRatio`  the number nearest to a ratio;
* `Binary64.add`, `mul`, `div`  the operations; `div` takes a divisor that is not zero.
-/

namespace Disasm

inductive Binary64 where
  | finite (negative : Bool) (units : Nat)
  | infinite (negative : Bool)
  /-- the result of an operation that has none -/
  | undefined
  deriving DecidableEq, Repr

namespace Binary64

/-- the units in 1 -/
def one : Nat := 1 <<< 1074

/-- the largest magnitude -/
def largest : Nat := ((1 <<< 53) - 1) <<< 2045

/-- the whole number nearest to `a / b`, the even one of two -/
def roundDiv (a b : Nat) : Nat :=
  if 2 * (a % b) < b then a / b
  else if b < 2 * (a % b) then a / b + 1
  else if a / b % 2 = 0 then a / b
  else a / b + 1

/-- the binary digits of a magnitude that are not free -/
def spare (units : Nat) : Nat := units.log2 - 52

/-- the magnitude nearest to `num / den` units -/
def roundUnits (num den : Nat) : Nat :=
  let s := spare (num / den)
  roundDiv num (den <<< s) <<< s

/-- the number nearest to `num / den` units -/
def ofUnits (negative : Bool) (num den : Nat) : Binary64 :=
  let units := roundUnits num den
  if units ≤ largest then .finite negative units else .infinite negative

/-- the number nearest to `num / den` -/
def ofRatio (negative : Bool) (num den : Nat) : Binary64 := ofUnits negative (num * one) den

def ofInt (n : Int) : Binary64 := ofRatio (n < 0) n.natAbs 1

def isZero : Binary64 → Bool
  | .finite _ units => units = 0
  | _ => false

def isInfinite : Binary64 → Bool
  | .infinite _ => true
  | _ => false

def neg : Binary64 → Binary64
  | .finite s u => .finite (!s) u
  | .infinite s => .infinite (!s)
  | .undefined => .undefined

def signed (negative : Bool) (units : Nat) : Int := if negative then -(units : Int) else units

/-- a sum of zeros is negative if both are; any other sum that is zero is positive -/
def add : Binary64 → Binary64 → Binary64
  | .finite s u, .finite t v =>
    let sum := signed s u + signed t v
    if sum = 0 then .finite (s && t && u = 0) 0 else ofUnits (sum < 0) sum.natAbs 1
  | .infinite s, .infinite t => if s = t then .infinite s else .undefined
  | .infinite s, .finite _ _ => .infinite s
  | .finite _ _, .infinite t => .infinite t
  | _, _ => .undefined

def sub (x y : Binary64) : Binary64 := x.add y.neg

def mul : Binary64 → Binary64 → Binary64
  | .finite s u, .finite t v => ofUnits (s != t) (u * v) one
  | .infinite s, .infinite t => .infinite (s != t)
  | .infinite s, .finite t v => if v = 0 then .undefined else .infinite (s != t)
  | .finite s u, .infinite t => if u = 0 then .undefined else .infinite (s != t)
  | _, _ => .undefined

/-- `x / y` for a `y` that is not zero -/
def div : Binary64 → Binary64 → Binary64
  | .finite s u, .finite t v => ofUnits (s != t) (u * one) v
  | .infinite s, .finite t _ => .infinite (s != t)
  | .finite s _, .infinite t => .finite (s != t) 0
  | _, _ => .undefined

end Binary64
end Disasm
