import Disasm.Number.Binary64
import Disasm.Text.Split

/-!
# The shortest decimal text of a floating-point number

Of the decimals that round to a number, the one with the fewest digits is taken, and of those the nearest.
The search goes through grids of 1 to 17 digits; on each of them only the two neighbours of the number
can be nearest to it.

A decimal is written positionally from `10 ^ -4` up to below `10 ^ 16`, with a point in any case, and
otherwise with an exponent of at least two digits and its sign.
-/

namespace Disasm

/-- the number `digits * 10 ^ exponent` -/
structure Decimal where
  digits : Nat
  exponent : Int
  deriving DecidableEq, Repr

namespace Binary64

/-! ## digits -/

def decimalLength (n : Nat) : Nat := (Nat.toDigits 10 n).length

/-- the exponent of the first decimal digit of a magnitude that is not 0 -/
def leadingExponent (units : Nat) : Int :=
  if one ≤ units then (decimalLength (units / one) : Int) - 1
  else
    let d := decimalLength (one / units)
    if one = units * Nat.pow 10 (d - 1) then -((d : Int) - 1) else -(d : Int)

/-- the part of `10 ^ e` above the fraction bar, and the part below it -/
def power (e : Int) : Nat × Nat := (Nat.pow 10 e.toNat, Nat.pow 10 (-e).toNat)

/-- a decimal rounds to a magnitude.  The reals that do lie between the middles to the neighbours, both
included if the last free digit is 0; below a power of two the lower neighbour is nearer. -/
def holds (units : Nat) (d : Decimal) : Bool :=
  let s := spare units
  let (above, below) := power d.exponent
  let x := 4 * d.digits * above * one
  let low := 4 * units - (if units = 1 <<< (52 + s) && s ≠ 0 then 1 <<< s else 2 <<< s)
  let high := 4 * units + 2 <<< s
  if (units >>> s) % 2 = 0 then low * below ≤ x && x ≤ high * below
  else low * below < x && x < high * below

/-- the neighbours of a magnitude with `n` digits, and whether the upper one is nearer -/
def neighbours (units n : Nat) : Decimal × Decimal × Bool :=
  let e := leadingExponent units - n + 1
  let (above, below) := power e
  let num := units * below
  let den := one * above
  let q := num / den
  let r := num % den
  (⟨q, e⟩, ⟨q + 1, e⟩, if 2 * r = den then q % 2 = 1 else den < 2 * r)

def withDigits? (units n : Nat) : Option Decimal :=
  let (lower, upper, nearer) := neighbours units n
  match holds units lower, holds units upper with
  | true, true => some (if nearer then upper else lower)
  | true, false => some lower
  | false, true => some upper
  | false, false => none

/-- without the zeros at the end -/
def trimmed : Nat → Decimal → Decimal
  | 0, d => d
  | n + 1, d => if d.digits % 10 = 0 then trimmed n ⟨d.digits / 10, d.exponent + 1⟩ else d

def shortest (units : Nat) : Decimal :=
  trimmed 17 (((List.range 17).findSome? fun n => withDigits? units (n + 1)).getD (neighbours units 17).1)

/-! ## layout -/

def zeroDigits (n : Nat) : String := Text.copies n "0"

def signedExponent (e : Int) : String :=
  (if e < 0 then "-" else "+") ++ zeroDigits (2 - decimalLength e.natAbs) ++ toString e.natAbs

/-- digits with the point behind the one of exponent 0; `e` is the exponent of the first digit -/
def positional (ds : List Char) (e : Int) : String :=
  if e < 0 then "0." ++ zeroDigits (-e - 1).toNat ++ String.ofList ds
  else
    let n := e.toNat + 1
    if ds.length ≤ n then String.ofList ds ++ zeroDigits (n - ds.length) ++ ".0"
    else String.ofList (ds.take n) ++ "." ++ String.ofList (ds.drop n)

def scientific (ds : List Char) (e : Int) : String :=
  String.ofList (ds.take 1) ++ (if ds.length ≤ 1 then "" else "." ++ String.ofList (ds.drop 1)) ++
    "e" ++ signedExponent e

def decimalText (d : Decimal) : String :=
  let ds := Nat.toDigits 10 d.digits
  let e := d.exponent + ds.length - 1
  if -4 ≤ e && e < 16 then positional ds e else scientific ds e

def sign (negative : Bool) : String := if negative then "-" else ""

def text : Binary64 → String
  | .finite s u => sign s ++ if u = 0 then "0.0" else decimalText (shortest u)
  | .infinite s => sign s ++ "inf"
  | .undefined => "nan"

end Binary64
end Disasm
