import Disasm.Text.Blank
import Disasm.Text.Digit

/-!
# Numerals

How a number is read from text and written to it.  A numeral is an optional sign, for some bases a
marker (`0x`, `0o`, `0b`), and digits of any script with single underscores between them; blanks around
it play no part.  An address or a size is read in base 16 when it carries the marker `0x` and in base 10
otherwise.  Hexadecimal output writes a minus sign in front of the magnitude of a negative number.
-/

namespace Disasm.Text

/-! ## reading -/

/-- the value of an ASCII digit or letter -/
def digitValue? (c : Char) : Option Nat :=
  if '0' ≤ c && c ≤ '9' then some (c.toNat - '0'.toNat)
  else if 'a' ≤ c && c ≤ 'z' then some (c.toNat - 'a'.toNat + 10)
  else if 'A' ≤ c && c ≤ 'Z' then some (c.toNat - 'A'.toNat + 10)
  else none

/-- the value of a digit below `base` -/
def digitBelow? (base : Nat) (c : Char) : Option Nat :=
  match digitValue? c with
  | some v => if v < base then some v else none
  | none => none

/-- digits after the first one, each with at most one underscore before it -/
def moreDigits? (base : Nat) : Nat → List Char → Option Nat
  | acc, [] => some acc
  | acc, '_' :: c :: cs =>
    match digitBelow? base c with
    | some v => moreDigits? base (acc * base + v) cs
    | none => none
  | acc, c :: cs =>
    match digitBelow? base c with
    | some v => moreDigits? base (acc * base + v) cs
    | none => none

def digits? (base : Nat) : List Char → Option Nat
  | [] => none
  | c :: cs =>
    match digitBelow? base c with
    | some v => moreDigits? base v cs
    | none => none

/-- digits behind a base marker: one underscore may follow the marker -/
def markedDigits? (base : Nat) : List Char → Option Nat
  | '_' :: cs => digits? base cs
  | cs => digits? base cs

/-- the base that the marker letter after a leading zero stands for -/
def markerBase? (c : Char) : Option Nat :=
  if c == 'x' || c == 'X' then some 16
  else if c == 'o' || c == 'O' then some 8
  else if c == 'b' || c == 'B' then some 2
  else none

/-- an unsigned numeral.  Base 0 takes the base from the marker; without one it is 10, and a leading
zero is then allowed for zero only. -/
def magnitude? (base : Nat) (cs : List Char) : Option Nat :=
  match cs with
  | '0' :: m :: rest =>
    match markerBase? m with
    | some b =>
      if base = 0 || base = b then markedDigits? b rest else digits? base cs
    | none =>
      if base = 0 then (digits? 10 cs).bind fun n => if n = 0 then some 0 else none
      else digits? base cs
  | cs => digits? (if base = 0 then 10 else base) cs

/-- decimal digits of every script count as the ASCII ones, and blanks outside ASCII as spaces -/
def plainChar (c : Char) : Char :=
  if c.toNat < 128 then c
  else match decimalValue? c with
    | some v => Char.ofNat (48 + v)
    | none => if isBlank c then ' ' else '?'

/-- a blank that may stand around a numeral -/
def isMargin (c : Char) : Bool := c == ' ' || (9 ≤ c.toNat && c.toNat ≤ 13)

def trimMargin (cs : List Char) : List Char :=
  ((cs.dropWhile isMargin).reverse.dropWhile isMargin).reverse

def signed? (base : Nat) : List Char → Option Int
  | '-' :: cs => (magnitude? base cs).map fun n => -(n : Int)
  | '+' :: cs => (magnitude? base cs).map Int.ofNat
  | cs => (magnitude? base cs).map Int.ofNat

/-- reads a numeral in a base from 2 to 36, or in the base that its marker gives for base 0 -/
def readInt? (base : Int) (s : String) : Option Int :=
  if base = 0 ∨ (2 ≤ base ∧ base ≤ 36) then
    signed? base.toNat (trimMargin (s.toList.map plainChar))
  else none

/-- an unsigned text of more than two characters that starts with `0x` -/
def isMarkedHex : List Char → Bool
  | '0' :: x :: _ :: _ => x == 'x' || x == 'X'
  | _ => false

/-- the text behind one sign, if there is one -/
def unsigned : List Char → List Char
  | '+' :: cs => cs
  | '-' :: cs => cs
  | cs => cs

/-- reads an address, a size or a value: base 16 with the marker `0x`, base 10 without -/
def readNumber? (s : String) : Option Int :=
  if isMarkedHex (unsigned s.toList) then readInt? 16 s else readInt? 10 s

/-! ## writing -/

/-- the hexadecimal digits of a natural number, lower case, no leading zeros -/
def hexDigits (n : Nat) : String := String.ofList (Nat.toDigits 16 n)

/-- a minus sign and the magnitude for a negative number -/
def hex (n : Int) : String :=
  if n < 0 then "-" ++ hexDigits n.natAbs else hexDigits n.natAbs

/-- zeros behind the sign up to `width` characters, the sign counted -/
def hexPad (width : Nat) (n : Int) : String :=
  let digits := hexDigits n.natAbs
  if n < 0 then "-" ++ String.ofList (List.replicate (width - 1 - digits.length) '0') ++ digits
  else String.ofList (List.replicate (width - digits.length) '0') ++ digits

/-- an address as listings show it -/
def hex8 (n : Int) : String := hexPad 8 n

/-- a byte as two hexadecimal digits -/
def hexByte (b : UInt8) : String := hexPad 2 b.toNat

end Disasm.Text
