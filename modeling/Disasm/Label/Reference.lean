import Disasm.Label.Table
import Disasm.Text.Blank
import Disasm.Text.Numeral
import Disasm.Text.Pattern
import Disasm.Text.WordChar

/-!
# References in comments

A comment may refer to an address: the sign `@`, `f` for a function or `d` for data, and in braces the
address, with any text behind it.  The reference is replaced by the name that is known for the address.
A reference to an address without a name is kept, less the text behind the address.
-/

namespace Disasm

open Disasm.Pattern

structure Reference where
  /-- data, not code -/
  isData : Bool
  /-- the address as it is written -/
  address : List Char
  deriving DecidableEq, Repr

namespace Reference

/-- behind the letter: in braces blanks, the address, at most one more blank and any text of the line -/
def pattern (isData : Bool) : List Char → Option (Reference × List Char) :=
  char '\x7b' <| many Text.isBlank fun _ => manyOne Text.isWordChar fun address =>
    atMostOne Text.isBlank <| few (· != '\n') <| char '\x7d' fun rest => some (⟨isData, address⟩, rest)

/-- the reference with which some text starts, and the text behind it -/
def read? : List Char → Option (Reference × List Char) :=
  char '@' fun cs => (char 'f' (pattern false) cs).or (char 'd' (pattern true) cs)

def letter (r : Reference) : String := if r.isData then "d" else "f"

/-- a reference that is kept -/
def render (r : Reference) : String :=
  "@" ++ r.letter ++ "\x7b" ++ String.ofList r.address ++ "\x7d"

end Reference

namespace Labels

/-- the names of a data address: its symbol, else the ranges that start there, else the range around -/
def dataName? (l : Labels) (addr : Int) : Option String :=
  match l.symbols[addr]? with
  | some name => some name
  | none =>
    let found := l.ranges.find addr
    if !found.exact.isEmpty then some (":".intercalate found.exact)
    else found.nearest.map fun n => n.name ++ "+0x" ++ Text.hex n.distance

/-- what a reference is replaced by; the address as written when it is no number -/
def resolve (l : Labels) (r : Reference) : Except String String :=
  match Text.readNumber? (String.ofList r.address) with
  | none => .error (String.ofList r.address)
  | some addr =>
    .ok ((if r.isData then l.dataName? addr else l.functions[addr]?).getD r.render)

end Labels

namespace Reference

theorem exists_of_pattern {isData : Bool} {cs rest : List Char} {r : Reference}
    (h : pattern isData cs = some (r, rest)) : ∃ front behind, cs = front ++ (r.address ++ (behind ++ rest)) := by
  obtain ⟨_, rfl, hblanks⟩ := exists_of_char h
  obtain ⟨blanks, _, rfl, hword⟩ := exists_of_many hblanks
  obtain ⟨address, _, rfl, hblank⟩ := exists_of_manyOne hword
  obtain ⟨blank, _, rfl, htail⟩ := exists_of_atMostOne hblank
  obtain ⟨tail, _, rfl, hclose⟩ := exists_of_few htail
  obtain ⟨_, rfl, hfound⟩ := exists_of_char hclose
  cases hfound
  exact ⟨'\x7b' :: blanks, blank ++ tail ++ ['\x7d'], by simp⟩

/-- the address and the rest stand behind the sign -/
theorem exists_of_read? {cs rest : List Char} {r : Reference} (h : read? cs = some (r, rest)) :
    ∃ front behind, cs = '@' :: front ++ (r.address ++ (behind ++ rest)) := by
  obtain ⟨inner, rfl, hletter⟩ := exists_of_char h
  rcases Option.or_eq_some_iff.1 hletter with hcode | ⟨-, hdata⟩
  · obtain ⟨_, rfl, hpattern⟩ := exists_of_char hcode
    obtain ⟨front, behind, rfl⟩ := exists_of_pattern hpattern
    exact ⟨'f' :: front, behind, rfl⟩
  · obtain ⟨_, rfl, hpattern⟩ := exists_of_char hdata
    obtain ⟨front, behind, rfl⟩ := exists_of_pattern hpattern
    exact ⟨'d' :: front, behind, rfl⟩

theorem length_read? {cs : List Char} {r : Reference × List Char} (h : read? cs = some r) :
    r.2.length < cs.length := by
  obtain ⟨front, behind, rfl⟩ := exists_of_read? h
  simp only [List.length_append, List.length_cons]
  omega

end Reference

namespace Labels

/-- the text with every reference replaced, last character first in `done`; the first address that is
no number ends the work -/
def substituteFrom (l : Labels) (done : List Char) (cs : List Char) : Except String String :=
  match _h : Reference.read? cs with
  | some (r, rest) =>
    match l.resolve r with
    | .ok name => substituteFrom l (name.toList.reverse ++ done) rest
    | .error address => .error address
  | none =>
    match cs with
    | [] => .ok (String.ofList done.reverse)
    | c :: cs => substituteFrom l (c :: done) cs
termination_by cs.length
decreasing_by
  · exact Reference.length_read? (by assumption)
  · simp

def substitute (l : Labels) (text : String) : Except String String :=
  substituteFrom l [] text.toList

end Labels
end Disasm
