import Disasm.Action
import Disasm.Template.Basic
import Disasm.Text.Numeral
import Disasm.Text.Split

/-!
# Type words

A type word declares a shape.  It is a number (plain bytes), or stars (a pointer), a type name, and
dimensions in brackets (an array, of pointers when there are stars).  An alias may stand for the type
name; its stars and brackets then join those of the word.

A dimension is an array constant or a number, and not negative.
-/

namespace Disasm

/-! ## aliases -/

namespace Library

/-- the word with the alias in it expanded, and whether there was one -/
def expandAlias (lib : Library) (word : String) : Bool × String :=
  let stars := word.toList.takeWhile (· == '*')
  let rest := word.toList.dropWhile (· == '*')
  let name := String.ofList (rest.takeWhile (· != '['))
  let brackets := rest.dropWhile (· != '[')
  let around (s : String) := String.ofList stars ++ s ++ String.ofList brackets
  match lib.aliases[name]? with
  | some a => (true, around a.expansion)
  | none => (false, around name)

end Library

/-! ## dimensions -/

/-- what stands in front of the brackets of a type word, and the dimensions as far as they are valid -/
structure ArrayWord where
  valid : Bool
  name : String
  isArray : Bool
  levels : List Level
  deriving DecidableEq, Repr

namespace ArrayWord

/-- the dimension between a bracket and the closing bracket that ends `piece` -/
def level? (constants : Std.TreeMap String Int) (piece : List Char) : Option Level :=
  if piece.getLast? != some ']' then none
  else if piece.dropLast.contains ']' then none
  else
    let text := String.ofList piece.dropLast
    let found : Option Level :=
      match constants[text]? with
      | some n => some ⟨n, some text⟩
      | none => (Text.readNumber? text).map fun n => ⟨n, none⟩
    found.filter fun l => 0 ≤ l.value

/-- the dimensions up to the first that is invalid; nothing at all behind a bracket is a fault -/
def readLevels (constants : Std.TreeMap String Int) :
    List (List Char) → Except Fault (Bool × List Level)
  | [] => .ok (true, [])
  | piece :: rest =>
    if piece.isEmpty then .error .outOfBounds
    else match level? constants piece with
      | none => .ok (false, [])
      | some l =>
        match readLevels constants rest with
        | .ok (valid, ls) => .ok (valid, l :: ls)
        | .error f => .error f

def read (constants : Std.TreeMap String Int) (word : String) : Except Fault ArrayWord :=
  match Text.pieces (· == '[') word.toList with
  | [] => .ok ⟨true, word, false, []⟩
  | [_] => .ok ⟨true, word, false, []⟩
  | name :: brackets =>
    match readLevels constants brackets with
    | .ok (valid, ls) => .ok ⟨valid, String.ofList name, true, ls⟩
    | .error f => .error f

end ArrayWord

/-! ## shapes -/

/-- the type name behind the stars of a word; a word of stars alone points to its last star -/
def pointerTarget (word : List Char) : String :=
  if word.all (· == '*') then "*" else String.ofList (word.dropWhile (· == '*'))

namespace Library

open Disasm.Action

/-- the size that a number declares -/
def sizeShape (loc : Location) (word : String) : Action Library Shape := do
  match Text.readNumber? word with
  | none => stop (loc.say "couldn't parse size")
  | some n => if n < 0 then stop (loc.say "invalid size") else return { size := n }

/-- notes a name that is not known yet, to be looked for when the file has been read -/
def expect (loc : Location) (current : Option String) (name : String) : Action Library Unit := do
  if !(← read).templates.contains name && current != some name then
    update fun lib => { lib with forward := lib.forward ++ [⟨name, loc⟩] }

def pointerShape (loc : Location) (current : Option String) (word : List Char) :
    Action Library Shape := do
  let target := pointerTarget word
  let shape (kind : Kind) : Shape :=
    { size := 4, kind, pointer := some ⟨target, (word.takeWhile (· == '*')).length⟩ }
  if target == "void" then return shape .pointerToVoid
  if (BasicType.ofName? target).isSome then return shape .pointerToBasic
  if !isName target then stop (loc.say "invalid pointer name")
  expect loc current target
  return shape .pointerToTemplate

def valueShape (loc : Location) (name : String) : Action Library Shape := do
  match BasicType.ofName? name with
  | some t => return { size := t.size, kind := .basic t }
  | none =>
    if !isName name then stop (loc.say "invalid template name")
    match (← read).templates[name]? with
    | none => stop (loc.say "parsed unknown template")
    | some t => return { size := t.size, kind := .template, template := some name }

/-- the shape of an array of `shape` -/
def arrayShape (levels : List Level) (shape : Shape) : Shape :=
  { shape with
    size := shape.size * Level.product levels
    array := some ⟨levels, shape.size⟩ }

def typeShape (loc : Location) (current : Option String) (word : String) :
    Action Library Shape := do
  let lib ← read
  let (aliased, word) := lib.expandAlias word
  let declared ← Action.ofExcept (ArrayWord.read lib.constants word)
  if !declared.valid then stop (loc.say "invalid array declaration")
  let name := declared.name.toList
  let shape ←
    if name.head? == some '*' then pointerShape loc current name
    else valueShape loc declared.name
  let shape := if declared.isArray then arrayShape declared.levels shape else shape
  return { shape with aliased }

/-- the shape that the first of some words declares.  `current` is the template being read, to which
its own members may point. -/
def declare (loc : Location) (current : Option String) (words : List String) :
    Action Library Shape := do
  match words with
  | [] => fail .outOfBounds
  | word :: _ =>
    if word.isEmpty then fail .outOfBounds
    else if startsNumber word.toList then sizeShape loc word
    else typeShape loc current word

end Library
end Disasm
