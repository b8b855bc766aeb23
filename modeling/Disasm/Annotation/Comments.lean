import Disasm.Annotation.Basic
import Disasm.Label.Reference

/-!
# The comments file

An entry starts with an address, which belongs to the data segments when the letter `d` stands in front
of it and to the code otherwise, and goes on with

* `inline` and the comment, which is the rest of the line from the first place at which its first word
  stands;
* `before` or `after` and two optional numbers of empty lines; the lines up to the line `<<<` are the
  comment.

With an `@` in front of the word the references in the comment are replaced.  Addresses are expected in
increasing order, those of code and of data apart.
-/

namespace Disasm.Annotations

open Disasm.Action

def commentsFile : String := "comments.dat"

/-- the segment that a comment belongs to -/
inductive CommentTarget where
  | code | data
  deriving DecidableEq, Repr

def setComments (target : CommentTarget) (f : CommentTable → CommentTable) : Work Unit :=
  match target with
  | .code => update fun s => { s with code := f s.code }
  | .data => update fun s => { s with data := f s.data }

/-- a block whose end has not been read -/
structure OpenBlock where
  target : CommentTarget
  side : Side
  addr : Int
  replaced : Bool

structure CommentCursor where
  lastCode : Int := -1
  lastData : Int := -1
  block : Option OpenBlock := none

/-- the text with its references replaced; an address that is no number is reported -/
def substitute (text : String) : Work String := do
  match (← getLabels).substitute text with
  | .ok t => return t
  | .error address =>
    report ("couldn't parse address: " ++ address)
    fail .badNumeral

/-- a comment, with its references replaced if that is asked for -/
def commentText (loc : Location) (replaced : Bool) (text : String) : Work String :=
  if replaced then orStop (loc.say "couldn't substitute variable") (substitute text) else pure text

/-! ## entries -/

/-- warns of an address below the one before it, and keeps the address -/
def checkAddress (loc : Location) (cur : CommentCursor) (target : CommentTarget) (addr : Int) :
    Work CommentCursor := do
  match target with
  | .data =>
    warnIf (addr < cur.lastData) loc "data comment out of order"
    return { cur with lastData := addr }
  | .code =>
    warnIf (addr < cur.lastCode) loc "code comment out of order"
    return { cur with lastCode := addr }

def readInline (loc : Location) (target : CommentTarget) (addr : Int) (replaced : Bool)
    (words : List String) : Work Unit := do
  match words with
  | [] => return ()
  | first :: _ =>
    let rest := String.ofList (Text.fromFirst first.toList loc.line.toList)
    let comment ← commentText loc replaced (Text.stripEnd rest)
    setComments target (·.setInline addr comment)

def readSpacing (loc : Location) (words : List String) : Work Spacing := do
  let spaces (w : String) := number loc "couldn't get space before or after value" w
  let spacing : Spacing ←
    match words with
    | [] => pure ⟨0, 0⟩
    | [w] => do pure ⟨← spaces w, 0⟩
    | w :: v :: _ => do
      let above ← spaces w
      pure ⟨above, ← spaces v⟩
  if spacing.above < 0 || spacing.below < 0 then stop (loc.say "invalid space before or after")
  return spacing

def openBlock (loc : Location) (cur : CommentCursor) (b : OpenBlock) (words : List String) :
    Work CommentCursor := do
  let spacing ← readSpacing loc words
  if spacing.above > 0 || spacing.below > 0 then
    setComments b.target (·.setSpacing b.addr spacing b.side)
  setComments b.target (·.setLines b.addr [] b.side)
  return { cur with block := some b }

/-- the word that gives the kind of a comment, without the `@` that asks for replacement -/
def commentKind (word : String) : Bool × String :=
  match word.toList with
  | '@' :: cs => (true, String.ofList cs)
  | _ => (false, word)

/-- an entry behind the letter `d` -/
def readEntry (loc : Location) (cur : CommentCursor) (target : CommentTarget)
    (words : List String) : Work CommentCursor := do
  match words with
  | w :: type :: rest =>
    let addr ← number loc "couldn't get address" w
    if addr < 0 then stop "invalid address"
    let cur ← checkAddress loc cur target addr
    let (replaced, kind) := commentKind type
    if kind == "inline" then
      readInline loc target addr replaced rest
      return cur
    else if kind == "before" then openBlock loc cur ⟨target, .before, addr, replaced⟩ rest
    else if kind == "after" then openBlock loc cur ⟨target, .after, addr, replaced⟩ rest
    else stop (loc.say "invalid comment type")
  | _ => return cur

def readHeader (loc : Location) (cur : CommentCursor) (words : List String) :
    Work CommentCursor := do
  match words with
  | [] => return cur
  | [_] => stop (loc.say "invalid word count")
  | first :: rest =>
    if first == "d" then readEntry loc cur .data rest else readEntry loc cur .code words

/-! ## lines of blocks -/

/-- a line without its last character, the line end -/
def body (line : String) : String := String.ofList line.toList.dropLast

def readBlockLine (loc : Location) (cur : CommentCursor) (b : OpenBlock) : Work CommentCursor := do
  if body loc.line == "<<<" then return { cur with block := none }
  let text ← commentText loc b.replaced (body loc.line)
  setComments b.target (·.addLine b.addr text b.side)
  return cur

def readComments : Nat → CommentCursor → List String → Work Unit
  | _, _, [] => return ()
  | index, cur, line :: rest => do
    let next ←
      match cur.block with
      | some b => readBlockLine ⟨commentsFile, index, line⟩ cur b
      | none =>
        let line := Text.uncomment line
        readHeader ⟨commentsFile, index, line⟩ cur (Text.words line)
    readComments (index + 1) next rest

def loadComments (text : String) : Work Unit := readComments 0 {} (Text.lines text)

end Disasm.Annotations
