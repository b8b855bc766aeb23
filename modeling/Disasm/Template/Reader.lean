import Disasm.Template.Declaration

/-!
# Template files

A file of templates holds three kinds of entries:

* `%alias declaration name`, a second name for a type;
* `%arrayConstant name value`, a constant for dimensions;
* a template: its name, its size if that is to be fixed, and its members between braces, each an offset
  (optional), a type word and a name.

A member without offset is put at the next place that suits its alignment.  A template without size ends
at the next multiple of its alignment behind its last member.  Semicolons start comments.

An alias and a template never share a name.  Unless `override` is given, an entry may not replace one
that is there.  A file that ends without fault leaves no reference to an unknown template.
-/

namespace Disasm

/-- a template whose closing brace has not been read -/
structure OpenTemplate where
  name : String
  size : Option Int
  /-- the opening brace has been read -/
  opened : Bool
  padding : Int := 0
  /-- the end of the members so far -/
  offset : Int := 0
  /-- the last one first -/
  members : List Member := []

/-- the state of reading a file: the library, and the template under way -/
structure TemplateReader where
  library : Library
  pending : Option OpenTemplate := none

namespace TemplateReader

open Disasm.Action

abbrev Work (α : Type) := Action TemplateReader α

def onLibrary {α : Type} (a : Action Library α) : Work α :=
  within (·.library) (fun lib s => { s with library := lib }) a

def setLibrary (f : Library → Library) : Work Unit := update fun s => { s with library := f s.library }

def setPending (t : Option OpenTemplate) : Work Unit := update fun s => { s with pending := t }

/-! ## aliases and constants -/

def readAlias (override : Bool) (loc : Location) (words : List String) : Work Unit := do
  match words with
  | [_, declaration, name] =>
    if !isName name then stop (loc.say "invalid alias name")
    let lib := (← read).library
    if lib.templates.contains name then stop (loc.say "template exists with same name")
    if !override && lib.aliases.contains name then stop (loc.say "alias already exists")
    let entry : Alias := ⟨name, declaration, (lib.expandAlias declaration).2⟩
    setLibrary fun lib => { lib with aliases := lib.aliases.insert name entry }
  | _ => stop (loc.say "invalid alias declaration")

def readConstant (override : Bool) (loc : Location) (words : List String) : Work Unit := do
  match words with
  | [_, name, value] =>
    if startsNumber name.toList then stop (loc.say "invalid array constant name")
    match Text.readNumber? value with
    | none => stop (loc.say "couldn't parse array constant value")
    | some n =>
      if !override && (← read).library.constants.contains name then
        stop (loc.say "array constant already exists")
      setLibrary fun lib => { lib with constants := lib.constants.insert name n }
  | _ => stop (loc.say "invalid array constant declaration")

/-! ## the head of a template -/

/-- the word that gives the size, when there is one -/
def sizeWord? : List String → Option (Option String)
  | [_] => some none
  | [_, w] => some (if w == "\x7b" then none else some w)
  | [_, w, _] => some (some w)
  | _ => none

def readSize (loc : Location) : Option String → Work (Option Int)
  | none => return none
  | some w => do
    match Text.readNumber? w with
    | none => stop (loc.say "couldn't parse template size")
    | some n => if n < 0 then stop (loc.say "invalid template size") else return some n

def readHead (override : Bool) (loc : Location) (words : List String) : Work Unit := do
  match sizeWord? words with
  | none => stop (loc.say "invalid word count in template declaration")
  | some word =>
    let name := words.headD ""
    if !isName name then stop (loc.say "invalid template name")
    let lib := (← read).library
    if lib.aliases.contains name then stop (loc.say "alias exists with same name")
    if !override && lib.templates.contains name then stop (loc.say "template already exists")
    let size ← readSize loc word
    setPending (some { name, size, opened := words.getLast? == some "\x7b" })

/-! ## the end of a template -/

/-- the template as it stands when its closing brace is read -/
def OpenTemplate.close (t : OpenTemplate) : Template :=
  let members := t.members.reverse
  match t.size, t.members with
  | some n, _ => ⟨n, t.padding, 0, members⟩
  | none, [] => ⟨0, t.padding, 0, members⟩
  | none, last :: _ =>
    let stop := last.offset + last.size
    ⟨padUp stop t.padding, t.padding, padUp stop t.padding - stop, members⟩

theorem members_close (t : OpenTemplate) : (OpenTemplate.close t).members = t.members.reverse := by
  unfold OpenTemplate.close
  dsimp only
  split <;> rfl

theorem padding_close (t : OpenTemplate) : (OpenTemplate.close t).padding = t.padding := by
  unfold OpenTemplate.close
  dsimp only
  split <;> rfl

def readEnd (loc : Location) (t : OpenTemplate) (words : List String) : Work Unit := do
  if words.length != 1 then stop (loc.say "invalid closing brace")
  setLibrary fun lib => { lib with templates := lib.templates.insert t.name (OpenTemplate.close t) }
  setPending none

/-! ## members -/

/-- the alignment of a member that is not a template by itself -/
def alignment (lib : Library) (shape : Shape) : Int :=
  match shape.kind with
  | .raw => 0
  | .basic t => t.size
  | .template => ((shape.template.bind (lib.templates[·]?)).map Template.padding).getD 0
  | _ => 4

/-- warns of a member that starts before the one declared before it, or inside it -/
def checkOrder (loc : Location) (what name : String) (offset : Int) : List Member → Work Unit
  | [] => return ()
  | prev :: _ => do
    if offset < prev.offset then
      warn (loc.say (what ++ " '" ++ name ++ "' out of order"))
    else if offset < prev.offset + prev.size then
      warn (loc.say (what ++ " '" ++ name ++ "' overrides previous member"))

/-- adds a member that is a template, and the members of that template behind it -/
def addTemplate (loc : Location) (t : OpenTemplate) (given : Option Int) (shape : Shape)
    (inner : String) (name written : String) : Work Unit := do
  match (← read).library.templates[inner]? with
  | none => fail .unknownName
  | some u =>
    let offset := given.getD (padUp t.offset u.padding)
    let whole : Member :=
      { offset, size := u.size, name, aliased := shape.aliased, written, whole := some inner
        places := [⟨t.name, name, offset⟩] }
    checkOrder loc "member template" name offset t.members
    setPending (some { t with
      padding := max t.padding u.padding
      offset := t.offset + u.size
      members := (u.members.map (·.inside t.name name offset)).reverse ++ whole :: t.members })

/-- adds a member of any other shape -/
def addPlain (loc : Location) (t : OpenTemplate) (given : Option Int) (shape : Shape)
    (name written : String) : Work Unit := do
  let align := alignment (← read).library shape
  let offset := given.getD (padUp t.offset align)
  let member : Member :=
    { offset, size := shape.size, name, kind := shape.kind, pointer := shape.pointer
      array := shape.array, elementTemplate := shape.template, aliased := shape.aliased, written
      places := [⟨t.name, name, offset⟩] }
  checkOrder loc "member" name offset t.members
  setPending (some { t with
    padding := max t.padding align
    offset := offset + shape.size
    members := member :: t.members })

/-- the offset on a member line, and the words behind it -/
def readOffset (loc : Location) (words : List String) : Work (Option Int × List String) := do
  match words with
  | [_, _] => return (none, words)
  | [w, _, _] =>
    match Text.readNumber? w with
    | none => stop (loc.say "couldn't get member offset")
    | some n => if n < 0 then stop (loc.say "invalid offset") else return (some n, words.drop 1)
  | _ => stop (loc.say "invalid word count in member declaration")

def readMember (loc : Location) (t : OpenTemplate) (words : List String) : Work Unit := do
  let (given, rest) ← readOffset loc words
  let shape ← onLibrary (Library.declare loc (some t.name) rest)
  let name := rest.getD 1 ""
  if !isName name then stop (loc.say "invalid member name")
  if t.members.any (·.name == name) then stop (loc.say "duplicate member name")
  let written := words.getD 1 ""
  match shape.template, shape.array with
  | some inner, none => addTemplate loc t given shape inner name written
  | _, _ => addPlain loc t given shape name written

/-! ## whole files -/

/-- one line, given by its words -/
def readLine (override : Bool) (loc : Location) (words : List String) : Work Unit := do
  match words, (← read).pending with
  | [], _ => return ()
  | first :: _, none =>
    if first == "%alias" then readAlias override loc words
    else if first == "%arrayConstant" then readConstant override loc words
    else readHead override loc words
  | first :: _, some t =>
    if !t.opened then
      if words == ["\x7b"] then setPending (some { t with opened := true })
      else stop (loc.say "invalid opening brace")
    else if first == "\x7d" then readEnd loc t words
    else readMember loc t words

/-- the lines from number `index` on -/
def readLines (override : Bool) (file : String) : Nat → List String → Work Unit
  | _, [] => return ()
  | index, line :: rest => do
    let line := Text.strip (Text.uncomment line)
    readLine override ⟨file, index, line⟩ (Text.words line)
    readLines override file (index + 1) rest

/-- the first reference to a template that is not there -/
def undefined? (lib : Library) : Option ForwardReference :=
  lib.forward.find? fun r => !lib.templates.contains r.name

def readAll (override : Bool) (file : String) (lines : List String) : Work Unit := do
  readLines override file 0 lines
  let s ← read
  if s.pending.isSome then
    let last := Text.strip (Text.uncomment (lines.getLastD ""))
    stop (Location.say ⟨file, lines.length, last⟩ "last template not closed")
  match undefined? s.library with
  | some r => stop (r.location.say ("undefined declaration " ++ r.name))
  | none => return ()

end TemplateReader

/-- reads the text of a template file into a library -/
def Library.load (override : Bool) (file text : String) : Action Library Unit :=
  fun s =>
    match TemplateReader.readAll override file (Text.lines text) ⟨⟨s.state, none⟩, s.console⟩ with
    | .ok _ t => .ok () ⟨t.state.library, t.console⟩
    | .error f t => .error f ⟨t.state.library, t.console⟩

end Disasm
