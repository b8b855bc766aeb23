import Disasm.Command.Basic
import Disasm.Template.Defaults

/-!
# Describing templates

The templates, aliases and array constants of a directory, one by name or all of them.  A template is
shown by the ranges of its members, or by their types; or the member at an offset alone.  Options stand
in front of the name.

In the raw style an alias is shown by its name, and a template by the places of its members with empty lines
around them.  The fields of the records that stand for them, which would follow each of these lines, are not
shown.
-/

namespace Disasm.Command

open Disasm.Action

/-- how the members of a template are shown -/
inductive MemberStyle where
  | range | type | raw
  deriving DecidableEq, Repr

/-- what is asked about a name -/
inductive Question where
  | members (style : MemberStyle)
  | offset (n : Int)
  | constant
  deriving DecidableEq, Repr

structure TemplateOptions where
  printAll : Bool := false
  comments : Bool := true
  deriving DecidableEq, Repr

def templateUsage (name : String) : String :=
  "Usage: " ++ name ++ " [--list-aconsts, --list-aliases, --list-templates, --print-all, --no-comments] <template or alias name> [offset:int, 'range', 'type', 'raw', 'aconst']\n" ++
  "\n" ++
  "  default is to print as 'range'\n"

/-! ## texts -/

def hexText (n : Int) : String := "0x" ++ Text.hex n

def levelText (l : Level) : String :=
  match l.name with
  | some name => "[" ++ name ++ ":" ++ toString l.value ++ "]"
  | none => "[" ++ toString l.value ++ "]"

def pointerText (m : Member) : String :=
  Text.copies ((m.pointer.map (·.depth)).getD 0) "*"

/-- the type of a member, without the dimensions of an array -/
def elementText (m : Member) : String :=
  match m.kind with
  | .raw => m.whole.getD (hexText m.size)
  | .template => if m.array.isSome then m.elementTemplate.getD "" else "FIXME SYMBOL_TEMPLATE"
  | .pointerToVoid => pointerText m ++ "void"
  | .pointerToBasic | .pointerToTemplate => pointerText m ++ (m.pointer.map (·.target)).getD ""
  | .basic t => t.name
  | .unlisted _ => ""

def memberTypeText (m : Member) : String :=
  elementText m ++ String.join (((m.array.map (·.levels)).getD []).map levelText)

/-- what is said behind the range of a member -/
def rangeComment (m : Member) : String :=
  (match m.whole with
    | some t => "  ; template " ++ t
    | none => if m.kind = .raw then "" else "  ; " ++ memberTypeText m) ++
  (if m.aliased then " alias " ++ m.written else "")

def placeText (m : Member) : String :=
  hexText m.offset ++ " " ++ hexText m.size ++ " " ++ m.name

def rangeLine (comments : Bool) (m : Member) : String :=
  Text.copies m.places.length "    " ++ placeText m ++
    (if comments then rangeComment m else "") ++ "\n"

/-- members of inner templates are not shown with their types -/
def typeLine (comments : Bool) (m : Member) : String :=
  if m.places.length > 1 then ""
  else "    " ++ hexText m.offset ++ " " ++ memberTypeText m ++ " " ++ m.name ++
    (if comments && m.aliased then " ; alias " ++ m.written else "") ++ "\n"

def rawLine (m : Member) : String :=
  "\n" ++ Text.copies m.places.length "    " ++ placeText m ++ "    ---->\n\n"

def memberLine (style : MemberStyle) (comments : Bool) (m : Member) : String :=
  match style with
  | .range => rangeLine comments m
  | .type => typeLine comments m
  | .raw => rawLine m

def headLine (name : String) (t : Template) : String :=
  name ++ " " ++ hexText t.size ++ " (paddingSize " ++ hexText t.padding ++ ", paddingUsed " ++
    hexText t.paddingUsed ++ ")"

def membersText (style : MemberStyle) (comments : Bool) (name : String) (t : Template) : String :=
  headLine name t ++ (if style = .raw then "   ---->\n\n\n" else "\n") ++ "\x7b\n" ++
    String.join (t.members.map (memberLine style comments)) ++ "\x7d\n"

def aliasText (style : MemberStyle) (a : Alias) : String :=
  "alias: " ++ a.name ++ "\n" ++
    (if style = .raw then ""
    else "  " ++ a.declaration ++ (if a.declaration = a.expansion then "" else "  ->  " ++ a.expansion) ++ "\n")

def constantText (name : String) (value : Int) : String :=
  "array constant " ++ name ++ " : " ++ toString value ++ "\n"

/-! ## members at an offset -/

/-- the smallest of the members around an offset, the first one of that size -/
def memberAt (offset : Int) : List Member → Option Member → Option Member
  | [], best => best
  | m :: rest, best =>
    if m.offset ≤ offset && offset < m.offset + m.size then
      match best with
      | some b => memberAt offset rest (if m.size < b.size then some m else best)
      | none => memberAt offset rest (some m)
    else memberAt offset rest best

def printMemberAt (offset : Int) (t : Template) : Work Bool := do
  match memberAt offset t.members none with
  | some m =>
    print (placeText m ++ " (+" ++ hexText (offset - m.offset) ++ ")\n")
    return true
  | none =>
    printErr "couldn't find offset member\n"
    return false

/-! ## options -/

/-- one of the three lists of names -/
def printNames (title : String) (names : Library → List String) : Work Unit := do
  let lib ← openLibrary
  print (title ++ ":\n\n" ++ String.join ((names lib).map (· ++ "\n")))
  finish

/-- the options in front of the name, and the arguments from the name on -/
def readTemplateOptions (o : TemplateOptions) :
    List String → Work (TemplateOptions × List String)
  | [] => return (o, [])
  | arg :: rest => do
    if arg == "--" then return (o, rest)
    else match arg.toList.head? with
      | none => fail .outOfBounds
      | some c =>
        if c != '-' then return (o, arg :: rest)
        else if arg == "--list-aconsts" then
          printNames "array constants" (·.constants.keys)
          return (o, [])
        else if arg == "--list-aliases" then
          printNames "aliases" (·.aliases.keys)
          return (o, [])
        else if arg == "--list-templates" then
          printNames "templates" (·.templates.keys)
          return (o, [])
        else if arg == "--print-all" then readTemplateOptions { o with printAll := true } rest
        else if arg == "--no-comments" then readTemplateOptions { o with comments := false } rest
        else refuse ("unknown option: " ++ arg ++ "\n")

/-- the argument behind the name -/
def readQuestion : Option String → Work Question
  | none => return .members .range
  | some "range" => return .members .range
  | some "type" => return .members .type
  | some "raw" => return .members .raw
  | some "aconst" => return .constant
  | some word =>
    match Text.readNumber? word with
    | some n => return .offset n
    | none => refuse ("unknown option: " ++ word ++ "\n")

/-! ## answers -/

/-- the way in which members are shown where they are -/
def Question.style : Question → MemberStyle
  | .members style => style
  | _ => .range

def answerOne (lib : Library) (o : TemplateOptions) (q : Question) (name : String) : Work Unit := do
  if q = .constant then
    match lib.constants[name]? with
    | some value =>
      print (constantText name value)
      finish
    | none => refuse ("unknown array constant: " ++ name ++ "\n")
  match lib.aliases[name]? with
  | some a =>
    print (aliasText q.style a)
    finish
  | none =>
    match lib.templates[name]?, q with
    | none, _ => refuse ("unknown template or alias: " ++ name ++ "\n")
    | some t, .offset n => if ← printMemberAt n t then finish else fail (.stopped 1)
    | some t, q => print (membersText q.style o.comments name t)

def printAllTemplates (o : TemplateOptions) (q : Question) : List (String × Template) → Work Unit
  | [] => return ()
  | (name, t) :: rest => do
    match q with
    | .offset n => let _ ← printMemberAt n t
    | q => print (membersText q.style o.comments name t)
    printAllTemplates o q rest

def answerAll (lib : Library) (o : TemplateOptions) (q : Question) : Work Unit := do
  print (String.join (lib.constants.toList.map fun (name, value) => constantText name value))
  print (String.join (lib.aliases.values.map (aliasText q.style)))
  printAllTemplates o q lib.templates.toList

def describeTemplate (name : String) (args : List String) : Work Unit := do
  if args.isEmpty then refuse (templateUsage (Directory.lastPart name))
  let (o, rest) ← readTemplateOptions {} args
  if o.printAll then
    let q ← readQuestion rest[1]?
    answerAll (← openLibrary) o q
  else
    let word ← argument rest 0
    let q ← readQuestion rest[1]?
    answerOne (← openLibrary) o q word

end Disasm.Command
