import Std.Data.TreeMap
import Disasm.Action
import Disasm.C.Constant
import Disasm.C.TypeName

/-!
# Struct definitions as templates

The definitions of structs at the top level of a C file, written as templates: a line for each member with
its type and its name.  A pointer has a star for each level in front of its type, an array its lengths
behind.  A definition is a typedef of a struct that lists its members, or a plain declaration of a struct.

A struct may be given another name; inside its own definition the struct is called by the name that is
printed.  The lengths of an array may be given names, by the name of the struct, a dot and the name of the
member.
-/

namespace Disasm.C

open Disasm.Action
variable {σ α : Type}

structure StructOptions where
  printAll : Bool := false
  names : List String := []
  newNames : Std.TreeMap String String := {}
  /-- the texts for the lengths of an array -/
  arrayConstants : Std.TreeMap String (List String) := {}
  /-- from 1 on the members are shown as trees, from 2 on the whole definition -/
  debug : Nat := 0

/-- the definition of a struct -/
structure Definition where
  tree : Tree
  /-- the name of the definition itself -/
  declared : Option String
  isTypedef : Bool
  /-- the name of the type -/
  name : Option String
  /-- the name behind the word `struct` -/
  tag : Option String
  members : Tree

/-- typedefs that come with a parser's headers and mean nothing -/
def fakeStructs : List String :=
  ["MirConnection", "MirSurface", "MirSurfaceSpec", "MirScreencast", "MirPromptSession",
    "MirBufferStream", "MirPersistentId", "MirBlob", "MirDisplayConfig", "xcb_connection_t"]

namespace Definition

def ofTree? (t : Tree) : Option Definition :=
  match t with
  | .node .typedef [name, _, _, .node .typeDecl [_, _, _, .node .struct [tag, members]]] =>
    some ⟨t, name.label, true, name.label, tag.label, members⟩
  | .node .decl [name, _, _, _, _, .node .struct [tag, members], _, _] =>
    some ⟨t, name.label, false, tag.label, tag.label, members⟩
  | _ => none

def memberTrees (d : Definition) : List Tree := d.members.elements.getD []

/-- a typedef without members only names a struct of elsewhere -/
def isEmptyTypedef (d : Definition) : Bool := d.isTypedef && d.members.elements.isNone

def isNamed (names : List String) (name : Option String) : Bool :=
  (name.map names.contains).getD false

def isWanted (o : StructOptions) (d : Definition) : Bool :=
  (o.printAll || isNamed o.names d.name) && !isNamed fakeStructs d.name && !d.isEmptyTypedef

def newName (o : StructOptions) (d : Definition) : Option String :=
  d.name.bind fun n => o.newNames[n]?

/-- the name on the first line; an empty new name counts as none here -/
def heading (o : StructOptions) (d : Definition) : String :=
  match d.newName o with
  | some n => if n == "" then Tree.shown d.name else n
  | none => Tree.shown d.name

/-- the name of a struct type inside the definition, `tag` being the name behind the word `struct` -/
def nameOfTag (o : StructOptions) (d : Definition) (tag : Option String) : Option String :=
  if tag == d.tag then (d.newName o).orElse fun _ => d.name else tag

end Definition

/-! ## members -/

def get (name : String) (t : Tree) : Action σ Tree := Action.ofExcept (t.field name)

/-- the name of a member, as lines and complaints show it -/
def nameText (m : Tree) : Action σ String := do return Tree.shown (← get "name" m).label

/-- the levels of a pointer, and what it points to -/
def pointerLevels : Tree → Nat × Tree
  | .node .ptrDecl [_, t] => let (n, base) := pointerLevels t; (n + 1, base)
  | t => (0, t)

def printStars (n : Nat) : Action σ Unit := print ("    " ++ Text.copies n "*")

def printPlain (m : Tree) : Action σ Unit := do
  let base ← get "type" (← get "type" m)
  if base.isKind .identifierType then
    let type ← orComplain (typeName base)
    print ("    " ++ Tree.shown type ++ " " ++ (← nameText m) ++ "\n")
  else if base.isKind .struct then
    let type := (← get "name" base).label
    print ("    " ++ Tree.shown type ++ " " ++ (← nameText m) ++ "\n")
  else complain ("not IdentifierType for " ++ (← nameText m) ++ ": " ++ base.sortText)

/-- the type of a pointer, or of a pointer to a function, which counts as one to `void` -/
def printPointer (o : StructOptions) (d : Definition) (m : Tree) : Action σ Unit := do
  let first ← get "type" (← get "type" m)
  let (more, target) := pointerLevels first
  if target.isKind .typeDecl then
    printStars (more + 1)
    let base ← get "type" target
    if base.isKind .identifierType then
      let type ← orComplain (typeName base)
      print (Tree.shown type ++ " " ++ (← nameText m) ++ "\n")
    else if base.isKind .struct then
      let type := d.nameOfTag o (← get "name" base).label
      print (Tree.shown type ++ " " ++ (← nameText m) ++ "\n")
    else
      let name ← nameText m
      complain ("not IdentifierType for pointer " ++ name ++ ": " ++ (← get "type" first).sortText)
  else if first.isKind .funcDecl then
    printStars (more + 1)
    print ("void " ++ (← nameText m) ++ "\n")
  else complain ("not TypeDecl for pointer " ++ (← nameText m) ++ ": " ++ first.sortText)

/-- the text of one length; `sub` is put into complaints about inner arrays -/
def lengthText (m : Tree) (sub : String) (dim : Tree) : Action σ String := do
  match dim with
  | .null => complain ("flexible " ++ sub ++ "array member not supported: " ++ (← nameText m))
  | .node .constant [_, value] => return Tree.shown value.label
  | .node .id [name] => return Tree.shown name.label
  | .node .binaryOp _ => return (← orComplain (evaluate dim)).text
  | _ => complain ("unknown " ++ sub ++ "array dim type for " ++ (← nameText m) ++ ": " ++ dim.sortText)

/-- the lengths of an array, outermost first, and its elements -/
def lengthTexts (m : Tree) (sub : String) : Tree → Action σ (List String × Tree)
  | .node .arrayDecl [type, dim, _] => do
    let text ← lengthText m sub dim
    let (texts, base) ← lengthTexts m "sub " type
    return (text :: texts, base)
  | t => return ([], t)

/-- the type of the elements of an array, behind the stars of a pointer -/
def elementName (o : StructOptions) (d : Definition) (m : Tree) (isPointer : Bool) (target : Tree) :
    Action σ (Option String) := do
  let base ← get "type" target
  if base.isKind .identifierType then orComplain (typeName base)
  else if base.isKind .struct then return d.nameOfTag o (← get "name" base).label
  else if isPointer && target.isKind .funcDecl then
    complain ("array of function pointers not supported: " ++ (← nameText m))
  else complain ("unknown array typedecl identifier for " ++ (← nameText m) ++ ": " ++ base.sortText)

/-- the key under which the lengths of an array may have names -/
def dotName (d : Definition) (m : Tree) : Action σ String := do
  let s ← ofOption .noText d.name
  let n ← ofOption .noText (← get "name" m).label
  return s ++ "." ++ n

def brackets (texts : List String) : String := String.join (texts.map fun t => "[" ++ t ++ "]")

/-- gives the key of the names that were used -/
def printArray (o : StructOptions) (d : Definition) (m : Tree) : Action σ (Option String) := do
  let array ← get "type" m
  let (lengths, element) ← lengthTexts m "" array
  if element.isKind .typeDecl || element.isKind .ptrDecl then
    let (levels, target) := pointerLevels element
    let type ← elementName o d m (element.isKind .ptrDecl) target
    print ("    " ++ Text.copies levels "*" ++ Tree.shown type)
    let key ← dotName d m
    let name ← nameText m
    match o.arrayConstants[key]? with
    | some texts =>
      print (brackets texts ++ " " ++ name ++ "\n")
      return some key
    | none =>
      print (brackets lengths ++ " " ++ name ++ "\n")
      return none
  else
    let name ← nameText m
    complain ("unknown array type for " ++ name ++ ": " ++ (← get "type" array).sortText)

def printMember (o : StructOptions) (d : Definition) (m : Tree) : Action σ (Option String) := do
  let type ← get "type" m
  match type.kind? with
  | some .typeDecl => printPlain m; return none
  | some .ptrDecl => printPointer o d m; return none
  | some .arrayDecl => printArray o d m
  | _ => complain ("unhandled type for " ++ (← nameText m) ++ ": " ++ type.sortText ++ "\n")

/-- gives the keys of the names that were used -/
def printMembers (o : StructOptions) (d : Definition) : List Tree → Action σ (List String)
  | [] => return []
  | m :: rest => do
    let key ← printMember o d m
    return key.toList ++ (← printMembers o d rest)

/-! ## definitions -/

def printDebug (o : StructOptions) (d : Definition) : Action σ Unit := do
  if o.debug > 1 then print (Tree.shown d.declared ++ " : \n" ++ d.tree.render ++ "\n\n")
  if o.debug > 0 then
    print (Tree.shown d.name ++ " (members) : \n" ++ d.members.rowText ++ "\n\n")
    match d.newName o with
    | some n => print (Tree.shown d.name ++ " renamed to " ++ n ++ "\n")
    | none => return ()

def printDefinition (o : StructOptions) (d : Definition) : Action σ (List String) := do
  printDebug o d
  print (d.heading o ++ " \x7b\n")
  let keys ← printMembers o d d.memberTrees
  print "\x7d\n\n"
  return keys

/-- prints the definitions that are wanted: their names, and the keys of the names of lengths that were
used -/
def printStructs (o : StructOptions) :
    List Tree → Action σ (List (Option String) × List String)
  | [] => return ([], [])
  | t :: rest =>
    match (Definition.ofTree? t).filter (Definition.isWanted o) with
    | none => printStructs o rest
    | some d => do
      let keys ← printDefinition o d
      let (names, more) ← printStructs o rest
      return (d.name :: names, keys ++ more)

/-- the offsets of members come from a compiled program, for which no text can be written -/
def printOffsets : Action σ α := fail .noText

end Disasm.C
