import Disasm.C.Tree

/-!
# Names of basic types

The name that templates have for a type that is written as one or two words.  A sign alone is an `int`;
in front of `char`, `short` or `int` it chooses between the two names of the type.  Another single word
is taken as it is.
-/

namespace Disasm.C

/-- how a problem with the words of a type starts -/
def typeProblem {α : Type} (text : String) : Except Interruption α :=
  .error (.problem ("convert_identifier_type() " ++ text))

/-- the name of a type that has a sign in front -/
def signedName (sign : Option String) (base plain unsigned : String) :
    Except Interruption (Option String) :=
  if sign == some "signed" then .ok (some plain)
  else if sign == some "unsigned" then .ok (some unsigned)
  else typeProblem ("unknown " ++ base ++ " type: " ++ Tree.shown sign)

def singleName (word : Option String) : Option String :=
  if word == some "signed" then some "int"
  else if word == some "unsigned" then some "uint"
  else word

def nameOfWords : List Tree → Except Interruption (Option String)
  | [] => typeProblem "empty names array"
  | [word] => .ok (singleName word.label)
  | first :: second :: rest =>
    if second.label == some "char" then signedName first.label "char" "char" "uchar"
    else if second.label == some "short" then signedName first.label "short" "short" "ushort"
    else if second.label == some "int" then signedName first.label "int" "int" "uint"
    else typeProblem ("unknown type: " ++ (Tree.list (first :: second :: rest)).rowText)

def typeName : Tree → Except Interruption (Option String)
  | .node .identifierType [.list words] => nameOfWords words
  | .node .identifierType _ => .error (.fault .noText)
  | t => typeProblem ("unknown type: " ++ t.sortText)

end Disasm.C
