import Disasm.Fault
import Disasm.Text.Quoted
import Disasm.Text.Split

/-!
# Syntax trees of C declarations

A node has a kind, and the fields of that kind in their order.  A field is a node, a text, a list, or
nothing.  The same names of fields occur at several kinds; asking a node for one that its kind does not
have, or asking anything else for one, is a fault.

* `Tree.field`  a field by its name;
* `Tree.render`  a tree with all its fields, for a reader: each field on lines of its own, what belongs to
  it indented below its start.
-/

namespace Disasm.C

inductive NodeKind where
  | typedef | decl | typeDecl | ptrDecl | arrayDecl | funcDecl | struct | union | enum
  | identifierType | constant | id | binaryOp | unaryOp
  deriving DecidableEq, Repr

namespace NodeKind

def all : List NodeKind :=
  [.typedef, .decl, .typeDecl, .ptrDecl, .arrayDecl, .funcDecl, .struct, .union, .enum,
    .identifierType, .constant, .id, .binaryOp, .unaryOp]

def name : NodeKind → String
  | .typedef => "Typedef"
  | .decl => "Decl"
  | .typeDecl => "TypeDecl"
  | .ptrDecl => "PtrDecl"
  | .arrayDecl => "ArrayDecl"
  | .funcDecl => "FuncDecl"
  | .struct => "Struct"
  | .union => "Union"
  | .enum => "Enum"
  | .identifierType => "IdentifierType"
  | .constant => "Constant"
  | .id => "ID"
  | .binaryOp => "BinaryOp"
  | .unaryOp => "UnaryOp"

def ofName? (s : String) : Option NodeKind := all.find? fun k => k.name == s

/-- the names of the fields, in their order -/
def fields : NodeKind → List String
  | .typedef => ["name", "quals", "storage", "type"]
  | .decl => ["name", "quals", "align", "storage", "funcspec", "type", "init", "bitsize"]
  | .typeDecl => ["declname", "quals", "align", "type"]
  | .ptrDecl => ["quals", "type"]
  | .arrayDecl => ["type", "dim", "dim_quals"]
  | .funcDecl => ["args", "type"]
  | .struct | .union => ["name", "decls"]
  | .enum => ["name", "values"]
  | .identifierType => ["names"]
  | .constant => ["type", "value"]
  | .id => ["name"]
  | .binaryOp => ["op", "left", "right"]
  | .unaryOp => ["op", "expr"]

end NodeKind

inductive Tree where
  | null
  | text (s : String)
  | list (items : List Tree)
  /-- a node with as many fields as its kind has -/
  | node (kind : NodeKind) (fields : List Tree)
  deriving Repr, Inhabited

namespace Tree

/-- a node whose fields are given by name -/
def ofFields (kind : NodeKind) (field : String → Tree) : Tree := .node kind (kind.fields.map field)

def kind? : Tree → Option NodeKind
  | .node k _ => some k
  | _ => none

def isKind (k : NodeKind) (t : Tree) : Bool := t.kind? == some k

def field (name : String) : Tree → Except Fault Tree
  | .node k fs =>
    match k.fields.idxOf? name with
    | some i => .ok (fs.getD i .null)
    | none => .error .noField
  | _ => .error .noField

/-- the text of a name, `none` where there is no name -/
def label : Tree → Option String
  | .text s => some s
  | _ => none

/-- the elements of a list, `none` where there is no list -/
def elements : Tree → Option (List Tree)
  | .list ts => some ts
  | _ => none

/-- what a tree is, as complaints put it -/
def sortText : Tree → String
  | .null => "<class 'NoneType'>"
  | .text _ => "<class 'str'>"
  | .list _ => "<class 'list'>"
  | .node k _ => "<class 'pycparser.c_ast." ++ k.name ++ "'>"

/-- a name in a text, with a word for none -/
def shown (name : Option String) : String := name.getD "None"

/-! ## the text of a tree -/

/-- puts blanks behind each line end -/
def indent (n : Nat) (s : String) : String :=
  String.ofList (s.toList.flatMap fun c => if c == '\n' then c :: List.replicate n ' ' else [c])

def lineUp (kind : NodeKind) : String := "\n " ++ Text.copies kind.name.length " "

def fieldText (kind : NodeKind) (name value : String) : String :=
  name ++ "=" ++ indent (2 + name.length + kind.name.length) value

def nodeText (kind : NodeKind) (values : List String) : String :=
  kind.name ++ "(" ++
    ("," ++ lineUp kind).intercalate ((kind.fields.zip values).map fun (n, v) => fieldText kind n v) ++
    lineUp kind ++ ")"

def listText (items : List String) : String :=
  "[" ++ ",\n ".intercalate (items.map (indent 1)) ++ "\n]"

mutual

def render : Tree → String
  | .null => shown none
  | .text s => Text.quoted s
  | .list items => listText (texts items)
  | .node kind fields => nodeText kind (texts fields)

def texts : List Tree → List String
  | [] => []
  | t :: ts => render t :: texts ts

end

/-- a list that stands by itself is shown on one line, its elements aside -/
def rowText : Tree → String
  | .list items => "[" ++ ", ".intercalate (texts items) ++ "]"
  | t => render t

end Tree
end Disasm.C
