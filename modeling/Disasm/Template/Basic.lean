import Std.Data.TreeMap
import Disasm.Location
import Disasm.Shape

/-!
# Templates

A template names the members of a block of bytes with their offsets.  Its member list is flat: a member
that is itself a template is followed by the members of that template, their names behind its own and a
dot, their offsets moved to its own.

A library holds the templates by name, the constants that array declarations may use, the aliases of
type names, and the references to templates that were not known when they were read.
-/

namespace Disasm

/-- a member seen from one of the templates around it -/
structure Place where
  template : String
  name : String
  offset : Int
  deriving DecidableEq, Repr

structure Member where
  offset : Int
  size : Int
  name : String
  kind : Kind := .raw
  pointer : Option Pointer := none
  array : Option Dimensions := none
  /-- the template of the elements of an array; empty for a member that is a whole template -/
  elementTemplate : Option String := some ""
  aliased : Bool := false
  /-- the second word of the line that declared the member -/
  written : String := ""
  /-- the template that the member is the whole of -/
  whole : Option String := none
  /-- from the innermost template outwards -/
  places : List Place := []
  deriving DecidableEq, Repr

structure Template where
  size : Int
  /-- the alignment, 0 when no member has one -/
  padding : Int
  /-- the bytes between the last member and the end -/
  paddingUsed : Int
  members : List Member
  deriving DecidableEq, Repr

structure Alias where
  name : String
  declaration : String
  /-- the declaration with the aliases known before it put in -/
  expansion : String
  deriving DecidableEq, Repr

/-- a pointer to a template that was not known on the line that names it -/
structure ForwardReference where
  name : String
  location : Location
  deriving DecidableEq, Repr

structure Library where
  templates : Std.TreeMap String Template := {}
  constants : Std.TreeMap String Int := {}
  aliases : Std.TreeMap String Alias := {}
  /-- in the order in which they were read -/
  forward : List ForwardReference := []

/-- the least multiple of `size` that is not below `offset`; `offset` itself for size 0 -/
def padUp (offset size : Int) : Int :=
  if size = 0 then offset
  else if offset % size = 0 then offset
  else offset + size - offset % size

/-- the member `m` of a template that is the member `name` of the template `outer` at `offset` -/
def Member.inside (outer name : String) (offset : Int) (m : Member) : Member :=
  { m with
    offset := offset + m.offset
    name := name ++ "." ++ m.name
    places := m.places ++ [⟨outer, name ++ "." ++ m.name, m.offset⟩] }

end Disasm
