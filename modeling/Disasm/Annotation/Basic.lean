import Disasm.Action
import Disasm.Comment
import Disasm.Label.Table
import Disasm.Template.Declaration

/-!
# Annotations

All that the annotation files of a directory say about an image.  Problems are reported with their line,
which is shown as it stands in front of its semicolon, the line end included where there is no
semicolon.
-/

namespace Disasm

structure Annotations where
  library : Library := {}
  labels : Labels := {}
  code : CommentTable := {}
  data : CommentTable := {}

namespace Annotations

open Disasm.Action

abbrev Work (α : Type) := Action Annotations α

def onLibrary {α : Type} (a : Action Library α) : Work α :=
  within (·.library) (fun lib s => { s with library := lib }) a

def getLabels : Work Labels := do return (← read).labels

def setLabels (f : Labels → Labels) : Work Unit := update fun s => { s with labels := f s.labels }

/-- the number in a word; a word that is none ends the work with a message -/
def number (loc : Location) (message word : String) : Work Int :=
  match Text.readNumber? word with
  | some n => pure n
  | none => stop (loc.say message)

def warnIf (cond : Bool) (loc : Location) (message : String) : Work Unit :=
  if cond then warn (loc.say message) else pure ()

end Annotations
end Disasm
