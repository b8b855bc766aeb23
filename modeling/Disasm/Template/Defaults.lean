import Disasm.Data.DefaultTemplates
import Disasm.Directory
import Disasm.Template.Reader

/-!
# The templates of a session

The default templates come first, from a file of the directory where there is one and from the built-in
text otherwise.  Templates of the user follow and may replace them.
-/

namespace Disasm

open Disasm.Action

/-- `padUp` for a size that has not been checked -/
def padUpChecked {σ : Type} (offset size : Int) : Action σ Int :=
  if size < 0 then stop ("invalid padding size: " ++ toString size) else return padUp offset size

namespace Library

def defaultFile : String := "templates-default.dat"

def userFile : String := "templates.dat"

def loadDefaults (d : Directory) : Action Library Unit := do
  if d.holds defaultFile then
    load false defaultFile (← Action.ofExcept (d.text defaultFile))
  else
    load false defaultFile Data.DefaultTemplates.text
  if d.holds userFile then
    load true userFile (← Action.ofExcept (d.text userFile))

end Library
end Disasm
