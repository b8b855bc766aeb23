import Disasm.Annotation.Comments
import Disasm.Annotation.Constants
import Disasm.Annotation.Functions
import Disasm.Template.Defaults

/-!
# The annotation files of a directory

Templates come first, since symbols and functions name them; comments come last, since they may refer to
symbols and functions.  A file that is not there is skipped.
-/

namespace Disasm.Annotations

/-- reads a file of the directory, if it is there -/
def loadFile (d : Directory) (file : String) (load : String → Work Unit) : Work Unit := do
  if d.holds file then load (← Action.ofExcept (d.text file))

def load (d : Directory) : Work Unit := do
  onLibrary (Library.loadDefaults d)
  loadFile d symbolsFile loadSymbols
  loadFile d functionsFile loadFunctions
  loadFile d constantsFile loadConstants
  loadFile d commentsFile loadComments

end Disasm.Annotations
