import Disasm.Fault

/-!
# Actions

Work that changes a state, writes to a console and may end early.  What was changed and written before a
fault stays: a fault ends the work, it does not undo it.

A console has two streams.  A warning goes to both, unless warnings are switched off; so does the report
of a problem, which always shows.
-/

namespace Disasm

structure Console where
  quiet : Bool := false
  out : String := ""
  err : String := ""
  deriving DecidableEq, Repr, Inhabited

structure Session (σ : Type) where
  state : σ
  console : Console := {}

/-- work on a state of type `σ` -/
abbrev Action (σ α : Type) := EStateM Fault (Session σ) α

namespace Console

def print (text : String) (c : Console) : Console := { c with out := c.out ++ text }

def printErr (text : String) (c : Console) : Console := { c with err := c.err ++ text }

def warn (text : String) (c : Console) : Console :=
  if c.quiet then c
  else { c with out := c.out ++ "; warning : " ++ text ++ "\n"
                err := c.err ++ "warning: " ++ text ++ "\n" }

def report (text : String) (c : Console) : Console :=
  { c with out := c.out ++ "---- error occurred : " ++ text ++ "\n"
           err := c.err ++ "ERROR: " ++ text ++ "\n" }

end Console

namespace Action
variable {σ τ α : Type}

def onConsole (f : Console → Console) : Action σ Unit :=
  fun s => .ok () { s with console := f s.console }

def print (text : String) : Action σ Unit := onConsole (·.print text)

def printErr (text : String) : Action σ Unit := onConsole (·.printErr text)

def warn (text : String) : Action σ Unit := onConsole (·.warn text)

/-- shows a problem without ending the work -/
def report (text : String) : Action σ Unit := onConsole (·.report text)

def fail (f : Fault) : Action σ α := fun s => .error f s

/-- shows a problem and ends the work -/
def stop (text : String) : Action σ α :=
  fun s => .error (.stopped 1) { s with console := s.console.report text }

/-- shows a problem on the error stream alone and ends the work -/
def complain (text : String) : Action σ α :=
  fun s => .error (.stopped 1) { s with console := s.console.printErr ("ERROR: " ++ text ++ "\n") }

/-- the work, with a problem shown in place of its fault -/
def orStop (text : String) (a : Action σ α) : Action σ α :=
  fun s =>
    match a s with
    | .ok x t => .ok x t
    | .error _ t => stop text t

def interrupt : Interruption → Action σ α
  | .fault f => fail f
  | .problem message => stop message

/-- the result of a computation; its problems are complaints -/
def orComplain : Except Interruption α → Action σ α
  | .ok a => fun s => .ok a s
  | .error (.fault f) => fail f
  | .error (.problem message) => complain message

def read : Action σ σ := fun s => .ok s.state s

def write (t : σ) : Action σ Unit := fun s => .ok () { s with state := t }

def update (f : σ → σ) : Action σ Unit := fun s => .ok () { s with state := f s.state }

def ofOption (f : Fault) : Option α → Action σ α
  | some a => fun s => .ok a s
  | none => fun s => .error f s

def ofExcept : Except Fault α → Action σ α
  | .ok a => fun s => .ok a s
  | .error f => fun s => .error f s

/-- work on one part of a larger state -/
def within (get : τ → σ) (put : σ → τ → τ) (a : Action σ α) : Action τ α :=
  fun s =>
    match a ⟨get s.state, s.console⟩ with
    | .ok x t => .ok x ⟨put t.state s.state, t.console⟩
    | .error f t => .error f ⟨put t.state s.state, t.console⟩

/-- work on a state of its own, which is given back with the result -/
def apart (init : σ) (a : Action σ α) : Action τ (α × σ) :=
  fun s =>
    match a ⟨init, s.console⟩ with
    | .ok x t => .ok (x, t.state) { s with console := t.console }
    | .error f t => .error f { s with console := t.console }

end Action
end Disasm
