import Disasm.Analysis.Walk
import Disasm.Annotation.Load
import Disasm.KnownNames

/-!
# Programs

An image together with all that is known about it: names known beforehand, annotations, the entries of
its jump table and the tables of the analysis.
-/

namespace Disasm

structure Program where
  image : Image
  names : KnownNames := {}
  annotations : Annotations := {}
  jumpTargets : List Nat := []
  analysis : Analysis := {}

namespace Program

open Disasm.Action

abbrev Work (α : Type) := Action Program α

def header (p : Program) : Header := p.image.header

def labels (p : Program) : Labels := p.annotations.labels

def library (p : Program) : Library := p.annotations.library

/-- adds the names for a type of program; other types have none -/
def setType (d : Directory) (type : Option String) : Work Unit :=
  match type.bind ProgramType.ofName? with
  | some t => within (·.names) (fun k p => { p with names := k }) (KnownNames.load d t)
  | none => pure ()

/-- reads the annotation files of the directory -/
def annotate (d : Directory) : Work Unit :=
  within (·.annotations) (fun a p => { p with annotations := a }) (Annotations.load d)

def readJumpTable : Work Unit := do
  let targets ← Action.ofExcept (← read).image.jumpTargets
  update fun p => { p with jumpTargets := targets }

/-- adds what a walk over the code finds to the tables -/
def analyse : Work Unit := fun s =>
  let p := s.state
  let (tables, warnings, fault) := p.analysis.extend p.image p.image.decoded
  let t : Session Program := ⟨{ p with analysis := tables }, warnings.foldl (fun c w => c.warn w) s.console⟩
  match fault with
  | none => .ok () t
  | some f => .error f t

/-- the work that makes a program of an image -/
def prepare (d : Directory) (type : Option String) : Work Unit := do
  setType d type
  annotate d
  readJumpTable
  analyse

/-- the program in the bytes of a file -/
def load (d : Directory) (type : Option String) (bytes : ByteArray) (c : Console) :
    Except Fault Program × Console :=
  match Image.ofBytes bytes with
  | .error f => (.error f, c)
  | .ok image =>
    match prepare d type ⟨{ image }, c⟩ with
    | .ok _ s => (.ok s.state, s.console)
    | .error f s => (.error f, s.console)

/-- the bytes of the instructions of the image -/
def codeBytes (p : Program) : List UInt8 := p.image.copied.bytes

end Program
end Disasm
