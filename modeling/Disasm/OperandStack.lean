import Disasm.Expression
import Disasm.Fault

/-!
# The operand stack of texts

A stack on which a run of instructions is carried out on texts instead of values.  Control flow makes it
invalid: from then on nothing is pushed, a pop gives a marker and nothing can fail, until the stack is
cleared.

A negation of a text that starts with a minus sign pushes that text without its sign as well.

An operand may lack a text; an operation that needs it then fails after it has taken its operands.
-/

namespace Disasm

/-- a text, or nothing where none is known -/
abbrev Operand := Option String

structure OperandStack where
  /-- the operand pushed last comes first -/
  items : List Operand := []
  valid : Bool := true
  deriving DecidableEq, Repr, Inhabited

namespace OperandStack

abbrev Work (α : Type) := EStateM Fault OperandStack α

def empty : OperandStack := {}

def markInvalid (s : OperandStack) : OperandStack := { s with valid := false }

def pushed (v : Operand) (s : OperandStack) : OperandStack :=
  if s.valid then { s with items := v :: s.items } else s

def push (v : Operand) : Work Unit := fun s => .ok () (s.pushed v)

/-- what a pop gives while the stack is invalid -/
def invalidPop : String := "<invalid pop>"

def pop : Work Operand := fun s =>
  if s.valid then
    match s.items with
    | v :: rest => .ok v { s with items := rest }
    | [] => .error .outOfBounds s
  else .ok (some invalidPop) s

def text : Operand → Work String
  | some t => fun s => .ok t s
  | none => fun s => .error .noText s

/-- what a statement reads as when control flow has made the stack invalid -/
def noStatement : String := "----"

/-- what a statement reads as when the stack does not hold it alone -/
def badSize : String := " -- size --"

/-- the one operand that is left -/
def result (s : OperandStack) : Operand :=
  if s.valid then
    match s.items with
    | [v] => v
    | _ => some badSize
  else some noStatement

/-- the text behind a minus sign that a text starts with -/
def withoutSign : List Char → Option String
  | '-' :: cs => some (String.ofList cs)
  | _ => none

/-- pushes the negation; a text that has a sign already is pushed without it first -/
def negate (n : Negation) (v : String) : Work Unit := do
  match v.toList with
  | [] => throw .outOfBounds
  | cs =>
    match withoutSign cs with
    | some rest => push (some rest)
    | none => pure ()
    push (some (n.render v))

/-- carries out one operation; `parm` is the text of the opcode's parameter -/
def perform (parm : Operand) : Operation → Work Unit
  | .unary u => do
    let v ← pop
    push (some (u.render (← text v)))
  | .negate n => do
    let v ← pop
    negate n (← text v)
  | .binary b => do
    let r ← pop
    let l ← pop
    push (some (b.render (← text l) (← text r)))
  | .store w => do
    let r ← pop
    let l ← pop
    push (some (w.render (← text l) (← text r)))
  | .arg => do
    let r ← pop
    push (some (renderArg (← text parm) (← text r)))
  | .copy => do
    let r ← pop
    let l ← pop
    push (some (renderCopy (← text l) (← text r) (← text parm)))

end OperandStack
end Disasm
