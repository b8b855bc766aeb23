import Mathlib
import Disasm.Proofs.Symbolic

/-!
# How deep a stack of texts is

Texts are pushed and operations are carried out, one after the other.  By the opcode table an operation replaces its
operands by one result.  The negation of a text with a sign leaves one text more.

* `Move`, `carryOut`  what is done to a stack, and doing several things in turn;
* `Operation.opcode`, `Move.change`  the change of the depth by the opcode table;
* `Operation.negatesSigned`, `signedNegations`  the operations that leave one text more, and how many of them a run has;
* `Move.work_texts`, `length_carryOut`  what a step leaves that does not fail, and the depth behind a run;
* `Pushes`  a run that pushes one text, whatever lies on the stack, and `Pushes.operate`  an operation behind it;
* `carryOut_supplied`  with enough operands, none of them empty, a run without such negations does not fail;
* `perform_operands`, `perform_exact_iff`  an operation consumes exactly its operands, and a run follows the opcode
  table, exactly when no text with a sign is negated.
-/

namespace Disasm

open Symbolic

/-! ## operations and their opcodes -/

namespace Operation

/-- the opcode of an operation -/
def opcode (o : Operation) : Opcode :=
  (Opcode.all.toList.find? fun op => op.operation? = some o).getD .undef

theorem operation?_opcode (o : Operation) : o.opcode.operation? = some o := by
  cases o with
  | unary u => cases u <;> rfl
  | negate n => cases n <;> rfl
  | binary b => cases b <;> rfl
  | store w => cases w <;> rfl
  | arg | copy => rfl

/-- the opcode table has each operation leave one text; a statement is none to the table -/
theorem stackChange_opcode (o : Operation) :
    o.opcode.stackChange + (if o.opcode.endsStatement then 1 else 0) = 1 - (o.arity : Int) := by
  have hrole : o.opcode.role = .operation o := by
    unfold Opcode.role
    rw [operation?_opcode]
  rw [stackChange_role, hrole]

/-- the operation is the negation of a text with a sign -/
def negatesSigned : Operation → List String → Bool
  | .negate _, v :: _ => isSigned v
  | _, _ => false

theorem length_residue {o : Operation} {vs : List String} (h : vs.length = o.arity) :
    (o.residue vs).length = if o.negatesSigned vs then 1 else 0 := by
  cases o with
  | negate n =>
    obtain ⟨v, rfl⟩ := List.length_eq_one_iff.1 h
    show (OperandStack.withoutSign v.toList).toList.length = if isSigned v then 1 else 0
    unfold isSigned OperandStack.withoutSign
    split
    · next cs hv =>
      rw [hv]
      rfl
    · next hv =>
      rw [if_neg]
      · rfl
      · intro hsign
        obtain ⟨cs, hcs⟩ := List.head?_eq_some_iff.1 (of_decide_eq_true hsign)
        exact hv cs hcs
  | _ => rfl

theorem residue_of_unsigned {o : Operation} {vs : List String} (h : vs.length = o.arity)
    (hsign : o.negatesSigned vs = false) : o.residue vs = [] := by
  have hlength := length_residue h
  rw [hsign] at hlength
  exact List.length_eq_zero_iff.1 hlength

theorem negatesSigned_take (o : Operation) (ts : List String) :
    o.negatesSigned (ts.take o.arity) = o.negatesSigned ts := by
  cases o with
  | negate n => cases ts <;> rfl
  | _ => rfl

end Operation

namespace OperandStack

/-! ## moves -/

/-- what is done to a stack: a text is pushed, or an operation is carried out with the text of its parameter -/
inductive Move where
  | leaf (text : String)
  | operate (o : Operation) (parm : String)
  deriving DecidableEq

namespace Move

def work : Move → Work Unit
  | .leaf t => push (some t)
  | .operate o parm => perform (some parm) o

/-- the number of operands that are taken -/
def taken : Move → Nat
  | .leaf _ => 0
  | .operate o _ => o.arity

/-- the change of the depth by the opcode table, where a statement stays as one text -/
def change : Move → Int
  | .leaf _ => Opcode.const.stackChange
  | .operate o _ => o.opcode.stackChange + (if o.opcode.endsStatement then 1 else 0)

/-- the texts behind a move that does not fail -/
def texts : Move → List String → List String
  | .leaf t, ts => t :: ts
  | .operate o parm, ts => o.texts parm ts

def negatesSigned : Move → List String → Bool
  | .leaf _, _ => false
  | .operate o _, ts => o.negatesSigned ts

/-- a text that is pushed is not empty -/
def Filled : Move → Prop
  | .leaf t => t ≠ ""
  | .operate _ _ => True

theorem change_eq (m : Move) : m.change = 1 - (m.taken : Int) := by
  cases m with
  | leaf t => rfl
  | operate o parm => exact o.stackChange_opcode

theorem length_texts {m : Move} {ts : List String} (h : m.taken ≤ ts.length) :
    ((m.texts ts).length : Int) = ts.length + m.change + (if m.negatesSigned ts then 1 else 0) := by
  rw [change_eq]
  cases m with
  | leaf t =>
    show ((ts.length + 1 : Nat) : Int) = ts.length + (1 - (0 : Nat)) + 0
    omega
  | operate o parm =>
    have hle : o.arity ≤ ts.length := h
    have hresidue := Operation.length_residue (List.length_take_of_le hle)
    rw [o.negatesSigned_take] at hresidue
    have hlength : (o.texts parm ts).length = (o.residue (ts.take o.arity)).length + (ts.length - o.arity) + 1 := by
      rw [Operation.texts, List.length_cons, List.length_append, List.length_drop]
    show ((o.texts parm ts).length : Int) = ts.length + (1 - (o.arity : Int)) + (if o.negatesSigned ts then 1 else 0)
    rw [hlength, hresidue]
    split <;> omega

/-- a move that does not fail has its operands and leaves its texts -/
theorem work_texts {m : Move} {ts : List String} {s : OperandStack} (h : m.work (ofTexts ts true) = .ok () s) :
    m.taken ≤ ts.length ∧ s = ofTexts (m.texts ts) true := by
  cases m with
  | leaf t =>
    cases h
    exact ⟨Nat.zero_le _, rfl⟩
  | operate o parm =>
    obtain ⟨hle, hs⟩ := perform_eq_ok parm o h
    exact ⟨hle rfl, hs⟩

/-- with its operands on the stack, none of them empty, a move does not fail -/
theorem work_supplied {m : Move} {ts : List String} (h : m.taken ≤ ts.length) (hts : ∀ t ∈ ts, t ≠ "") :
    m.work (ofTexts ts true) = .ok () (ofTexts (m.texts ts) true) := by
  cases m with
  | leaf t => rfl
  | operate o parm =>
    refine perform_valid parm o h fun n _ hempty => ?_
    exact hts "" (List.mem_of_head? hempty) rfl

/-- a move that negates no text with a sign leaves no empty text -/
theorem texts_ne_empty {m : Move} {ts : List String} (hm : m.Filled) (h : m.taken ≤ ts.length)
    (hsign : m.negatesSigned ts = false) (hts : ∀ t ∈ ts, t ≠ "") : ∀ t ∈ m.texts ts, t ≠ "" := by
  cases m with
  | leaf t => exact List.forall_mem_cons.2 ⟨hm, hts⟩
  | operate o parm =>
    have htake : (ts.take o.arity).length = o.arity := List.length_take_of_le h
    have hresidue : o.residue (ts.take o.arity) = [] := by
      refine Operation.residue_of_unsigned htake ?_
      rw [o.negatesSigned_take]
      exact hsign
    show ∀ t ∈ o.texts parm ts, t ≠ ""
    rw [Operation.texts, hresidue, List.nil_append]
    exact List.forall_mem_cons.2 ⟨o.render_ne_empty parm htake, fun t ht => hts t (List.mem_of_mem_drop ht)⟩

end Move

/-! ## runs -/

/-- carries out some moves in turn -/
def carryOut : List Move → Work Unit
  | [] => pure ()
  | m :: ms => do m.work; carryOut ms

/-- the number of moves of a run that negate a text with a sign -/
def signedNegations : List Move → List String → Nat
  | [], _ => 0
  | m :: ms, ts => (if m.negatesSigned ts then 1 else 0) + signedNegations ms (m.texts ts)

/-- each move finds its operands when the depth, `n` at first, is that of the opcode table -/
def supplied : List Move → Nat → Bool
  | [], _ => true
  | m :: ms, n => decide (m.taken ≤ n) && supplied ms (n - m.taken + 1)

theorem carryOut_append {ms : List Move} {s s1 : OperandStack} (h : carryOut ms s = .ok () s1) (ns : List Move) :
    carryOut (ms ++ ns) s = carryOut ns s1 := by
  induction ms generalizing s with
  | nil =>
    cases h
    rfl
  | cons m ms ih =>
    obtain ⟨_, s2, hm, hms⟩ := Action.bind_eq_ok h
    rw [← ih hms]
    exact Action.bind_of_ok hm

/-- an operation that negates no text with a sign replaces its operands by one text -/
theorem carryOut_operate (parm : String) {o : Operation} {vs : List String} (hlength : vs.length = o.arity)
    (hvs : ∀ v ∈ vs, v ≠ "") (hsign : o.negatesSigned vs = false) (rest : List Operand) :
    carryOut [.operate o parm] ⟨vs.map some ++ rest, true⟩ = .ok () ⟨some (o.render parm vs) :: rest, true⟩ := by
  have hperform := perform_onto parm o hlength (fun n _ hempty => hvs "" (List.mem_of_head? hempty) rfl) rest
  rw [Operation.residue_of_unsigned hlength hsign] at hperform
  exact Action.bind_of_ok hperform

/-- the moves push one text, whatever lies on the stack -/
def Pushes (ms : List Move) (t : String) : Prop :=
  ∀ items : List Operand, carryOut ms ⟨items, true⟩ = .ok () ⟨some t :: items, true⟩

namespace Pushes

variable {ms ns : List Move} {v w : String} {o : Operation}

theorem of_valid (h : Pushes ms v) {s : OperandStack} (hs : s.valid = true) :
    carryOut ms s = .ok () { s with items := some v :: s.items } := by
  obtain ⟨items, valid⟩ := s
  cases hs
  exact h items

theorem operate (h : Pushes ms v) (parm : String) (harity : o.arity = 1) (hv : v ≠ "")
    (hsign : o.negatesSigned [v] = false) : Pushes (ms ++ [.operate o parm]) (o.render parm [v]) := by
  intro items
  have hlength : [v].length = o.arity := harity.symm
  rw [carryOut_append (h items)]
  exact carryOut_operate parm hlength (by simpa using hv) hsign items

theorem operate₂ (h : Pushes ms v) (h' : Pushes ns w) (parm : String) (harity : o.arity = 2) (hv : v ≠ "") (hw : w ≠ "")
    (hsign : o.negatesSigned [w, v] = false) : Pushes (ms ++ (ns ++ [.operate o parm])) (o.render parm [w, v]) := by
  intro items
  have hlength : [w, v].length = o.arity := harity.symm
  rw [carryOut_append (h items), carryOut_append (h' _)]
  exact carryOut_operate parm hlength (by simp [hv, hw]) hsign items

end Pushes

/-- the depth behind a run that does not fail -/
theorem length_carryOut {ms : List Move} {ts : List String} {s : OperandStack}
    (h : carryOut ms (ofTexts ts true) = .ok () s) :
    ∃ us, s = ofTexts us true ∧
      (us.length : Int) = ts.length + (ms.map Move.change).sum + signedNegations ms ts := by
  induction ms generalizing ts with
  | nil =>
    cases h
    exact ⟨ts, rfl, by simp [signedNegations]⟩
  | cons m ms ih =>
    obtain ⟨_, s1, hm, hms⟩ := Action.bind_eq_ok h
    obtain ⟨hle, rfl⟩ := Move.work_texts hm
    obtain ⟨us, rfl, hlength⟩ := ih hms
    refine ⟨us, rfl, ?_⟩
    have hm := Move.length_texts hle
    rw [List.map_cons, List.sum_cons]
    unfold signedNegations
    push_cast
    rw [hlength, hm]
    ring

/-- a run without negations of texts with a sign does not fail while each move finds its operands -/
theorem carryOut_supplied {ms : List Move} {ts : List String} (hms : ∀ m ∈ ms, m.Filled) (hts : ∀ t ∈ ts, t ≠ "")
    (h : supplied ms ts.length = true) (hsign : signedNegations ms ts = 0) :
    ∃ us, carryOut ms (ofTexts ts true) = .ok () (ofTexts us true) := by
  induction ms generalizing ts with
  | nil => exact ⟨ts, rfl⟩
  | cons m ms ih =>
    obtain ⟨hm, hrest⟩ := List.forall_mem_cons.1 hms
    obtain ⟨hle, hsupplied⟩ := (Bool.and_eq_true_iff).1 h
    replace hle := of_decide_eq_true hle
    obtain ⟨hfirst, hlater⟩ := Nat.add_eq_zero_iff.1 hsign
    have hnot : m.negatesSigned ts = false := by
      by_contra hs
      rw [if_pos (by simpa using hs)] at hfirst
      cases hfirst
    have hlength := Move.length_texts hle
    rw [Move.change_eq, hnot] at hlength
    have hdepth : (m.texts ts).length = ts.length - m.taken + 1 := by
      simp only [Bool.false_eq_true, if_false] at hlength
      omega
    obtain ⟨us, hus⟩ := ih hrest (Move.texts_ne_empty hm hle hnot hts) (by rw [hdepth]; exact hsupplied) hlater
    refine ⟨us, ?_⟩
    rw [← hus]
    exact Action.bind_of_ok (Move.work_supplied hle hts)

/-- an operation with its operands on the stack, none of them empty, does not fail and leaves all below them as it is; it
replaces them by one text exactly when it is not the negation of a text with a sign -/
theorem perform_operands (parm : String) {o : Operation} {vs : List String} (hlength : vs.length = o.arity)
    (hvs : ∀ v ∈ vs, v ≠ "") (rest : List Operand) :
    ∃ s, perform (some parm) o ⟨vs.map some ++ rest, true⟩ = .ok () s ∧ s.valid = true ∧ rest <:+ s.items ∧
      ((∃ t, t ≠ "" ∧ s.items = some t :: rest) ↔ o.negatesSigned vs = false) := by
  have hperform := perform_onto parm o hlength (fun n _ hempty => hvs "" (List.mem_of_head? hempty) rfl) rest
  refine ⟨_, hperform, rfl, ⟨some (o.render parm vs) :: (o.residue vs).map some, rfl⟩, ?_⟩
  constructor
  · rintro ⟨t, -, hitems⟩
    have hrest := congrArg List.length (List.cons.inj hitems).2
    rw [List.length_append, List.length_map, Operation.length_residue hlength] at hrest
    by_contra hsign
    rw [if_pos (by simpa using hsign)] at hrest
    omega
  · intro hsign
    rw [Operation.residue_of_unsigned hlength hsign]
    exact ⟨_, o.render_ne_empty parm hlength, rfl⟩

/-- on texts that are not empty an operation replaces its operands by one text, and a run follows the opcode table,
exactly when no text with a sign is negated -/
theorem perform_exact_iff {ts : List String} (hts : ∀ t ∈ ts, t ≠ "") :
    (∀ (parm : String) (o : Operation) (rest : List Operand), o.arity ≤ ts.length →
      ∃ s, perform (some parm) o ⟨ts.map some ++ rest, true⟩ = .ok () s ∧ s.valid = true ∧
        (ts.drop o.arity).map some ++ rest <:+ s.items ∧
        ((∃ t, t ≠ "" ∧ s.items = some t :: ((ts.drop o.arity).map some ++ rest)) ↔ o.negatesSigned ts = false)) ∧
      ∀ ms : List Move, (∀ m ∈ ms, m.Filled) → supplied ms ts.length = true →
        (signedNegations ms ts = 0 → ∃ s, carryOut ms (ofTexts ts true) = .ok () s) ∧
          ∀ s, carryOut ms (ofTexts ts true) = .ok () s → s.valid = true ∧
            ((s.items.length : Int) = ts.length + (ms.map Move.change).sum ↔ signedNegations ms ts = 0) := by
  refine ⟨fun parm o rest hle => ?_, fun ms hms hsupplied => ⟨fun hsign => ?_, fun s hs => ?_⟩⟩
  · have hoperands := perform_operands parm (List.length_take_of_le hle) (fun v hv => hts v (List.mem_of_mem_take hv))
      ((ts.drop o.arity).map some ++ rest)
    rw [← List.append_assoc, ← List.map_append, List.take_append_drop, o.negatesSigned_take] at hoperands
    exact hoperands
  · obtain ⟨us, hus⟩ := carryOut_supplied hms hts hsupplied hsign
    exact ⟨_, hus⟩
  · obtain ⟨us, rfl, hlength⟩ := length_carryOut hs
    refine ⟨rfl, ?_⟩
    show ((us.map some).length : Int) = _ ↔ _
    rw [List.length_map, hlength]
    omega

/-- a text with a sign is added, and the sum is negated; an operand without text lies below the operands of `sub` -/
theorem perform_exact_sums :
    (∃ s, perform (some "") (.binary .sub) ⟨[some "-2", some "&locala", none], true⟩ = .ok () s ∧
      ∃ t, t ≠ "" ∧ s.items = [some t, none]) ∧
      ∃ s, carryOut [.leaf "&local8", .operate (.unary .load4) "", .leaf "-2", .operate (.binary .add) "",
          .operate (.negate .negi) ""] (ofTexts ["&locala"] true) = .ok () s ∧ s.items.length = 2 := by
  constructor
  · have htexts : ∀ t ∈ ["-2", "&locala"], t ≠ "" := by decide
    obtain ⟨s, hs, -, -, hiff⟩ := (perform_exact_iff htexts).1 "" (.binary .sub) [none] (by decide)
    exact ⟨s, hs, hiff.2 rfl⟩
  · have htexts : ∀ t ∈ ["&locala"], t ≠ "" := by decide
    obtain ⟨hok, hdepth⟩ := (perform_exact_iff htexts).2 [.leaf "&local8", .operate (.unary .load4) "", .leaf "-2",
      .operate (.binary .add) "", .operate (.negate .negi) ""] (by simp [Move.Filled]) (by decide)
    obtain ⟨s, hs⟩ := hok (by decide)
    have hlength : (s.items.length : Int) = 2 := (hdepth s hs).2.2 (by decide)
    exact ⟨s, hs, by omega⟩

/-- the second one of two negations takes one text and leaves two, where the opcode table has the depth stay as it is -/
theorem negation_doubles :
    carryOut [.leaf "&local8", .operate (.negate .negi) ""] (ofTexts [] true) = .ok () (ofTexts ["-(&local8)"] true) ∧
      (¬ ∃ t, perform (some "") (.negate .negi) (ofTexts ["-(&local8)"] true) = .ok () (ofTexts [t] true)) ∧
      Move.change (.operate (.negate .negi) "") = 0 := by
  have htwice : perform (some "") (.negate .negi) (ofTexts ["-(&local8)"] true) =
      .ok () (ofTexts ["-(-(&local8))", "(&local8)"] true) := rfl
  refine ⟨rfl, ?_, rfl⟩
  rintro ⟨t, ht⟩
  rw [htwice] at ht
  cases ht

end OperandStack
end Disasm
