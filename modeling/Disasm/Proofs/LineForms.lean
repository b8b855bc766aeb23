import Mathlib
import Disasm.Command.Decompile
import Disasm.Proofs.Action
import Disasm.Proofs.Listing.Line

/-!
# The two forms of a line of code

An instruction can be given as a listing shows it or as its opcode and parameter alone.  A line is taken for the
first form when its first word is a hexadecimal number, and the names of two opcodes are such numbers.

* `Written`  an instruction with the text of its parameter, and its two forms;
* `isAddress_name`  the opcodes whose names are numbers;
* `followText_listed`, `followText_direct`  what a line of each form does;
* `Row`  an instruction with a line that lists it;
* `followAll_direct`  the direct forms do what the listed ones do, up to the first sum;
* `decompile_forms`  the same of whole texts, and when the two forms agree.
-/

namespace Disasm

open Disasm.Text Disasm.Action

/-! ## written instructions -/

/-- an opcode and, if it has a parameter, a word for it -/
structure Written where
  op : Opcode
  parm : Option String
  parm_isSome : parm.isSome = (op.width != 0)
  isWord : ∀ t ∈ parm, IsWord t.toList

namespace Written

/-- the opcode and the parameter -/
def direct (i : Written) : String :=
  match i.parm with
  | some t => i.op.name ++ " " ++ t
  | none => i.op.name

/-- the change in the depth of the operand stack, if there is one -/
def changeWords (op : Opcode) : List String := if op.stackChange = 0 then [] else [toString op.stackChange]

/-- A line of a listing: the address, the opcode, the change in the depth of the stack unless it is 0, the parameter,
and anything behind it. -/
def ListedAs (i : Written) (line : String) : Prop :=
  Unbroken line ∧ ∃ (index : Nat) (ws : List String),
    words line = hex8 index :: i.op.name :: (changeWords i.op ++ (i.parm.toList ++ ws))

/-- the instruction of an entry -/
def ofInstruction (i : Instruction) : Written where
  op := i.op
  parm := if i.hasParm then some (Entry.magnitude i.parm) else none
  parm_isSome := by
    unfold Instruction.hasParm
    cases i.op.width != 0 <;> rfl
  isWord := by
    intro t ht
    split at ht
    · cases ht
      exact Listing.isWord_magnitude i.parm
    · cases ht

/-- the line of an entry of a listing lists its instruction -/
theorem listedAs_line {e : Entry} (hremark : Unbroken e.remark) (hinline : ∀ c, e.inline = some c → Unbroken c) :
    (ofInstruction e.instruction).ListedAs (Listing.lineBody e) := by
  obtain ⟨ws, hws⟩ := Listing.words_lineBody e
  refine ⟨Listing.unbroken_lineBody hremark hinline, e.index, ws.map String.ofList, ?_⟩
  have hchange : (Listing.changeWords e.instruction).map String.ofList = changeWords e.instruction.op := by
    unfold Listing.changeWords changeWords
    split <;> simp
  have hparm : (Listing.parmWords e.instruction).map String.ofList = (ofInstruction e.instruction).parm.toList := by
    unfold Listing.parmWords ofInstruction
    split <;> simp
  rw [hws, List.map_append, List.map_append, hchange, hparm]
  rfl

end Written

/-! ## reading the two forms -/

/-- the names of these opcodes are hexadecimal numbers -/
def Opcode.isSum (op : Opcode) : Bool := op = .add || op = .addf

theorem isAddress_name (op : Opcode) : CodeLine.isAddress op.name = op.isSum := by
  cases op <;> decide

theorem words_newline (line : String) : words (line ++ "\n") = words line := by
  unfold words
  rw [String.toList_append, wordsOf_append_blanks (by decide)]

namespace Written
variable {i : Written}

theorem parm_eq_none (h : i.op.width = 0) : i.parm = none := by
  have := i.parm_isSome
  rw [h] at this
  simpa using this

theorem exists_parm (h : i.op.width ≠ 0) : ∃ t, i.parm = some t := by
  have := i.parm_isSome
  rw [bne_iff_ne.2 h] at this
  exact Option.isSome_iff_exists.1 this

theorem words_direct (i : Written) : words i.direct = i.op.name :: i.parm.toList := by
  have hname := Listing.isWord_name i.op
  unfold direct
  split
  next t ht =>
    have hblank : StartsBlank (" " ++ t) := ⟨' ', by rw [String.toList_append]; rfl, by decide⟩
    rw [String.append_assoc, words_word_append hname hblank, words_blanks_append (by decide), ht]
    unfold words
    rw [wordsOf_word (i.isWord t ht), List.map_singleton, String.ofList_toList]
    rfl
  next hnone =>
    rw [hnone]
    unfold words
    rw [wordsOf_word hname, List.map_singleton, String.ofList_toList]
    rfl

theorem unbroken_direct (i : Written) : Unbroken i.direct := by
  have hname := (Listing.isWord_name i.op).unbroken
  unfold direct
  split
  next t ht => exact unbroken_append (unbroken_append hname (by decide)) (i.isWord t ht).unbroken
  next => exact hname

/-- a direct form is read as it is meant unless its opcode reads as an address -/
theorem read_direct (i : Written) :
    CodeLine.read (i.direct ++ "\n") =
      if i.op.isSum then .error .noOpcode else .ok (some ⟨i.op.name, i.parm⟩) := by
  have hhead : i.op.name.toList.head? ≠ some ';' := by cases i.op <;> decide
  have hwords := (words_newline _).trans i.words_direct
  unfold CodeLine.read
  rw [Listing.isComment_of_words hwords, beq_eq_false_iff_ne.2 hhead, if_neg Bool.false_ne_true, hwords,
    CodeLine.readWords, isAddress_name]
  split
  next hsum =>
    -- a sum has no parameter that could pass for an opcode
    have hwidth : i.op.width = 0 := by
      unfold Opcode.isSum at hsum
      simp only [Bool.or_eq_true, decide_eq_true_eq] at hsum
      rcases hsum with h | h <;> rw [h] <;> rfl
    rw [parm_eq_none hwidth]
    rfl
  next =>
    cases i.parm <;> rfl

/-- a listed form is read as its opcode, with its parameter if it has one -/
theorem read_listed {line : String} (h : i.ListedAs line) :
    ∃ parm, CodeLine.read (line ++ "\n") = .ok (some ⟨i.op.name, parm⟩) ∧ (i.op.width ≠ 0 → parm = i.parm) := by
  obtain ⟨-, index, ws, hws⟩ := h
  refine ⟨_, Listing.read_of_address ((words_newline line).trans hws), fun hwidth => ?_⟩
  obtain ⟨t, ht⟩ := exists_parm hwidth
  rw [ht]
  unfold changeWords
  split <;> simp

end Written

/-! ## carrying out the two forms -/

namespace Command

/-- an opcode without parameter does not look at one -/
theorem carryOut_eq_of_width {op : Opcode} (h : op.width = 0) (p q : Operand) : carryOut p op = carryOut q op := by
  cases op <;> first | rfl | cases h

theorem followLine_name (op : Opcode) (parm : Operand) : followLine ⟨op.name, parm⟩ = carryOut parm op := by
  have hclear : (op.name == ":clear") = false := by cases op <;> decide
  have hprint : (op.name == ":print") = false := by cases op <;> decide
  unfold followLine
  rw [hclear, hprint, Listing.ofName?_name]
  rfl

variable {i : Written}

theorem followText_listed {line : String} (h : i.ListedAs line) : followText (line ++ "\n") = carryOut i.parm i.op := by
  obtain ⟨parm, hread, hparm⟩ := Written.read_listed h
  unfold followText
  rw [hread]
  dsimp only
  rw [followLine_name]
  by_cases hwidth : i.op.width = 0
  · exact carryOut_eq_of_width hwidth _ _
  · rw [hparm hwidth]

theorem followText_direct (i : Written) :
    followText (i.direct ++ "\n") = if i.op.isSum then fail .outOfBounds else carryOut i.parm i.op := by
  unfold followText
  rw [i.read_direct]
  cases i.op.isSum with
  | true => rfl
  | false => exact followLine_name i.op i.parm

end Command

/-! ## whole texts -/

/-- an instruction with a line of a listing that shows it -/
structure Row where
  code : Written
  line : String
  listed : code.ListedAs line

namespace Row

def isSum (r : Row) : Bool := r.code.op.isSum

/-- the line of an entry of a listing -/
def ofEntry (e : Entry) (hremark : Unbroken e.remark) (hinline : ∀ c, e.inline = some c → Unbroken c) : Row where
  code := .ofInstruction e.instruction
  line := Listing.lineBody e
  listed := Written.listedAs_line hremark hinline

def directLines (rows : List Row) : List String := rows.map fun r => r.code.direct ++ "\n"

def listedLines (rows : List Row) : List String := rows.map fun r => r.line ++ "\n"

theorem directLines_cons (r : Row) (rows : List Row) :
    directLines (r :: rows) = (r.code.direct ++ "\n") :: directLines rows := rfl

theorem listedLines_cons (r : Row) (rows : List Row) :
    listedLines (r :: rows) = (r.line ++ "\n") :: listedLines rows := rfl

theorem lines_direct (rows : List Row) : lines (String.join (directLines rows)) = directLines rows := by
  refine lines_join_rows fun row hrow => ?_
  obtain ⟨r, -, rfl⟩ := List.mem_map.1 hrow
  exact ⟨_, r.code.unbroken_direct, rfl⟩

theorem lines_listed (rows : List Row) : lines (String.join (listedLines rows)) = listedLines rows := by
  refine lines_join_rows fun row hrow => ?_
  obtain ⟨r, -, rfl⟩ := List.mem_map.1 hrow
  exact ⟨_, r.listed.1, rfl⟩

end Row

namespace Command

/-- fails if there is a sum among the rows -/
def failOnSum {σ : Type} (rows : List Row) : Action σ Unit :=
  if rows.any (·.isSum) then fail .outOfBounds else pure ()

theorem failOnSum_cons {σ : Type} (r : Row) (rows : List Row) :
    (failOnSum (r :: rows) : Action σ Unit) = if r.isSum then fail .outOfBounds else failOnSum rows := by
  unfold failOnSum
  rw [List.any_cons]
  cases r.isSum <;> rfl

/-- the direct forms do what the listed ones do up to the first sum, which is not read -/
theorem followAll_direct (rows : List Row) :
    followAll (Row.directLines rows) =
      followAll (Row.listedLines (rows.takeWhile (!·.isSum))) >>= fun _ => failOnSum rows := by
  induction rows with
  | nil => rfl
  | cons r rows ih =>
    rw [Row.directLines_cons, followAll, followText_direct, List.takeWhile_cons]
    cases hsum : r.isSum with
    | true =>
      rw [if_pos (show r.code.op.isSum = true from hsum), failOnSum_cons, hsum]
      rfl
    | false =>
      rw [if_neg (show ¬ r.code.op.isSum = true from Bool.eq_false_iff.1 hsum), Bool.not_false, if_pos rfl,
        Row.listedLines_cons, followAll, followText_listed r.listed, bind_assoc, ih, failOnSum_cons, hsum]
      rfl

/-- the instructions given by opcode and parameter alone -/
def directText (rows : List Row) : String := String.join (Row.directLines rows)

/-- the instructions as a listing shows them -/
def listedText (rows : List Row) : String := String.join (Row.listedLines rows)

theorem apart_failOnSum {σ τ : Type} (init : σ) (a : Action σ Unit) (rows : List Row) :
    ((apart init (a >>= fun _ => failOnSum rows) : Action τ (Unit × σ)) >>= fun _ => pure ()) =
      (apart init a >>= fun _ => pure ()) >>= fun _ => failOnSum rows := by
  funext s
  unfold failOnSum
  rw [bind_apply, bind_apply, bind_apply]
  unfold apart
  rw [bind_apply]
  cases a ⟨init, s.console⟩ with
  | error f t => rfl
  | ok x t => cases rows.any (·.isSum) <;> rfl

theorem decompile_direct (rows : List Row) :
    decompile (directText rows) =
      decompile (listedText (rows.takeWhile (!·.isSum))) >>= fun _ => failOnSum rows := by
  unfold decompile directText listedText
  rw [Row.lines_direct, Row.lines_listed, followAll_direct, bind_assoc, apart_failOnSum]

/-- work that may fail on a sum ends well if it does without it, and there is no sum -/
theorem then_failOnSum_eq_ok {σ : Type} {a : Action σ Unit} {rows : List Row} {s t : Session σ} :
    (a >>= fun _ => failOnSum rows) s = .ok () t ↔ a s = .ok () t ∧ ∀ r ∈ rows, ¬ r.isSum := by
  rw [bind_apply, ← List.any_eq_false]
  unfold failOnSum
  cases a s with
  | error f u => simp
  | ok x u =>
    cases rows.any (·.isSum) with
    | true =>
      constructor
      · intro h
        cases h
      · rintro ⟨-, h⟩
        cases h
    | false => exact ⟨fun h => ⟨h, rfl⟩, fun h => h.1⟩

/-- The lines of a listing are listed forms.  Direct forms are carried out as the listed ones up to the first sum,
and there the work fails.  So the two forms are carried out alike if there is no sum, and a text of listed forms that
is carried out to its end is carried out like the direct ones only then. -/
theorem decompile_forms (rows : List Row) :
    (∀ e : Entry, Unbroken e.remark → (∀ c, e.inline = some c → Unbroken c) →
      ∃ r : Row, r.line ++ "\n" = e.line ∧ r.code = .ofInstruction e.instruction) ∧
    decompile (directText rows) =
      (decompile (listedText (rows.takeWhile (!·.isSum))) >>= fun _ => failOnSum rows) ∧
    ((∀ r ∈ rows, ¬ r.isSum) → decompile (directText rows) = decompile (listedText rows)) ∧
    ∀ s t, decompile (listedText rows) s = .ok () t →
      (decompile (directText rows) s = .ok () t ↔ ∀ r ∈ rows, ¬ r.isSum) := by
  have hequal (hsum : ∀ r ∈ rows, ¬ r.isSum) : decompile (directText rows) = decompile (listedText rows) := by
    have htake : rows.takeWhile (!·.isSum) = rows :=
      List.takeWhile_eq_self_iff.2 fun r hr => by rw [Bool.eq_false_iff.2 (hsum r hr)]; rfl
    have hnone : rows.any (·.isSum) = false := List.any_eq_false.2 hsum
    rw [decompile_direct, htake, failOnSum, hnone]
    exact bind_pure _
  refine ⟨fun e hremark hinline => ⟨.ofEntry e hremark hinline, rfl, rfl⟩, decompile_direct rows, hequal, ?_⟩
  intro s t hlisted
  constructor
  · intro hdirect
    rw [decompile_direct, then_failOnSum_eq_ok] at hdirect
    exact hdirect.2
  · intro hsum
    rw [hequal hsum]
    exact hlisted

/-- an entry of a listing with nothing to remark -/
def plainRow (index : Nat) (op : Opcode) (parm : Int) : Row :=
  .ofEntry { index := index, instruction := { op := op, parm := parm } } (show Unbroken "" by decide)
    (fun _ h => by cases h)

/-- a local variable is set to the result of an operation on two constants -/
def assignment (op : Opcode) (l r : Int) : List Row :=
  [plainRow 16 .localAddr 8, plainRow 17 .const l, plainRow 18 .const r, plainRow 19 op 0, plainRow 20 .store4 0]

/-- how the decompilation of a text ends, and what it prints -/
def shown (text : String) : Option Fault × String :=
  match decompile text { state := {} } with
  | .ok _ t => (none, t.console.out)
  | .error f t => (some f, t.console.out)

/-- a difference is not a sum -/
theorem decompile_forms_difference :
    (∀ r ∈ assignment .sub 5 (-2), ¬ r.isSum) ∧
    decompile (directText (assignment .sub 5 (-2))) = decompile (listedText (assignment .sub 5 (-2))) ∧
    shown (listedText (assignment .sub 5 (-2))) =
      (none, "enter lines:\n    ;; dec: *(int *)(0x8) = (0x5) - (-0x2)\n") := by
  have hsum : ∀ r ∈ assignment .sub 5 (-2), ¬ r.isSum := by decide
  exact ⟨hsum, (decompile_forms _).2.2.1 hsum, by decide +kernel⟩

/-- a sum is carried out as it is listed, but its direct form is not read -/
theorem sum_misread :
    directText (assignment .add 1 2) = "local 0x8\nconst 0x1\nconst 0x2\nadd\nstore4\n" ∧
    shown (directText (assignment .add 1 2)) = (some .outOfBounds, "enter lines:\n") ∧
    shown (listedText (assignment .add 1 2)) =
      (none, "enter lines:\n    ;; dec: *(int *)(0x8) = (0x1) + (0x2)\n") := by
  decide +kernel

end Command

end Disasm
