import Mathlib
import Disasm.Proofs.Listing.Parts

/-!
# A listing can be assembled back

The listing of a program, with no instructions replaced by statements, holds the whole code: read line by
line, it says the instructions of the program, each with its parameter and in their order, and nothing
else.  What is collected behind the last statement or function is not shown, so the code has to end with
an opcode that closes what is collected.

* `Entry.Tidy`, `tidy_of_shows`  the entry of every instruction is its line among comments;
* `says_layOutFrom`  the layout of entries says their instructions;
* `assemble_listing`  the bytes that the listing says are those of the code.
-/

namespace Disasm

open Disasm.Text

/-! ## tidy entries -/

/-- the parts of an entry around the line of its instruction say nothing -/
structure Entry.Tidy (e : Entry) : Prop where
  before : ∀ b, e.before = some b → ∀ l ∈ b.lines, Unbroken l
  after : ∀ b, e.after = some b → ∀ l ∈ b.lines, Unbroken l
  jumpLabel : Listing.Quiet e.jumpLabel
  caseLabel : Listing.Quiet e.caseLabel
  heading : Listing.Remarks e.heading
  note : Listing.Remarks e.note.full
  brief : Listing.Remarks e.note.brief
  remark : Unbroken e.remark
  inline : ∀ c, e.inline = some c → Unbroken c
  statement : ∀ t, e.statement = some t → Unbroken t

namespace Listing

/-- the full form of a tidy entry says its instruction -/
theorem says_full {e : Entry} (he : e.Tidy) (hf : e.instruction.Fits) : Says e.full [e.instruction] := by
  have hline := says_line hf (unbroken_lineBody he.remark he.inline)
  have hbefore := (remarks_block he.before).quiet
  have hafter := (remarks_block he.after).quiet
  unfold Entry.full
  split
  · have hfront := ((he.jumpLabel.append he.caseLabel).append he.heading.quiet).append hbefore
    exact ((says_of_quiet hfront).append hline).append (says_of_quiet hafter)
  · have hfront := ((hbefore.append he.jumpLabel).append he.caseLabel).append he.note.quiet
    exact ((says_of_quiet hfront).append hline).append (says_of_quiet hafter)

/-- the stack holds unbroken texts -/
def TidyStack (s : OperandStack) : Prop :=
  ∃ ts v, s = OperandStack.ofTexts ts v ∧ ∀ t ∈ ts, Unbroken t

namespace TidyStack

theorem empty : TidyStack {} := ⟨[], true, rfl, List.forall_mem_nil _⟩

theorem markInvalid {s : OperandStack} (h : TidyStack s) : TidyStack s.markInvalid := by
  obtain ⟨ts, v, rfl, ht⟩ := h
  exact ⟨ts, false, rfl, ht⟩

theorem pushed {s : OperandStack} (h : TidyStack s) {t : String} (ht : Unbroken t) :
    TidyStack (s.pushed (some t)) := by
  obtain ⟨ts, v, rfl, hts⟩ := h
  refine ⟨_, v, OperandStack.pushed_ofTexts t ts v, ?_⟩
  split
  · exact List.forall_mem_cons.2 ⟨ht, hts⟩
  · exact hts

theorem perform {s t : OperandStack} {i : Instruction} {o : Operation} (h : TidyStack s)
    (ho : operate s (OperandStack.perform (parmOperand i) o) = .ok t) : TidyStack t := by
  obtain ⟨ts, v, rfl, hts⟩ := h
  obtain ⟨-, rfl⟩ := OperandStack.perform_eq_ok _ o (operate_eq_ok_iff.1 ho)
  refine ⟨_, v, rfl, ?_⟩
  split
  · exact unbroken_texts (unbroken_append (by decide) (unbroken_hex i.parm)) o hts
  · exact hts

theorem arriving {p : Program} {s : State} (h : TidyStack s.stack) (k : Nat) :
    TidyStack (arriving p k s).stack := by
  unfold Listing.arriving
  split
  · exact h.markInvalid
  · exact h

/-- what is left on the stack is a text -/
theorem result {s : OperandStack} (h : TidyStack s) : ∃ t, s.result = some t ∧ Unbroken t := by
  obtain ⟨ts, v, rfl, hts⟩ := h
  refine ⟨_, OperandStack.result_ofTexts ts v, ?_⟩
  split
  · split
    next t => exact hts t (by simp)
    next => decide
  · decide

end TidyStack

/-! ## entries of a program -/

section
variable {p : Program} (hp : p.Tidy)
include hp

theorem tidy_block (k : Int) (side : Side) {b : CommentBlock}
    (h : p.annotations.code.block? k side = some b) : ∀ l ∈ b.lines, Unbroken l := by
  unfold CommentTable.block? at h
  split at h
  · obtain ⟨lines, hl, rfl⟩ := Option.map_eq_some_iff.1 h
    exact hp.annotations.code.before _ _ hl
  · obtain ⟨lines, hl, rfl⟩ := Option.map_eq_some_iff.1 h
    exact hp.annotations.code.after _ _ hl

theorem tidy_bareEntry (k : Nat) (i : Instruction) : (bareEntry p k i).Tidy where
  before _ h := tidy_block hp k .before h
  after _ h := tidy_block hp k .after h
  jumpLabel := quiet_jumpLabel p k
  caseLabel := quiet_caseLabel p k
  heading := remarks_empty
  note := remarks_empty
  brief := remarks_empty
  remark := show Unbroken "" by decide
  inline := hp.annotations.code.inline k
  statement _ h := nomatch h

/-- an instruction gives a tidy entry and leaves a stack of unbroken texts -/
theorem tidy_of_shows {k : Nat} {i : Instruction} {next : Option Nat} {s s' : State} {e : Entry}
    (hs : TidyStack s.stack) (h : Shows p k i next s e s') : e.Tidy ∧ TidyStack s'.stack := by
  have hbare := tidy_bareEntry hp k i
  cases h with
  | enter hop ht => exact ⟨{ hbare with heading := remarks_heading hp ht }, .empty⟩
  | @«local» frame hop hf =>
    have hn := tidy_frameNaming hp (s.func.getD (-1)) frame i.parm
    refine ⟨{ hbare with note := ?_, brief := remarks_empty, remark := hn.remark }, hs.pushed hn.operand⟩
    dsimp only
    split
    · exact remarks_line (l := "; possible switch start") (by decide) (by decide)
    · exact remarks_empty
  | const hop hn ht =>
    have hc := tidy_constantText hp ht
    exact ⟨{ hbare with note := hc.note, brief := hc.brief, remark := hc.naming.remark },
      hs.pushed hc.naming.operand⟩
  | statement ho he hop =>
    obtain ⟨t, ht, hu⟩ := (hs.perform hop).result
    exact ⟨{ hbare with statement := fun u h => Option.some.inj (ht.symm.trans h) ▸ hu }, .empty⟩
  | value ho he hl hop =>
    exact ⟨{ hbare with note := remarks_loadNote hp hl, brief := remarks_empty }, hs.perform hop⟩
  | other ho he hl hc =>
    constructor
    · split
      · exact { hbare with note := remarks_switchNote p k, brief := remarks_empty }
      · exact hbare
    · split
      · exact hs.markInvalid
      · exact hs

theorem Reaches.tidyStack {k : Nat} {s : State} {es : List Entry} (h : Reaches p k s es) :
    TidyStack s.stack :=
  h.inv (I := fun _ s => TidyStack s.stack) .empty fun k _ _ _ _ hs _ hsh =>
    (tidy_of_shows hp (hs.arriving k) hsh).2

theorem Reaches.tidy {n : Nat} {u : State} {es : List Entry} (h : Reaches p n u es) {e : Entry} (he : e ∈ es) :
    e.Tidy := by
  obtain ⟨k, hk⟩ := List.mem_iff_getElem?.1 he
  obtain ⟨s, s', i, fs, hs, -, hsh⟩ := h.entry_at hk
  exact (tidy_of_shows hp ((hs.tidyStack hp).arriving k) hsh).1

end

/-! ## the layout -/

/-- what is collected is shown behind the entry -/
def Closes (e : Entry) : Prop := e.statement.isSome = true ∨ e.isBoundary = true

theorem remarks_statement {t : String} (h : Unbroken t) : Remarks ("    ;; dec: " ++ t ++ "\n\n") := by
  have hl : "    ;; dec: " ++ t ++ "\n\n" = ("    ;; dec: " ++ t ++ "\n") ++ "\n" := by
    rw [show "\n\n" = "\n" ++ "\n" by decide, ← String.append_assoc]
  rw [hl]
  exact (remarks_line (isRemark_append (by decide) t) (unbroken_append (by decide) h)).append remarks_newline

/-- the layout of some entries says what is collected and then their instructions; `out` stays in front -/
theorem says_layOutFrom {es : List Entry} (hes : ∀ e ∈ es, e.Tidy ∧ e.instruction.Fits)
    (hlast : ∀ e, es.getLast? = some e → Closes e) {full : String} {is : List Instruction}
    (hfull : Says full is) (hnil : es = [] → is = []) (out brief : String) :
    ∃ text, layOutFrom false out full brief es = out ++ text ∧ Says text (is ++ es.map Entry.instruction) := by
  induction es generalizing full is out brief with
  | nil =>
    refine ⟨"", String.append_empty.symm, ?_⟩
    rw [hnil rfl]
    exact says_empty
  | cons e es ih =>
    obtain ⟨htidy, hfits⟩ := hes e List.mem_cons_self
    have hes' : ∀ f ∈ es, f.Tidy ∧ f.instruction.Fits := fun f hf => hes f (List.mem_cons_of_mem e hf)
    have hlast' : ∀ f, es.getLast? = some f → Closes f := fun f hf => hlast f (by
      rw [List.getLast?_cons, hf, Option.getD_some])
    have hcollected := hfull.append (says_full htidy hfits)
    rw [layOutFrom, List.map_cons]
    cases hst : e.statement with
    | some t =>
      dsimp only
      obtain ⟨text, ht, hs⟩ := ih hes' hlast' says_empty (fun _ => rfl)
        (out ++ (full ++ e.full) ++ "    ;; dec: " ++ t ++ "\n\n") ""
      refine ⟨full ++ e.full ++ ("    ;; dec: " ++ t ++ "\n\n") ++ text, ?_, ?_⟩
      · rw [if_pos (show (!false || isHollow t) = true from rfl), ht]
        simp only [String.append_assoc]
      · have := (hcollected.append (says_of_quiet (remarks_statement (htidy.statement t hst)).quiet)).append hs
        simpa using this
    | none =>
      dsimp only
      by_cases hb : e.isBoundary = true
      · obtain ⟨text, ht, hs⟩ := ih hes' hlast' says_empty (fun _ => rfl) (out ++ (full ++ e.full)) ""
        refine ⟨full ++ e.full ++ text, ?_, ?_⟩
        · rw [if_pos hb, ht, String.append_assoc]
        · simpa using hcollected.append hs
      · -- the last entry closes, so more follow
        have hne : es ≠ [] := by
          rintro rfl
          rcases hlast e rfl with h | h
          · rw [hst] at h; cases h
          · exact hb h
        obtain ⟨text, ht, hs⟩ := ih hes' hlast' hcollected (fun h => absurd h hne) out (brief ++ e.brief)
        refine ⟨text, ?_, ?_⟩
        · rw [if_neg hb, ht]
        · simpa using hs

/-! ## the listing -/

/-- the opcodes behind which what is collected is shown -/
def closing : List Opcode := [.enter, .leave, .store1, .store2, .store4, .arg, .blockCopy]

theorem mem_closing {op : Opcode} (h : op ∈ closing) :
    (op = .enter ∨ op = .leave) ∨ op.endsStatement = true := by
  cases op <;> first | exact .inl (.inl rfl) | exact .inl (.inr rfl) | exact .inr rfl | (revert h; decide)

theorem closes_of_shows {p : Program} {k : Nat} {i : Instruction} {next : Option Nat}
    {s s' : State} {e : Entry} (hs : TidyStack s.stack) (h : Shows p k i next s e s')
    (hi : i.op ∈ closing) : Closes e := by
  rcases mem_closing hi with hb | he
  · right
    unfold Entry.isBoundary
    rw [h.instruction_eq]
    rcases hb with hb | hb <;> rw [hb] <;> rfl
  · left
    have ho := operation?_ne_none he
    cases h with
    | enter hop _ => exact absurd (congrArg Opcode.operation? hop) ho
    | «local» hop _ => exact absurd (congrArg Opcode.operation? hop) ho
    | const hop _ _ => exact absurd (congrArg Opcode.operation? hop) ho
    | statement _ _ hop =>
      obtain ⟨t, ht, -⟩ := (hs.perform hop).result
      exact Option.isSome_iff_exists.2 ⟨t, ht⟩
    | value _ hf _ _ => rw [he] at hf; cases hf
    | other hf _ _ _ => exact absurd hf ho

/-- the listing of a program with no instructions replaced, and with code that ends with a closing opcode,
says the instructions of the program, and so the bytes of its code -/
theorem assemble_listing {σ : Type} {d : Directory} {type : Option String} {file : ByteArray}
    {c c' : Console} {p : Program} (hload : Program.load d type file c = (.ok p, c'))
    {s t : Session σ} (hprint : printCode p false s = .ok () t)
    (hlast : ∀ i, p.code.getLast? = some i → i.op ∈ closing) :
    ∃ text, t.console.out = s.console.out ++ text ∧
      assembleLines? (splitOn '\n' text) = some p.code ∧ assemble? text = some p.codeBytes := by
  have hp := Program.tidy_of_load hload
  obtain ⟨u, hr, hout⟩ := printCode_eq_ok hprint
  have hmap : (entries p).1.map Entry.instruction = p.code := by
    rw [hr.map_instruction, List.take_length]
  have hentries : ∀ e ∈ (entries p).1, e.Tidy ∧ e.instruction.Fits := by
    intro e he
    obtain ⟨j, hj⟩ := List.mem_iff_getElem?.1 he
    obtain ⟨v, v', i, fs, hr', hi, hsh⟩ := hr.entry_at hj
    refine ⟨(tidy_of_shows hp ((hr'.tidyStack hp).arriving j) hsh).1, ?_⟩
    rw [hsh.instruction_eq]
    exact (Program.load_eq_ok hload).fits i (List.mem_of_getElem? hi)
  have hclosed : ∀ e, (entries p).1.getLast? = some e → Closes e := by
    intro e he
    rw [List.getLast?_eq_getElem?] at he
    obtain ⟨v, v', i, fs, hr', hi, hsh⟩ := hr.entry_at he
    refine closes_of_shows ((hr'.tidyStack hp).arriving _) hsh (hlast i ?_)
    rw [List.getLast?_eq_getElem?, ← hi, hr.length_eq]
  obtain ⟨text, ht, hs⟩ := says_layOutFrom hentries hclosed says_empty (fun _ => rfl) "" ""
  rw [List.nil_append, hmap] at hs
  refine ⟨text, ?_, hs.assemble, ?_⟩
  · rw [hout, layOut, ht, String.empty_append]
  · rw [assemble?, hs.assemble, (Program.load_eq_ok hload).codeBytes_eq]
    rfl

/-- a function that calls another one with an argument, stores a negative number and reads a literal -/
def callingFile : ByteArray :=
  Program.fileOf [⟨.enter, 24⟩, ⟨.const, 2⟩, ⟨.negi, 0⟩, ⟨.arg, 8⟩, ⟨.const, 9⟩, ⟨.call, 0⟩, ⟨.pop, 0⟩,
    ⟨.leave, 24⟩, ⟨.undef, 0⟩, ⟨.enter, 16⟩, ⟨.localAddr, 8⟩, ⟨.const, -7⟩, ⟨.store1, 0⟩, ⟨.localAddr, 12⟩,
    ⟨.const, 4⟩, ⟨.blockCopy, 4⟩, ⟨.leave, 16⟩] [1, 2, 3, 4] [72, 10, 105, 0]

/-- comments that look like code -/
def callingDirectory : Directory :=
  Program.bare.write "comments.dat"
    "0x1 inline 00000001  const\n0x9 before 1 2\n00000009  enter  0x10\nleave 0x10\n<<<\n".toUTF8

theorem assemble_listing_calling :
    ∃ p c t, Program.load callingDirectory none callingFile {} = (.ok p, c) ∧
      printCode p false (⟨(), {}⟩ : Session Unit) = .ok () t ∧ p.code.length = 17 ∧
      ∃ text, t.console.out = "" ++ text ∧
        assembleLines? (splitOn '\n' text) = some p.code ∧ assemble? text = some p.codeBytes := by
  obtain ⟨p, c, hl, ht⟩ := Program.exists_of_loadsWith callingDirectory callingFile
    (fun p => (entries p).2 = none && p.code.length = 17 && p.code.getLast? = some ⟨.leave, 16⟩)
    (by decide +kernel)
  simp only [Bool.and_eq_true, decide_eq_true_eq] at ht
  obtain ⟨⟨hw, hlen⟩, hlast⟩ := ht
  obtain ⟨t, hp⟩ := (printCode_ok_iff p false (⟨(), {}⟩ : Session Unit)).2 hw
  refine ⟨p, c, t, hl, hp, hlen, assemble_listing hl hp fun i hi => ?_⟩
  rw [hlast] at hi
  cases hi
  decide

end Listing
end Disasm
