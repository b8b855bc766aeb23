import Mathlib
import Disasm.Listing.Code
import Disasm.Proofs.OperandStack
import Disasm.Proofs.Program

/-!
# Runs of the listing

The listing goes over the code one instruction at a time.

* `Shows`, `shows_of_entry`, `entry_of_shows`  what one instruction can give: its entry, and the state
  behind it;
* `toOption_instructionAt`  an instruction is found at a position where it can be read;
* `Reaches p k s es`  the first `k` instructions give the entries `es` and the state `s`;
* `Reaches.inv`  what each step keeps holds along every run;
* `Reaches.entry_at`  the step behind each entry;
* `entries_ends`, `printCode_ok_iff`  the walk over the bytes gives the entries of a run over all of the code,
  or of one up to the instruction that fails.
-/

namespace Disasm

namespace Listing

/-! ## work that may fail -/

theorem get_eq_ok_iff {α : Type} {o : Option α} {a : α} : get o = .ok a ↔ o = some a := by
  cases o with
  | none => exact ⟨fun h => (nomatch h), fun h => (nomatch h)⟩
  | some b => exact ⟨fun h => by cases h; rfl, fun h => by cases h; rfl⟩

theorem lift_eq_ok_iff {α : Type} {x : Except Fault α} {a : α} : lift x = .ok a ↔ x = .ok a := by
  cases x with
  | error f => exact ⟨fun h => (nomatch h), fun h => (nomatch h)⟩
  | ok b => exact ⟨fun h => by cases h; rfl, fun h => by cases h; rfl⟩

theorem operate_eq_ok_iff {s t : OperandStack} {w : OperandStack.Work Unit} :
    operate s w = .ok t ↔ w s = .ok () t := by
  unfold operate EStateM.run
  cases w s with
  | error f u => exact ⟨fun h => (by cases h), fun h => (by cases h)⟩
  | ok u v => exact ⟨fun h => by cases h; rfl, fun h => by cases h; rfl⟩

/-! ## one step -/

/-- the state that an instruction finds: where control may come from elsewhere the stack is invalid -/
def arriving (p : Program) (k : Nat) (s : State) : State :=
  if isTarget p k then { s with stack := s.stack.markInvalid } else s

def isLoad (op : Opcode) : Bool := op = .load1 || op = .load2 || op = .load4

/-- the note on what a load reads -/
def loadNote (p : Program) (s : State) (k : Nat) (op : Opcode) : Step String :=
  if isLoad op then readNote p s k else .ok ""

/-- an instruction that finds the state `s` can give this entry and leave that state -/
inductive Shows (p : Program) (k : Nat) (i : Instruction) (next : Option Nat) (s : State) :
    Entry → State → Prop
  | enter {text : String} (hop : i.op = .enter) (ht : heading p k = .ok text) :
    Shows p k i next s { bareEntry p k i with heading := text }
      { stack := {}, func := some k, frame := some i.parm }
  | local {frame : Int} (hop : i.op = .localAddr) (hf : s.frame = some frame) :
    Shows p k i next s
      { bareEntry p k i with
        note := ⟨if p.analysis.switchStarts.contains (k : Int) then "; possible switch start\n" else "", ""⟩
        remark := (frameNaming p (s.func.getD (-1)) frame i.parm).remark }
      { s with stack := s.stack.pushed (some (frameNaming p (s.func.getD (-1)) frame i.parm).operand) }
  | const {n : Nat} {t : ConstantText} (hop : i.op = .const) (hn : next = some n)
    (ht : constantText p k i.parm n = .ok t) :
    Shows p k i next s { bareEntry p k i with note := t.note, remark := t.naming.remark }
      { s with stack := s.stack.pushed (some t.naming.operand) }
  | statement {o : Operation} {stack : OperandStack} (ho : i.op.operation? = some o)
    (he : i.op.endsStatement = true)
    (hs : operate s.stack (OperandStack.perform (parmOperand i) o) = .ok stack) :
    Shows p k i next s { bareEntry p k i with statement := stack.result } { s with stack := {} }
  | value {o : Operation} {note : String} {stack : OperandStack} (ho : i.op.operation? = some o)
    (he : i.op.endsStatement = false) (hl : loadNote p s k i.op = .ok note)
    (hs : operate s.stack (OperandStack.perform (parmOperand i) o) = .ok stack) :
    Shows p k i next s { bareEntry p k i with note := ⟨note, ""⟩ } { s with stack }
  | other (ho : i.op.operation? = none) (he : i.op ≠ .enter) (hl : i.op ≠ .localAddr)
    (hc : i.op ≠ .const) :
    Shows p k i next s
      (if i.op = .jump then { bareEntry p k i with note := ⟨switchNote p k, ""⟩ } else bareEntry p k i)
      (if i.op.breaksStack then { s with stack := s.stack.markInvalid } else s)

section
variable {p : Program} {k : Nat} {i : Instruction} {next : Option Nat} {s s' : State} {e e' : Entry}

theorem Shows.instruction_eq (h : Shows p k i next s e s') : e.instruction = i := by
  cases h with
  | other => split <;> rfl
  | _ => rfl

theorem operation?_ne_none {op : Opcode} (h : op.endsStatement = true) : op.operation? ≠ none := by
  cases op <;> first | exact Option.some_ne_none _ | cases h

theorem operation?_ne_none_of_isLoad {op : Opcode} (h : isLoad op = true) : op.operation? ≠ none := by
  cases op <;> first | exact Option.some_ne_none _ | cases h

theorem not_isLoad_of_endsStatement {op : Opcode} (h : op.endsStatement = true) : isLoad op = false := by
  cases op <;> first | rfl | cases h

theorem operationEntry_eq (p : Program) (s : State) (e : Entry) (o : Operation) :
    operationEntry p s e o =
      match loadNote p s e.index e.instruction.op with
      | .error why => .error why
      | .ok note =>
        match operate s.stack (OperandStack.perform (parmOperand e.instruction) o) with
        | .error why => .error why
        | .ok stack =>
          if e.instruction.op.endsStatement then
            .ok ({ e with statement := stack.result }, { s with stack := {} })
          else .ok ({ e with note := ⟨note, ""⟩ }, { s with stack }) := by
  unfold operationEntry loadNote isLoad
  dsimp only
  split
  · cases readNote p s e.index with
    | error => rfl
    | ok note =>
      cases operate s.stack (OperandStack.perform (parmOperand e.instruction) o) with
      | error => rfl
      | ok stack => rfl
  · cases operate s.stack (OperandStack.perform (parmOperand e.instruction) o) with
    | error => rfl
    | ok stack => rfl

theorem entry_enter (hop : i.op = .enter) : entry p k i next s =
    match heading p k with
    | .error why => .error why
    | .ok text => .ok ({ bareEntry p k i with heading := text },
        { stack := {}, func := some k, frame := some i.parm }) := by
  unfold entry
  simp only [hop]
  unfold enterEntry
  show Except.bind (heading p k) _ = _
  cases heading p k <;> rfl

theorem entry_local (hop : i.op = .localAddr) : entry p k i next s =
    match (arriving p k s).frame with
    | none => fail .noFrame
    | some frame =>
      let naming := frameNaming p ((arriving p k s).func.getD (-1)) frame i.parm
      .ok ({ bareEntry p k i with
          note := ⟨if p.analysis.switchStarts.contains (k : Int) then "; possible switch start\n" else "", ""⟩
          remark := naming.remark },
        { arriving p k s with stack := (arriving p k s).stack.pushed (some naming.operand) }) := by
  unfold entry
  simp only [hop]
  rfl

theorem entry_const (hop : i.op = .const) : entry p k i next s =
    match next with
    | none => fail .outOfBounds
    | some n =>
      match constantText p k i.parm n with
      | .error why => .error why
      | .ok t => .ok ({ bareEntry p k i with note := t.note, remark := t.naming.remark },
          { arriving p k s with stack := (arriving p k s).stack.pushed (some t.naming.operand) }) := by
  unfold entry
  simp only [hop]
  cases next with
  | none => rfl
  | some n =>
    show Except.bind (constantText p k i.parm n) _ = _
    dsimp only
    cases constantText p k i.parm n <;> rfl

theorem entry_operation {o : Operation} (ho : i.op.operation? = some o) :
    entry p k i next s = operationEntry p (arriving p k s) (bareEntry p k i) o := by
  unfold entry
  dsimp only
  split
  next h => rw [h] at ho; cases ho
  next h => rw [h] at ho; cases ho
  next h => rw [h] at ho; cases ho
  next => rw [ho]; rfl

theorem entry_other (ho : i.op.operation? = none) (he : i.op ≠ .enter) (hl : i.op ≠ .localAddr)
    (hc : i.op ≠ .const) :
    entry p k i next s = .ok
      (if i.op = .jump then { bareEntry p k i with note := ⟨switchNote p k, ""⟩ } else bareEntry p k i,
        if i.op.breaksStack then { arriving p k s with stack := (arriving p k s).stack.markInvalid }
        else arriving p k s) := by
  unfold entry
  dsimp only
  split
  next h => exact absurd h he
  next h => exact absurd h hl
  next h => exact absurd h hc
  next => rw [ho]; rfl

/-- what an instruction gives -/
theorem shows_of_entry (h : entry p k i next s = .ok (e, s')) :
    Shows p k i next (arriving p k s) e s' := by
  by_cases he : i.op = .enter
  · rw [entry_enter he] at h
    split at h
    next => cases h
    next text ht => cases h; exact .enter he ht
  by_cases hl : i.op = .localAddr
  · rw [entry_local hl] at h
    split at h
    next => cases h
    next frame hf => cases h; exact .local hl hf
  by_cases hc : i.op = .const
  · rw [entry_const hc] at h
    split at h
    next => cases h
    next n =>
      split at h
      next => cases h
      next t ht => cases h; exact .const hc rfl ht
  cases ho : i.op.operation? with
  | none =>
    rw [entry_other ho he hl hc] at h
    cases h
    exact .other ho he hl hc
  | some o =>
    rw [entry_operation ho, operationEntry_eq] at h
    split at h
    next => cases h
    next note hn =>
      split at h
      next => cases h
      next stack hs =>
        split at h
        next hend => cases h; exact .statement ho hend hs
        next hend => cases h; exact .value ho (Bool.eq_false_iff.2 hend) hn hs

theorem entry_of_shows (h : Shows p k i next (arriving p k s) e s') :
    entry p k i next s = .ok (e, s') := by
  cases h with
  | enter hop ht => rw [entry_enter hop, ht]
  | «local» hop hf => simp only [entry_local hop, hf]
  | const hop hn ht =>
    subst hn
    rw [entry_const hop]
    dsimp only
    rw [ht]
  | statement ho he hs =>
    have hl : loadNote p (arriving p k s) (bareEntry p k i).index (bareEntry p k i).instruction.op = .ok "" :=
      if_neg (Bool.eq_false_iff.1 (not_isLoad_of_endsStatement he))
    rw [entry_operation ho, operationEntry_eq, hl]
    dsimp only
    rw [show operate _ (OperandStack.perform (parmOperand (bareEntry p k i).instruction) _) = _ from hs]
    exact if_pos he
  | value ho he hl hs =>
    rw [entry_operation ho, operationEntry_eq,
      show loadNote p _ (bareEntry p k i).index (bareEntry p k i).instruction.op = _ from hl]
    dsimp only
    rw [show operate _ (OperandStack.perform (parmOperand (bareEntry p k i).instruction) _) = _ from hs]
    exact if_neg (Bool.eq_false_iff.1 he)
  | other ho he hl hc => exact entry_other ho he hl hc

end

/-! ## reading at a position -/

section
open Instruction
variable {code : Array UInt8} {pos : Nat}

theorem byteAt_eq {bytes : Array UInt8} {i : Nat} {b : UInt8} (h : bytes.toList[i]? = some b) :
    Image.byteAt bytes (i : Int) = .ok b := by
  rw [Array.getElem?_toList] at h
  unfold Image.byteAt
  dsimp only
  rw [if_neg (show ¬ (i : Int) < 0 by omega), if_neg (show ¬ (i : Int) < 0 by omega), Int.toNat_natCast, h]

theorem byteAt_of_drop {b : UInt8} {rest : List UInt8} (h : code.toList.drop pos = b :: rest) :
    Image.byteAt code pos = .ok b := byteAt_eq (by rw [← List.head?_drop, h]; rfl)

theorem byteAt_of_drop_nil (h : code.toList.drop pos = []) : Image.byteAt code pos = .error .outOfBounds := by
  have hb : code[pos]? = none := by rw [← Array.getElem?_toList, ← List.head?_drop, h]; rfl
  unfold Image.byteAt
  dsimp only
  rw [if_neg (show ¬ (pos : Int) < 0 by omega), if_neg (show ¬ (pos : Int) < 0 by omega), Int.toNat_natCast, hb]

/-- a parameter is found where it can be read, and is the same -/
theorem toOption_parmAt (code : Array UInt8) (op : Opcode) (pos : Nat) :
    (parmAt code op pos).toOption = (readParm op (code.toList.drop pos)).toOption.map Prod.fst := by
  unfold parmAt readParm
  generalize op.width = n
  rcases n with _ | _ | n
  · rfl
  · cases hdrop : code.toList.drop pos with
    | nil => rw [byteAt_of_drop_nil hdrop]; rfl
    | cons b rest => rw [byteAt_of_drop hdrop]; rfl
  · unfold Image.wordAt
    rw [Array.toList_extract, List.extract_eq_take_drop, Nat.add_sub_cancel_left]
    rcases code.toList.drop pos with _ | ⟨b0, _ | ⟨b1, _ | ⟨b2, _ | ⟨b3, rest⟩⟩⟩⟩ <;> rfl

/-- an instruction is found where it can be read, and is the same -/
theorem toOption_instructionAt (code : Array UInt8) (pos : Nat) :
    (instructionAt code pos).toOption =
      (decodeOne (code.toList.drop pos)).toOption.map fun r => (r.1, pos + (1 + r.1.op.width)) := by
  unfold instructionAt
  cases hdrop : code.toList.drop pos with
  | nil => rw [byteAt_of_drop_nil hdrop]; rfl
  | cons b rest =>
    rw [byteAt_of_drop hdrop, decodeOne]
    dsimp only
    cases Opcode.ofCode? b.toNat with
    | none => rfl
    | some op =>
      have hrest : code.toList.drop (pos + 1) = rest := by rw [← List.drop_drop, hdrop]; rfl
      have hparm := toOption_parmAt code op (pos + 1)
      rw [hrest] at hparm
      dsimp only
      cases hread : readParm op rest with
      | ok r =>
        rw [hread] at hparm
        cases hat : parmAt code op (pos + 1) with
        | ok parm =>
          rw [hat] at hparm
          cases hparm
          rfl
        | error f => rw [hat] at hparm; cases hparm
      | error f =>
        rw [hread] at hparm
        cases hat : parmAt code op (pos + 1) with
        | ok parm => rw [hat] at hparm; cases hparm
        | error g => rfl

variable {i : Instruction} {rest : List UInt8} {f : Fault}

theorem instructionAt_of_decodeOne (h : decodeOne (code.toList.drop pos) = .ok (i, rest)) :
    instructionAt code pos = .ok (i, pos + (1 + i.op.width)) := by
  have hagree := toOption_instructionAt code pos
  rw [h] at hagree
  cases hat : instructionAt code pos with
  | ok r => rw [hat] at hagree; cases hagree; rfl
  | error g => rw [hat] at hagree; cases hagree

theorem instructionAt_fault (h : decodeOne (code.toList.drop pos) = .error f) :
    ∃ g, instructionAt code pos = .error g := by
  have hagree := toOption_instructionAt code pos
  rw [h] at hagree
  cases hat : instructionAt code pos with
  | ok r => rw [hat] at hagree; cases hagree
  | error g => exact ⟨g, rfl⟩

end

/-! ## runs -/

/-- the code of the opcode behind the instruction `k` -/
def nextAt (p : Program) (k : Nat) : Option Nat :=
  p.image.code[Instruction.position p.code (k + 1)]?.map UInt8.toNat

/-- the code from an instruction on -/
theorem drop_position (p : Program) (k : Nat) : p.image.code.toList.drop (Instruction.position p.code k) =
    Instruction.encodeAll (p.code.drop k) ++ p.image.decoded.rest := by
  rw [p.code_eq, Instruction.drop_position]

/-- at the place of an instruction it is found, and the place of the next one -/
theorem instructionAt_position {p : Program} {k : Nat} {i : Instruction} (hi : p.code[k]? = some i) :
    instructionAt p.image.code (Instruction.position p.code k) = .ok (i, Instruction.position p.code (k + 1)) := by
  have hfits : ∀ i ∈ p.code, i.Fits := (Instruction.decode_spec _ _).2.1
  have hdecode := Instruction.decodeOne_position hfits p.image.decoded.rest hi
  rw [← p.code_eq] at hdecode
  rw [Instruction.position_succ hi]
  exact instructionAt_of_decodeOne hdecode

/-- the first `k` instructions give the entries `es` and leave the state `s` -/
inductive Reaches (p : Program) : Nat → State → List Entry → Prop
  | start : Reaches p 0 {} []
  | step {k : Nat} {s s' : State} {es : List Entry} {e : Entry} {i : Instruction} (hr : Reaches p k s es)
    (hi : p.code[k]? = some i) (he : entry p k i (nextAt p k) s = .ok (e, s')) :
    Reaches p (k + 1) s' (es ++ [e])

namespace Reaches
variable {p : Program} {k : Nat} {s : State} {es : List Entry}

theorem length_eq (h : Reaches p k s es) : es.length = k := by
  induction h with
  | start => rfl
  | step _ _ _ ih => rw [List.length_append, ih]; rfl

theorem le_length (h : Reaches p k s es) : k ≤ p.code.length := by
  cases h with
  | start => exact Nat.zero_le _
  | step _ hi _ => exact (List.getElem?_eq_some_iff.1 hi).1

theorem map_instruction (h : Reaches p k s es) : es.map Entry.instruction = p.code.take k := by
  induction h with
  | start => rfl
  | step _ hi he ih =>
    rw [List.map_append, ih, List.map_singleton, (shows_of_entry he).instruction_eq,
      List.take_add_one, hi, Option.toList_some]

/-- what each step keeps holds along a run -/
theorem inv {I : Nat → State → Prop} (h : Reaches p k s es) (h0 : I 0 {})
    (hs : ∀ k s i e s', I k s → p.code[k]? = some i →
      Shows p k i (nextAt p k) (arriving p k s) e s' → I (k + 1) s') : I k s := by
  induction h with
  | start => exact h0
  | step _ hi he ih => exact hs _ _ _ _ _ ih hi (shows_of_entry he)

/-- the step behind an entry -/
theorem entry_at (h : Reaches p k s es) {j : Nat} {e : Entry} (hj : es[j]? = some e) :
    ∃ t t' i fs, Reaches p j t fs ∧ p.code[j]? = some i ∧
      Shows p j i (nextAt p j) (arriving p j t) e t' := by
  induction h with
  | start => cases hj
  | @step k t t' es e' i hr hi he ih =>
    have hlen := hr.length_eq
    rcases Nat.lt_trichotomy j es.length with hlt | heq | hgt
    · rw [List.getElem?_append_left hlt] at hj
      exact ih hj
    · rw [heq, List.getElem?_concat_length] at hj
      cases hj
      rw [heq, hlen]
      exact ⟨t, t', i, es, hr, hi, shows_of_entry he⟩
    · rw [List.getElem?_eq_none (by rw [List.length_append, List.length_singleton]; omega)] at hj
      cases hj

end Reaches

/-- `es` are the entries of a run over all of the code, or of one up to the instruction that fails or that cannot
be read -/
def Ends (p : Program) (es : List Entry) : Option Interruption → Prop
  | none => p.image.decoded.fault = none ∧ ∃ t, Reaches p p.code.length t es
  | some why => ∃ k t, Reaches p k t es ∧
      ((∃ i, p.code[k]? = some i ∧ entry p k i (nextAt p k) t = .error why) ∨
        p.image.decoded.fault ≠ none ∧ ∃ f, why = .fault f)

theorem entriesFrom_ends {p : Program} {n k : Nat} {s : State} {done : List Entry} (hr : Reaches p k s done.reverse)
    (hn : k + n = p.header.instructionCount.toNat) :
    Ends p (entriesFrom p n k (Instruction.position p.code k) s done).1
      (entriesFrom p n k (Instruction.position p.code k) s done).2 := by
  have hlength : p.image.decoded.fault = none → p.code.length = p.header.instructionCount.toNat :=
    (Instruction.decode_spec _ _).2.2
  induction n generalizing k s done with
  | zero =>
    cases hfault : p.image.decoded.fault with
    | none =>
      have hk : k = p.code.length := by rw [hlength hfault]; exact hn
      exact ⟨hfault, s, hk ▸ hr⟩
    | some f =>
      have hlt : p.code.length < p.header.instructionCount.toNat := (Instruction.decode_fault hfault).1
      have hle := hr.le_length
      omega
  | succ n ih =>
    rw [entriesFrom]
    cases hi : p.code[k]? with
    | some i =>
      rw [instructionAt_position hi]
      dsimp only
      cases he : entry p k i (p.image.code[Instruction.position p.code (k + 1)]?.map UInt8.toNat) s with
      | ok r =>
        obtain ⟨e, s'⟩ := r
        refine ih ?_ (by omega)
        rw [List.reverse_cons]
        exact hr.step hi he
      | error why => exact ⟨k, s, hr, .inl ⟨i, hi, he⟩⟩
    | none =>
      -- the instructions end before all are listed, as the next one could not be read
      have hk : k = p.code.length := Nat.le_antisymm hr.le_length (List.getElem?_eq_none_iff.1 hi)
      cases hfault : p.image.decoded.fault with
      | none =>
        have := hlength hfault
        omega
      | some f =>
        have hnone : Instruction.decodeOne (p.image.code.toList.drop (Instruction.position p.code k)) = .error f := by
          rw [drop_position, hk, List.drop_length]
          exact (Instruction.decode_fault hfault).2
        obtain ⟨g, hg⟩ := instructionAt_fault hnone
        rw [hg]
        exact ⟨k, s, hr, .inr ⟨by rw [hfault]; exact Option.some_ne_none f, g, rfl⟩⟩

theorem entries_ends (p : Program) : Ends p (entries p).1 (entries p).2 :=
  entriesFrom_ends .start (Nat.zero_add _)

/-- the entries of a program are those of a run -/
theorem reaches_entries (p : Program) : ∃ k t, Reaches p k t (entries p).1 := by
  have h := entries_ends p
  cases hw : (entries p).2 with
  | none =>
    rw [hw] at h
    obtain ⟨-, t, hr⟩ := h
    exact ⟨_, t, hr⟩
  | some why =>
    rw [hw] at h
    obtain ⟨k, t, hr, -⟩ := h
    exact ⟨k, t, hr⟩

/-! ## the printed listing -/

section
variable {σ : Type} (p : Program) (replace : Bool) (s : Session σ)

theorem printCode_eq : printCode p replace s =
    match (entries p).2 with
    | none => .ok () { s with console := s.console.print (layOut replace (entries p).1) }
    | some why => Action.interrupt why { s with console := s.console.print (layOut replace (entries p).1) } := by
  unfold printCode
  cases h : entries p with
  | mk es why => cases why <;> rfl

/-- printing ends well when no instruction fails -/
theorem printCode_ok_iff : (∃ t, printCode p replace s = .ok () t) ↔ (entries p).2 = none := by
  rw [printCode_eq]
  cases (entries p).2 with
  | none => exact ⟨fun _ => rfl, fun _ => ⟨_, rfl⟩⟩
  | some why =>
    refine ⟨fun ⟨t, ht⟩ => ?_, fun h => nomatch h⟩
    cases why <;> cases ht

variable {p replace s}

/-- what is printed is the layout of the entries of a run over all of the code -/
theorem printCode_eq_ok {t : Session σ} (h : printCode p replace s = .ok () t) :
    ∃ u, Reaches p p.code.length u (entries p).1 ∧
      t.console.out = s.console.out ++ layOut replace (entries p).1 := by
  have hw := (printCode_ok_iff p replace s).1 ⟨t, h⟩
  have hr := entries_ends p
  rw [printCode_eq, hw] at h
  rw [hw] at hr
  obtain ⟨-, u, hr⟩ := hr
  cases h
  exact ⟨u, hr, rfl⟩

end
end Listing
end Disasm
