import Mathlib
import Disasm.Proofs.Listing.Trace

/-!
# Decompiled statements

A listing shows a statement below the instructions that make it up.  The statement is made of all
instructions since the stack was cleared.

* `stretch`, `statementCode`  these instructions, with the texts that they push;
* `decompile_stretch`  a valid stack holds what these instructions decompile to;
* `exists_of_statement`  the operation that a statement comes from;
* `statement_sound_iff`  the statement is what execution of these instructions leaves, with nothing else, exactly
  when pushed values are settled and no text with a sign is negated;
* `statement_unsound`  a statement for code with a `push` that is not settled.
-/

namespace Disasm.Listing

open Disasm.Symbolic

/-- the instructions in front of `k` back to the last one that clears the stack, with their leaves -/
def stretch (p : Program) : Nat → List Labelled
  | 0 => []
  | k + 1 =>
    match p.code[k]? with
    | some i => if clears i.op then [] else stretch p k ++ [⟨i, leafAt p k i⟩]
    | none => []

/-- the instructions that make up the statement at `k` -/
def statementCode (p : Program) (k : Nat) : List Labelled :=
  stretch p k ++ (p.code[k]?).toList.map fun i => ⟨i, leafAt p k i⟩

section
variable {p : Program} {k : Nat} {i : Instruction}

theorem stretch_clear (hi : p.code[k]? = some i) (hc : clears i.op = true) : stretch p (k + 1) = [] := by
  rw [stretch, hi]
  exact if_pos hc

theorem stretch_other (hi : p.code[k]? = some i) (hc : clears i.op = false) :
    stretch p (k + 1) = stretch p k ++ [⟨i, leafAt p k i⟩] := by
  rw [stretch, hi]
  exact if_neg (Bool.eq_false_iff.1 hc)

theorem statementCode_eq (hi : p.code[k]? = some i) :
    statementCode p k = stretch p k ++ [⟨i, leafAt p k i⟩] := by
  rw [statementCode, hi]
  rfl

/-- the texts on a valid stack are what the code since it was cleared decompiles to -/
theorem decompile_stretch {ts : List String} (h : textsAt p k = some ts) : decompile (stretch p k) = some ts := by
  induction k generalizing ts with
  | zero =>
    rw [textsAt] at h
    split at h
    · cases h
    · exact h
  | succ k ih =>
    rw [textsAt] at h
    split at h
    next => cases h
    next =>
      split at h
      next i hi =>
        by_cases hc : clears i.op = true
        · rw [if_pos hc] at h
          rw [stretch_clear hi hc]
          exact h
        · rw [if_neg hc] at h
          obtain ⟨us, hus, hrec⟩ := Option.bind_eq_some_iff.1 h
          rw [stretch_other hi (Bool.eq_false_iff.2 hc), decompile, follow_concat,
            show follow recite [] _ = _ from ih hus]
          exact hrec
      next => cases h

end

/-! ## statements -/

theorem endsStatement_of_statement {p : Program} {k : Nat} {i : Instruction} {next : Option Nat}
    {s s' : State} {e : Entry} (h : Shows p k i next s e s') {text : String}
    (ht : e.statement = some text) : i.op.endsStatement = true := by
  cases h with
  | statement _ he _ => exact he
  | other => split at ht <;> cases ht
  | _ => cases ht

/-- a statement that is not hollow stands alone on a valid stack -/
theorem result_eq_some {ts : List String} {v : Bool} {text : String}
    (h : (OperandStack.ofTexts ts v).result = some text) (hh : isHollow text = false) :
    v = true ∧ ts = [text] := by
  rw [OperandStack.result_ofTexts] at h
  have ht := Option.some.inj h
  cases v with
  | false => rw [← ht] at hh; cases hh
  | true =>
    refine ⟨rfl, ?_⟩
    match ts with
    | [] => rw [← ht] at hh; cases hh
    | [_] => exact congrArg (fun t => [t]) ht
    | _ :: _ :: _ => rw [← ht] at hh; cases hh

/-- a statement is what one operation makes of the texts on a valid stack -/
theorem exists_of_statement {p : Program} (hd : 0 ≤ p.header.dataLength) {k : Nat} {e : Entry} {text : String}
    (he : (entries p).1[k]? = some e) (ht : e.statement = some text) (hh : isHollow text = false) :
    ∃ (s : State) (es : List Entry) (o : Operation) (ts : List String),
      Reaches p k s es ∧ p.code[k]? = some e.instruction ∧ e.instruction.op.operation? = some o ∧
      textsAt p k = some ts ∧ (arriving p k s).stack = .ofTexts ts true ∧ o.arity ≤ ts.length ∧
      o.texts ("0x" ++ Text.hex e.instruction.parm) ts = [text] := by
  obtain ⟨n, u, hr⟩ := reaches_entries p
  obtain ⟨s, s', i, es, hs, hi, hsh⟩ := hr.entry_at he
  obtain ⟨ts, v, hst, hv⟩ := hs.holds hd
  have hends := endsStatement_of_statement hsh ht
  obtain ⟨o, ho⟩ := Option.ne_none_iff_exists'.1 (operation?_ne_none hends)
  have hm := moves_of_shows hd hs.inFrame.arriving hst hsh
  unfold Moves at hm
  rw [role_eq_operation ho] at hm
  obtain ⟨hle, hm⟩ := hm
  dsimp only at hm
  rw [if_pos hends, ht] at hm
  obtain ⟨rfl, htexts⟩ := result_eq_some hm.2.symm hh
  rw [if_pos rfl] at htexts
  rw [hsh.instruction_eq]
  exact ⟨s, es, o, ts, hs, hi, ho, hv, hst, hle rfl, htexts⟩

/-- A statement that a listing shows is what its code decompiles to.  Execution of the whole code since the
stack was cleared leaves this text and nothing else, without running out of operands, exactly when every
pushed value is popped before anything else is done and no text with a sign is negated. -/
theorem statement_sound_iff {d : Directory} {type : Option String} {file : ByteArray} {c c' : Console}
    {p : Program} (hload : Program.load d type file c = (.ok p, c')) {k : Nat} {e : Entry} {text : String}
    (he : (entries p).1[k]? = some e) (ht : e.statement = some text) (hh : isHollow text = false) :
    decompile (statementCode p k) = some [text] ∧
      (execute (statementCode p k) = some [some text] ↔
        Settled (statementCode p k) ∧ SignedOnce (statementCode p k)) := by
  have hd := (Program.load_eq_ok hload).dataLength_nonneg
  have hdec : decompile (statementCode p k) = some [text] := by
    obtain ⟨s, es, o, ts, -, hi, ho, hv, -, hle, htexts⟩ := exists_of_statement hd he ht hh
    rw [statementCode_eq hi, decompile, follow_concat, show follow recite [] _ = _ from decompile_stretch hv,
      Option.bind_some]
    unfold recite
    rw [show (⟨e.instruction, leafAt p k e.instruction⟩ : Labelled).role = .operation o from role_eq_operation ho]
    dsimp only
    rw [if_pos hle]
    exact congrArg some htexts
  exact ⟨hdec, execute_eq_iff hdec⟩

/-- a negated constant is stored, with a value pushed and popped in between -/
def settledFile : ByteArray :=
  Program.fileOf [⟨.enter, 32⟩, ⟨.localAddr, 8⟩, ⟨.push, 0⟩, ⟨.ignore, 0⟩, ⟨.pop, 0⟩, ⟨.const, 1⟩, ⟨.negi, 0⟩,
    ⟨.store4, 0⟩, ⟨.leave, 32⟩] [1, 2, 3, 4] []

theorem statement_sound_settled :
    ∃ p c e, Program.load Program.bare none settledFile {} = (.ok p, c) ∧ (entries p).1[7]? = some e ∧
      e.statement = some "*(int *)(&local8) = -(0x1)" ∧
      execute (statementCode p 7) = some [some "*(int *)(&local8) = -(0x1)"] := by
  obtain ⟨p, c, hl, ht⟩ := Program.exists_of_loadsWith Program.bare settledFile
    (fun p => ((entries p).1[7]?).map Entry.statement = some (some "*(int *)(&local8) = -(0x1)") &&
      Settled (statementCode p 7) && SignedOnce (statementCode p 7)) (by decide +kernel)
  simp only [Bool.and_eq_true, decide_eq_true_eq] at ht
  obtain ⟨⟨he, hset⟩, hsign⟩ := ht
  obtain ⟨e, he, hst⟩ := Option.map_eq_some_iff.1 he
  exact ⟨p, c, e, hl, he, hst, (statement_sound_iff hl he hst (by decide +kernel)).2.2 ⟨hset, hsign⟩⟩

/-- a constant is stored, and a value is pushed, used as an address and popped before -/
def unsettledFile : ByteArray :=
  Program.fileOf [⟨.enter, 32⟩, ⟨.localAddr, 8⟩, ⟨.const, 1⟩, ⟨.push, 0⟩, ⟨.load4, 0⟩, ⟨.pop, 0⟩, ⟨.store4, 0⟩,
    ⟨.leave, 32⟩] [1, 2, 3, 4] []

/-- the listing shows the constant as if it had been the address -/
theorem statement_unsound :
    ∃ p c e, Program.load Program.bare none unsettledFile {} = (.ok p, c) ∧ (entries p).1[6]? = some e ∧
      e.statement = some "*(int *)(&local8) = *(int *)(0x1)" ∧
      execute (statementCode p 6) = some [some "*(int *)(&local8) = 0x1"] := by
  obtain ⟨p, c, hl, ht⟩ := Program.exists_of_loadsWith Program.bare unsettledFile
    (fun p => ((entries p).1[6]?).map Entry.statement = some (some "*(int *)(&local8) = *(int *)(0x1)") &&
      execute (statementCode p 6) = some [some "*(int *)(&local8) = 0x1"]) (by decide +kernel)
  simp only [Bool.and_eq_true, decide_eq_true_eq] at ht
  obtain ⟨e, he, hst⟩ := Option.map_eq_some_iff.1 ht.1
  exact ⟨p, c, e, hl, he, hst, ht.2⟩

end Disasm.Listing
