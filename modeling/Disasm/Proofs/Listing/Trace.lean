import Mathlib
import Disasm.Proofs.Listing.Run
import Disasm.Proofs.Symbolic

/-!
# What an instruction finds

The state in front of an instruction, read off the code before it.

* `enterBefore`, `Reaches.inFrame`  the function that an instruction is in starts at the last `enter` before;
* `constLeaf`, `localLeaf`, `leafAt`  the text that a constant or the address of a local stands for;
* `Moves`, `moves_of_shows`  what a step does to a stack of texts;
* `textsAt`, `Reaches.holds`  the stack that an instruction finds.
-/

namespace Disasm.Listing

open Disasm.Symbolic

/-! ## functions -/

/-- the last `enter` in front of the address `k`, and the size of its frame -/
def enterBefore (code : List Instruction) : Nat → Option (Nat × Int)
  | 0 => none
  | k + 1 =>
    match code[k]? with
    | some i => if i.op = .enter then some (k, i.parm) else enterBefore code k
    | none => enterBefore code k

theorem enterBefore_enter {code : List Instruction} {k : Nat} {i : Instruction} (hi : code[k]? = some i)
    (hop : i.op = .enter) : enterBefore code (k + 1) = some (k, i.parm) := by
  rw [enterBefore, hi]
  exact if_pos hop

theorem enterBefore_other {code : List Instruction} {k : Nat} {i : Instruction} (hi : code[k]? = some i)
    (hop : i.op ≠ .enter) : enterBefore code (k + 1) = enterBefore code k := by
  rw [enterBefore, hi]
  exact if_neg hop

/-- an `enter` stands in front of an address -/
theorem enterBefore_isSome_iff {code : List Instruction} {k : Nat} (hk : k ≤ code.length) :
    (enterBefore code k).isSome = true ↔ ∃ j i, j < k ∧ code[j]? = some i ∧ i.op = .enter := by
  induction k with
  | zero => exact ⟨fun h => (nomatch h), fun ⟨j, _, hj, _⟩ => absurd hj (Nat.not_lt_zero j)⟩
  | succ k ih =>
    have hi : code[k]? = some code[k] := List.getElem?_eq_getElem hk
    by_cases hop : code[k].op = .enter
    · rw [enterBefore_enter hi hop]
      exact ⟨fun _ => ⟨k, _, Nat.lt_succ_self k, hi, hop⟩, fun _ => rfl⟩
    · rw [enterBefore_other hi hop, ih (Nat.le_of_succ_le hk)]
      constructor
      · rintro ⟨j, i, hj, h⟩
        exact ⟨j, i, Nat.lt_succ_of_lt hj, h⟩
      · rintro ⟨j, i, hj, h, hop'⟩
        rcases Nat.lt_succ_iff_lt_or_eq.1 hj with hlt | rfl
        · exact ⟨j, i, hlt, h, hop'⟩
        · rw [hi] at h
          exact absurd (Option.some.inj h ▸ hop') hop

/-- a state knows the function that its instruction is in -/
def InFrame (p : Program) (k : Nat) (s : State) : Prop :=
  s.func = (enterBefore p.code k).map (fun e => (e.1 : Int)) ∧ s.frame = (enterBefore p.code k).map Prod.snd

theorem InFrame.arriving {p : Program} {k : Nat} {s : State} (h : InFrame p k s) :
    InFrame p k (arriving p k s) := by
  unfold Listing.arriving
  split
  · exact h
  · exact h

theorem inFrame_of_shows {p : Program} {k : Nat} {i : Instruction} {next : Option Nat} {s s' : State}
    {e : Entry} (hs : InFrame p k s) (hi : p.code[k]? = some i) (h : Shows p k i next s e s') :
    InFrame p (k + 1) s' := by
  by_cases hop : i.op = .enter
  · cases h with
    | enter => unfold InFrame; rw [enterBefore_enter hi hop]; exact ⟨rfl, rfl⟩
    | «local» h | const h => rw [hop] at h; cases h
    | statement h | value h => rw [hop] at h; cases h
    | other _ h => exact absurd hop h
  · have hnext : InFrame p (k + 1) s := by
      unfold InFrame
      rw [enterBefore_other hi hop]
      exact hs
    cases h with
    | enter h => exact absurd h hop
    | «local» | const | statement | value => exact hnext
    | other => split <;> exact hnext

/-- the function of a state is the one at the last `enter` -/
theorem Reaches.inFrame {p : Program} {k : Nat} {s : State} {es : List Entry} (h : Reaches p k s es) :
    InFrame p k s :=
  h.inv (I := InFrame p) ⟨rfl, rfl⟩ fun _ _ _ _ _ hs hi hsh => inFrame_of_shows hs.arriving hi hsh

/-! ## leaves -/

/-- the text of a constant: the name it was given, a place in the data, or the number -/
def constLeaf (p : Program) (k : Nat) (value : Int) (next : Option Nat) : String :=
  let number := "0x" ++ Text.hex value
  match p.labels.constants[(k : Int)]? with
  | some (name, expected) => if value = expected then name else number
  | none =>
    -- numbers of code and of literals have no names
    if next = some Opcode.call.code ∨ next = some Opcode.jump.code ∨ value < 0 ∨
        p.header.dataLength ≤ value ∧ value < p.header.dataLength + p.header.litLength then number
    else ((dataNaming? p value).map Naming.operand).getD number

/-- the text of a local address in the function that `k` is in -/
def localLeaf (p : Program) (k : Nat) (addr : Int) : String :=
  match enterBefore p.code k with
  | some (func, frame) => (frameNaming p func frame addr).operand
  | none => ""

/-- the text that the instruction at `k` pushes -/
def leafAt (p : Program) (k : Nat) (i : Instruction) : String :=
  match i.op with
  | .const => constLeaf p k i.parm (nextAt p k)
  | .localAddr => localLeaf p k i.parm
  | _ => ""

/-- the places in the data that a constant may name -/
theorem getD_operand (o : Option Naming) (n : Naming) :
    (o.getD n).operand = (o.map Naming.operand).getD n.operand := by
  cases o <;> rfl

theorem operand_constantText {p : Program} (hd : 0 ≤ p.header.dataLength) {k : Nat} {value : Int} {n : Nat}
    {t : ConstantText} (h : constantText p k value n = .ok t) :
    t.naming.operand = constLeaf p k value (some n) := by
  unfold constantText at h
  unfold constLeaf
  simp only [Option.some.injEq, Bool.not_eq_true', Bool.or_eq_false_iff, decide_eq_false_iff_not] at h ⊢
  cases hc : p.labels.constants[(k : Int)]? with
  | some c =>
    rw [hc] at h
    dsimp only at h ⊢
    split at h
    next hv => cases h; exact (if_pos hv).symm
    next hv => cases h; exact (if_neg hv).symm
  | none =>
    rw [hc] at h
    dsimp only at h ⊢
    split at h
    next hlit =>
      obtain ⟨text, -, h⟩ := bind_eq_ok_iff.1 h
      cases h
      rw [if_pos (.inr (.inr (.inr ⟨hlit.1, hlit.2.1⟩)))]
    next hlit =>
      split at h
      next hdata =>
        obtain ⟨text, -, h⟩ := bind_eq_ok_iff.1 h
        cases h
        rw [if_neg (by omega), getD_operand]
      next hdata =>
        split at h
        next hcall => cases h; rw [if_pos (.inl hcall)]
        next hcall =>
          split at h
          next hbss =>
            cases h
            rw [if_neg (by omega), getD_operand]
          next hbss => cases h; rw [if_pos (by omega)]

/-! ## the stack -/

/-- what an instruction does to a stack of texts, by the part that its opcode has -/
def Moves (p : Program) (k : Nat) (i : Instruction) (ts : List String) (v : Bool) (e : Entry)
    (s' : OperandStack) : Prop :=
  match i.op.role with
  | .leaf => s' = .ofTexts (if v then leafAt p k i :: ts else ts) v
  | .operation o =>
    (v = true → o.arity ≤ ts.length) ∧
      let after : OperandStack := .ofTexts (if v then o.texts ("0x" ++ Text.hex i.parm) ts else ts) v
      if i.op.endsStatement then s' = {} ∧ e.statement = after.result else s' = after
  | .push | .pop | .idle => s' = .ofTexts ts v
  | .flow => s' = if i.op = .enter then {} else .ofTexts ts false

theorem breaksStack_role (op : Opcode) :
    op.breaksStack = true ↔ op.role = .flow ∧ op ≠ .enter := by
  cases op <;> decide

theorem role_eq_operation {op : Opcode} {o : Operation} (h : op.operation? = some o) : op.role = .operation o := by
  unfold Opcode.role
  rw [h]

theorem role_operation {op : Opcode} {o : Operation} (h : op.role = .operation o) : op.operation? = some o := by
  cases op <;> cases h <;> rfl

theorem role_leaf {op : Opcode} (h : op.role = .leaf) : op = .const ∨ op = .localAddr := by
  cases op <;> first | exact .inl rfl | exact .inr rfl | cases h

variable {p : Program} {k : Nat} {i : Instruction} {s s' : State} {e : Entry}

theorem localLeaf_eq {frame : Int} (hs : InFrame p k s) (hf : s.frame = some frame) (addr : Int) :
    (frameNaming p (s.func.getD (-1)) frame addr).operand = localLeaf p k addr := by
  obtain ⟨hfunc, hframe⟩ := hs
  unfold localLeaf
  rw [hf] at hframe
  cases he : enterBefore p.code k with
  | none => rw [he] at hframe; cases hframe
  | some f =>
    rw [he] at hframe hfunc
    rw [hfunc, Option.some.inj hframe]
    rfl

/-- a step of the listing moves the stack as its opcode says -/
theorem moves_of_shows (hd : 0 ≤ p.header.dataLength) (hs : InFrame p k s) {ts : List String} {v : Bool}
    (hst : s.stack = .ofTexts ts v) (h : Shows p k i (nextAt p k) s e s') : Moves p k i ts v e s'.stack := by
  unfold Moves
  cases h with
  | enter hop ht =>
    rw [show i.op.role = .flow by rw [hop]; rfl]
    exact (if_pos hop).symm
  | «local» hop hf =>
    rw [show i.op.role = .leaf by rw [hop]; rfl]
    dsimp only
    rw [hst, OperandStack.pushed_ofTexts, localLeaf_eq hs hf, leafAt, hop]
  | const hop hn ht =>
    rw [show i.op.role = .leaf by rw [hop]; rfl]
    dsimp only
    rw [hst, OperandStack.pushed_ofTexts, operand_constantText hd ht, ← hn, leafAt, hop]
  | statement ho he hop =>
    rw [role_eq_operation ho]
    rw [hst] at hop
    obtain ⟨hle, rfl⟩ := OperandStack.perform_eq_ok _ _ (operate_eq_ok_iff.1 hop)
    refine ⟨hle, ?_⟩
    dsimp only
    rw [if_pos he]
    exact ⟨rfl, rfl⟩
  | value ho he hl hop =>
    rw [role_eq_operation ho]
    rw [hst] at hop
    obtain ⟨hle, rfl⟩ := OperandStack.perform_eq_ok _ _ (operate_eq_ok_iff.1 hop)
    refine ⟨hle, ?_⟩
    dsimp only
    rw [if_neg (Bool.eq_false_iff.1 he)]
  | other ho he hl hc =>
    by_cases hb : i.op.breaksStack = true
    · rw [((breaksStack_role _).1 hb).1]
      dsimp only
      rw [if_pos hb, if_neg he, hst, OperandStack.markInvalid_ofTexts]
    · rw [if_neg hb, hst]
      cases hr : i.op.role with
      | leaf => exact absurd (role_leaf hr) (not_or.2 ⟨hc, hl⟩)
      | operation o => rw [role_operation hr] at ho; cases ho
      | flow => exact absurd ((breaksStack_role _).2 ⟨hr, he⟩) hb
      | push | pop | idle => rfl

/-! ## the stack along the code -/

/-- the opcodes behind which the stack is empty -/
def clears (op : Opcode) : Bool := op = .enter || op.endsStatement

theorem clears_role (op : Opcode) :
    clears op = match op.role with
      | .operation _ => op.endsStatement
      | .flow => op = .enter
      | _ => false := by
  cases op <;> rfl

/-- the texts on the stack that the instruction at an address finds, if that stack is valid -/
def textsAt (p : Program) : Nat → Option (List String)
  | 0 => if isTarget p 0 then none else some []
  | k + 1 =>
    if isTarget p (k + 1) then none
    else match p.code[k]? with
      | some i => if clears i.op then some [] else (textsAt p k).bind (recite ⟨i, leafAt p k i⟩)
      | none => none

/-- a stack holds these texts, or it is invalid -/
def Holds (stack : OperandStack) (texts : Option (List String)) : Prop :=
  ∃ ts v, stack = .ofTexts ts v ∧ texts = if v then some ts else none

theorem Holds.empty : Holds {} (some []) := ⟨[], true, rfl, rfl⟩

theorem Holds.arriving {texts : Option (List String)} (h : Holds s.stack texts) :
    Holds (arriving p k s).stack (if isTarget p k then none else texts) := by
  unfold Listing.arriving
  split
  · obtain ⟨ts, v, hs, -⟩ := h
    exact ⟨ts, false, by rw [hs, OperandStack.markInvalid_ofTexts], rfl⟩
  · exact h

/-- an instruction that does not clear the stack is recited -/
theorem holds_of_shows (hd : 0 ≤ p.header.dataLength) (hs : InFrame p k s) {texts : Option (List String)}
    (h : Holds s.stack texts) (hsh : Shows p k i (nextAt p k) s e s') :
    Holds s'.stack (if clears i.op then some [] else texts.bind (recite ⟨i, leafAt p k i⟩)) := by
  obtain ⟨ts, v, hst, rfl⟩ := h
  have hm := moves_of_shows hd hs hst hsh
  have hc := clears_role i.op
  unfold Moves at hm
  have hrole : (⟨i, leafAt p k i⟩ : Labelled).role = i.op.role := rfl
  -- what recital of a valid stack gives, and that an invalid one stays as it is
  have hnext : ∀ us, s'.stack = .ofTexts us v → clears i.op = false →
      (v = true → recite ⟨i, leafAt p k i⟩ ts = some us) →
      Holds s'.stack (if clears i.op then some []
        else (if v then some ts else none).bind (recite ⟨i, leafAt p k i⟩)) := by
    intro us hus hcl hrec
    rw [hcl]
    refine ⟨us, v, hus, ?_⟩
    cases v with
    | false => rfl
    | true => exact hrec rfl
  cases hr : i.op.role with
  | leaf =>
    rw [hr] at hm hc
    refine hnext _ hm hc fun hvt => ?_
    unfold recite
    rw [hrole, hr, if_pos hvt]
  | operation o =>
    rw [hr] at hm hc
    obtain ⟨hle, hm⟩ := hm
    dsimp only at hm hc
    split at hm
    next he =>
      rw [if_pos (hc.trans he), hm.1]
      exact .empty
    next he =>
      refine hnext _ hm (hc.trans (Bool.eq_false_iff.2 he)) fun hvt => ?_
      unfold recite
      rw [hrole, hr, if_pos hvt]
      exact if_pos (hle hvt)
  | push | pop | idle =>
    rw [hr] at hm hc
    refine hnext _ hm hc fun hvt => ?_
    unfold recite
    rw [hrole, hr]
  | flow =>
    rw [hr] at hm hc
    dsimp only at hm hc
    split at hm
    next he =>
      rw [if_pos (hc.trans (decide_eq_true he)), hm]
      exact .empty
    next he =>
      rw [if_neg (Bool.eq_false_iff.1 (hc.trans (decide_eq_false he)))]
      refine ⟨ts, false, hm, ?_⟩
      cases v with
      | false => rfl
      | true =>
        show recite ⟨i, leafAt p k i⟩ ts = none
        unfold recite
        rw [hrole, hr]

/-- the stack that an instruction finds holds the texts there -/
theorem Reaches.holds (hd : 0 ≤ p.header.dataLength) {es : List Entry} (h : Reaches p k s es) :
    Holds (Listing.arriving p k s).stack (textsAt p k) := by
  refine (h.inv (I := fun k s => InFrame p k s ∧ Holds (Listing.arriving p k s).stack (textsAt p k))
    ⟨⟨rfl, rfl⟩, Holds.arriving (s := {}) .empty⟩ ?_).2
  intro k s i e s' ⟨hf, hh⟩ hi hsh
  refine ⟨inFrame_of_shows hf.arriving hi hsh, ?_⟩
  have hstep := (holds_of_shows hd hf.arriving hh hsh).arriving (p := p) (k := k + 1)
  rw [textsAt, hi]
  exact hstep

end Disasm.Listing
