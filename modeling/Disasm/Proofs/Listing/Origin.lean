import Mathlib
import Disasm.Proofs.Listing.Statement

/-!
# Where the operands of a statement come from

A statement is read off a stack that was empty behind the last `enter` and behind the last statement.  Labels
and jumps make the stack invalid until then.

* `Sourced`, `Traced`  operands and stacks that know which instructions pushed them;
* `tracedAt`, `Reaches.traced`  the traced stack in front of an instruction, and that a listing has this stack
  with the sources forgotten;
* `clearsBefore`, `lastClear`  the last instruction behind which the stack was empty;
* `sources_tracedAt`  all that is on the stack was pushed behind it;
* `Straight`, `straight_of_textsAt`  a valid stack was reached behind it without a label or a jump;
* `statement_straight`  both for the statements that a listing shows.
-/

namespace Disasm.Listing

open Disasm.Symbolic

/-! ## traced stacks -/

/-- a text, with the instructions that pushed it and the texts that it is made of -/
structure Sourced where
  text : String
  sources : List Nat
  deriving DecidableEq, Repr

/-- a stack of operands that know where they come from -/
structure Traced where
  /-- the operand pushed last comes first -/
  items : List Sourced := []
  valid : Bool := true
  deriving DecidableEq, Repr

namespace Traced

/-- forgets the sources -/
def erase (t : Traced) : OperandStack := .ofTexts (t.items.map Sourced.text) t.valid

def markInvalid (t : Traced) : Traced := { t with valid := false }

def pushed (a : Sourced) (t : Traced) : Traced := if t.valid then { t with items := a :: t.items } else t

/-- the operands after the instruction at `k` has taken some and pushed what it makes of them -/
def results (k : Nat) (parm : String) (o : Operation) (items : List Sourced) : List Sourced :=
  let taken := items.take o.arity
  let sources := k :: taken.flatMap Sourced.sources
  let texts := taken.map Sourced.text
  ⟨o.render parm texts, sources⟩ :: ((o.residue texts).map fun t => ⟨t, sources⟩) ++ items.drop o.arity

def operated (k : Nat) (parm : String) (o : Operation) (t : Traced) : Traced :=
  if t.valid then { t with items := results k parm o t.items } else t

/-- the instruction at `k` -/
def next (p : Program) (k : Nat) (i : Instruction) (t : Traced) : Traced :=
  match i.op.role with
  | .leaf => t.pushed ⟨leafAt p k i, [k]⟩
  | .operation o => if i.op.endsStatement then {} else t.operated k ("0x" ++ Text.hex i.parm) o
  | .push | .pop | .idle => t
  | .flow => if i.op = .enter then {} else t.markInvalid

def arriving (p : Program) (k : Nat) (t : Traced) : Traced := if isTarget p k then t.markInvalid else t

theorem erase_arriving (p : Program) (k : Nat) (t : Traced) :
    (t.arriving p k).erase = if isTarget p k then t.erase.markInvalid else t.erase := by
  unfold arriving
  split <;> rfl

theorem texts_results (k : Nat) (parm : String) (o : Operation) (items : List Sourced) :
    (results k parm o items).map Sourced.text = o.texts parm (items.map Sourced.text) := by
  unfold results Operation.texts
  simp [List.map_take, List.map_drop, Function.comp_def]

end Traced

/-- the traced stack that the first `k` instructions leave -/
def tracedAt (p : Program) : Nat → Traced
  | 0 => {}
  | k + 1 =>
    match p.code[k]? with
    | some i => ((tracedAt p k).arriving p k).next p k i
    | none => tracedAt p k

section
variable {p : Program} {k : Nat} {i : Instruction}

theorem tracedAt_succ (hi : p.code[k]? = some i) :
    tracedAt p (k + 1) = ((tracedAt p k).arriving p k).next p k i := by
  rw [tracedAt, hi]

/-- a step moves the stack as it moves a traced one -/
theorem erase_next {t : Traced} {e : Entry} {s' : OperandStack}
    (h : Moves p k i (t.items.map Sourced.text) t.valid e s') : s' = (t.next p k i).erase := by
  unfold Moves at h
  unfold Traced.next
  cases hr : i.op.role with
  | leaf =>
    rw [hr] at h
    rw [show s' = _ from h]
    unfold Traced.pushed Traced.erase
    cases hv : t.valid <;> simp [hv]
  | operation o =>
    rw [hr] at h
    obtain ⟨-, h⟩ := h
    dsimp only at h ⊢
    by_cases he : i.op.endsStatement = true
    · rw [if_pos he] at h ⊢
      exact h.1
    · rw [if_neg he] at h ⊢
      rw [h]
      unfold Traced.operated Traced.erase
      cases hv : t.valid <;> simp [hv, Traced.texts_results]
  | push | pop | idle =>
    rw [hr] at h
    exact h
  | flow =>
    rw [hr] at h
    dsimp only at h ⊢
    rw [h]
    split <;> rfl

/-- the stack of a listing is the traced one with the sources forgotten -/
theorem Reaches.traced (hd : 0 ≤ p.header.dataLength) {s : State} {es : List Entry} (h : Reaches p k s es) :
    s.stack = (tracedAt p k).erase := by
  refine (h.inv (I := fun k s => InFrame p k s ∧ s.stack = (tracedAt p k).erase) ⟨⟨rfl, rfl⟩, rfl⟩ ?_).2
  intro k s i e s' ⟨hf, hs⟩ hi hsh
  refine ⟨inFrame_of_shows hf.arriving hi hsh, ?_⟩
  have hst : (Listing.arriving p k s).stack = ((tracedAt p k).arriving p k).erase := by
    rw [Traced.erase_arriving, ← hs]
    unfold Listing.arriving
    split <;> rfl
  rw [tracedAt_succ hi]
  exact erase_next (moves_of_shows hd hf.arriving hst hsh)

end

/-! ## the last clear -/

/-- the instructions in front of `k` behind which the stack is empty; -1 stands for the start -/
def clearsBefore (code : List Instruction) (k : Nat) : Set Int :=
  {j | j = -1 ∨ ∃ (n : Nat) (i : Instruction), j = n ∧ n < k ∧ code[n]? = some i ∧ clears i.op = true}

/-- the last of them -/
def lastClear (code : List Instruction) : Nat → Int
  | 0 => -1
  | k + 1 =>
    match code[k]? with
    | some i => if clears i.op then k else lastClear code k
    | none => lastClear code k

section
variable {code : List Instruction} {k : Nat} {i : Instruction}

theorem lastClear_clear (hi : code[k]? = some i) (hc : clears i.op = true) : lastClear code (k + 1) = k := by
  rw [lastClear, hi]
  exact if_pos hc

theorem lastClear_other (h : ∀ i, code[k]? = some i → clears i.op = false) :
    lastClear code (k + 1) = lastClear code k := by
  rw [lastClear]
  cases hi : code[k]? with
  | none => rfl
  | some i => exact if_neg (Bool.eq_false_iff.1 (h i hi))

theorem lastClear_kept (hi : code[k]? = some i) (hc : ¬ clears i.op = true) :
    lastClear code (k + 1) = lastClear code k := by
  apply lastClear_other
  intro j hj
  rw [hi] at hj
  cases hj
  exact Bool.eq_false_iff.2 hc

theorem clearsBefore_other (h : ∀ i, code[k]? = some i → clears i.op = false) :
    clearsBefore code (k + 1) = clearsBefore code k := by
  ext j
  constructor
  · rintro (hj | ⟨n, i, hj, hn, hi, hc⟩)
    · exact .inl hj
    · have hne : n ≠ k := by
        rintro rfl
        rw [h i hi] at hc
        cases hc
      exact .inr ⟨n, i, hj, by omega, hi, hc⟩
  · rintro (hj | ⟨n, i, hj, hn, hi, hc⟩)
    · exact .inl hj
    · exact .inr ⟨n, i, hj, Nat.lt_succ_of_lt hn, hi, hc⟩

theorem lastClear_isGreatest (code : List Instruction) (k : Nat) :
    IsGreatest (clearsBefore code k) (lastClear code k) := by
  induction k with
  | zero =>
    refine ⟨.inl rfl, ?_⟩
    rintro j (rfl | ⟨n, i, -, hn, -⟩)
    · exact le_refl _
    · exact absurd hn (Nat.not_lt_zero n)
  | succ k ih =>
    by_cases h : ∃ i, code[k]? = some i ∧ clears i.op = true
    · obtain ⟨i, hi, hc⟩ := h
      rw [lastClear_clear hi hc]
      refine ⟨.inr ⟨k, i, rfl, Nat.lt_succ_self k, hi, hc⟩, ?_⟩
      rintro j (rfl | ⟨n, -, rfl, hn, -⟩)
      · omega
      · omega
    · have hother : ∀ i, code[k]? = some i → clears i.op = false :=
        fun i hi => Bool.eq_false_iff.2 fun hc => h ⟨i, hi, hc⟩
      rw [lastClear_other hother, clearsBefore_other hother]
      exact ih

theorem lastClear_lt (code : List Instruction) (k : Nat) : lastClear code k < k := by
  rcases (lastClear_isGreatest code k).1 with h | ⟨n, -, h, hn, -⟩
  · omega
  · omega

end

/-! ## sources -/

section
variable {p : Program} {k : Nat} {i : Instruction}

theorem Traced.next_clear (hc : clears i.op = true) (t : Traced) : t.next p k i = {} := by
  have hrole := clears_role i.op
  rw [hc] at hrole
  unfold Traced.next
  cases hr : i.op.role with
  | leaf | push | pop | idle =>
    rw [hr] at hrole
    cases hrole
  | operation o =>
    rw [hr] at hrole
    exact if_pos hrole.symm
  | flow =>
    rw [hr] at hrole
    exact if_pos (of_decide_eq_true hrole.symm)

/-- what an instruction pushes comes from itself and from operands that it found -/
theorem Traced.mem_next {t : Traced} {a : Sourced} (ha : a ∈ (t.next p k i).items) :
    a ∈ t.items ∨ ∃ taken : List Sourced, (∀ b ∈ taken, b ∈ t.items) ∧
      a.sources = k :: taken.flatMap Sourced.sources := by
  unfold Traced.next at ha
  cases hr : i.op.role with
  | leaf =>
    rw [hr] at ha
    dsimp only [Traced.pushed] at ha
    split at ha
    · rcases List.mem_cons.1 ha with rfl | ha
      · exact .inr ⟨[], List.forall_mem_nil _, rfl⟩
      · exact .inl ha
    · exact .inl ha
  | operation o =>
    rw [hr] at ha
    dsimp only at ha
    split at ha
    · cases ha
    · unfold Traced.operated at ha
      split at ha
      · have htaken : ∀ b ∈ t.items.take o.arity, b ∈ t.items := fun b hb => List.mem_of_mem_take hb
        rcases List.mem_append.1 ha with ha | ha
        · rcases List.mem_cons.1 ha with rfl | ha
          · exact .inr ⟨_, htaken, rfl⟩
          · obtain ⟨text, -, rfl⟩ := List.mem_map.1 ha
            exact .inr ⟨_, htaken, rfl⟩
        · exact .inl (List.mem_of_mem_drop ha)
      · exact .inl ha
  | push | pop | idle =>
    rw [hr] at ha
    exact .inl ha
  | flow =>
    rw [hr] at ha
    dsimp only at ha
    split at ha
    · cases ha
    · exact .inl ha

/-- an operand that was pushed by instructions behind `low` and in front of `k` -/
def Sourced.Within (low : Int) (k : Nat) (a : Sourced) : Prop :=
  a.sources ≠ [] ∧ ∀ j ∈ a.sources, low < j ∧ j < k

/-- all that is on the stack was pushed behind the last clear -/
theorem sources_tracedAt (p : Program) (k : Nat) :
    ∀ a ∈ (tracedAt p k).items, a.Within (lastClear p.code k) k := by
  induction k with
  | zero => exact List.forall_mem_nil _
  | succ k ih =>
    have hitems : ((tracedAt p k).arriving p k).items = (tracedAt p k).items := by
      unfold Traced.arriving
      split <;> rfl
    have hlater : ∀ a ∈ (tracedAt p k).items, a.Within (lastClear p.code k) (k + 1) := by
      intro a ha
      obtain ⟨hne, hs⟩ := ih a ha
      exact ⟨hne, fun j hj => ⟨(hs j hj).1, Nat.lt_succ_of_lt (hs j hj).2⟩⟩
    intro a ha
    cases hi : p.code[k]? with
    | none =>
      rw [tracedAt, hi] at ha
      rw [lastClear_other (by rw [hi]; intro i h; cases h)]
      exact hlater a ha
    | some i =>
      rw [tracedAt_succ hi] at ha
      by_cases hc : clears i.op = true
      · rw [Traced.next_clear hc] at ha
        cases ha
      · rw [lastClear_kept hi hc]
        rcases Traced.mem_next ha with ha | ⟨taken, htaken, hsources⟩
        · rw [hitems] at ha
          exact hlater a ha
        · rw [hitems] at htaken
          refine ⟨by rw [hsources]; exact List.cons_ne_nil _ _, fun j hj => ?_⟩
          rw [hsources] at hj
          rcases List.mem_cons.1 hj with rfl | hj
          · exact ⟨lastClear_lt p.code j, Nat.lt_succ_self j⟩
          · obtain ⟨b, hb, hjb⟩ := List.mem_flatMap.1 hj
            exact (hlater b (htaken b hb)).2 j hjb

/-! ## straight code -/

/-- no label stands behind `low` and up to `k`, and no jump in between -/
structure Straight (p : Program) (low : Int) (k : Nat) : Prop where
  labels : ∀ j : Nat, low < j → j ≤ k → isTarget p j = false
  jumps : ∀ (j : Nat) (i : Instruction), low < j → j < k → p.code[j]? = some i → i.op.role ≠ .flow

/-- a valid stack is reached by straight code -/
theorem straight_of_textsAt {ts : List String} (h : textsAt p k = some ts) :
    Straight p (lastClear p.code k) k := by
  induction k generalizing ts with
  | zero =>
    rw [textsAt] at h
    split at h
    next => cases h
    next ht =>
      refine ⟨fun j _ hj => ?_, fun j i _ hj => absurd hj (Nat.not_lt_zero j)⟩
      rw [Nat.le_zero.1 hj]
      exact Bool.eq_false_iff.2 ht
  | succ k ih =>
    rw [textsAt] at h
    split at h
    next => cases h
    next ht =>
      split at h
      next i hi =>
        by_cases hc : clears i.op = true
        · rw [lastClear_clear hi hc]
          refine ⟨fun j hlow hj => ?_, fun j i hlow hj => ?_⟩
          · rw [show j = k + 1 by omega]
            exact Bool.eq_false_iff.2 ht
          · omega
        · rw [if_neg hc] at h
          obtain ⟨us, hus, hrec⟩ := Option.bind_eq_some_iff.1 h
          obtain ⟨hlabels, hjumps⟩ := ih hus
          rw [lastClear_kept hi hc]
          refine ⟨fun j hlow hj => ?_, fun j i' hlow hj hi' => ?_⟩
          · rcases Nat.lt_succ_iff_lt_or_eq.1 (Nat.lt_succ_of_le hj) with hlt | rfl
            · exact hlabels j hlow (Nat.le_of_lt_succ hlt)
            · exact Bool.eq_false_iff.2 ht
          · rcases Nat.lt_succ_iff_lt_or_eq.1 hj with hlt | rfl
            · exact hjumps j i' hlow hlt hi'
            · rw [hi] at hi'
              cases hi'
              exact role_ne_flow hrec
      next => cases h

end

/-! ## statements -/

theorem Straight.not_mem {p : Program} {low : Int} {k : Nat} (h : Straight p low k) {j : Int} (hlow : -1 ≤ low)
    (hj : low < j) (hk : j ≤ k) : j ∉ p.analysis.jumps ∧ j ∉ p.analysis.cases := by
  obtain ⟨n, rfl⟩ := Int.eq_ofNat_of_zero_le (show 0 ≤ j by omega)
  have ht := h.labels n hj (by omega)
  unfold isTarget at ht
  rw [Bool.or_eq_false_iff] at ht
  exact ⟨fun h => Bool.eq_false_iff.1 ht.1 (Std.TreeMap.mem_iff_contains.1 h),
    fun h => Bool.eq_false_iff.1 ht.2 (Std.TreeMap.mem_iff_contains.1 h)⟩

theorem not_jump_of_role {op : Opcode} (h : op.role ≠ .flow) :
    op ≠ .jump ∧ op ≠ .call ∧ op ≠ .leave ∧ op.isBranch = false := by
  revert h
  cases op <;> decide

/-- A statement that a listing shows belongs to code without a label and without a jump, a call, a return or a
branch since the last `enter` or statement, and the operands that it is made of were pushed by that code. -/
theorem statement_straight {d : Directory} {type : Option String} {file : ByteArray} {c c' : Console}
    {p : Program} (hload : Program.load d type file c = (.ok p, c')) {k : Nat} {e : Entry} {text : String}
    (he : (entries p).1[k]? = some e) (ht : e.statement = some text) (hh : isHollow text = false) :
    ∃ low : Int, IsGreatest (clearsBefore p.code k) low ∧
      (∀ j : Int, low < j → j ≤ k → j ∉ p.analysis.jumps ∧ j ∉ p.analysis.cases) ∧
      (∀ (j : Nat) (i : Instruction), low < j → j < k → p.code[j]? = some i →
        i.op ≠ .jump ∧ i.op ≠ .call ∧ i.op ≠ .leave ∧ i.op.isBranch = false) ∧
      ∃ (s : State) (es : List Entry) (o : Operation) (operands : List Sourced),
        Reaches p k s es ∧ s.stack = (tracedAt p k).erase ∧ e.instruction.op.operation? = some o ∧
        operands = (tracedAt p k).items.take o.arity ∧ operands.length = o.arity ∧
        text = o.render ("0x" ++ Text.hex e.instruction.parm) (operands.map Sourced.text) ∧
        ∀ a ∈ operands, a.Within low k := by
  have hd := (Program.load_eq_ok hload).dataLength_nonneg
  obtain ⟨s, es, o, ts, hs, -, ho, hv, hst, hle, hresult⟩ := exists_of_statement hd he ht hh
  have hgreatest := lastClear_isGreatest p.code k
  have hstraight := straight_of_textsAt hv
  have htraced := hs.traced hd
  -- no label stands here, so the stack that is found is the traced one
  have htarget : isTarget p k = false := hstraight.labels k (lastClear_lt p.code k) (le_refl k)
  have htexts : (tracedAt p k).items.map Sourced.text = ts := by
    have harrive : arriving p k s = s := if_neg (Bool.eq_false_iff.1 htarget)
    rw [harrive, htraced] at hst
    exact List.map_injective_iff.2 (Option.some_injective String) (congrArg OperandStack.items hst)
  have hlen : (tracedAt p k).items.length = ts.length := by rw [← htexts, List.length_map]
  refine ⟨_, hgreatest, fun j hlow hj => hstraight.not_mem (hgreatest.2 (.inl rfl)) hlow hj,
    fun j i hlow hj hi => not_jump_of_role (hstraight.jumps j i hlow hj hi), s, es, o, _, hs, htraced, ho, rfl,
    ?_, ?_, fun a ha => sources_tracedAt p k a (List.mem_of_mem_take ha)⟩
  · rw [List.length_take, hlen]
    exact Nat.min_eq_left hle
  · rw [List.map_take, htexts]
    exact (List.cons.inj hresult).1.symm

/-- a branch leads into the code of one statement, and another statement follows -/
def branchingFile : ByteArray :=
  Program.fileOf [⟨.enter, 32⟩, ⟨.const, 7⟩, ⟨.const, 7⟩, ⟨.eq, 5⟩, ⟨.localAddr, 8⟩, ⟨.const, 1⟩, ⟨.store4, 0⟩,
    ⟨.localAddr, 12⟩, ⟨.const, 2⟩, ⟨.negi, 0⟩, ⟨.store4, 0⟩, ⟨.leave, 32⟩] [] []

theorem statement_straight_branching :
    ∃ p c e, Program.load Program.bare none branchingFile {} = (.ok p, c) ∧ (entries p).1[10]? = some e ∧
      e.statement = some "*(int *)(&localc) = -(0x2)" ∧ 5 ∈ p.analysis.jumps ∧
      IsGreatest (clearsBefore p.code 10) 6 ∧
      ∀ j : Int, 6 < j → j ≤ 10 → j ∉ p.analysis.jumps ∧ j ∉ p.analysis.cases := by
  obtain ⟨p, c, hl, ht⟩ := Program.exists_of_loadsWith Program.bare branchingFile
    (fun p => ((entries p).1[10]?).map Entry.statement = some (some "*(int *)(&localc) = -(0x2)") &&
      5 ∈ p.analysis.jumps && lastClear p.code 10 = 6) (by decide +kernel)
  simp only [Bool.and_eq_true, decide_eq_true_eq] at ht
  obtain ⟨⟨he, hjump⟩, hclear⟩ := ht
  obtain ⟨e, he, hst⟩ := Option.map_eq_some_iff.1 he
  obtain ⟨low, hlow, hlabels, -⟩ := statement_straight hl he hst (by decide +kernel)
  have h6 := lastClear_isGreatest p.code 10
  rw [hclear] at h6
  rw [hlow.unique h6] at hlabels
  exact ⟨p, c, e, hl, he, hst, hjump, h6, hlabels⟩

end Disasm.Listing
