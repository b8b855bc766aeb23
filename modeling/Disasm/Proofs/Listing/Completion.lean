import Mathlib
import Disasm.Proofs.Annotation.Load
import Disasm.Proofs.Listing.Lookup
import Disasm.Proofs.Listing.Trace

/-!
# When a listing is complete

A listing stops at the first instruction that fails.

* `Dangling`, `pointerNote_ok_iff`  a note on a read fails when its pointer leads to no template;
* `Listable`  no instruction fails;
* `head_textsAt`  the last text on the stack is never empty;
* `exists_shows`  an instruction that is reached in listable code does not fail;
* `printCode_returns_iff`  a program is printed to its end exactly when its code is listable.
-/

namespace Disasm.Listing

open Disasm.Symbolic Disasm.Walk

/-! ## reads through pointers -/

/-- the ranges that the pointer of a read at `k` may have -/
def candidates (p : Program) (k : Nat) (r : PointerRead) : List Range :=
  if r.isLocal then
    match enterBefore p.code k with
    | none => []
    | some (func, frame) =>
      -- behind the frame and two words are the arguments
      if 0 ≤ r.pointer - frame - 8 then (argRange? p func (argKey (r.pointer - frame - 8))).toList
      else (p.labels.localRangesOf func).getD r.pointer []
  else p.labels.ranges.getD r.pointer []

/-- the first plain pointer among some ranges is one to a template that is not there -/
def Dangling (p : Program) (ranges : List Range) : Prop :=
  ∃ range pointer, ranges.find? isPlainPointer = some range ∧ range.kind = .pointerToTemplate ∧
    range.pointer = some pointer ∧ p.library.templates[pointer.target]? = none

section
variable {p : Program} {k : Nat} {s : State} {r : PointerRead}

theorem pointerRanges_eq (hs : InFrame p k s)
    (hl : r.isLocal = true → (enterBefore p.code k).isSome = true) :
    pointerRanges p s r = .ok (candidates p k r) := by
  obtain ⟨hfunc, hframe⟩ := hs
  unfold pointerRanges candidates
  by_cases hr : r.isLocal = true
  · obtain ⟨⟨func, frame⟩, he⟩ := Option.isSome_iff_exists.1 (hl hr)
    rw [he] at hfunc hframe
    rw [hr, hframe, hfunc, he, if_neg (by decide), if_pos rfl]
    dsimp only [Option.map_some, Option.getD_some]
    by_cases hd : 0 ≤ r.pointer - frame - 8
    · rw [if_pos hd, if_pos hd]; rfl
    · rw [if_neg hd, if_neg hd]; rfl
  · rw [Bool.not_eq_true] at hr
    rw [hr]
    rfl

theorem exists_pointer {range : Range} (h : isPlainPointer range = true) :
    ∃ pointer, range.pointer = some pointer := by
  cases hp : range.pointer with
  | some pointer => exact ⟨pointer, rfl⟩
  | none =>
    unfold isPlainPointer at h
    rw [hp] at h
    simp at h

/-- a note on a read can be written unless its pointer leads nowhere -/
theorem pointerNote_ok_iff (hs : InFrame p k s)
    (hl : r.isLocal = true → (enterBefore p.code k).isSome = true) :
    (∃ note, pointerNote p s r = .ok note) ↔ ¬ Dangling p (candidates p k r) := by
  unfold pointerNote
  rw [pointerRanges_eq hs hl]
  dsimp only [bind, Except.bind]
  cases hf : (candidates p k r).find? isPlainPointer with
  | none =>
    refine ⟨fun _ ⟨range, _, h, _⟩ => ?_, fun _ => ⟨_, rfl⟩⟩
    rw [hf] at h
    cases h
  | some range =>
    obtain ⟨pointer, hp⟩ := exists_pointer (List.find?_some hf)
    dsimp only
    rw [hp, Option.map_some, Option.getD_some]
    have hsame : Dangling p (candidates p k r) ↔
        range.kind = .pointerToTemplate ∧ p.library.templates[pointer.target]? = none := by
      constructor
      · rintro ⟨range', pointer', h, hk, hp', ht⟩
        cases hf.symm.trans h
        cases hp.symm.trans hp'
        exact ⟨hk, ht⟩
      · rintro ⟨hk, ht⟩
        exact ⟨range, pointer, hf, hk, hp, ht⟩
    rw [hsame]
    by_cases hk : range.kind = .pointerToTemplate
    · rw [if_pos hk]
      cases ht : p.library.templates[pointer.target]? with
      | none => exact ⟨fun ⟨_, h⟩ => (nomatch h), fun h => absurd ⟨hk, rfl⟩ h⟩
      | some t =>
        refine ⟨fun _ h => (nomatch h.2), fun _ => ?_⟩
        dsimp only
        split <;> exact ⟨_, rfl⟩
    · rw [if_neg hk]
      exact ⟨fun _ h => hk h.1, fun _ => ⟨_, rfl⟩⟩

end

/-! ## texts are not empty -/

theorem append_ne_empty {s : String} (hs : s ≠ "") (t : String) : s ++ t ≠ "" :=
  fun h => hs (String.append_eq_empty_iff.1 h).1

section
variable {p : Program}

theorem operand_foundNaming? {f : Found} {n : Naming} (h : foundNaming? f = some n) : n.operand ≠ "" := by
  unfold foundNaming? at h
  split at h
  next =>
    cases h
    exact append_ne_empty (by decide) _
  next =>
    obtain ⟨near, -, rfl⟩ := Option.map_eq_some_iff.1 h
    exact append_ne_empty (append_ne_empty (by decide) _) _

theorem operand_dataNaming? {addr : Int} {n : Naming} (h : dataNaming? p addr = some n) :
    n.operand ≠ "" := by
  unfold dataNaming? at h
  split at h
  next =>
    cases h
    exact append_ne_empty (by decide) _
  next => exact operand_foundNaming? h

theorem operand_localNaming? {func addr : Int} {n : Naming} (h : localNaming? p func addr = some n) :
    n.operand ≠ "" := by
  unfold localNaming? at h
  split at h
  next =>
    obtain ⟨name, -, rfl⟩ := Option.map_eq_some_iff.1 h
    exact append_ne_empty (by decide) _
  next =>
    obtain ⟨table, -, hf⟩ := Option.bind_eq_some_iff.1 h
    exact operand_foundNaming? hf

theorem operand_frameNaming (p : Program) (func frame addr : Int) :
    (frameNaming p func frame addr).operand ≠ "" := by
  unfold frameNaming
  dsimp only
  split
  next =>
    unfold argNaming
    dsimp only
    split <;> exact append_ne_empty (by decide) _
  next =>
    cases h : localNaming? p func addr with
    | none => exact append_ne_empty (by decide) _
    | some n => exact operand_localNaming? h

theorem constLeaf_ne_empty (hp : p.Tidy) (k : Nat) (value : Int) (next : Option Nat) :
    constLeaf p k value next ≠ "" := by
  have hnumber : "0x" ++ Text.hex value ≠ "" := append_ne_empty (by decide) _
  unfold constLeaf
  dsimp only
  split
  next name expected hc =>
    split
    · intro hname
      exact (hp.annotations.labels.constants _ _ hc).1 (by rw [hname]; rfl)
    · exact hnumber
  next =>
    split
    · exact hnumber
    · cases h : dataNaming? p value with
      | none => exact hnumber
      | some n => exact operand_dataNaming? h

end

/-! ## listable code -/

/-- every local address is taken behind some `enter` -/
def Framed (p : Program) : Prop :=
  ∀ (k : Nat) (i : Instruction), p.code[k]? = some i → i.op = .localAddr →
    ∃ j i', j < k ∧ p.code[j]? = some i' ∧ i'.op = .enter

/-- no instruction fails -/
structure Listable (p : Program) : Prop where
  framed : Framed p
  /-- no operation takes more texts than a valid stack has -/
  filled : ∀ (k : Nat) (i : Instruction) (o : Operation) (ts : List String), p.code[k]? = some i →
    i.op.operation? = some o → textsAt p k = some ts → o.arity ≤ ts.length
  /-- no load reads through a pointer to a template that is not there -/
  resolved : ∀ (k : Nat) (i : Instruction) (r : PointerRead), p.code[k]? = some i → isLoad i.op = true →
    p.analysis.pointerReads[(k : Int)]? = some r → ¬ Dangling p (candidates p k r)

section
variable {p : Program} {k : Nat} {i : Instruction}

theorem Framed.enterBefore (h : Framed p) (hi : p.code[k]? = some i) (hop : i.op = .localAddr) :
    (enterBefore p.code k).isSome = true :=
  (enterBefore_isSome_iff (List.getElem?_eq_some_iff.1 hi).1.le).2 (h k i hi hop)

/-- the pointer of a read is a local only in a function -/
theorem Framed.enterBefore_read (h : Framed p) (hc : Complete p.code p.analysis) (hk : k ≤ p.code.length)
    {r : PointerRead} (hr : p.analysis.pointerReads[(k : Int)]? = some r) (hl : r.isLocal = true) :
    (Listing.enterBefore p.code k).isSome = true := by
  obtain ⟨j, i, hj, hi, hop⟩ := hc.reads _ _ hr hl
  obtain ⟨j', i', hlt, hi', hop'⟩ := h j i hi hop
  exact (enterBefore_isSome_iff hk).2 ⟨j', i', by omega, hi', hop'⟩

theorem leafAt_ne_empty (hp : p.Tidy) (hf : Framed p) (hi : p.code[k]? = some i) (hr : i.op.role = .leaf) :
    leafAt p k i ≠ "" := by
  rcases role_leaf hr with hop | hop
  · rw [leafAt, hop]
    exact constLeaf_ne_empty hp _ _ _
  · obtain ⟨f, he⟩ := Option.isSome_iff_exists.1 (hf.enterBefore hi hop)
    rw [leafAt, hop]
    dsimp only
    rw [localLeaf, he]
    exact operand_frameNaming p _ _ _

/-- the last text on a valid stack is never empty -/
theorem head_textsAt (hp : p.Tidy) (hf : Framed p) {ts : List String} (h : textsAt p k = some ts) :
    ts.head? ≠ some "" := by
  induction k generalizing ts with
  | zero =>
    rw [textsAt] at h
    split at h <;> cases h
    exact fun hnone => by cases hnone
  | succ k ih =>
    rw [textsAt] at h
    split at h
    next => cases h
    next =>
      split at h
      next i hi =>
        split at h
        next => cases h; exact fun hnone => by cases hnone
        next =>
          obtain ⟨us, hus, hrec⟩ := Option.bind_eq_some_iff.1 h
          have hrole : (⟨i, leafAt p k i⟩ : Labelled).role = i.op.role := rfl
          unfold recite at hrec
          rw [hrole] at hrec
          cases hr : i.op.role with
          | leaf =>
            rw [hr] at hrec
            cases hrec
            exact fun h => leafAt_ne_empty hp hf hi hr (Option.some.inj h)
          | operation o =>
            rw [hr] at hrec
            dsimp only at hrec
            split at hrec
            next hle =>
              cases hrec
              exact fun h => Operation.render_ne_empty _ (List.length_take_of_le hle) (Option.some.inj h)
            next => cases hrec
          | push | pop | idle =>
            rw [hr] at hrec
            cases hrec
            exact ih hus
          | flow => rw [hr] at hrec; cases hrec
      next => cases h

variable {s s' : State} {e : Entry}

theorem loadNote_ok_iff (hc : Complete p.code p.analysis) (hf : Framed p) (hs : InFrame p k s)
    (hi : p.code[k]? = some i) :
    (∃ note, loadNote p s k i.op = .ok note) ↔
      (isLoad i.op = true → ∀ r, p.analysis.pointerReads[(k : Int)]? = some r →
        ¬ Dangling p (candidates p k r)) := by
  unfold loadNote
  split
  next hl =>
    unfold readNote
    split
    next r hr =>
      have hk : k ≤ p.code.length := (List.getElem?_eq_some_iff.1 hi).1.le
      rw [pointerNote_ok_iff hs fun h => hf.enterBefore_read hc hk hr h]
      exact ⟨fun h _ r' hr' => Option.some.inj (hr.symm.trans hr') ▸ h, fun h => h hl r hr⟩
    next hr => exact ⟨fun _ _ r h => (nomatch hr.symm.trans h), fun _ => ⟨_, rfl⟩⟩
  next hl => exact ⟨fun _ h => absurd h hl, fun _ => ⟨_, rfl⟩⟩

/-- an operation with enough operands, or on an invalid stack, can be done -/
theorem operate_ok (hp : p.Tidy) (hf : Framed p) {o : Operation} (hst : Holds s.stack (textsAt p k))
    (hle : ∀ ts, textsAt p k = some ts → o.arity ≤ ts.length) :
    ∃ stack, operate s.stack (OperandStack.perform (parmOperand i) o) = .ok stack := by
  obtain ⟨ts, v, hs, ht⟩ := hst
  rw [hs]
  cases v with
  | false => exact ⟨_, operate_eq_ok_iff.2 (OperandStack.perform_invalid _ o ts)⟩
  | true =>
    have hne := head_textsAt hp hf ht
    exact ⟨_, operate_eq_ok_iff.2 (OperandStack.perform_valid _ o (hle ts ht) fun _ _ => hne)⟩

/-- an instruction of listable code that finds what it should does not fail -/
theorem exists_shows {file : ByteArray} (hload : p.Loaded file) (hh : p.header.HoldsData file.size)
    (hc : Complete p.code p.analysis) (hp : p.Tidy) (hl : Listable p) (hs : InFrame p k s)
    (hst : Holds s.stack (textsAt p k)) (hi : p.code[k]? = some i) :
    ∃ e s', Shows p k i (nextAt p k) s e s' := by
  by_cases he : i.op = .enter
  · obtain ⟨text, ht⟩ := heading_ok hc hi he
    exact ⟨_, _, .enter he ht⟩
  by_cases hloc : i.op = .localAddr
  · obtain ⟨f, hf⟩ := Option.isSome_iff_exists.1 (hl.framed.enterBefore hi hloc)
    exact ⟨_, _, .local hloc (by rw [hs.2, hf, Option.map_some])⟩
  by_cases hcon : i.op = .const
  · obtain ⟨n, hn⟩ := nextAt_isSome hload hi hcon
    obtain ⟨t, ht⟩ := constantText_ok hload hh k i.parm n
    exact ⟨_, _, .const hcon hn ht⟩
  cases ho : i.op.operation? with
  | none => exact ⟨_, _, .other ho he hloc hcon⟩
  | some o =>
    obtain ⟨stack, hop⟩ := operate_ok (i := i) hp hl.framed hst fun ts => hl.filled k i o ts hi ho
    by_cases hend : i.op.endsStatement = true
    · exact ⟨_, _, .statement ho hend hop⟩
    · obtain ⟨note, hn⟩ := (loadNote_ok_iff hc hl.framed hs hi).2 fun h r => hl.resolved k i r hi h
      exact ⟨_, _, .value ho (Bool.eq_false_iff.2 hend) hn hop⟩

end

/-! ## complete listings -/

section
variable {p : Program} {file : ByteArray}

theorem entries_of_listable (hload : p.Loaded file) (hh : p.header.HoldsData file.size)
    (hc : Complete p.code p.analysis) (hp : p.Tidy) (hl : Listable p) : (entries p).2 = none := by
  have hends := entries_ends p
  cases hw : (entries p).2 with
  | none => rfl
  | some why =>
    -- the instruction that fails would have given an entry
    rw [hw] at hends
    obtain ⟨k, s, hr, ⟨i, hi, hfail⟩ | ⟨hfault, -⟩⟩ := hends
    · obtain ⟨e, s', hsh⟩ :=
        exists_shows hload hh hc hp hl hr.inFrame.arriving (hr.holds hload.dataLength_nonneg) hi
      rw [entry_of_shows hsh] at hfail
      cases hfail
    · exact absurd hload.decoded_ok hfault

/-- the step of each instruction in a listing to the end -/
theorem shows_of_entries (h : (entries p).2 = none) {k : Nat} {i : Instruction} (hi : p.code[k]? = some i) :
    ∃ s e s' es, Reaches p k s es ∧ Shows p k i (nextAt p k) (arriving p k s) e s' := by
  have hends := entries_ends p
  rw [h] at hends
  obtain ⟨-, t, hr⟩ := hends
  have hk : k < (entries p).1.length := hr.length_eq ▸ (List.getElem?_eq_some_iff.1 hi).1
  obtain ⟨s, s', i', es, hr', hi', hsh⟩ := hr.entry_at (List.getElem?_eq_getElem hk)
  cases hi.symm.trans hi'
  exact ⟨s, _, s', es, hr', hsh⟩

theorem framed_of_entries (h : (entries p).2 = none) : Framed p := by
  intro k i hi hop
  obtain ⟨s, e, s', es, hr, hsh⟩ := shows_of_entries h hi
  refine (enterBefore_isSome_iff hr.le_length).1 ?_
  cases hsh with
  | «local» _ hf =>
    have hframe := hr.inFrame.arriving.2
    rw [hf] at hframe
    cases he : enterBefore p.code k with
    | none => rw [he] at hframe; cases hframe
    | some f => rfl
  | enter hop' | const hop' => rw [hop] at hop'; cases hop'
  | statement ho | value ho => rw [hop] at ho; cases ho
  | other _ _ hl => exact absurd hop hl

theorem listable_of_entries (hd : 0 ≤ p.header.dataLength) (hc : Complete p.code p.analysis)
    (h : (entries p).2 = none) : Listable p := by
  refine ⟨framed_of_entries h, fun k i o ts hi ho ht => ?_, fun k i r hi hl hr => ?_⟩
  · obtain ⟨s, e, s', es, hreach, hsh⟩ := shows_of_entries h hi
    obtain ⟨us, v, hst, hus⟩ := hreach.holds hd
    have hm := moves_of_shows hd hreach.inFrame.arriving hst hsh
    unfold Moves at hm
    rw [role_eq_operation ho] at hm
    rw [ht] at hus
    cases v with
    | false => cases hus
    | true =>
      cases hus
      exact hm.1 rfl
  · obtain ⟨s, e, s', es, hreach, hsh⟩ := shows_of_entries h hi
    have hnote : ∃ note, loadNote p (arriving p k s) k i.op = .ok note := by
      cases hsh with
      | value _ _ hn _ => exact ⟨_, hn⟩
      | enter hop | «local» hop | const hop => rw [hop] at hl; cases hl
      | statement _ he _ => rw [not_isLoad_of_endsStatement he] at hl; cases hl
      | other ho => exact absurd ho (operation?_ne_none_of_isLoad hl)
    exact (loadNote_ok_iff hc (framed_of_entries h) hreach.inFrame.arriving hi).1 hnote hl r hr

end

/-- The listing of a program that was loaded from a file with its whole data and literals is printed to
its end exactly when no local address is taken in front of the first `enter`, no operation finds too few
texts on a valid stack and no load reads through a pointer to a template that is not there.  No other
look-up fails. -/
theorem printCode_returns_iff {σ : Type} {d : Directory} {type : Option String} {file : ByteArray}
    {c c' : Console} {p : Program} (hload : Program.load d type file c = (.ok p, c'))
    (hdata : p.header.HoldsData file.size) (replace : Bool) (s : Session σ) :
    (∃ t, printCode p replace s = .ok () t) ↔ Listable p := by
  have hp := Program.load_eq_ok hload
  obtain ⟨w, hw, ht⟩ := hp.walk_ok
  have hc : Complete p.code p.analysis := ht ▸ complete_of_run hw
  rw [printCode_ok_iff]
  exact ⟨listable_of_entries hp.dataLength_nonneg hc,
    entries_of_listable hp hdata hc (Program.tidy_of_load hload)⟩

/-- a member of a structure is read through a pointer and passed on -/
def readingFile : ByteArray :=
  Program.fileOf [⟨.enter, 16⟩, ⟨.const, 0⟩, ⟨.load4, 0⟩, ⟨.const, 4⟩, ⟨.add, 0⟩, ⟨.load4, 0⟩, ⟨.negi, 0⟩,
    ⟨.arg, 8⟩, ⟨.localAddr, 8⟩, ⟨.const, 8⟩, ⟨.store4, 0⟩, ⟨.leave, 16⟩] [1, 2, 3, 4, 5, 6, 7, 8] [72, 105, 0]

/-- the pointer has a name -/
def namingDirectory : Directory := Program.bare.write "symbols.dat" "0x0 *pair_t first\n".toUTF8

/-- and what it points to is described -/
def describingDirectory : Directory :=
  namingDirectory.write "templates.dat" "pair_t \x7b\n int a\n int b\n\x7d\n".toUTF8

theorem printCode_returns_reading :
    (∃ p c, Program.load describingDirectory none readingFile {} = (.ok p, c) ∧
      p.header.HoldsData readingFile.size ∧
      (∃ t, printCode p true (⟨(), {}⟩ : Session Unit) = .ok () t) ∧ Listable p) ∧
    ∃ p c, Program.load namingDirectory none readingFile {} = (.ok p, c) ∧
      p.header.HoldsData readingFile.size ∧ ¬ Listable p := by
  constructor
  · obtain ⟨p, c, hl, ht⟩ := Program.exists_of_loadsWith describingDirectory readingFile
      (fun p => p.header.HoldsData readingFile.size && (entries p).2 = none) (by decide +kernel)
    simp only [Bool.and_eq_true, decide_eq_true_eq] at ht
    have hp := (printCode_ok_iff p true (⟨(), {}⟩ : Session Unit)).2 ht.2
    exact ⟨p, c, hl, ht.1, hp, (printCode_returns_iff hl ht.1 true _).1 hp⟩
  · obtain ⟨p, c, hl, ht⟩ := Program.exists_of_loadsWith namingDirectory readingFile
      (fun p => p.header.HoldsData readingFile.size && (entries p).2.isSome) (by decide +kernel)
    simp only [Bool.and_eq_true, decide_eq_true_eq] at ht
    refine ⟨p, c, hl, ht.1, fun h => ?_⟩
    have hp := (printCode_returns_iff hl ht.1 true (⟨(), {}⟩ : Session Unit)).2 h
    rw [printCode_ok_iff] at hp
    rw [hp] at ht
    cases ht.2

end Disasm.Listing
