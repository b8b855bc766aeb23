import Mathlib
import Disasm.Proofs.Analysis

/-!
# Switches in the code

A walk can fail only at the end of a switch whose table it starts to read.

* `Switch.Checked`  what the walk asks of a switch before it reads its table;
* `Switch.Readable`  a switch that passes has its last entry inside the data;
* `SwitchAt code k s`  the sixteen instructions from `k` on are the switch `s`;
* `run_fault_iff`  a walk comes to its end exactly when all switches in the code are readable.
-/

namespace Disasm

/-! ## tables -/

theorem wordAt_ok_iff (bytes : Array UInt8) (i : Nat) :
    (∃ n, Image.wordAt bytes i = .ok n) ↔ i + 4 ≤ bytes.size := by
  have hlen : (bytes.extract i (i + 4)).toList.length = min (i + 4) bytes.size - i := by
    rw [Array.length_toList, Array.size_extract]
  unfold Image.wordAt
  constructor
  · rintro ⟨n, h⟩
    generalize (bytes.extract i (i + 4)).toList = bs at h hlen
    unfold unsignedWord? at h
    split at h
    next n hn =>
      split at hn
      next =>
        simp only [List.length_cons, List.length_nil] at hlen
        omega
      next => cases hn
    next => cases h
  · intro h
    have h4 : (bytes.extract i (i + 4)).toList.length = 4 := by omega
    obtain ⟨b0, b1, b2, b3, hb⟩ := List.length_eq_four.1 h4
    rw [hb]
    exact ⟨_, rfl⟩

namespace Switch

/-- the address of the entry for the least case -/
def firstEntry (s : Switch) : Int := s.table + s.least * 4

/-- the address of the entry for the greatest case -/
def lastEntry (s : Switch) : Int := s.table + s.greatest * 4

/-- the cases are in order and the first and the last entry start inside `size` bytes of data -/
def Checked (size : Nat) (s : Switch) : Prop :=
  0 ≤ s.least ∧ s.least ≤ s.greatest ∧ (0 ≤ s.firstEntry ∧ s.firstEntry < size) ∧
    0 ≤ s.lastEntry ∧ s.lastEntry < size

/-- a table that is read ends inside `size` bytes of data -/
def Readable (size : Nat) (s : Switch) : Prop := s.Checked size → s.lastEntry + 4 ≤ size

end Switch

namespace Walk

theorem switchProblems_eq_nil_iff (index : Int) (size : Nat) (s : Switch) :
    switchProblems index size s = [] ↔ s.Checked size := by
  have hone : ∀ (c : Prop) [Decidable c] (text : String), (if c then [text] else []) = [] ↔ ¬ c := by
    intro c _ text
    by_cases h : c <;> simp [h]
  unfold switchProblems Switch.Checked Switch.firstEntry Switch.lastEntry
  simp only [List.append_eq_nil_iff, hone]
  omega

/-- the entries of `n` cases can all be read -/
theorem addCases_fault_iff (image : Image) (s : Switch) (n : Nat) (value : Int) (w : Walk) :
    (addCases image s n value w).2 = none ↔
      ∀ j < n, (s.table + (value + (j : Int)) * 4).toNat + 4 ≤ image.data.size := by
  induction n generalizing value w with
  | zero => exact ⟨fun _ j hj => absurd hj (Nat.not_lt_zero j), fun _ => rfl⟩
  | succ n ih =>
    have hword := wordAt_ok_iff image.data (s.table + value * 4).toNat
    -- the first entry, and the cases behind it
    have hsplit : (∀ j < n + 1, (s.table + (value + (j : Int)) * 4).toNat + 4 ≤ image.data.size) ↔
        (s.table + value * 4).toNat + 4 ≤ image.data.size ∧
          ∀ j < n, (s.table + (value + 1 + (j : Int)) * 4).toNat + 4 ≤ image.data.size := by
      constructor
      · intro h
        refine ⟨?_, fun j hj => ?_⟩
        · simpa using h 0 (Nat.succ_pos n)
        · have := h (j + 1) (by omega)
          push_cast at this
          rwa [show value + ((j : Int) + 1) = value + 1 + j by ring] at this
      · rintro ⟨h0, h⟩ j hj
        cases j with
        | zero => simpa using h0
        | succ j =>
          push_cast
          rw [show value + ((j : Int) + 1) = value + 1 + j by ring]
          exact h j (by omega)
    rw [hsplit, ← hword]
    unfold addCases
    split
    next target ht =>
      rw [ih]
      exact ⟨fun h => ⟨⟨target, ht⟩, h⟩, fun h => h.2⟩
    next f hf =>
      refine ⟨fun h => (by cases h), ?_⟩
      rintro ⟨⟨n, hn⟩, -⟩
      rw [hf] at hn
      cases hn

theorem addSwitch_fault_iff (image : Image) (s : Switch) (w : Walk) :
    (w.addSwitch image s).2 = none ↔ s.Readable image.data.size := by
  unfold addSwitch Switch.Readable
  split
  next hnil =>
    have hc := (switchProblems_eq_nil_iff _ _ _).1 hnil
    rw [addCases_fault_iff]
    unfold Switch.Checked Switch.firstEntry Switch.lastEntry at *
    constructor
    · intro h _
      have := h (s.greatest - s.least).toNat (by omega)
      omega
    · intro h j hj
      have := h hc
      omega
  next hsome =>
    refine ⟨fun _ hc => absurd ((switchProblems_eq_nil_iff _ _ _).2 hc) hsome, fun _ => rfl⟩

end Walk

/-! ## sixteen instructions -/

/-- the opcodes of a switch -/
def switchOpcodes : List Opcode :=
  [.localAddr, .load4, .const, .lti, .localAddr, .load4, .const, .gti, .localAddr, .load4, .const, .lsh,
    .const, .add, .load4, .jump]

/-- the instructions from `k` on are a switch -/
def SwitchAt (code : List Instruction) (k : Nat) (s : Switch) : Prop :=
  ((code.drop k).take 16).map Instruction.op = switchOpcodes ∧
    s = ⟨(code.getD (k + 2) default).parm, (code.getD (k + 6) default).parm,
      (code.getD (k + 12) default).parm⟩

/-- a switch ends in a jump -/
theorem SwitchAt.jump {code : List Instruction} {k : Nat} {s : Switch} (h : SwitchAt code k s) :
    ∃ i, code[k + 15]? = some i ∧ i.op = .jump := by
  have hlast := congrArg (fun ops => ops[15]?) h.1
  simp only [List.getElem?_map] at hlast
  rw [List.getElem?_take_of_lt (by decide), List.getElem?_drop] at hlast
  exact Option.map_eq_some_iff.1 hlast

namespace Walk

variable {code : List Instruction}

/-- the instructions before the address `j`, the last one first -/
theorem getD_past {i j : Nat} (hi : i < 15) (hj : 15 ≤ j) (hlen : j ≤ code.length) :
    ((code.take j).reverse.take 15).getD i default = code.getD (j - 1 - i) default := by
  have hj' : (code.take j).length = j := by
    rw [List.length_take]
    omega
  rw [List.getD_eq_getElem?_getD, List.getElem?_take_of_lt hi, List.getElem?_reverse (by omega), hj',
    List.getElem?_take_of_lt (by omega), List.getD_eq_getElem?_getD]

/-- the instructions that a jump looks back on are those of a switch that it ends -/
theorem pattern_iff {k : Nat} {i : Instruction} (hi : code[k + 15]? = some i) (hop : i.op = .jump) :
    ((code.take (k + 15)).reverse.take 15).map Instruction.op = switchPattern ↔
      ((code.drop k).take 16).map Instruction.op = switchOpcodes := by
  have hlen : k + 15 < code.length := (List.getElem?_eq_some_iff.1 hi).1
  have hback : (code.take (k + 15)).reverse.take 15 = ((code.drop k).take 15).reverse := by
    rw [List.take_reverse, List.length_take, List.drop_take, show min (k + 15) code.length - 15 = k by omega,
      Nat.add_sub_cancel_left]
  have hjump : (code.drop k).take 16 = (code.drop k).take 15 ++ [i] := by
    rw [List.take_add_one, List.getElem?_drop, hi]
    rfl
  have hops : switchOpcodes = switchPattern.reverse ++ [.jump] := rfl
  rw [hback, hjump, List.map_reverse, List.map_append, hops, List.map_singleton, hop, List.append_left_inj,
    List.reverse_eq_iff]

/-- the switch that the jump at `j` completes -/
theorem switch?_eq_some_iff {j : Nat} {i : Instruction} {s : Switch} (hi : code[j]? = some i)
    (hop : i.op = .jump) :
    switch? (code.take j).reverse = some s ↔ ∃ k, j = k + 15 ∧ SwitchAt code k s := by
  have hlen : j < code.length := (List.getElem?_eq_some_iff.1 hi).1
  unfold switch?
  dsimp only
  constructor
  · intro h
    split at h
    next hpat =>
      have h15 : 15 ≤ j := by
        have := congrArg List.length hpat
        rw [List.length_map, List.length_take, List.length_reverse, List.length_take] at this
        have hp : switchPattern.length = 15 := rfl
        omega
      obtain ⟨k, rfl⟩ : ∃ k, j = k + 15 := ⟨j - 15, by omega⟩
      refine ⟨k, rfl, (pattern_iff hi hop).1 hpat, ?_⟩
      rw [← Option.some.inj h, getD_past (by decide) h15 hlen.le, getD_past (by decide) h15 hlen.le,
        getD_past (by decide) h15 hlen.le]
      rfl
    next => cases h
  · rintro ⟨k, rfl, hops, rfl⟩
    have h15 : 15 ≤ k + 15 := Nat.le_add_left 15 k
    rw [if_pos ((pattern_iff hi hop).2 hops), getD_past (by decide) h15 hlen.le,
      getD_past (by decide) h15 hlen.le, getD_past (by decide) h15 hlen.le]
    rfl

/-! ## the walk -/

/-- no pattern reaches over the start of a function -/
theorem switch?_sinceEnter (past : List Instruction) : switch? (sinceEnter past) = switch? past := by
  unfold switch? sinceEnter
  dsimp only
  rw [List.take_takeWhile]
  have hlen : (past.take 15).length ≤ 15 := List.length_take_le 15 past
  generalize past.take 15 = before at hlen
  by_cases hself : before.takeWhile (fun i => i.op != .enter) = before
  · rw [hself]
  · rw [if_neg, if_neg]
    · intro hpat
      refine hself (List.takeWhile_eq_self_iff.2 fun i hi => ?_)
      have hmem : i.op ∈ switchPattern := hpat ▸ List.mem_map_of_mem hi
      rw [bne_iff_ne]
      intro hop
      rw [hop] at hmem
      exact absurd hmem (by decide)
    · intro hpat
      refine hself ((List.takeWhile_prefix _).eq_of_length_le ?_)
      have := congrArg List.length hpat
      rw [List.length_map] at this
      rw [this]
      exact hlen

/-- the last instruction of the pattern is a load -/
theorem switch?_of_const {prev : Instruction} (hop : prev.op = .const) (rest : List Instruction) :
    switch? (prev :: rest) = none := by
  unfold switch?
  dsimp only
  rw [if_neg]
  intro h
  rw [List.take_succ_cons, List.map_cons, hop] at h
  cases h

section
variable {past : List Instruction} {w : Walk} (h : Passed past w)
include h

theorem Passed.switch?_eq : switch? w.ops = switch? past := by rw [h.ops_eq, switch?_sinceEnter]

theorem Passed.switch?_of_const (hconst : w.prev.op = .const) : switch? w.ops = none := by
  rw [h.switch?_eq]
  rw [h.prev_eq] at hconst
  cases past with
  | nil => cases hconst
  | cons prev rest => exact Walk.switch?_of_const hconst rest

end

theorem visit_jump (image : Image) {i : Instruction} (w : Walk) (hop : i.op = .jump) :
    visit image i w = w.visitJump image := by
  unfold visit
  rw [hop]

theorem visit_other (image : Image) {i : Instruction} (w : Walk) (hop : i.op ≠ .jump) : (visit image i w).2 = none := by
  unfold visit
  split
  next => rfl
  next => rfl
  next => rfl
  next => rfl
  next => rfl
  next => rfl
  next h => exact absurd h hop
  next => rfl
  next => split <;> rfl

/-- only a jump can fail, at the table of a switch -/
theorem visit_fault_iff (image : Image) (i : Instruction) {w : Walk}
    (hconst : w.prev.op = .const → switch? w.ops.tail = none) :
    (visit image i w).2 = none ↔
      (i.op = .jump → ∀ s, switch? w.ops.tail = some s → s.Readable image.data.size) := by
  by_cases hop : i.op = .jump
  · rw [visit_jump image w hop]
    unfold visitJump
    by_cases hprev : w.prev.op = .const
    · rw [if_pos hprev, hconst hprev]
      exact ⟨fun _ _ s hs => (by cases hs), fun _ => rfl⟩
    · rw [if_neg hprev]
      cases hs : switch? w.ops.tail with
      | none => exact ⟨fun _ _ s h => (by cases h), fun _ => rfl⟩
      | some s =>
        dsimp only
        rw [addSwitch_fault_iff]
        exact ⟨fun h _ s' hs' => Option.some.inj hs' ▸ h, fun h => h hop s rfl⟩
  · exact ⟨fun _ h => absurd h hop, fun _ => visit_other image w hop⟩

/-- one instruction, and the walk behind it -/
theorem run_cons_fault_iff (image : Image) (i : Instruction) (rest : List Instruction) (w : Walk) :
    (run image (i :: rest) w).2 = none ↔
      (visit image i (counted i w)).2 = none ∧ (run image rest (step image i w).1).2 = none := by
  have hfault : (step image i w).2 = (visit image i (counted i w)).2 := rfl
  rw [← hfault, run]
  generalize step image i w = r
  obtain ⟨v, fault⟩ := r
  cases fault with
  | none => exact ⟨fun h => ⟨rfl, h⟩, fun h => h.2⟩
  | some f => exact ⟨fun h => (by cases h), fun h => (by cases h.1)⟩

/-- the walk from the instruction `k` on comes to its end exactly when all switches that end there or later
are readable -/
theorem run_fault_iff_from (image : Image) {rest : List Instruction} {k : Nat} {w : Walk}
    (hpast : Passed (code.take k).reverse w) (hrest : code.drop k = rest) :
    (run image rest w).2 = none ↔
      ∀ j s, k ≤ j + 15 → SwitchAt code j s → s.Readable image.data.size := by
  induction rest generalizing k w with
  | nil =>
    refine ⟨fun _ j s hj hs => ?_, fun _ => rfl⟩
    -- no instruction is left that could end a switch
    obtain ⟨i, hi, -⟩ := hs.jump
    have hlen := (List.getElem?_eq_some_iff.1 hi).1
    have := List.drop_eq_nil_iff.1 hrest
    omega
  | cons i rest ih =>
    have hi : code[k]? = some i := by
      rw [← List.head?_drop, hrest]
      rfl
    have hrest' : code.drop (k + 1) = rest := by
      rw [← List.tail_drop, hrest]
      rfl
    have hpast' := reverse_take_succ hi ▸ hpast.step image i
    rw [run_cons_fault_iff, ih hpast' hrest', visit_fault_iff (w := counted i w) image i hpast.switch?_of_const]
    show (i.op = .jump → ∀ s, switch? w.ops = some s → _) ∧ _ ↔ _
    rw [hpast.switch?_eq]
    constructor
    · rintro ⟨hhere, hlater⟩ j s hj hs
      rcases Nat.eq_or_lt_of_le hj with hk | hk
      · subst hk
        obtain ⟨i', hi', hop⟩ := hs.jump
        rw [hi] at hi'
        cases hi'
        exact hhere hop s ((switch?_eq_some_iff hi hop).2 ⟨j, rfl, hs⟩)
      · exact hlater j s hk hs
    · intro h
      refine ⟨fun hop s hs => ?_, fun j s hj hs => h j s (by omega) hs⟩
      obtain ⟨j, hj, hat⟩ := (switch?_eq_some_iff hi hop).1 hs
      exact h j s hj.le hat

/-- a walk over the whole code comes to its end exactly when all switches in it are readable -/
theorem run_fault_iff (image : Image) (code : List Instruction) (tables : Analysis) :
    (run image code { tables }).2 = none ↔ ∀ k s, SwitchAt code k s → s.Readable image.data.size := by
  rw [run_fault_iff_from (k := 0) image (Passed.start tables) List.drop_zero]
  exact ⟨fun h k s hs => h k s (Nat.zero_le _) hs, fun h k s _ hs => h k s hs⟩

end Walk
end Disasm
