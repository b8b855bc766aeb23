import Mathlib
import Disasm.Proofs.FunctionHash
import Disasm.Proofs.Switch
import Disasm.Proofs.Table

/-!
# Pointer reads and switches

The walk finds two patterns by looking back on the instructions that it has passed.  What it files is exactly
what stands in the code.

* `PointerReadAt code k r`  the five instructions from `k` on are the pointer read `r`;
* `Switch.Leads`  an entry of the table of a switch leads into the code;
* `Findings`  the part of a walk that is about patterns, with a step of its own, and `findings_step`: a walk
  changes this part by these steps and nothing else;
* `found`  the switches that end in front of an instruction, in their order;
* `Detected`, `detected_run`  along a walk, the findings are the patterns that have been passed;
* `PatternsExact`, `patterns_exact`  the tables of a program that was loaded.
-/

namespace Disasm

/-! ## the patterns -/

/-- the instructions from `k` on read through a pointer: an address, `load4`, an offset, `add` and a load -/
def PointerReadAt (code : List Instruction) (k : Nat) (r : PointerRead) : Prop :=
  ∃ address load offset add last : Instruction,
    code[k]? = some address ∧ code[k + 1]? = some load ∧ code[k + 2]? = some offset ∧
    code[k + 3]? = some add ∧ code[k + 4]? = some last ∧
    (address.op = .const ∨ address.op = .localAddr) ∧ load.op = .load4 ∧ offset.op = .const ∧ add.op = .add ∧
    last.op ∈ [.load1, .load2, .load4] ∧
    r = ⟨address.op = .localAddr, address.parm, offset.parm⟩

namespace Switch

instance (size : Nat) (s : Switch) : Decidable (s.Checked size) := inferInstanceAs (Decidable (_ ∧ _))

/-- the entry of the table for the case `value` leads to the address `target` in the code -/
def Leads (image : Image) (s : Switch) (value : Int) (target : Nat) : Prop :=
  s.least ≤ value ∧ value ≤ s.greatest ∧ Image.wordAt image.data (s.table + value * 4).toNat = .ok target ∧
    target < image.code.size

end Switch

/-! ## entries of tables -/

/-- an entry of a table that leads into the code -/
structure CaseEntry where
  /-- the jump that ends the switch -/
  jump : Int
  value : Int
  /-- where the entry stands in the data -/
  address : Int
  target : Nat

namespace CaseEntry

/-- the order of entries: by switches, and in a switch by cases -/
def Before (a b : CaseEntry) : Prop :=
  a.jump < b.jump ∨ a.jump = b.jump ∧ a.value < b.value ∧ a.address < b.address

end CaseEntry

namespace Switch

/-- the entry for a case, if it leads into the code -/
def entry? (image : Image) (jump : Int) (s : Switch) (value : Int) : Option CaseEntry :=
  match Image.wordAt image.data (s.table + value * 4).toNat with
  | .ok target => if image.code.size ≤ target then none else some ⟨jump, value, s.table + value * 4, target⟩
  | .error _ => none

/-- the entries for `n` cases from `value` on -/
def entriesFrom (image : Image) (jump : Int) (s : Switch) : Nat → Int → List CaseEntry
  | 0, _ => []
  | n + 1, value => (s.entry? image jump value).toList ++ s.entriesFrom image jump n (value + 1)

def entries (image : Image) (jump : Int) (s : Switch) : List CaseEntry :=
  s.entriesFrom image jump (s.greatest - s.least + 1).toNat s.least

section
variable {image : Image} {jump : Int} {s : Switch} {value : Int} {e : CaseEntry}

theorem entry?_eq_some_iff : s.entry? image jump value = some e ↔
    e.jump = jump ∧ e.value = value ∧ e.address = s.table + value * 4 ∧
      Image.wordAt image.data (s.table + value * 4).toNat = .ok e.target ∧ e.target < image.code.size := by
  unfold entry?
  cases hw : Image.wordAt image.data (s.table + value * 4).toNat with
  | error f =>
    refine ⟨fun h => (by cases h), fun h => ?_⟩
    cases h.2.2.2.1
  | ok target =>
    dsimp only
    by_cases hsize : image.code.size ≤ target
    · rw [if_pos hsize]
      refine ⟨fun h => (by cases h), fun ⟨_, _, _, ht, hlt⟩ => ?_⟩
      cases ht
      omega
    · rw [if_neg hsize]
      constructor
      · intro h
        cases h
        exact ⟨rfl, rfl, rfl, rfl, Nat.lt_of_not_le hsize⟩
      · rintro ⟨hj, hv, ha, ht, -⟩
        cases ht
        rw [← hj, ← ha, ← hv]

theorem mem_entriesFrom {n : Nat} : e ∈ s.entriesFrom image jump n value ↔
    value ≤ e.value ∧ e.value < value + n ∧ s.entry? image jump e.value = some e := by
  induction n generalizing value with
  | zero =>
    refine ⟨fun h => (by cases h), fun ⟨hle, hlt, _⟩ => ?_⟩
    simp only [Nat.cast_zero, add_zero] at hlt
    omega
  | succ n ih =>
    rw [entriesFrom, List.mem_append, ih, Option.mem_toList]
    constructor
    · rintro (h | ⟨hle, hlt, h⟩)
      · have hv := (entry?_eq_some_iff.1 h).2.1
        rw [hv]
        exact ⟨le_refl _, by omega, h⟩
      · exact ⟨by omega, by push_cast; omega, h⟩
    · rintro ⟨hle, hlt, h⟩
      push_cast at hlt
      rcases eq_or_lt_of_le hle with hv | hv
      · exact .inl (hv ▸ h)
      · exact .inr ⟨by omega, by omega, h⟩

theorem mem_entries : e ∈ s.entries image jump ↔
    e.jump = jump ∧ e.address = s.table + e.value * 4 ∧ s.Leads image e.value e.target := by
  unfold entries Leads
  rw [mem_entriesFrom, entry?_eq_some_iff]
  constructor
  · rintro ⟨hle, hlt, hj, -, ha, hw, hc⟩
    exact ⟨hj, ha, hle, by omega, hw, hc⟩
  · rintro ⟨hj, ha, hle, hge, hw, hc⟩
    exact ⟨hle, by omega, hj, rfl, ha, hw, hc⟩

theorem pairwise_entriesFrom (image : Image) (jump : Int) (s : Switch) (n : Nat) (value : Int) :
    (s.entriesFrom image jump n value).Pairwise CaseEntry.Before := by
  induction n generalizing value with
  | zero => exact List.Pairwise.nil
  | succ n ih =>
    rw [entriesFrom, List.pairwise_append]
    refine ⟨?_, ih (value + 1), fun a ha b hb => ?_⟩
    · cases s.entry? image jump value with
      | none => exact List.Pairwise.nil
      | some e => exact List.pairwise_singleton _ e
    · obtain ⟨haj, hav, haa, -⟩ := entry?_eq_some_iff.1 (Option.mem_toList.1 ha)
      obtain ⟨hle, -, hb⟩ := mem_entriesFrom.1 hb
      obtain ⟨hbj, -, hba, -⟩ := entry?_eq_some_iff.1 hb
      exact .inr ⟨haj.trans hbj.symm, by omega, by omega⟩

end
end Switch

/-! ## the findings of a walk -/

/-- what a walk has found -/
structure Findings where
  pointerReads : Std.TreeMap Int PointerRead
  switches : Std.TreeMap Int Switch
  switchStarts : List Int
  switchData : Std.TreeMap Int (List Int)
  cases : Std.TreeMap Int (List (Int × Int))

/-- the pointer read that an instruction completes -/
def readBy? (i : Instruction) (past : List Instruction) : Option PointerRead :=
  if i.op ∈ [.load1, .load2, .load4] then Walk.pointerRead? past else none

/-- the switch that an instruction completes -/
def endedBy? (i : Instruction) (past : List Instruction) : Option Switch :=
  if i.op = .jump then Walk.switch? past else none

/-- the switch that an instruction completes, if it makes sense -/
def switchBy? (image : Image) (i : Instruction) (past : List Instruction) : Option Switch :=
  if i.op = .jump then (Walk.switch? past).filter fun s => s.Checked image.data.size else none

namespace Findings

def addRead (index : Int) (f : Findings) (r : PointerRead) : Findings :=
  { f with pointerReads := f.pointerReads.insert index r }

def addEntry (f : Findings) (e : CaseEntry) : Findings :=
  { f with
    switchData := append f.switchData e.address e.jump
    cases := append f.cases e.target (e.jump, e.value) }

def startSwitch (index : Int) (f : Findings) (s : Switch) : Findings :=
  { f with
    switchStarts := f.switchStarts ++ [index - 15]
    switches := f.switches.insert index s }

def addSwitch (image : Image) (index : Int) (f : Findings) (s : Switch) : Findings :=
  (s.entries image index).foldl addEntry (f.startSwitch index s)

/-- what an instruction completes is added -/
def visit (image : Image) (index : Int) (past : List Instruction) (i : Instruction) (f : Findings) : Findings :=
  (switchBy? image i past).elim ((readBy? i past).elim f (f.addRead index)) (f.addSwitch image index)

end Findings

namespace Walk

def findings (w : Walk) : Findings :=
  ⟨w.tables.pointerReads, w.tables.switches, w.tables.switchStarts, w.tables.switchData, w.tables.cases⟩

theorem findings_foldl_warn (texts : List String) (w : Walk) : (texts.foldl warn w).findings = w.findings := by
  induction texts generalizing w with
  | nil => rfl
  | cons t texts ih =>
    rw [List.foldl_cons, ih]
    rfl

/-- a case is added as its entry, if it has one -/
theorem findings_addCase {image : Image} {w : Walk} {s : Switch} {value : Int} {target : Nat}
    (h : Image.wordAt image.data (s.table + value * 4).toNat = .ok target) :
    (addCase image.code.size w s value target).findings =
      (s.entry? image w.index value).toList.foldl Findings.addEntry w.findings := by
  unfold addCase Switch.entry?
  rw [h]
  dsimp only
  split <;> rfl

theorem findings_addCases {image : Image} {s : Switch} {n : Nat} {value : Int} {w : Walk}
    (h : (addCases image s n value w).2 = none) :
    (addCases image s n value w).1.findings =
      (s.entriesFrom image w.index n value).foldl Findings.addEntry w.findings := by
  induction n generalizing value w with
  | zero => rfl
  | succ n ih =>
    unfold addCases at h ⊢
    split at h
    next target ht =>
      rw [ih h, findings_addCase ht, (SwitchesOnly.addCase _ w s value target).index_eq, Switch.entriesFrom,
        List.foldl_append]
    next => cases h

theorem findings_addSwitch {image : Image} {s : Switch} {w : Walk} (h : (w.addSwitch image s).2 = none) :
    (w.addSwitch image s).1.findings =
      if s.Checked image.data.size then w.findings.addSwitch image w.index s else w.findings := by
  have hchecked := switchProblems_eq_nil_iff w.index image.data.size s
  unfold addSwitch at h ⊢
  split at h
  next hnil =>
    rw [if_pos (hchecked.1 hnil), findings_addCases h]
    rfl
  next hsome =>
    rw [if_neg fun hc => hsome (hchecked.2 hc)]
    exact findings_foldl_warn _ w

theorem findings_visitJump {image : Image} {w : Walk} (hconst : w.prev.op = .const → switch? w.ops.tail = none)
    (h : (w.visitJump image).2 = none) :
    (w.visitJump image).1.findings =
      ((switch? w.ops.tail).filter fun s => s.Checked image.data.size).elim w.findings
        (w.findings.addSwitch image w.index) := by
  unfold visitJump at h ⊢
  by_cases hprev : w.prev.op = .const
  · rw [if_pos hprev, hconst hprev]
    rfl
  · rw [if_neg hprev] at h ⊢
    cases hs : switch? w.ops.tail with
    | none => rfl
    | some s =>
      rw [hs] at h
      dsimp only at h ⊢
      rw [findings_addSwitch h, Option.filter_some]
      by_cases hc : s.Checked image.data.size
      · rw [if_pos hc, if_pos (decide_eq_true hc)]
        rfl
      · rw [if_neg hc, if_neg (by simpa using hc)]
        rfl

theorem findings_addPointerRead (w : Walk) :
    w.addPointerRead.findings = (pointerRead? w.ops.tail).elim w.findings (w.findings.addRead w.index) := by
  unfold addPointerRead
  split
  next r hr => rw [hr]; rfl
  next hr => rw [hr]; rfl

theorem findings_startFunction (w : Walk) : w.startFunction.findings = w.findings := by
  unfold startFunction
  dsimp only
  split <;> rfl

theorem findings_visitCall (w : Walk) : w.visitCall.findings = w.findings := by
  unfold visitCall
  split <;> rfl

theorem findings_visit {image : Image} {i : Instruction} {w : Walk}
    (hconst : w.prev.op = .const → switch? w.ops.tail = none) (h : (visit image i w).2 = none) :
    (visit image i w).1.findings = w.findings.visit image w.index w.ops.tail i := by
  unfold Findings.visit readBy? switchBy?
  unfold visit at h ⊢
  split at h
  next hop => rw [hop]; rfl
  next hop => rw [hop]; rfl
  next hop => rw [hop]; exact findings_addPointerRead w
  next hop => rw [hop]; exact findings_addPointerRead w
  next hop => rw [hop]; exact findings_addPointerRead w
  next hop => rw [hop]; exact findings_startFunction w
  next hop => rw [hop]; exact findings_visitJump hconst h
  next hop => rw [hop]; exact findings_visitCall w
  next hpop harg hl1 hl2 hl4 henter hjump hcall =>
    have hload : i.op ∉ [.load1, .load2, .load4] := by
      simp only [List.mem_cons, List.not_mem_nil, or_false, not_or]
      exact ⟨hl1, hl2, hl4⟩
    rw [if_neg hjump, if_neg hload]
    split <;> rfl

/-- one instruction -/
theorem findings_step {past : List Instruction} {image : Image} {i : Instruction} {w : Walk} (hp : Passed past w)
    (h : (step image i w).2 = none) : (step image i w).1.findings = w.findings.visit image w.index past i := by
  refine (findings_visit (w := counted i w) hp.switch?_of_const h).trans ?_
  show w.findings.visit image w.index w.ops i = _
  unfold Findings.visit switchBy? readBy?
  rw [hp.switch?_eq, hp.ops_eq, pointerRead?_sinceEnter]

end Walk

/-! ## patterns in the code -/

section
variable {code : List Instruction} {k : Nat} {i : Instruction}

/-- the pointer read that the instruction at `j` completes -/
def readEnding? (code : List Instruction) (j : Nat) : Option PointerRead :=
  (code[j]?).bind fun i => readBy? i (code.take j).reverse

/-- the switch that the instruction at `j` completes, if it makes sense -/
def switchEnding? (image : Image) (code : List Instruction) (j : Nat) : Option Switch :=
  (code[j]?).bind fun i => switchBy? image i (code.take j).reverse

/-- the switch that the instruction at `j` completes, whether it makes sense or not -/
def completed? (code : List Instruction) (j : Nat) : Option Switch :=
  (code[j]?).bind fun i => endedBy? i (code.take j).reverse

theorem readEnding?_eq (hi : code[k]? = some i) : readEnding? code k = readBy? i (code.take k).reverse := by
  rw [readEnding?, hi, Option.bind_some]

theorem switchEnding?_eq (image : Image) (hi : code[k]? = some i) :
    switchEnding? image code k = switchBy? image i (code.take k).reverse := by
  rw [switchEnding?, hi, Option.bind_some]

theorem completed?_eq (hi : code[k]? = some i) : completed? code k = endedBy? i (code.take k).reverse := by
  rw [completed?, hi, Option.bind_some]

theorem readEnding?_eq_some_iff {j : Nat} {r : PointerRead} :
    readEnding? code j = some r ↔ ∃ k, j = k + 4 ∧ PointerReadAt code k r := by
  constructor
  · intro h
    obtain ⟨last, hlast, h⟩ := Option.bind_eq_some_iff.1 h
    have hlen := (List.getElem?_eq_some_iff.1 hlast).1
    unfold readBy? at h
    split at h
    next hop =>
      obtain ⟨address, load, offset, add, rest, hpast, hpattern⟩ := Walk.pointerRead?_eq_some_iff.1 h
      have h4 : 4 ≤ j := by
        have := congrArg List.length hpast
        rw [List.length_reverse, List.length_take] at this
        simp only [List.length_cons] at this
        omega
      obtain ⟨k, rfl⟩ : ∃ k, j = k + 4 := ⟨j - 4, by omega⟩
      have hget : ∀ n < 4, ∃ x, code[k + n]? = some x :=
        fun n hn => ⟨_, List.getElem?_eq_getElem (by omega)⟩
      obtain ⟨x0, h0⟩ := hget 0 (by decide)
      obtain ⟨x1, h1⟩ := hget 1 (by decide)
      obtain ⟨x2, h2⟩ := hget 2 (by decide)
      obtain ⟨x3, h3⟩ := hget 3 (by decide)
      rw [reverse_take_succ h3, reverse_take_succ h2, reverse_take_succ h1, reverse_take_succ h0] at hpast
      simp only [List.cons.injEq] at hpast
      obtain ⟨rfl, rfl, rfl, rfl, -⟩ := hpast
      obtain ⟨ha, hl, ho, hadd, hr⟩ := hpattern
      exact ⟨k, rfl, x0, x1, x2, x3, last, h0, h1, h2, h3, hlast, ha, hl, ho, hadd, hop, hr⟩
    next => cases h
  · rintro ⟨k, rfl, address, load, offset, add, last, h0, h1, h2, h3, h4, ha, hl, ho, hadd, hop, hr⟩
    rw [readEnding?_eq h4, readBy?, if_pos hop, Walk.pointerRead?_eq_some_iff, reverse_take_succ h3,
      reverse_take_succ h2, reverse_take_succ h1, reverse_take_succ h0]
    exact ⟨address, load, offset, add, _, rfl, ha, hl, ho, hadd, hr⟩

theorem completed?_eq_some_iff {j : Nat} {s : Switch} :
    completed? code j = some s ↔ ∃ k, j = k + 15 ∧ SwitchAt code k s := by
  constructor
  · intro h
    obtain ⟨i, hi, h⟩ := Option.bind_eq_some_iff.1 h
    unfold endedBy? at h
    split at h
    next hop => exact (Walk.switch?_eq_some_iff hi hop).1 h
    next => cases h
  · rintro ⟨k, rfl, hat⟩
    obtain ⟨i, hi, hop⟩ := hat.jump
    rw [completed?_eq hi, endedBy?, if_pos hop]
    exact (Walk.switch?_eq_some_iff hi hop).2 ⟨k, rfl, hat⟩

theorem switchEnding?_eq_filter (image : Image) (code : List Instruction) (j : Nat) :
    switchEnding? image code j = (completed? code j).filter fun s => s.Checked image.data.size := by
  unfold switchEnding? completed?
  cases code[j]? with
  | none => rfl
  | some i =>
    dsimp only [Option.bind_some]
    unfold switchBy? endedBy?
    split <;> rfl

theorem switchEnding?_eq_some_iff {image : Image} {j : Nat} {s : Switch} :
    switchEnding? image code j = some s ↔
      ∃ k, j = k + 15 ∧ SwitchAt code k s ∧ s.Checked image.data.size := by
  rw [switchEnding?_eq_filter, Option.filter_eq_some_iff, completed?_eq_some_iff, decide_eq_true_iff]
  constructor
  · rintro ⟨⟨k, hk, hat⟩, hc⟩
    exact ⟨k, hk, hat, hc⟩
  · rintro ⟨k, hk, hat, hc⟩
    exact ⟨⟨k, hk, hat⟩, hc⟩

/-! ## the switches of the code -/

/-- the switches that end in front of `k`, with the jumps that end them -/
def found (image : Image) (code : List Instruction) (k : Nat) : List (Nat × Switch) :=
  (List.range k).filterMap fun j => (switchEnding? image code j).map fun s => (j, s)

theorem mem_found {image : Image} {j : Nat} {s : Switch} :
    (j, s) ∈ found image code k ↔ j < k ∧ switchEnding? image code j = some s := by
  unfold found
  simp only [List.mem_filterMap, List.mem_range, Option.map_eq_some_iff, Prod.mk.injEq]
  constructor
  · rintro ⟨j', hj, s', hs, rfl, rfl⟩
    exact ⟨hj, hs⟩
  · rintro ⟨hj, hs⟩
    exact ⟨j, hj, s, hs, rfl, rfl⟩

theorem found_succ (image : Image) (code : List Instruction) (k : Nat) :
    found image code (k + 1) = found image code k ++ ((switchEnding? image code k).map fun s => (k, s)).toList := by
  unfold found
  rw [List.range_succ, List.filterMap_append]
  cases h : switchEnding? image code k <;> simp [h]

theorem pairwise_found (image : Image) (code : List Instruction) (k : Nat) :
    (found image code k).Pairwise fun a b => a.1 < b.1 := by
  unfold found
  rw [List.pairwise_filterMap]
  refine List.pairwise_lt_range.imp ?_
  intro a b hab x hx y hy
  obtain ⟨s, -, rfl⟩ := Option.map_eq_some_iff.1 hx
  obtain ⟨s', -, rfl⟩ := Option.map_eq_some_iff.1 hy
  exact hab

/-- the entries of all these switches -/
def caseEntries (image : Image) (code : List Instruction) (k : Nat) : List CaseEntry :=
  (found image code k).flatMap fun f => f.2.entries image f.1

theorem mem_caseEntries {image : Image} {e : CaseEntry} :
    e ∈ caseEntries image code k ↔ ∃ j s, (j, s) ∈ found image code k ∧
      e.jump = j ∧ e.address = s.table + e.value * 4 ∧ s.Leads image e.value e.target := by
  unfold caseEntries
  simp only [List.mem_flatMap, Switch.mem_entries, Prod.exists]

theorem pairwise_caseEntries (image : Image) (code : List Instruction) (k : Nat) :
    (caseEntries image code k).Pairwise CaseEntry.Before := by
  unfold caseEntries
  rw [List.pairwise_flatMap]
  refine ⟨fun f _ => Switch.pairwise_entriesFrom image f.1 f.2 _ _, ?_⟩
  refine (pairwise_found image code k).imp ?_
  intro f g hfg a ha b hb
  left
  rw [(Switch.mem_entries.1 ha).1, (Switch.mem_entries.1 hb).1]
  exact Int.ofNat_lt.2 hfg

end

/-! ## along a walk -/

namespace Findings

theorem foldl_addEntry (es : List CaseEntry) (f : Findings) :
    (es.foldl addEntry f).pointerReads = f.pointerReads ∧ (es.foldl addEntry f).switches = f.switches ∧
      (es.foldl addEntry f).switchStarts = f.switchStarts := by
  induction es generalizing f with
  | nil => exact ⟨rfl, rfl, rfl⟩
  | cons e es ih => exact ih (f.addEntry e)

/-- the findings list some entries, by their places in the data and by their targets -/
def Lists (f : Findings) (es : List CaseEntry) : Prop :=
  Groups f.switchData CaseEntry.address CaseEntry.jump es ∧
    Groups f.cases (fun e => (e.target : Int)) (fun e => (e.jump, e.value)) es

theorem Lists.foldl {f : Findings} {es : List CaseEntry} (h : f.Lists es) (fs : List CaseEntry) :
    (fs.foldl addEntry f).Lists (es ++ fs) := by
  induction fs generalizing f es with
  | nil =>
    rw [List.append_nil]
    exact h
  | cons e fs ih =>
    rw [List.foldl_cons, List.append_cons]
    exact ih ⟨h.1.concat e, h.2.concat e⟩

end Findings

/-- the findings are the patterns that end in front of `k` -/
structure Detected (image : Image) (code : List Instruction) (k : Nat) (f : Findings) : Prop where
  reads : Tabulates f.pointerReads (readEnding? code) k
  switches : Tabulates f.switches (switchEnding? image code) k
  starts : f.switchStarts = (found image code k).map fun x => (x.1 : Int) - 15
  lists : f.Lists (caseEntries image code k)

namespace Detected
variable {image : Image} {code : List Instruction} {k : Nat} {f : Findings} {i : Instruction}

theorem start (image : Image) (code : List Instruction) : Detected image code 0 ({ tables := {} } : Walk).findings :=
  ⟨.empty, .empty, rfl, .empty, .empty⟩

theorem found_of_none (hs : switchEnding? image code k = none) :
    found image code (k + 1) = found image code k := by
  rw [found_succ, hs]
  exact List.append_nil _

theorem caseEntries_of_none (hs : switchEnding? image code k = none) :
    caseEntries image code (k + 1) = caseEntries image code k := by
  unfold caseEntries
  rw [found_of_none hs]

theorem skip (h : Detected image code k f) (hr : readEnding? code k = none)
    (hs : switchEnding? image code k = none) : Detected image code (k + 1) f where
  reads := h.reads.skip hr
  switches := h.switches.skip hs
  starts := by
    rw [found_of_none hs]
    exact h.starts
  lists := by
    rw [caseEntries_of_none hs]
    exact h.lists

theorem addRead (h : Detected image code k f) {r : PointerRead} (hr : readEnding? code k = some r)
    (hs : switchEnding? image code k = none) : Detected image code (k + 1) (f.addRead k r) where
  reads := h.reads.insert hr
  switches := h.switches.skip hs
  starts := by
    rw [found_of_none hs]
    exact h.starts
  lists := by
    rw [caseEntries_of_none hs]
    exact h.lists

theorem addSwitch (h : Detected image code k f) {s : Switch} (hr : readEnding? code k = none)
    (hs : switchEnding? image code k = some s) : Detected image code (k + 1) (f.addSwitch image k s) := by
  obtain ⟨hreads, hswitches, hstarts⟩ := Findings.foldl_addEntry (s.entries image k) (f.startSwitch k s)
  have hfound : found image code (k + 1) = found image code k ++ [(k, s)] := by
    rw [found_succ, hs]
    rfl
  refine ⟨?_, ?_, ?_, ?_⟩
  · unfold Findings.addSwitch
    rw [hreads]
    exact h.reads.skip hr
  · unfold Findings.addSwitch
    rw [hswitches]
    exact h.switches.insert hs
  · unfold Findings.addSwitch
    rw [hstarts, hfound, List.map_append, ← h.starts]
    rfl
  · have hentries : caseEntries image code (k + 1) = caseEntries image code k ++ s.entries image k := by
      unfold caseEntries
      rw [hfound, List.flatMap_append, List.flatMap_singleton]
    rw [hentries]
    exact Findings.Lists.foldl (f := f.startSwitch k s) h.lists (s.entries image k)

/-- one instruction -/
theorem visit (h : Detected image code k f) (hi : code[k]? = some i) :
    Detected image code (k + 1) (f.visit image k (code.take k).reverse i) := by
  unfold Findings.visit
  rw [← readEnding?_eq hi, ← switchEnding?_eq image hi]
  cases hs : switchEnding? image code k with
  | none =>
    cases hr : readEnding? code k with
    | none => exact h.skip hr hs
    | some r => exact h.addRead hr hs
  | some s =>
    -- a jump is no load
    have hr : readEnding? code k = none := by
      rw [switchEnding?_eq image hi] at hs
      unfold switchBy? at hs
      split at hs
      next hop => rw [readEnding?_eq hi, readBy?, hop, if_neg (by decide)]
      next => cases hs
    exact h.addSwitch hr hs

end Detected

/-- all instructions -/
theorem detected_run {image : Image} {code : List Instruction} {w : Walk}
    (hrun : Walk.run image code { tables := {} } = (w, none)) : Detected image code code.length w.findings := by
  refine Walk.run_inv_at (I := fun k w => Detected image code k w.findings) (Detected.start image code) ?_ hrun
  intro k i v hindex hpast hv hi hfault
  rw [Walk.findings_step hpast hfault, hindex]
  exact hv.visit hi

/-! ## the tables of a program -/

/-- the list under a key holds the things with a property, in order; a key with an empty list does not exist -/
def InOrder {α : Type} (lt : α → α → Prop) (listed : Option (List α)) (P : α → Prop) : Prop :=
  (listed.getD []).Pairwise lt ∧ (∀ x, x ∈ listed.getD [] ↔ P x) ∧ listed ≠ some []

/-- the tables of patterns hold what stands in the code -/
structure PatternsExact (p : Program) : Prop where
  reads : ∀ (i : Int) (r : PointerRead),
    p.analysis.pointerReads[i]? = some r ↔ ∃ k : Nat, i = k + 4 ∧ PointerReadAt p.code k r
  switches : ∀ (i : Int) (s : Switch),
    p.analysis.switches[i]? = some s ↔
      ∃ k : Nat, i = k + 15 ∧ SwitchAt p.code k s ∧ s.Checked p.image.data.size
  starts : p.analysis.switchStarts.Pairwise (· < ·) ∧
    ∀ i : Int, i ∈ p.analysis.switchStarts ↔ i + 15 ∈ p.analysis.switches
  /-- under an address in the data: the switches with an entry there that leads into the code -/
  data : ∀ d : Int, InOrder (· < ·) p.analysis.switchData[d]? fun i =>
    ∃ s value target, p.analysis.switches[i]? = some s ∧ d = s.table + value * 4 ∧ s.Leads p.image value target
  /-- under an address in the code: the switches and cases that lead to it -/
  cases : ∀ a : Int, InOrder (fun x y => x.1 < y.1 ∨ x.1 = y.1 ∧ x.2 < y.2) p.analysis.cases[a]? fun x =>
    ∃ (s : Switch) (target : Nat), p.analysis.switches[x.1]? = some s ∧ a = target ∧ s.Leads p.image x.2 target
  /-- the instructions since the last `enter` are enough to find every pattern -/
  current : ∀ k : Nat,
    Walk.switch? (sinceEnter (p.code.take k).reverse) = Walk.switch? (p.code.take k).reverse ∧
      Walk.pointerRead? (sinceEnter (p.code.take k).reverse) = Walk.pointerRead? (p.code.take k).reverse

namespace Detected
variable {image : Image} {code : List Instruction} {f : Findings}

/-- the switch that a table has for a jump is the one that was found there -/
theorem switches_iff_found (h : Detected image code code.length f) {i : Int} {s : Switch} :
    f.switches[i]? = some s ↔ ∃ j : Nat, i = j ∧ (j, s) ∈ found image code code.length := by
  rw [h.switches i s]
  simp only [mem_found]

theorem switches_iff (h : Detected image code code.length f) (i : Int) (s : Switch) :
    f.switches[i]? = some s ↔ ∃ k : Nat, i = k + 15 ∧ SwitchAt code k s ∧ s.Checked image.data.size := by
  rw [h.switches i s]
  simp only [switchEnding?_eq_some_iff]
  constructor
  · rintro ⟨j, rfl, -, k, rfl, hat⟩
    exact ⟨k, by push_cast; rfl, hat⟩
  · rintro ⟨k, rfl, hat⟩
    obtain ⟨i, hi, -⟩ := hat.1.jump
    exact ⟨k + 15, by push_cast; rfl, (List.getElem?_eq_some_iff.1 hi).1, k, rfl, hat⟩

theorem reads_iff (h : Detected image code code.length f) (i : Int) (r : PointerRead) :
    f.pointerReads[i]? = some r ↔ ∃ k : Nat, i = k + 4 ∧ PointerReadAt code k r := by
  rw [h.reads i r]
  simp only [readEnding?_eq_some_iff]
  constructor
  · rintro ⟨j, rfl, -, k, rfl, hat⟩
    exact ⟨k, by push_cast; rfl, hat⟩
  · rintro ⟨k, rfl, hat⟩
    have hlast : k + 4 < code.length := by
      obtain ⟨-, -, -, -, last, -, -, -, -, hlast, -⟩ := hat
      exact (List.getElem?_eq_some_iff.1 hlast).1
    exact ⟨k + 4, by push_cast; rfl, hlast, k, rfl, hat⟩

theorem starts_iff (h : Detected image code code.length f) :
    f.switchStarts.Pairwise (· < ·) ∧ ∀ i : Int, i ∈ f.switchStarts ↔ i + 15 ∈ f.switches := by
  rw [h.starts]
  constructor
  · rw [List.pairwise_map]
    refine (pairwise_found image code code.length).imp ?_
    intro a b hab
    omega
  · intro i
    rw [List.mem_map, ← Std.TreeMap.isSome_getElem?_iff_mem, Option.isSome_iff_exists]
    simp only [h.switches_iff_found, Prod.exists]
    constructor
    · rintro ⟨j, s, hmem, rfl⟩
      exact ⟨s, j, by omega, hmem⟩
    · rintro ⟨s, j, hj, hmem⟩
      exact ⟨j, s, hmem, by omega⟩

theorem mem_entries_iff (h : Detected image code code.length f) {e : CaseEntry} :
    e ∈ caseEntries image code code.length ↔
      ∃ s, f.switches[e.jump]? = some s ∧ e.address = s.table + e.value * 4 ∧ s.Leads image e.value e.target := by
  rw [mem_caseEntries]
  simp only [h.switches_iff_found]
  constructor
  · rintro ⟨j, s, hmem, hj, hrest⟩
    exact ⟨s, ⟨j, hj, hmem⟩, hrest⟩
  · rintro ⟨s, ⟨j, hj, hmem⟩, hrest⟩
    exact ⟨j, s, hmem, hj, hrest⟩

theorem data_inOrder (h : Detected image code code.length f) (d : Int) :
    InOrder (· < ·) f.switchData[d]? fun i =>
      ∃ s value target, f.switches[i]? = some s ∧ d = s.table + value * 4 ∧ s.Leads image value target := by
  obtain ⟨hlist, hne⟩ := h.lists.1 d
  refine ⟨?_, fun i => ?_, hne⟩
  · rw [hlist, List.pairwise_map, List.pairwise_filter]
    refine (pairwise_caseEntries image code code.length).imp ?_
    intro a b hab ha hb
    have ha := of_decide_eq_true ha
    have hb := of_decide_eq_true hb
    -- entries of one switch stand at different addresses
    rcases hab with hlt | ⟨-, -, hlt⟩
    · exact hlt
    · omega
  · rw [hlist]
    simp only [List.mem_map, List.mem_filter, decide_eq_true_eq, h.mem_entries_iff]
    constructor
    · rintro ⟨e, ⟨⟨s, hs, ha, hl⟩, hd⟩, rfl⟩
      exact ⟨s, e.value, e.target, hs, hd ▸ ha, hl⟩
    · rintro ⟨s, value, target, hs, hd, hl⟩
      exact ⟨⟨i, value, d, target⟩, ⟨⟨s, hs, hd, hl⟩, rfl⟩, rfl⟩

theorem cases_inOrder (h : Detected image code code.length f) (a : Int) :
    InOrder (fun x y => x.1 < y.1 ∨ x.1 = y.1 ∧ x.2 < y.2) f.cases[a]? fun x =>
      ∃ (s : Switch) (target : Nat), f.switches[x.1]? = some s ∧ a = target ∧ s.Leads image x.2 target := by
  obtain ⟨hlist, hne⟩ := h.lists.2 a
  refine ⟨?_, fun x => ?_, hne⟩
  · rw [hlist, List.pairwise_map, List.pairwise_filter]
    refine (pairwise_caseEntries image code code.length).imp ?_
    intro b c hbc _ _
    rcases hbc with hlt | ⟨heq, hlt, -⟩
    · exact .inl hlt
    · exact .inr ⟨heq, hlt⟩
  · rw [hlist]
    simp only [List.mem_map, List.mem_filter, decide_eq_true_eq, h.mem_entries_iff]
    constructor
    · rintro ⟨e, ⟨⟨s, hs, -, hl⟩, ha⟩, rfl⟩
      exact ⟨s, e.target, hs, ha.symm, hl⟩
    · rintro ⟨s, target, hs, rfl, hl⟩
      exact ⟨⟨x.1, x.2, s.table + x.2 * 4, target⟩, ⟨⟨s, hs, rfl, hl⟩, rfl⟩, rfl⟩

end Detected

namespace Program

/-- The tables of a program that was loaded hold exactly the pointer reads and the switches of its code, and
for every switch the entries of its table that lead into the code. -/
theorem patterns_exact {d : Directory} {type : Option String} {file : ByteArray} {c c' : Console} {p : Program}
    (hload : load d type file c = (.ok p, c')) : PatternsExact p := by
  obtain ⟨w, hw, ht⟩ := (load_eq_ok hload).walk_ok
  have h := detected_run hw
  have hreads : p.analysis.pointerReads = w.findings.pointerReads := by rw [ht]; rfl
  have hswitches : p.analysis.switches = w.findings.switches := by rw [ht]; rfl
  have hstarts : p.analysis.switchStarts = w.findings.switchStarts := by rw [ht]; rfl
  have hdata : p.analysis.switchData = w.findings.switchData := by rw [ht]; rfl
  have hcases : p.analysis.cases = w.findings.cases := by rw [ht]; rfl
  refine ⟨?_, ?_, ?_, ?_, ?_, fun k => ⟨Walk.switch?_sinceEnter _, Walk.pointerRead?_sinceEnter _⟩⟩
  · rw [hreads]
    exact h.reads_iff
  · rw [hswitches]
    exact h.switches_iff
  · rw [hstarts, hswitches]
    exact h.starts_iff
  · rw [hdata, hswitches]
    exact h.data_inOrder
  · rw [hcases, hswitches]
    exact h.cases_inOrder

/-- a switch over two cases -/
def twoCases (out : Int) : List Instruction :=
  [⟨.localAddr, 16⟩, ⟨.load4, 0⟩, ⟨.const, 0⟩, ⟨.lti, out⟩, ⟨.localAddr, 16⟩, ⟨.load4, 0⟩, ⟨.const, 1⟩, ⟨.gti, out⟩,
    ⟨.localAddr, 16⟩, ⟨.load4, 0⟩, ⟨.const, 2⟩, ⟨.lsh, 0⟩, ⟨.const, 0⟩, ⟨.add, 0⟩, ⟨.load4, 0⟩, ⟨.jump, 0⟩]

/-- a pointer read, and two switches with one table, whose second entry leads out of the code -/
def patternsFile : ByteArray :=
  fileOf ([⟨.enter, 24⟩, ⟨.const, 8⟩, ⟨.load4, 0⟩, ⟨.const, 4⟩, ⟨.add, 0⟩, ⟨.load4, 0⟩, ⟨.pop, 0⟩] ++ twoCases 39 ++
    twoCases 39 ++ [⟨.leave, 24⟩]) [39, 0, 0, 0, 255, 255, 0, 0] []

theorem patterns_exact_shared :
    ∃ p c, load bare none patternsFile {} = (.ok p, c) ∧ PatternsExact p ∧
      p.analysis.pointerReads[(5 : Int)]? = some ⟨false, 8, 4⟩ ∧ p.analysis.switchStarts = [7, 23] ∧
      p.analysis.switchData[(0 : Int)]? = some [22, 38] ∧ p.analysis.switchData[(4 : Int)]? = none ∧
      p.analysis.cases[(39 : Int)]? = some [(22, 0), (38, 0)] := by
  obtain ⟨p, c, hl, ht⟩ := exists_of_loadsWith bare patternsFile
    (fun p => p.analysis.pointerReads[(5 : Int)]? = some ⟨false, 8, 4⟩ && p.analysis.switchStarts = [7, 23] &&
      p.analysis.switchData[(0 : Int)]? = some [22, 38] && p.analysis.switchData[(4 : Int)]? = none &&
      p.analysis.cases[(39 : Int)]? = some [(22, 0), (38, 0)]) (by decide +kernel)
  simp only [Bool.and_eq_true, decide_eq_true_eq] at ht
  obtain ⟨⟨⟨⟨hread, hstarts⟩, hfirst⟩, hsecond⟩, hcases⟩ := ht
  exact ⟨p, c, hl, patterns_exact hl, hread, hstarts, hfirst, hsecond, hcases⟩

end Program
end Disasm
