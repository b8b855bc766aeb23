import Mathlib
import Disasm.Proofs.Patterns
import Disasm.Proofs.WellFormed

/-!
# Reading the tables of switches

Before the walk reads the table of a switch it checks where the first and the last entry start, and it does not
check where the last one ends.

* `Switch.Checked.holdsWord`  a table that passes can be read but for its last entry, and `holdsWord_iff` says
  when that one can be read as well;
* `Switch.complaints`, `complaintsBefore`  what is said about a switch, and about all switches in front of an
  address;
* `run_fault_eq`  a walk ends early for one reason only;
* `reported_run`  what a walk says;
* `SwitchRefused`, `SwitchAccepted`  what becomes of a switch;
* `AnalysisSafety`, `analyse_safe`  when analysing a program comes to its end, and what it makes of its switches.
-/

namespace Disasm

/-! ## tables that pass -/

/-- a whole word stands at an address -/
def HoldsWord (bytes : Array UInt8) (a : Int) : Prop := 0 ≤ a ∧ ∃ word, Image.wordAt bytes a.toNat = .ok word

theorem holdsWord_iff (bytes : Array UInt8) (a : Int) : HoldsWord bytes a ↔ 0 ≤ a ∧ a + 4 ≤ bytes.size := by
  unfold HoldsWord
  rw [wordAt_ok_iff]
  omega

namespace Switch
variable {bytes : Array UInt8} {s : Switch} {value : Int}

/-- every entry but the last -/
theorem Checked.holdsWord (h : s.Checked bytes.size) (hle : s.least ≤ value) (hlt : value < s.greatest) :
    HoldsWord bytes (s.table + value * 4) := by
  obtain ⟨-, -, ⟨hfirst, -⟩, -, hlast⟩ := h
  unfold firstEntry at hfirst
  unfold lastEntry at hlast
  rw [holdsWord_iff]
  omega

/-- all entries, if the last one ends inside the data -/
theorem Checked.holdsWord_of_last (h : s.Checked bytes.size) (hlast : HoldsWord bytes s.lastEntry)
    (hle : s.least ≤ value) (hge : value ≤ s.greatest) : HoldsWord bytes (s.table + value * 4) := by
  rcases eq_or_lt_of_le hge with rfl | hlt
  · exact hlast
  · exact h.holdsWord hle hlt

theorem readable_iff : s.Readable bytes.size ↔ (s.Checked bytes.size → HoldsWord bytes s.lastEntry) := by
  refine imp_congr_right fun hchecked => ?_
  rw [holdsWord_iff]
  exact (and_iff_right hchecked.2.2.2.1).symm

/-- data and tables of whole words -/
theorem Checked.holdsWord_of_dvd (h : s.Checked bytes.size) (hsize : 4 ∣ bytes.size) (htable : 4 ∣ s.table) :
    HoldsWord bytes s.lastEntry := by
  obtain ⟨-, -, -, hlast, hend⟩ := h
  rw [holdsWord_iff]
  unfold lastEntry at *
  omega

end Switch

/-! ## the only fault -/

theorem wordAt_eq_error {bytes : Array UInt8} {i : Nat} {f : Fault} (h : Image.wordAt bytes i = .error f) :
    f = .badWord := by
  unfold Image.wordAt at h
  split at h
  next => cases h
  next =>
    cases h
    rfl

namespace Walk
variable {image : Image} {f : Fault}

theorem addCases_fault_eq {s : Switch} {n : Nat} {value : Int} {w : Walk}
    (h : (addCases image s n value w).2 = some f) : f = .badWord := by
  induction n generalizing value w with
  | zero => cases h
  | succ n ih =>
    unfold addCases at h
    split at h
    next => exact ih h
    next hword =>
      cases h
      exact wordAt_eq_error hword

theorem addSwitch_fault_eq {s : Switch} {w : Walk} (h : (w.addSwitch image s).2 = some f) : f = .badWord := by
  unfold addSwitch at h
  split at h
  next => exact addCases_fault_eq h
  next => cases h

theorem visitJump_fault_eq {w : Walk} (h : (w.visitJump image).2 = some f) : f = .badWord := by
  unfold visitJump at h
  split at h
  next => cases h
  next =>
    split at h
    next => exact addSwitch_fault_eq h
    next => cases h

theorem visit_fault_eq {i : Instruction} {w : Walk} (h : (visit image i w).2 = some f) : f = .badWord := by
  by_cases hop : i.op = .jump
  · rw [visit_jump image w hop] at h
    exact visitJump_fault_eq h
  · rw [visit_other image w hop] at h
    cases h

/-- all instructions -/
theorem run_fault_eq {code : List Instruction} {w : Walk} (h : (run image code w).2 = some f) : f = .badWord := by
  induction code generalizing w with
  | nil => cases h
  | cons i rest ih =>
    unfold run at h
    split at h
    next => exact ih h
    next v g hstep =>
      cases h
      exact visit_fault_eq (congrArg Prod.snd hstep)

end Walk

/-! ## what is said about switches -/

namespace Switch

/-- the text for an entry that leads out of the code -/
def stray? (image : Image) (jump : Int) (s : Switch) (value : Int) : Option String :=
  match Image.wordAt image.data (s.table + value * 4).toNat with
  | .ok target =>
    if image.code.size ≤ target then
      some ("invalid switch target address at 0x" ++ Text.hex jump ++ ": 0x" ++ Text.hex target)
    else none
  | .error _ => none

/-- the texts for `n` cases from `value` on -/
def straysFrom (image : Image) (jump : Int) (s : Switch) : Nat → Int → List String
  | 0, _ => []
  | n + 1, value => (s.stray? image jump value).toList ++ s.straysFrom image jump n (value + 1)

/-- what is said about the switch that ends at `jump` -/
def complaints (image : Image) (jump : Int) (s : Switch) : List String :=
  if s.Checked image.data.size then s.straysFrom image jump (s.greatest - s.least + 1).toNat s.least
  else Walk.switchProblems jump image.data.size s

end Switch

/-- what is said about the switches that end in front of `k` -/
def complaintsBefore (image : Image) (code : List Instruction) (k : Nat) : List String :=
  (List.range k).flatMap fun j => (completed? code j).elim [] (Switch.complaints image j)

theorem complaintsBefore_succ (image : Image) (code : List Instruction) (k : Nat) :
    complaintsBefore image code (k + 1) =
      complaintsBefore image code k ++ (completed? code k).elim [] (Switch.complaints image k) := by
  unfold complaintsBefore
  rw [List.range_succ, List.flatMap_append, List.flatMap_singleton]

theorem complaints_subset (image : Image) {code : List Instruction} {k : Nat} {s : Switch} (h : SwitchAt code k s) :
    s.complaints image (k + 15 : Nat) ⊆ complaintsBefore image code code.length := by
  intro text htext
  obtain ⟨i, hi, -⟩ := h.jump
  refine List.mem_flatMap.2 ⟨k + 15, List.mem_range.2 (List.getElem?_eq_some_iff.1 hi).1, ?_⟩
  rw [completed?_eq_some_iff.2 ⟨k, rfl, h⟩]
  exact htext

namespace Walk

/-- the warnings, the first one first -/
def reported (w : Walk) : List String := w.warnings.reverse

theorem reported_warn (w : Walk) (text : String) : (w.warn text).reported = w.reported ++ [text] :=
  List.reverse_cons

theorem reported_foldl_warn (texts : List String) (w : Walk) :
    (texts.foldl warn w).reported = w.reported ++ texts := by
  induction texts generalizing w with
  | nil => exact (List.append_nil _).symm
  | cons text texts ih => rw [List.foldl_cons, ih, reported_warn, List.append_cons w.reported text texts]

section
variable {image : Image} {s : Switch} {w : Walk}

theorem reported_addCase {value : Int} {target : Nat}
    (h : Image.wordAt image.data (s.table + value * 4).toNat = .ok target) :
    (addCase image.code.size w s value target).reported = w.reported ++ (s.stray? image w.index value).toList := by
  unfold addCase Switch.stray?
  rw [h]
  dsimp only
  split
  next => exact reported_warn w _
  next => exact (List.append_nil _).symm

theorem reported_addCases {n : Nat} {value : Int} (h : (addCases image s n value w).2 = none) :
    (addCases image s n value w).1.reported = w.reported ++ s.straysFrom image w.index n value := by
  induction n generalizing value w with
  | zero => exact (List.append_nil _).symm
  | succ n ih =>
    unfold addCases at h ⊢
    split at h
    next target ht =>
      rw [ih h, reported_addCase ht, (SwitchesOnly.addCase _ w s value target).index_eq, List.append_assoc]
      rfl
    next => cases h

theorem reported_addSwitch (h : (w.addSwitch image s).2 = none) :
    (w.addSwitch image s).1.reported = w.reported ++ s.complaints image w.index := by
  have hchecked := switchProblems_eq_nil_iff w.index image.data.size s
  unfold Switch.complaints
  unfold addSwitch at h ⊢
  split at h
  next hnil =>
    rw [if_pos (hchecked.1 hnil)]
    exact reported_addCases h
  next hsome =>
    rw [if_neg fun hc => hsome (hchecked.2 hc)]
    exact reported_foldl_warn _ w

theorem reported_visitJump (hconst : w.prev.op = .const → switch? w.ops.tail = none)
    (h : (w.visitJump image).2 = none) :
    (w.visitJump image).1.reported =
      w.reported ++ (switch? w.ops.tail).elim [] (Switch.complaints image w.index) := by
  unfold visitJump at h ⊢
  by_cases hprev : w.prev.op = .const
  · rw [if_pos hprev, hconst hprev]
    exact (List.append_nil _).symm
  · rw [if_neg hprev] at h ⊢
    cases hs : switch? w.ops.tail with
    | none => exact (List.append_nil _).symm
    | some s =>
      rw [hs] at h
      exact reported_addSwitch h

/-- one instruction -/
theorem reported_step {past : List Instruction} {i : Instruction} (hp : Passed past w) (h : (step image i w).2 = none) :
    (step image i w).1.reported = w.reported ++ (endedBy? i past).elim [] (Switch.complaints image w.index) := by
  show (visit image i (counted i w)).1.reported = _
  change (visit image i (counted i w)).2 = none at h
  unfold endedBy?
  by_cases hop : i.op = .jump
  · rw [if_pos hop, ← hp.switch?_eq]
    rw [visit_jump image _ hop] at h ⊢
    exact reported_visitJump hp.switch?_of_const h
  · -- no other instruction says anything
    rw [if_neg hop]
    refine Eq.trans ?_ (List.append_nil _).symm
    unfold visit
    split
    next => rfl
    next => rfl
    next => unfold addPointerRead; split <;> rfl
    next => unfold addPointerRead; split <;> rfl
    next => unfold addPointerRead; split <;> rfl
    next => unfold startFunction; dsimp only; split <;> rfl
    next hjump => exact absurd hjump hop
    next => unfold visitCall; split <;> rfl
    next => split <;> rfl

end

/-- all instructions -/
theorem reported_run {image : Image} {code : List Instruction} {tables : Analysis} {w : Walk}
    (hrun : run image code { tables } = (w, none)) : w.reported = complaintsBefore image code code.length := by
  refine run_inv_at (I := fun k w => w.reported = complaintsBefore image code k) rfl ?_ hrun
  intro k i v hindex hpast hv hi hfault
  rw [reported_step hpast hfault, hv, hindex, ← completed?_eq hi, complaintsBefore_succ]

end Walk

/-! ## what becomes of a switch -/

/-- A switch that fails a check, and that ends at `jump`: all that is wrong with it is said, and nothing is
filed for it. -/
structure SwitchRefused (image : Image) (jump : Int) (s : Switch) (said : List String) (t : Analysis) : Prop where
  unchecked : ¬ s.Checked image.data.size
  problem : Walk.switchProblems jump image.data.size s ≠ []
  told : Walk.switchProblems jump image.data.size s ⊆ said
  switches : jump ∉ t.switches
  starts : jump - 15 ∉ t.switchStarts
  data : ∀ d : Int, jump ∉ t.switchData[d]?.getD []
  cases : ∀ a value : Int, (jump, value) ∉ t.cases[a]?.getD []

/-- A switch that passes all checks, and that ends at `jump`: it is filed, and each entry of its table is a
whole word of the data. -/
structure SwitchAccepted (image : Image) (jump : Int) (s : Switch) (t : Analysis) : Prop where
  checked : s.Checked image.data.size
  switches : t.switches[jump]? = some s
  starts : jump - 15 ∈ t.switchStarts
  words : ∀ value, s.least ≤ value → value ≤ s.greatest → HoldsWord image.data (s.table + value * 4)

theorem SwitchAt.unique {code : List Instruction} {k : Nat} {s s' : Switch} (h : SwitchAt code k s)
    (h' : SwitchAt code k s') : s = s' := h.2.trans h'.2.symm

section
variable {image : Image} {code : List Instruction} {w : Walk} {k : Nat} {s : Switch}

theorem switchRefused_of_run (hrun : Walk.run image code { tables := {} } = (w, none)) (hat : SwitchAt code k s)
    (hchecked : ¬ s.Checked image.data.size) :
    SwitchRefused image (k + 15 : Nat) s (complaintsBefore image code code.length) w.endFunction.tables := by
  have hdetected := detected_run hrun
  have hnone : ∀ s', w.findings.switches[((k + 15 : Nat) : Int)]? ≠ some s' := by
    intro s' hs'
    obtain ⟨k', hk, hat', hchecked'⟩ := (hdetected.switches_iff _ _).1 hs'
    obtain rfl : k = k' := by omega
    exact hchecked (hat.unique hat' ▸ hchecked')
  have hswitches : ((k + 15 : Nat) : Int) ∉ w.findings.switches := by
    rw [← Std.TreeMap.isSome_getElem?_iff_mem, Option.isSome_iff_exists]
    rintro ⟨s', hs'⟩
    exact hnone s' hs'
  refine ⟨hchecked, ?_, ?_, hswitches, ?_, ?_, ?_⟩
  · exact mt (Walk.switchProblems_eq_nil_iff _ _ _).1 hchecked
  · have hsubset := complaints_subset image hat
    unfold Switch.complaints at hsubset
    rwa [if_neg hchecked] at hsubset
  · intro hmem
    have := (hdetected.starts_iff.2 _).1 hmem
    rw [Int.sub_add_cancel] at this
    exact hswitches this
  · intro d hmem
    obtain ⟨s', -, -, hs', -⟩ := ((hdetected.data_inOrder d).2.1 _).1 hmem
    exact hnone s' hs'
  · intro a value hmem
    obtain ⟨s', -, hs', -⟩ := ((hdetected.cases_inOrder a).2.1 _).1 hmem
    exact hnone s' hs'

theorem switchAccepted_of_run (hrun : Walk.run image code { tables := {} } = (w, none)) (hat : SwitchAt code k s)
    (hchecked : s.Checked image.data.size) : SwitchAccepted image (k + 15 : Nat) s w.endFunction.tables := by
  have hdetected := detected_run hrun
  have hswitch : w.findings.switches[((k + 15 : Nat) : Int)]? = some s :=
    (hdetected.switches_iff _ _).2 ⟨k, by push_cast; rfl, hat, hchecked⟩
  have hlast : HoldsWord image.data s.lastEntry := by
    have hend : (Walk.run image code { tables := {} }).2 = none := by rw [hrun]
    exact Switch.readable_iff.1 ((Walk.run_fault_iff image code {}).1 hend k s hat) hchecked
  refine ⟨hchecked, hswitch, ?_, ?_⟩
  · refine (hdetected.starts_iff.2 _).2 ?_
    rw [Int.sub_add_cancel, ← Std.TreeMap.isSome_getElem?_iff_mem, hswitch]
    rfl
  · intro value hle hge
    exact hchecked.holdsWord_of_last hlast hle hge

end

/-! ## analysing a program -/

namespace Program

/-- what analysing makes of the switches of the code -/
structure AnalysisSafety (s : Session Program) : Prop where
  /-- it comes to its end exactly when the last entry of every table that passes is a whole word -/
  ok_iff : (∃ t, analyse s = .ok () t) ↔ ∀ k sw, SwitchAt s.state.code k sw →
    sw.Checked s.state.image.data.size → HoldsWord s.state.image.data sw.lastEntry
  /-- the other entries always are -/
  words : ∀ k sw, SwitchAt s.state.code k sw → sw.Checked s.state.image.data.size →
    ∀ value, sw.least ≤ value → value < sw.greatest → HoldsWord s.state.image.data (sw.table + value * 4)
  /-- and so are all entries if data and tables consist of whole words -/
  aligned : 4 ∣ s.state.image.data.size → (∀ k sw, SwitchAt s.state.code k sw → 4 ∣ sw.table) →
    ∃ t, analyse s = .ok () t
  fault : ∀ f t, analyse s = .error f t → f = .badWord
  said : ∀ t, analyse s = .ok () t → t.console =
    (complaintsBefore s.state.image s.state.code s.state.code.length).foldl (fun c text => c.warn text) s.console
  switches : ∀ t, analyse s = .ok () t → ∀ k sw, SwitchAt s.state.code k sw →
    SwitchRefused s.state.image (k + 15 : Nat) sw
        (complaintsBefore s.state.image s.state.code s.state.code.length) t.state.analysis ∨
      SwitchAccepted s.state.image (k + 15 : Nat) sw t.state.analysis

theorem analyse_ok_iff {s : Session Program} (hf : s.state.image.decoded.fault = none) :
    (∃ t, analyse s = .ok () t) ↔ ∀ k sw, SwitchAt s.state.code k sw →
      sw.Checked s.state.image.data.size → HoldsWord s.state.image.data sw.lastEntry := by
  have hreadable : (Walk.run s.state.image s.state.code { tables := s.state.analysis }).2 = none ↔
      ∀ k sw, SwitchAt s.state.code k sw → sw.Checked s.state.image.data.size →
        HoldsWord s.state.image.data sw.lastEntry := by
    rw [Walk.run_fault_iff]
    simp only [Switch.readable_iff]
  rw [← hreadable]
  constructor
  · rintro ⟨t, ht⟩
    obtain ⟨-, w, hw, -⟩ := analyse_eq_ok ht
    rw [hw]
  · exact analyse_ok hf

theorem analyse_fault_eq {s t : Session Program} {f : Fault} (hf : s.state.image.decoded.fault = none)
    (h : analyse s = .error f t) : f = .badWord := by
  cases hrun : Walk.run s.state.image s.state.code { tables := s.state.analysis } with
  | mk w fault =>
    cases fault with
    | none =>
      rw [analyse_of_ok hf hrun] at h
      cases h
    | some g =>
      obtain ⟨t', ht'⟩ := analyse_of_fault hrun
      rw [ht'] at h
      cases h
      exact Walk.run_fault_eq (congrArg Prod.snd hrun)

/-- Code that can be decoded is analysed to its end exactly when no table that passes the checks ends in a part
of a word.  Each switch then either fails a check, which is said, and is left out, or it passes and all its entries
are words of the data. -/
theorem analyse_safe (s : Session Program) (hdecoded : s.state.image.decoded.fault = none)
    (hnew : s.state.analysis = {}) : AnalysisSafety s := by
  have hiff := analyse_ok_iff hdecoded
  have hrun : ∀ t, analyse s = .ok () t → ∃ w, Walk.run s.state.image s.state.code { tables := {} } = (w, none) ∧
      t = ⟨{ s.state with analysis := w.endFunction.tables },
        w.reported.foldl (fun c text => c.warn text) s.console⟩ := by
    intro t ht
    obtain ⟨-, w, hw, -⟩ := analyse_eq_ok ht
    rw [analyse_of_ok hdecoded hw] at ht
    cases ht
    exact ⟨w, hnew ▸ hw, rfl⟩
  refine ⟨hiff, ?_, ?_, ?_, ?_, ?_⟩
  · intro k sw _ hchecked value hle hlt
    exact hchecked.holdsWord hle hlt
  · intro hsize htable
    rw [hiff]
    intro k sw hat hchecked
    exact hchecked.holdsWord_of_dvd hsize (htable k sw hat)
  · intro f t h
    exact analyse_fault_eq hdecoded h
  · intro t ht
    obtain ⟨w, hw, rfl⟩ := hrun t ht
    rw [← Walk.reported_run hw]
  · intro t ht k sw hat
    obtain ⟨w, hw, rfl⟩ := hrun t ht
    by_cases hchecked : sw.Checked s.state.image.data.size
    · exact .inr (switchAccepted_of_run hw hat hchecked)
    · exact .inl (switchRefused_of_run hw hat hchecked)

/-- an image can be read from the file, and it passes a test -/
def readsWith (file : ByteArray) (test : Image → Bool) : Bool :=
  match Image.ofBytes file with
  | .ok image => test image
  | .error _ => false

theorem exists_of_readsWith (file : ByteArray) (test : Image → Bool) (h : readsWith file test = true) :
    ∃ image, Image.ofBytes file = .ok image ∧ test image = true := by
  unfold readsWith at h
  split at h
  next image himage => exact ⟨image, himage, h⟩
  next => cases h

/-- a switch over the cases 0 and 1 -/
def switchOn (table : Int) : List Instruction :=
  [⟨.localAddr, 16⟩, ⟨.load4, 0⟩, ⟨.const, 0⟩, ⟨.lti, 33⟩, ⟨.localAddr, 16⟩, ⟨.load4, 0⟩, ⟨.const, 1⟩, ⟨.gti, 33⟩,
    ⟨.localAddr, 16⟩, ⟨.load4, 0⟩, ⟨.const, 2⟩, ⟨.lsh, 0⟩, ⟨.const, table⟩, ⟨.add, 0⟩, ⟨.load4, 0⟩, ⟨.jump, 0⟩]

/-- two switches; the table of the first one ends where the data end, that of the second one later -/
def edgeCode : List Instruction := [⟨.enter, 24⟩] ++ switchOn 1 ++ switchOn 5 ++ [⟨.leave, 24⟩]

theorem analyse_safe_edge :
    ∃ image t, Image.ofBytes (fileOf edgeCode [0, 33, 0, 0, 0] []) = .ok image ∧ image.decoded.fault = none ∧
      AnalysisSafety ⟨{ image }, {}⟩ ∧ analyse ⟨{ image }, {}⟩ = .ok () t ∧
      SwitchAccepted image 16 ⟨0, 1, 1⟩ t.state.analysis ∧
      SwitchRefused image 32 ⟨0, 1, 5⟩
        (complaintsBefore image image.decoded.instructions image.decoded.instructions.length) t.state.analysis := by
  obtain ⟨image, himage, ht⟩ := exists_of_readsWith (fileOf edgeCode [0, 33, 0, 0, 0] [])
    (fun image => image.decoded.fault = none && image.decoded.instructions = edgeCode && image.data.size = 9 &&
      (Walk.run image edgeCode { tables := {} }).2 = none) (by decide +kernel)
  simp only [Bool.and_eq_true, decide_eq_true_eq] at ht
  obtain ⟨⟨⟨hdecoded, hcode⟩, hsize⟩, hrun⟩ := ht
  rw [← hcode] at hrun
  have hsafe := analyse_safe ⟨{ image }, {}⟩ hdecoded rfl
  obtain ⟨t, ht⟩ := analyse_ok (s := ⟨{ image }, {}⟩) hdecoded hrun
  have hfirst := hsafe.switches t ht 1 ⟨0, 1, 1⟩ (by rw [Program.code, hcode]; exact ⟨by decide, rfl⟩)
  have hsecond := hsafe.switches t ht 17 ⟨0, 1, 5⟩ (by rw [Program.code, hcode]; exact ⟨by decide, rfl⟩)
  refine ⟨image, t, himage, hdecoded, hsafe, ht, hfirst.resolve_left fun h => h.unchecked ?_,
    hsecond.resolve_right fun h => absurd h.checked ?_⟩
  · rw [hsize]
    decide
  · rw [hsize]
    decide

/-- Two bytes of the second entry are missing.  It starts inside the data, so nothing is said about the switch
and reading its table fails. -/
theorem analyse_short_entry :
    ∃ image targets t, Image.ofBytes (fileOf switchingCode [17, 0] []) = .ok image ∧ image.decoded.fault = none ∧
      image.jumpTargets = .ok targets ∧ SwitchAt image.decoded.instructions 1 ⟨0, 1, 0⟩ ∧
      Walk.switchProblems 16 image.data.size ⟨0, 1, 0⟩ = [] ∧ analyse ⟨{ image }, {}⟩ = .error .badWord t := by
  obtain ⟨image, himage, ht⟩ := exists_of_readsWith (fileOf switchingCode [17, 0] [])
    (fun image => image.decoded.fault = none && image.decoded.instructions = switchingCode && image.data.size = 6 &&
      image.jumpTargets.isOk) (by decide +kernel)
  simp only [Bool.and_eq_true, decide_eq_true_eq] at ht
  obtain ⟨⟨⟨hdecoded, hcode⟩, hsize⟩, htargets⟩ := ht
  have hat : SwitchAt image.decoded.instructions 1 ⟨0, 1, 0⟩ := by
    rw [hcode]
    exact ⟨by decide, rfl⟩
  have hchecked : Switch.Checked image.data.size ⟨0, 1, 0⟩ := by
    rw [hsize]
    decide
  obtain ⟨targets, htargets⟩ : ∃ targets, image.jumpTargets = .ok targets := by
    cases h : image.jumpTargets with
    | ok targets => exact ⟨targets, rfl⟩
    | error f =>
      rw [h] at htargets
      cases htargets
  have hproblems := (Walk.switchProblems_eq_nil_iff 16 image.data.size ⟨0, 1, 0⟩).2 hchecked
  cases hres : analyse ⟨{ image }, {}⟩ with
  | ok _ t =>
    have hlast := (analyse_ok_iff (s := ⟨{ image }, {}⟩) hdecoded).1 ⟨t, hres⟩ 1 _ hat hchecked
    rw [holdsWord_iff, hsize] at hlast
    exact absurd hlast.2 (by decide)
  | error f t =>
    obtain rfl := analyse_fault_eq (s := ⟨{ image }, {}⟩) hdecoded hres
    exact ⟨image, targets, t, himage, hdecoded, htargets, hat, hproblems, hres⟩

end Program
end Disasm
