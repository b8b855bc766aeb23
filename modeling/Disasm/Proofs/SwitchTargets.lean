import Mathlib
import Disasm.Proofs.SwitchSafety

/-!
# Where switches lead

The entries of the table of a switch are numbers of instructions, and the walk files those that are smaller than
the number of bytes of the code.  An instruction has one byte or more, so that the bound never refuses an
instruction; it also lets numbers pass at which there is none.

* `Tabled`  an entry of a table that the walk reads;
* `tabled_iff`  the entries that are filed, and `warning_mem_complaints` what is said about the others;
* `TargetsBelow`  all that is filed leads to a number below a bound, and only that is filed;
* `targets_recorded`  the bytes of the code are such a bound, and the number of instructions is one exactly when no
  entry lies between the two.
-/

namespace Disasm

/-! ## entries of tables that are read -/

/-- the code has a switch that passes all checks, with this entry in its table -/
def Tabled (image : Image) (code : List Instruction) (e : CaseEntry) : Prop :=
  ∃ (k : Nat) (s : Switch), SwitchAt code k s ∧ s.Checked image.data.size ∧ e.jump = k + 15 ∧
    s.least ≤ e.value ∧ e.value ≤ s.greatest ∧ e.address = s.table + e.value * 4 ∧
    Image.wordAt image.data e.address.toNat = .ok e.target

/-- the text for an entry that is not filed -/
def CaseEntry.warning (e : CaseEntry) : String :=
  "invalid switch target address at 0x" ++ Text.hex e.jump ++ ": 0x" ++ Text.hex e.target

section
variable {image : Image} {code : List Instruction} {e : CaseEntry}

/-- the switch that is filed under the jump of an entry has that entry -/
theorem tabled_iff {f : Findings} (h : Detected image code code.length f) :
    Tabled image code e ↔ ∃ s, f.switches[e.jump]? = some s ∧ s.least ≤ e.value ∧ e.value ≤ s.greatest ∧
      e.address = s.table + e.value * 4 ∧ Image.wordAt image.data e.address.toNat = .ok e.target := by
  simp only [h.switches_iff]
  constructor
  · rintro ⟨k, s, hat, hchecked, hjump, hrest⟩
    exact ⟨s, ⟨k, hjump, hat, hchecked⟩, hrest⟩
  · rintro ⟨s, ⟨k, hjump, hat, hchecked⟩, hrest⟩
    exact ⟨k, s, hat, hchecked, hjump, hrest⟩

theorem mem_straysFrom {s : Switch} {jump value : Int} {n : Nat} {text : String} (hle : value ≤ e.value)
    (hlt : e.value < value + n) (h : s.stray? image jump e.value = some text) :
    text ∈ s.straysFrom image jump n value := by
  induction n generalizing value with
  | zero =>
    push_cast at hlt
    omega
  | succ n ih =>
    rw [Switch.straysFrom, List.mem_append, Option.mem_toList]
    push_cast at hlt
    rcases eq_or_lt_of_le hle with rfl | hlt'
    · exact .inl h
    · exact .inr (ih (by omega) (by omega))

/-- an entry that leads behind the bytes of the code is reported -/
theorem warning_mem_complaints (h : Tabled image code e) (htarget : image.code.size ≤ e.target) :
    e.warning ∈ complaintsBefore image code code.length := by
  obtain ⟨k, s, hat, hchecked, hjump, hle, hge, haddress, hword⟩ := h
  refine complaints_subset image hat ?_
  have hstray : s.stray? image (k + 15 : Nat) e.value = some e.warning := by
    unfold Switch.stray? CaseEntry.warning
    rw [haddress] at hword
    rw [hword, hjump]
    exact if_pos htarget
  unfold Switch.complaints
  rw [if_pos hchecked]
  exact mem_straysFrom hle (by omega) hstray

end

/-! ## bounds of targets -/

namespace Program

/-- what is filed for switches leads to numbers below a bound, and an entry that does not is left out and reported -/
structure TargetsBelow (p : Program) (said : List String) (bound : Int) : Prop where
  keys : ∀ a ∈ p.analysis.cases, 0 ≤ a ∧ a < bound
  /-- nothing is filed but what stands in a table -/
  sources : ∀ a ∈ p.analysis.cases, ∃ e, Tabled p.image p.code e ∧ a = e.target
  filed : ∀ e, Tabled p.image p.code e → e.target < bound →
    e.jump ∈ p.analysis.switchData[e.address]?.getD [] ∧
      (e.jump, e.value) ∈ p.analysis.cases[(e.target : Int)]?.getD []
  omitted : ∀ e, Tabled p.image p.code e → bound ≤ e.target →
    e.jump ∉ p.analysis.switchData[e.address]?.getD [] ∧
      ∀ a : Int, (e.jump, e.value) ∉ p.analysis.cases[a]?.getD []
  told : ∀ e, Tabled p.image p.code e → bound ≤ e.target → e.warning ∈ said

/-- a key of a table of lists has something in its list -/
theorem exists_mem_of_inOrder {α : Type} {lt : α → α → Prop} {t : Std.TreeMap Int (List α)} {P : α → Prop} {a : Int}
    (h : InOrder lt t[a]? P) (ha : a ∈ t) : ∃ x, P x := by
  obtain ⟨-, hmem, hne⟩ := h
  obtain ⟨xs, hxs⟩ := Option.isSome_iff_exists.1 (Std.TreeMap.isSome_getElem?_iff_mem.2 ha)
  rw [hxs] at hmem hne
  cases xs with
  | nil => exact absurd rfl hne
  | cons x xs => exact ⟨x, (hmem x).1 List.mem_cons_self⟩

theorem mem_of_mem_getD {α : Type} {t : Std.TreeMap Int (List α)} {a : Int} {x : α} (h : x ∈ t[a]?.getD []) :
    a ∈ t := by
  rw [← Std.TreeMap.isSome_getElem?_iff_mem]
  cases ht : t[a]? with
  | none =>
    rw [ht] at h
    cases h
  | some xs => rfl

/-- the walk compares targets with the number of bytes -/
theorem targetsBelow_size {file : ByteArray} {p : Program} (hloaded : Loaded file p) :
    p.TargetsBelow (complaintsBefore p.image p.code p.code.length) p.image.code.size := by
  obtain ⟨w, hw, ht⟩ := hloaded.walk_ok
  have h : Detected p.image p.code p.code.length w.findings := detected_run hw
  have hdata := h.data_inOrder
  have hcases := h.cases_inOrder
  have htabled := fun e : CaseEntry => tabled_iff (e := e) h
  rw [show w.findings.switchData = p.analysis.switchData by rw [ht]; rfl] at hdata
  rw [show w.findings.cases = p.analysis.cases by rw [ht]; rfl] at hcases
  refine ⟨?_, ?_, ?_, ?_, fun e he hsize => warning_mem_complaints he (by omega)⟩
  · intro a ha
    obtain ⟨x, s, target, -, rfl, hleads⟩ := exists_mem_of_inOrder (hcases a) ha
    have := hleads.2.2.2
    omega
  · intro a ha
    obtain ⟨x, s, target, hs, rfl, hle, hge, hword, -⟩ := exists_mem_of_inOrder (hcases a) ha
    exact ⟨⟨x.1, x.2, s.table + x.2 * 4, target⟩, (htabled _).2 ⟨s, hs, hle, hge, rfl, hword⟩, rfl⟩
  · intro e he hsize
    obtain ⟨s, hs, hle, hge, haddress, hword⟩ := (htabled e).1 he
    have hleads : s.Leads p.image e.value e.target := ⟨hle, hge, haddress ▸ hword, by omega⟩
    exact ⟨((hdata e.address).2.1 _).2 ⟨s, e.value, e.target, hs, haddress, hleads⟩,
      ((hcases e.target).2.1 _).2 ⟨s, e.target, hs, rfl, hleads⟩⟩
  · intro e he hsize
    obtain ⟨s, hs, -, -, haddress, hword⟩ := (htabled e).1 he
    rw [haddress] at hword
    -- the switch under the jump is the one of the entry, and its word for the case is the target
    have hnot : ∀ s' target, w.findings.switches[e.jump]? = some s' → ¬ s'.Leads p.image e.value target := by
      intro s' target hs' hleads
      obtain rfl : s = s' := Option.some.inj (hs.symm.trans hs')
      have hsame := hword.symm.trans hleads.2.2.1
      injection hsame with hsame
      have := hleads.2.2.2
      omega
    constructor
    · intro hmem
      obtain ⟨s', value, target, hs', haddress', hleads⟩ := ((hdata _).2.1 _).1 hmem
      obtain rfl : s = s' := Option.some.inj (hs.symm.trans hs')
      obtain rfl : e.value = value := by omega
      exact hnot s target hs hleads
    · intro a hmem
      obtain ⟨s', target, hs', -, hleads⟩ := ((hcases a).2.1 _).1 hmem
      exact hnot s' target hs' hleads

/-- a smaller bound holds exactly when no entry lies between the two -/
theorem TargetsBelow.smaller_iff {p : Program} {said : List String} {bound size : Int} (h : p.TargetsBelow said size)
    (hle : bound ≤ size) :
    p.TargetsBelow said bound ↔
      ∀ e, Tabled p.image p.code e → (e.target : Int) < size → (e.target : Int) < bound := by
  constructor
  · intro hbound e he hsize
    exact (hbound.keys _ (mem_of_mem_getD (h.filed e he hsize).2)).2
  · intro hbetween
    have hbeyond : ∀ e, Tabled p.image p.code e → bound ≤ e.target → size ≤ e.target := by
      intro e he hbound
      by_contra hsize
      have := hbetween e he (by omega)
      omega
    refine ⟨?_, h.sources, ?_, ?_, ?_⟩
    · intro a ha
      obtain ⟨hnonneg, hlt⟩ := h.keys a ha
      obtain ⟨e, he, rfl⟩ := h.sources a ha
      exact ⟨hnonneg, hbetween e he hlt⟩
    · exact fun e he hlt => h.filed e he (by omega)
    · exact fun e he hge => h.omitted e he (hbeyond e he hge)
    · exact fun e he hge => h.told e he (hbeyond e he hge)

theorem Loaded.instructionCount_le {file : ByteArray} {p : Program} (h : Loaded file p) :
    p.header.instructionCount ≤ p.image.code.size := by
  have hlength : p.code.length = _ := h.length_instructions
  have hbytes := congrArg List.length p.code_eq
  have hle := Instruction.length_le_encodeAll p.code
  rw [Array.length_toList, List.length_append] at hbytes
  omega

/-! ## what loading says -/

end Program

/-- warnings as lines behind a mark -/
def warningLines (mark : String) (said : List String) : String :=
  String.join (said.map fun text => mark ++ text ++ "\n")

/-- warnings that are not switched off go to both streams -/
theorem Console.foldl_warn (said : List String) {c : Console} (h : c.quiet = false) :
    said.foldl (fun c text => c.warn text) c =
      { c with out := c.out ++ warningLines "; warning : " said, err := c.err ++ warningLines "warning: " said } := by
  unfold warningLines
  induction said generalizing c with
  | nil => simp only [List.foldl_nil, List.map_nil, String.join_nil, String.append_empty]
  | cons text said ih =>
    have hwarn : c.warn text = { c with
        out := c.out ++ "; warning : " ++ text ++ "\n", err := c.err ++ "warning: " ++ text ++ "\n" } := by
      unfold Console.warn
      rw [h]
      rfl
    rw [List.foldl_cons, ih (c := c.warn text) (by rw [hwarn, h]), hwarn]
    simp only [List.map_cons, String.join_cons, String.append_assoc]

theorem Console.quiet_foldl_warn (said : List String) (c : Console) :
    (said.foldl (fun c text => c.warn text) c).quiet = c.quiet := by
  induction said generalizing c with
  | nil => rfl
  | cons text said ih =>
    rw [List.foldl_cons, ih]
    unfold Console.warn
    split <;> rfl

namespace Program

open Disasm.Action

variable {d : Directory} {type : Option String} {file : ByteArray} {c c' : Console} {p : Program}

/-- the last thing that is said when a program is loaded is what is wrong with its switches -/
theorem load_said (h : load d type file c = (.ok p, c')) :
    ∃ before, c' = (complaintsBefore p.image p.code p.code.length).foldl (fun c text => c.warn text) before := by
  obtain ⟨image, -, hrun⟩ := load_run h
  -- names, annotations and the jump table come first
  obtain ⟨_, _, -, hrun⟩ := bind_eq_ok hrun
  obtain ⟨_, _, -, hrun⟩ := bind_eq_ok hrun
  obtain ⟨_, s, -, hrun⟩ := bind_eq_ok hrun
  obtain ⟨hdecoded, w, hw, -⟩ := analyse_eq_ok hrun
  rw [analyse_of_ok hdecoded hw] at hrun
  cases hrun
  exact ⟨s.console, by rw [← Walk.reported_run hw]; rfl⟩

/-- When a program has been loaded, the entries of its switches that are filed are those that lead to a number
below the number of bytes of the code, and all others are reported, if warnings are not switched off.  The numbers
are those of instructions exactly when no entry leads behind the last instruction but not behind the bytes. -/
theorem targets_recorded (hload : load d type file c = (.ok p, c')) :
    (c'.quiet = false → ∃ out err,
      c'.out = out ++ warningLines "; warning : " (complaintsBefore p.image p.code p.code.length) ∧
        c'.err = err ++ warningLines "warning: " (complaintsBefore p.image p.code p.code.length)) ∧
    p.TargetsBelow (complaintsBefore p.image p.code p.code.length) p.image.code.size ∧
    p.header.instructionCount ≤ p.image.code.size ∧
    (p.TargetsBelow (complaintsBefore p.image p.code p.code.length) p.header.instructionCount ↔
      ∀ e, Tabled p.image p.code e → e.target < p.image.code.size →
        (e.target : Int) < p.header.instructionCount) := by
  have hloaded := load_eq_ok hload
  have hsize := targetsBelow_size hloaded
  refine ⟨?_, hsize, hloaded.instructionCount_le, ?_⟩
  · intro hquiet
    obtain ⟨before, rfl⟩ := load_said hload
    rw [Console.quiet_foldl_warn] at hquiet
    rw [Console.foldl_warn _ hquiet]
    exact ⟨before.out, before.err, rfl, rfl⟩
  · rw [hsize.smaller_iff hloaded.instructionCount_le]
    simp only [Nat.cast_lt]

/-- one entry leads to the last instruction, the other one far behind the code -/
theorem targets_recorded_apart :
    ∃ p c, load bare none (fileOf switchingCode [17, 0, 0, 0, 255, 255, 0, 0] []) {} = (.ok p, c) ∧
      c.out = "; warning : invalid switch target address at 0x10: 0xffff\n" ∧ p.header.instructionCount = 18 ∧
      p.TargetsBelow (complaintsBefore p.image p.code p.code.length) 18 := by
  obtain ⟨p, c, hload, htest⟩ := exists_of_loadsWith bare (fileOf switchingCode [17, 0, 0, 0, 255, 255, 0, 0] [])
    (fun p => p.header.instructionCount = 18 && p.analysis.cases.keys = [17]) (by decide +kernel)
  simp only [Bool.and_eq_true, decide_eq_true_eq] at htest
  obtain ⟨hcount, hkeys⟩ := htest
  have hout : (load bare none (fileOf switchingCode [17, 0, 0, 0, 255, 255, 0, 0] []) {}).2.out =
      "; warning : invalid switch target address at 0x10: 0xffff\n" := by decide +kernel
  rw [hload] at hout
  obtain ⟨-, hsize, -, hiff⟩ := targets_recorded hload
  rw [hcount] at hiff
  refine ⟨p, c, hload, hout, hcount, hiff.2 fun e he hlt => ?_⟩
  have hkey := mem_of_mem_getD (hsize.filed e he (Nat.cast_lt.2 hlt)).2
  rw [← Std.TreeMap.mem_keys, hkeys, List.mem_singleton] at hkey
  rw [hkey]
  decide

/-- There are eighteen instructions, and an entry leads to the one behind the last.  The code has more bytes, so it is
filed and nothing is said. -/
theorem target_behind_last :
    ∃ p c, load bare none (fileOf switchingCode [17, 0, 0, 0, 18, 0, 0, 0] []) {} = (.ok p, c) ∧ c.out = "" ∧
      p.header.instructionCount = 18 ∧ (18 : Int) ∈ p.analysis.cases ∧
      ∀ said, ¬ p.TargetsBelow said p.header.instructionCount := by
  obtain ⟨p, c, hload, htest⟩ := exists_of_loadsWith bare (fileOf switchingCode [17, 0, 0, 0, 18, 0, 0, 0] [])
    (fun p => p.header.instructionCount = 18 && p.analysis.cases.contains 18) (by decide +kernel)
  simp only [Bool.and_eq_true, decide_eq_true_eq] at htest
  obtain ⟨hcount, hcase⟩ := htest
  have hout : (load bare none (fileOf switchingCode [17, 0, 0, 0, 18, 0, 0, 0] []) {}).2.out = "" := by decide +kernel
  rw [hload] at hout
  refine ⟨p, c, hload, hout, hcount, hcase, fun said h => ?_⟩
  have := (h.keys 18 hcase).2
  omega

end Program

end Disasm
