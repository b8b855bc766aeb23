import Mathlib
import Disasm.Proofs.Listing.Assembly
import Disasm.Proofs.Listing.Statement

/-!
# What a listing shows

The text of an entry is collected when its instruction is reached, and shown when an entry closes what is
collected: one that ends a statement, or enters or leaves a function.  Nothing closes what is collected
behind the last of these.

* `Entry.written`, `written`  all that is collected for one entry and for some entries;
* `Cut`  entries cut behind the last one that closes;
* `layOut_cut`  the layout of entries is all that is collected in front of the cut;
* `printed_cut`  a printed listing holds all that was collected exactly when the code ends with a closing
  opcode, or is empty;
* `printed_short`  a listing without its last two instructions.
-/

namespace Disasm

/-- all that is collected for an entry when no instructions are replaced: its full form and its statement -/
def Entry.written (e : Entry) : String :=
  e.full ++ ((e.statement.map fun t => "    ;; dec: " ++ t ++ "\n\n").getD "")

namespace Listing

def written (es : List Entry) : String := String.join (es.map Entry.written)

theorem written_nil : written [] = "" := rfl

theorem written_cons (e : Entry) (es : List Entry) : written (e :: es) = e.written ++ written es := by
  unfold written
  rw [List.map_cons, String.join_cons]

theorem written_append (es fs : List Entry) : written (es ++ fs) = written es ++ written fs := by
  unfold written
  rw [List.map_append, String.join_append]

/-- the line of the instruction stands in what is collected for it -/
theorem exists_written_eq (e : Entry) : ∃ front back, e.written = front ++ e.line ++ back := by
  unfold Entry.written Entry.full
  split
  · exact ⟨e.jumpLabel ++ e.caseLabel ++ e.heading ++ Entry.blockText e.before, _, String.append_assoc ..⟩
  · exact ⟨Entry.blockText e.before ++ e.jumpLabel ++ e.caseLabel ++ e.note.full, _, String.append_assoc ..⟩

theorem exists_written_eq_of_getElem? {es : List Entry} {k : Nat} {e : Entry} (he : es[k]? = some e) :
    ∃ front back, written es = front ++ e.line ++ back := by
  obtain ⟨hk, rfl⟩ := List.getElem?_eq_some_iff.1 he
  obtain ⟨front, back, hline⟩ := exists_written_eq es[k]
  refine ⟨written (es.take k) ++ front, back ++ written (es.drop (k + 1)), ?_⟩
  conv => lhs; rw [← List.take_append_drop k es, List.drop_eq_getElem_cons hk]
  rw [written_append, written_cons, hline]
  simp only [String.append_assoc]

theorem length_written_pos (e : Entry) : 0 < e.written.length := by
  obtain ⟨front, back, h⟩ := exists_written_eq e
  have hend : 0 < "\n".length := by decide
  have hline : 0 < e.line.length := by
    unfold Entry.line
    rw [String.length_append]
    omega
  rw [h, String.length_append, String.length_append]
  omega

/-! ## cuts -/

/-- `shown` reaches up to the last of the entries `es` behind which what is collected is shown -/
structure Cut (es shown lost : List Entry) : Prop where
  eq_append : es = shown ++ lost
  lost_open : ∀ e ∈ lost, ¬ Closes e
  last_closes : ∀ e, shown.getLast? = some e → Closes e

namespace Cut
variable {e : Entry} {es shown lost : List Entry}

theorem nil : Cut [] [] [] := ⟨rfl, List.forall_mem_nil _, by simp⟩

theorem cons_closing (h : Cut es shown lost) (he : Closes e) : Cut (e :: es) (e :: shown) lost where
  eq_append := by rw [h.eq_append, List.cons_append]
  lost_open := h.lost_open
  last_closes f hf := by
    rw [List.getLast?_cons] at hf
    cases hl : shown.getLast? with
    | none =>
      rw [hl] at hf
      cases hf
      exact he
    | some g =>
      rw [hl] at hf
      cases hf
      exact h.last_closes _ hl

theorem cons_open (h : Cut es shown lost) (hne : shown ≠ []) : Cut (e :: es) (e :: shown) lost where
  eq_append := by rw [h.eq_append, List.cons_append]
  lost_open := h.lost_open
  last_closes f hf := by
    obtain ⟨g, hg⟩ := Option.ne_none_iff_exists'.1 (mt List.getLast?_eq_none_iff.1 hne)
    rw [List.getLast?_cons, hg] at hf
    cases hf
    exact h.last_closes _ hg

theorem cons_lost (h : Cut es [] lost) (he : ¬ Closes e) : Cut (e :: es) [] (e :: lost) where
  eq_append := by rw [h.eq_append, List.nil_append, List.nil_append]
  lost_open := List.forall_mem_cons.2 ⟨he, h.lost_open⟩
  last_closes := h.last_closes

/-- nothing is lost when the last entry closes -/
theorem lost_eq_nil_iff (h : Cut es shown lost) : lost = [] ↔ ∀ e, es.getLast? = some e → Closes e := by
  rw [h.eq_append]
  constructor
  · rintro rfl
    rw [List.append_nil]
    exact h.last_closes
  · intro hlast
    by_contra hne
    have hmem := List.getLast_mem hne
    refine h.lost_open _ hmem (hlast _ ?_)
    rw [List.getLast?_append, List.getLast?_eq_getLast_of_ne_nil hne, Option.some_or]

end Cut

/-! ## the layout -/

theorem layOutFrom_closing {e : Entry} (he : Closes e) (out full brief : String) (es : List Entry) :
    layOutFrom false out full brief (e :: es) = layOutFrom false (out ++ (full ++ e.written)) "" "" es := by
  rw [layOutFrom]
  unfold Entry.written
  cases hs : e.statement with
  | some t =>
    dsimp only
    rw [if_pos (show (!false || isHollow t) = true from rfl)]
    congr 1
    simp only [Option.map_some, Option.getD_some, String.append_assoc]
  | none =>
    have hb : e.isBoundary = true := by
      rcases he with h | h
      · rw [hs] at h
        cases h
      · exact h
    dsimp only
    rw [if_pos hb, Option.map_none, Option.getD_none, String.append_empty]

theorem layOutFrom_open {e : Entry} (he : ¬ Closes e) (out full brief : String) (es : List Entry) :
    layOutFrom false out full brief (e :: es) =
      layOutFrom false out (full ++ e.written) (brief ++ e.brief) es := by
  obtain ⟨hs, hb⟩ := not_or.1 he
  have hnone : e.statement = none := by simpa using hs
  rw [layOutFrom, hnone]
  unfold Entry.written
  dsimp only
  rw [if_neg hb, hnone, Option.map_none, Option.getD_none, String.append_empty]

/-- what is collected already is shown with the first entries that are shown -/
theorem layOutFrom_cut (es : List Entry) (out full brief : String) :
    ∃ shown lost, Cut es shown lost ∧
      layOutFrom false out full brief es = out ++ (if shown = [] then "" else full ++ written shown) := by
  induction es generalizing out full brief with
  | nil =>
    refine ⟨[], [], .nil, ?_⟩
    rw [if_pos rfl, String.append_empty]
    rfl
  | cons e es ih =>
    by_cases he : Closes e
    · obtain ⟨shown, lost, hcut, htext⟩ := ih (out ++ (full ++ e.written)) "" ""
      refine ⟨e :: shown, lost, hcut.cons_closing he, ?_⟩
      have hrest : (if shown = [] then "" else "" ++ written shown) = written shown := by
        split
        next hnil => rw [hnil, written_nil]
        next => rw [String.empty_append]
      rw [layOutFrom_closing he, htext, hrest, if_neg (List.cons_ne_nil e shown), written_cons]
      simp only [String.append_assoc]
    · obtain ⟨shown, lost, hcut, htext⟩ := ih out (full ++ e.written) (brief ++ e.brief)
      by_cases hne : shown = []
      · subst hne
        refine ⟨[], e :: lost, hcut.cons_lost he, ?_⟩
        rw [layOutFrom_open he, htext, if_pos rfl, if_pos rfl]
      · refine ⟨e :: shown, lost, hcut.cons_open hne, ?_⟩
        rw [layOutFrom_open he, htext, if_neg hne, if_neg (List.cons_ne_nil e shown), written_cons,
          String.append_assoc]

theorem layOut_cut (es : List Entry) :
    ∃ shown lost, Cut es shown lost ∧ layOut false es = written shown := by
  obtain ⟨shown, lost, hcut, htext⟩ := layOutFrom_cut es "" "" ""
  refine ⟨shown, lost, hcut, ?_⟩
  rw [layOut, htext, String.empty_append]
  split
  next hnil => rw [hnil, written_nil]
  next => rw [String.empty_append]

/-- what is lost has a text -/
theorem written_eq_iff (shown lost : List Entry) : written shown = written (shown ++ lost) ↔ lost = [] := by
  constructor
  · intro h
    cases lost with
    | nil => rfl
    | cons e lost =>
      have hlen := congrArg String.length h
      rw [written_append, written_cons, String.length_append, String.length_append] at hlen
      have := length_written_pos e
      omega
  · rintro rfl
    rw [List.append_nil]

/-! ## the listing of a program -/

theorem Shows.index_eq {p : Program} {k : Nat} {i : Instruction} {next : Option Nat} {s s' : State} {e : Entry}
    (h : Shows p k i next s e s') : e.index = k := by
  cases h with
  | other => split <;> rfl
  | _ => rfl

theorem mem_closing_of_closes {p : Program} {k : Nat} {i : Instruction} {next : Option Nat} {s s' : State}
    {e : Entry} (h : Shows p k i next s e s') (he : Closes e) : i.op ∈ closing := by
  have hall : ∀ op : Opcode, (op = .enter ∨ op = .leave) ∨ op.endsStatement = true → op ∈ closing := by
    intro op
    cases op <;> decide
  apply hall
  rcases he with hs | hb
  · obtain ⟨t, ht⟩ := Option.isSome_iff_exists.1 hs
    exact .inr (endsStatement_of_statement h ht)
  · left
    unfold Entry.isBoundary at hb
    rw [h.instruction_eq] at hb
    simpa using hb

section
variable {p : Program} {n k : Nat} {s : State} {es : List Entry} {e : Entry}

/-- an entry stands at its own index -/
theorem Reaches.index_eq (h : Reaches p n s es) (he : es[k]? = some e) :
    e.index = k ∧ p.code[k]? = some e.instruction := by
  obtain ⟨_, _, i, _, -, hi, hsh⟩ := h.entry_at he
  exact ⟨hsh.index_eq, hsh.instruction_eq ▸ hi⟩

/-- an entry closes exactly when its opcode does -/
theorem Reaches.closes_iff (hp : p.Tidy) (h : Reaches p n s es) (he : e ∈ es) :
    Closes e ↔ e.instruction.op ∈ closing := by
  obtain ⟨k, hk⟩ := List.mem_iff_getElem?.1 he
  obtain ⟨_, _, i, _, hr, -, hsh⟩ := h.entry_at hk
  rw [hsh.instruction_eq]
  exact ⟨mem_closing_of_closes hsh, closes_of_shows ((hr.tidyStack hp).arriving k) hsh⟩

end

/-- the line of the instruction at `k` stands in a text -/
def HasLine (p : Program) (text : String) (k : Nat) : Prop :=
  ∃ e front back, (entries p).1[k]? = some e ∧ e.index = k ∧ p.code[k]? = some e.instruction ∧
    text = front ++ e.line ++ back

/-- A listing that is printed to its end shows all that was collected up to the last closing opcode, with the
line of every instruction up to there, and nothing of what was collected behind it.  So it shows all that was
collected exactly when the code ends with a closing opcode, or is empty. -/
theorem printed_cut {σ : Type} {d : Directory} {type : Option String} {file : ByteArray} {c c' : Console}
    {p : Program} (hload : Program.load d type file c = (.ok p, c')) {s t : Session σ}
    (hprint : printCode p false s = .ok () t) :
    ∃ shown lost, (entries p).1 = shown ++ lost ∧
      (shown ++ lost).length = p.header.instructionCount.toNat ∧
      (∀ e, shown.getLast? = some e → e.instruction.op ∈ closing) ∧
      (∀ e ∈ lost, e.instruction.op ∉ closing) ∧
      t.console.out = s.console.out ++ written shown ∧
      (∀ k < shown.length, HasLine p (written shown) k) ∧
      (t.console.out = s.console.out ++ written (entries p).1 ↔
        ∀ i, p.code.getLast? = some i → i.op ∈ closing) := by
  have hp := Program.tidy_of_load hload
  obtain ⟨u, hr, hout⟩ := printCode_eq_ok hprint
  obtain ⟨shown, lost, hcut, htext⟩ := layOut_cut (entries p).1
  rw [htext] at hout
  have hcloses : ∀ e ∈ (entries p).1, Closes e ↔ e.instruction.op ∈ closing := fun e he => hr.closes_iff hp he
  have hmem : ∀ {e : Entry}, e ∈ shown ∨ e ∈ lost → e ∈ (entries p).1 := by
    intro e he
    rw [hcut.eq_append, List.mem_append]
    exact he
  refine ⟨shown, lost, hcut.eq_append, ?_, fun e he => ?_, fun e he => ?_, hout, fun k hk => ?_, ?_⟩
  · rw [← hcut.eq_append, hr.length_eq]
    exact (Program.load_eq_ok hload).length_instructions
  · exact (hcloses e (hmem (.inl (List.mem_of_getLast? he)))).1 (hcut.last_closes e he)
  · exact mt (hcloses e (hmem (.inr he))).2 (hcut.lost_open e he)
  · have hshown : shown[k]? = some shown[k] := List.getElem?_eq_getElem hk
    have hentry : (entries p).1[k]? = some shown[k] := by
      rw [hcut.eq_append, List.getElem?_append_left hk, hshown]
    obtain ⟨hindex, hcode⟩ := hr.index_eq hentry
    obtain ⟨front, back, hline⟩ := exists_written_eq_of_getElem? hshown
    exact ⟨shown[k], front, back, hentry, hindex, hcode, hline⟩
  · rw [hout, String.append_right_inj, hcut.eq_append, written_eq_iff, hcut.lost_eq_nil_iff]
    have hlast : p.code.getLast? = (entries p).1.getLast?.map Entry.instruction := by
      rw [← List.getLast?_map, hr.map_instruction, List.take_length]
    rw [hlast]
    constructor
    · intro h i hi
      obtain ⟨e, he, rfl⟩ := Option.map_eq_some_iff.1 hi
      exact (hcloses e (List.mem_of_getLast? he)).1 (h e he)
    · intro h e he
      exact (hcloses e (List.mem_of_getLast? he)).2 (h _ (by rw [he]; rfl))

/-- a constant is stored in a function that ends -/
def endedFile : ByteArray :=
  Program.fileOf [⟨.enter, 16⟩, ⟨.localAddr, 8⟩, ⟨.const, -7⟩, ⟨.store4, 0⟩, ⟨.push, 0⟩, ⟨.leave, 16⟩] [] []

theorem printed_cut_ended :
    ∃ p c t, Program.load Program.bare none endedFile {} = (.ok p, c) ∧
      printCode p false (⟨(), {}⟩ : Session Unit) = .ok () t ∧ p.code.length = 6 ∧
      t.console.out = "" ++ written (entries p).1 := by
  obtain ⟨p, c, hl, ht⟩ := Program.exists_of_loadsWith Program.bare endedFile
    (fun p => (entries p).2 = none && p.code.length = 6 && p.code.getLast? = some ⟨.leave, 16⟩)
    (by decide +kernel)
  simp only [Bool.and_eq_true, decide_eq_true_eq] at ht
  obtain ⟨⟨hw, hlen⟩, hlast⟩ := ht
  obtain ⟨t, hp⟩ := (printCode_ok_iff p false (⟨(), {}⟩ : Session Unit)).2 hw
  obtain ⟨shown, lost, -, -, -, -, -, -, hiff⟩ := printed_cut hl hp
  refine ⟨p, c, t, hl, hp, hlen, hiff.2 fun i hi => ?_⟩
  rw [hlast] at hi
  cases hi
  decide

/-- a constant is pushed and popped, and nothing follows -/
def shortFile : ByteArray := Program.fileOf [⟨.enter, 8⟩, ⟨.const, 2⟩, ⟨.pop, 0⟩] [] []

def shortListing : String :=
  "\n;----------------------------------- table jump\n\n; max local arg 0x8\n; ========================\n" ++
    "00000000  enter               0x8\n"

/-- two lines are collected and not shown -/
theorem printed_short :
    ∃ p c t, Program.load Program.bare none shortFile {} = (.ok p, c) ∧
      printCode p false (⟨(), {}⟩ : Session Unit) = .ok () t ∧ t.console.out = shortListing ∧
      written (entries p).1 =
        shortListing ++ "00000001  const           1   0x2\n00000002  pop            -1\n" ∧
      t.console.out ≠ written (entries p).1 := by
  obtain ⟨p, c, hl, ht⟩ := Program.exists_of_loadsWith Program.bare shortFile
    (fun p => (entries p).2 = none && layOut false (entries p).1 = shortListing &&
      written (entries p).1 =
        shortListing ++ "00000001  const           1   0x2\n00000002  pop            -1\n" &&
      shortListing ≠ written (entries p).1) (by decide +kernel)
  simp only [Bool.and_eq_true, decide_eq_true_eq] at ht
  obtain ⟨⟨⟨hw, hshown⟩, hall⟩, hne⟩ := ht
  obtain ⟨t, hp⟩ := (printCode_ok_iff p false (⟨(), {}⟩ : Session Unit)).2 hw
  obtain ⟨-, -, hout⟩ := printCode_eq_ok hp
  have hout : t.console.out = shortListing := by
    rw [hout, hshown]
    rfl
  exact ⟨p, c, t, hl, hp, hout, hall, hout ▸ hne⟩

end Listing
end Disasm
