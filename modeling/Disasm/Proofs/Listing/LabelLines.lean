import Mathlib
import Disasm.Proofs.Listing.Origin
import Disasm.Proofs.Listing.Passages

/-!
# Labels in a listing

A line that starts with `labelMark` is a label: it says from where control may come.  A passage of which the
instructions are replaced shows no labels, so such a passage must not have any.

* `labelLines`  the labels among the lines of a text;
* `Marks text ls`  the text is made of whole lines, and `ls` are the labels among them;
* `marks_full`, `marks_brief`  the full form of an entry has its labels, the brief form has none;
* `Reaches.spans_statement`  a passage with a statement starts behind the last clear;
* `labels_kept_iff`  the listing with replaced instructions has all labels exactly when the jump table does
  not lead into code that is replaced;
* `labels_lost`  a listing that loses one.
-/

namespace Disasm.Listing

open Disasm.Text

/-! ## texts and their labels -/

/-- the labels among the lines of a text -/
def labelLines (text : String) : List String := (splitOn '\n' text).filter isLabel

/-- the text is made of whole lines, and `ls` are the labels among them -/
def Marks (text : String) (ls : List String) : Prop :=
  ∃ lines : List String, text = String.join (lines.map (· ++ "\n")) ∧ (∀ l ∈ lines, Unbroken l) ∧
    lines.filter isLabel = ls

theorem splitOn_join {lines : List String} (h : ∀ l ∈ lines, Unbroken l) :
    splitOn '\n' (String.join (lines.map (· ++ "\n"))) = lines ++ [""] := by
  induction lines with
  | nil => decide
  | cons l lines ih =>
    obtain ⟨hl, hrest⟩ := List.forall_mem_cons.1 h
    rw [List.map_cons, String.join_cons, splitOn_line hl, ih hrest, List.cons_append]

namespace Marks
variable {t u : String} {ls ms : List String}

theorem labelLines_eq (h : Marks t ls) : labelLines t = ls := by
  obtain ⟨lines, rfl, hl, rfl⟩ := h
  unfold labelLines
  rw [splitOn_join hl, List.filter_append, List.filter_cons_of_neg (by decide), List.filter_nil, List.append_nil]

theorem empty : Marks "" [] := ⟨[], rfl, List.forall_mem_nil _, rfl⟩

theorem append (ht : Marks t ls) (hu : Marks u ms) : Marks (t ++ u) (ls ++ ms) := by
  obtain ⟨lines, rfl, hl, rfl⟩ := ht
  obtain ⟨more, rfl, hm, rfl⟩ := hu
  refine ⟨lines ++ more, ?_, List.forall_mem_append.2 ⟨hl, hm⟩, List.filter_append ..⟩
  rw [List.map_append, String.join_append]

theorem join {α : Type} {f : α → String} {g : α → List String} {xs : List α} (h : ∀ x ∈ xs, Marks (f x) (g x)) :
    Marks (String.join (xs.map f)) (xs.flatMap g) := by
  induction xs with
  | nil => exact empty
  | cons x xs ih =>
    obtain ⟨hx, hxs⟩ := List.forall_mem_cons.1 h
    rw [List.map_cons, String.join_cons, List.flatMap_cons]
    exact hx.append (ih hxs)

end Marks

theorem marks_of_lines {P : String → Prop} {t : String} (h : Lines P t) : Marks t (labelLines t) := by
  obtain ⟨lines, ht, hl⟩ := h
  have hm : Marks t (lines.filter isLabel) := ⟨lines, ht, fun l hm => (hl l hm).1, rfl⟩
  rwa [hm.labelLines_eq]

theorem marks_of_remarks {t : String} (h : Remarks t) : Marks t [] := by
  obtain ⟨lines, ht, hl⟩ := h
  refine ⟨lines, ht, fun l hm => (hl l hm).1, List.filter_eq_nil_iff.2 fun l hm => ?_⟩
  have hr : isRemark l = true := (hl l hm).2
  unfold isRemark at hr
  rw [Bool.and_eq_true, Bool.not_eq_true'] at hr
  rw [hr.2]
  exact Bool.false_ne_true

theorem marks_line {l : String} (h : Unbroken l) (hl : isLabel l = false) : Marks (l ++ "\n") [] := by
  refine ⟨[l], ?_, List.forall_mem_singleton.2 h, by simp [hl]⟩
  rw [List.map_singleton, String.join_cons]
  exact String.append_empty.symm

/-! ## entries -/

/-- the labels of an entry -/
def entryLabels (e : Entry) : List String := labelLines e.jumpLabel ++ labelLines e.caseLabel

section
variable {e : Entry} (he : e.Tidy)
include he

theorem marks_entryLine : Marks e.line [] := by
  have hline : isLabel (lineBody e) = false := by
    have hc := isComment_line e
    rw [Bool.eq_false_iff] at hc ⊢
    intro hl
    -- a label is a comment
    obtain ⟨cs, hcs⟩ := List.isPrefixOf_iff_prefix.1 hl
    refine hc ?_
    have h := isComment_append (s := labelMark) (by decide) (String.ofList cs)
    rwa [show labelMark ++ String.ofList cs = lineBody e by
      rw [← String.toList_inj, String.toList_append, String.toList_ofList, hcs]] at h
  exact marks_line (unbroken_lineBody he.remark he.inline) hline

theorem marks_full : Marks e.full (entryLabels e) := by
  have hbefore := marks_of_remarks (remarks_block he.before)
  have hafter := marks_of_remarks (remarks_block he.after)
  have hlabels := (marks_of_lines he.jumpLabel).append (marks_of_lines he.caseLabel)
  have hline := (marks_entryLine he).append hafter
  unfold Entry.full entryLabels
  split
  · have h := ((hlabels.append (marks_of_remarks he.heading)).append hbefore).append hline
    simpa [String.append_assoc] using h
  · have h := ((hbefore.append hlabels).append (marks_of_remarks he.note)).append hline
    simpa [String.append_assoc] using h

theorem marks_written : Marks e.written (entryLabels e) := by
  have hfull := marks_full he
  unfold Entry.written
  cases hs : e.statement with
  | none =>
    rw [Option.map_none, Option.getD_none, String.append_empty]
    exact hfull
  | some t =>
    rw [Option.map_some, Option.getD_some]
    simpa using hfull.append (marks_of_remarks (remarks_statement (he.statement t hs)))

omit he in
theorem remarks_addressLine (e : Entry) {t : String} (ht : Unbroken t) :
    Remarks ("; " ++ e.address ++ t ++ "\n") := by
  refine remarks_line ?_ (unbroken_append (unbroken_append (by decide) (isWord_address e).unbroken) ht)
  rw [String.append_assoc]
  exact isRemark_append (by decide) _

theorem remarks_briefBefore : Remarks e.briefBefore := by
  unfold Entry.briefBefore
  split
  next => exact remarks_empty
  next b hb =>
    refine ((remarks_newlines _).append (remarks_join fun t ht => ?_)).append (remarks_newlines _)
    obtain ⟨l, hl, rfl⟩ := List.mem_map.1 ht
    have haddress := remarks_addressLine e (t := " [") (by decide)
    have h := (remarks_comment (he.before b hb l hl)).append haddress
    rw [show " [\n" = " [" ++ "\n" by decide]
    simpa only [String.append_assoc] using h

theorem remarks_briefAfter : Remarks e.briefAfter := by
  unfold Entry.briefAfter
  split
  next => exact remarks_empty
  next b hb =>
    refine ((remarks_newlines _).append (remarks_join fun t ht => ?_)).append (remarks_newlines _)
    obtain ⟨l, hl, rfl⟩ := List.mem_map.1 ht
    have haddress := remarks_addressLine e (t := " ]") (by decide)
    have h := haddress.append (remarks_comment (he.after b hb l hl))
    rw [show " ]\n" = " ]" ++ "\n" by decide]
    simpa only [String.append_assoc] using h

theorem remarks_briefLine : Remarks e.briefLine := by
  unfold Entry.briefLine
  split
  · refine remarks_line ?_ ?_
    · simp only [String.append_assoc]
      exact isRemark_append (by decide) _
    · have haddress := (isWord_address e).unbroken
      have hname := (isWord_name e.instruction.op).unbroken
      have hremark := unbroken_remarkText he.remark he.inline (show Unbroken " " by decide)
      have hparm : Unbroken (if e.instruction.hasParm then " " ++ Entry.magnitude e.instruction.parm else "") := by
        split
        · exact unbroken_append (by decide) (unbroken_magnitude _)
        · decide
      simp only [unbroken_append_iff, haddress, hname, hremark, hparm, and_true]
      decide
  · exact remarks_empty

/-- the brief form has no labels -/
theorem marks_brief : Marks e.brief [] := by
  apply marks_of_remarks
  have hbefore : Remarks (if e.isEnter then "" else e.briefBefore) := by
    split
    · exact remarks_empty
    · exact remarks_briefBefore he
  exact ((hbefore.append he.brief).append (remarks_briefLine he)).append (remarks_briefAfter he)

end

/-! ## the labels of a program -/

/-- the label of code to which only the jump table leads -/
def tableLabel : String := labelMark ++ "table jump"

theorem Shows.labels_eq {p : Program} {k : Nat} {i : Instruction} {next : Option Nat} {s s' : State} {e : Entry}
    (h : Shows p k i next s e s') : e.jumpLabel = jumpLabel p k ∧ e.caseLabel = caseLabel p k := by
  cases h with
  | other => split <;> exact ⟨rfl, rfl⟩
  | _ => exact ⟨rfl, rfl⟩

section
variable {p : Program} {n : Nat} {u : State} {es : List Entry}

/-- where neither jumps nor switches lead, the only label is that of the jump table -/
theorem Reaches.entryLabels_eq (hr : Reaches p n u es) {k : Nat} {e : Entry} (he : es[k]? = some e)
    (hk : isTarget p k = false) : entryLabels e = if inJumpTable p k then [tableLabel] else [] := by
  obtain ⟨s, s', i, fs, -, -, hsh⟩ := hr.entry_at he
  obtain ⟨hjump, hcase⟩ := hsh.labels_eq
  unfold isTarget at hk
  rw [Bool.or_eq_false_iff] at hk
  have hjumps : p.analysis.jumps[(k : Int)]? = none := by
    rw [← Option.not_isSome_iff_eq_none, Std.TreeMap.isSome_getElem?_eq_contains, hk.1]
    exact Bool.false_ne_true
  have hcases : p.analysis.cases[(k : Int)]? = none := by
    rw [← Option.not_isSome_iff_eq_none, Std.TreeMap.isSome_getElem?_eq_contains, hk.2]
    exact Bool.false_ne_true
  unfold entryLabels
  rw [hjump, hcase, jumpLabel, caseLabel, hjumps, hcases]
  dsimp only
  rw [hk.2, Bool.not_false, Bool.and_true]
  by_cases ht : inJumpTable p k = true
  · rw [if_pos ht, if_pos ht]
    decide
  · rw [if_neg ht, if_neg ht]
    decide

/-! ## where a passage starts -/

/-- a passage with a statement starts behind the last clear, and its code is straight -/
theorem spans_statement (hp : p.Tidy) (hd : 0 ≤ p.header.dataLength) (hr : Reaches p n u (entries p).1)
    {g : Passage} {first last : Nat} (hg : g.Spans (entries p).1 first last) {s : String}
    (hs : g.replacement? = some s) :
    lastClear p.code last = (first : Int) - 1 ∧ Straight p (lastClear p.code last) last := by
  obtain ⟨hst, hh⟩ := Passage.replacement?_eq_some_iff.1 hs
  obtain ⟨_, _, _, ts, -, -, -, hts, -⟩ := exists_of_statement hd hg.last_eq hst hh
  have hstraight := straight_of_textsAt hts
  obtain ⟨hmem, hmax⟩ := lastClear_isGreatest p.code last
  have hlast : last < (entries p).1.length := (List.getElem?_eq_some_iff.1 hg.last_eq).1
  have hat : ∀ {j : Nat}, j < last → ∃ e, (entries p).1[j]? = some e ∧ p.code[j]? = some e.instruction ∧
      (Closes e ↔ e.instruction.op ∈ closing) := by
    intro j hj
    have he : (entries p).1[j]? = some (entries p).1[j] := List.getElem?_eq_getElem (by omega)
    exact ⟨_, he, (hr.index_eq he).2, hr.closes_iff hp (List.mem_of_getElem? he)⟩
  have hclears : ∀ op : Opcode, clears op = true → op ∈ closing := by
    intro op
    cases op <;> decide
  have hcloses : ∀ op ∈ closing, clears op = true ∨ op.role = .flow := by
    intro op
    cases op <;> decide
  refine ⟨?_, hstraight⟩
  apply le_antisymm
  · -- no entry inside the passage closes
    rcases hmem with hneg | ⟨j, i, hj, hlt, hi, hc⟩
    · omega
    · obtain ⟨e, he, hcode, hiff⟩ := hat hlt
      rw [hi] at hcode
      by_contra hge
      refine hg.open_of_lt (by omega) hlt he (hiff.2 (hclears _ ?_))
      rwa [← Option.some.inj hcode]
  · -- the entry in front closes, and it is no `leave` because the code is straight
    by_cases hfirst : first = 0
    · have hlow := hmax (.inl rfl)
      omega
    · have hlen := hg.length_eq
      obtain ⟨e, he, hcode, hiff⟩ := hat (show first - 1 < last by omega)
      have hop := hiff.1 (hg.before_closes (first - 1) e (by omega) he)
      rcases hcloses _ hop with hc | hflow
      · have hle := hmax (.inr ⟨first - 1, e.instruction, rfl, by omega, hcode, hc⟩)
        omega
      · by_contra hlt
        exact hstraight.jumps (first - 1) e.instruction (by omega) (by omega) hcode hflow

end

/-! ## the labels of a listing -/

/-- lists that are parts of others piece by piece are equal to them only piece by piece -/
theorem flatMap_eq_iff {α β : Type} {f g : α → List β} (xs : List α) (h : ∀ x ∈ xs, (f x).Sublist (g x)) :
    (xs.flatMap f).Sublist (xs.flatMap g) ∧ (xs.flatMap f = xs.flatMap g ↔ ∀ x ∈ xs, f x = g x) := by
  induction xs with
  | nil => simp
  | cons x xs ih =>
    obtain ⟨hx, hxs⟩ := List.forall_mem_cons.1 h
    obtain ⟨hsub, hiff⟩ := ih hxs
    rw [List.flatMap_cons, List.flatMap_cons, List.forall_mem_cons, ← hiff]
    refine ⟨hx.append hsub, fun heq => ?_, fun ⟨hfirst, hrest⟩ => by rw [hfirst, hrest]⟩
    have hlen := congrArg List.length heq
    rw [List.length_append, List.length_append] at hlen
    have h1 := hx.length_le
    have h2 := hsub.length_le
    exact List.append_inj heq (by omega)

/-- the labels of a passage as it is shown with no instructions replaced -/
def Passage.labels (g : Passage) : List String := g.entries.flatMap entryLabels

/-- the labels that stay when instructions are replaced -/
def Passage.labelsLeft (g : Passage) : List String := if g.replacement?.isSome then [] else g.labels

theorem Passage.labelsLeft_sublist (g : Passage) : g.labelsLeft.Sublist g.labels := by
  unfold labelsLeft
  split
  · exact List.nil_sublist _
  · exact List.Sublist.refl _

theorem Passage.labelsLeft_eq_iff {g : Passage} :
    g.labelsLeft = g.labels ↔ ∀ s, g.replacement? = some s → g.labels = [] := by
  unfold labelsLeft
  cases hs : g.replacement? with
  | none =>
    refine ⟨fun _ s h => ?_, fun _ => rfl⟩
    cases h
  | some s => exact ⟨fun h _ _ => h.symm, fun h => (h s rfl).symm⟩

theorem marks_passage {g : Passage} (hg : ∀ e ∈ g.entries, e.Tidy) :
    Marks (g.text false) g.labels ∧ Marks (g.text true) g.labelsLeft := by
  have hwritten : Marks (written g.entries) g.labels := Marks.join fun e he => marks_written (hg e he)
  refine ⟨?_, ?_⟩
  · have hkeep : false = true → g.replacement? = none := fun h => absurd h Bool.false_ne_true
    rw [Passage.text_kept hkeep]
    exact hwritten
  · cases hs : g.replacement? with
    | none =>
      rw [Passage.text_kept fun _ => hs, Passage.labelsLeft, hs]
      exact hwritten
    | some s =>
      have hbriefs : Marks (briefs g.entries) (g.entries.flatMap fun _ => []) :=
        Marks.join fun e he => marks_brief (hg e he)
      have hunbroken : Unbroken s :=
        (hg g.last (by simp [Passage.entries])).statement s (Passage.replacement?_eq_some_iff.1 hs).1
      have hline : Marks ("    " ++ s ++ ";" ++ "\n") [] := by
        refine marks_line (unbroken_append (unbroken_append (by decide) hunbroken) (by decide)) ?_
        unfold isLabel
        rw [String.append_assoc, String.toList_append]
        rfl
      have hnone : (g.entries.flatMap fun _ => []) = ([] : List String) := List.flatMap_eq_nil_iff.2 fun _ _ => rfl
      have h := hbriefs.append hline
      rw [hnone, List.append_nil, String.append_assoc, String.append_assoc, show ";" ++ "\n" = ";\n" by decide] at h
      rw [Passage.text_replaced hs, Passage.labelsLeft, hs]
      exact h

section
variable {p : Program} {n : Nat} {u : State}

/-- the labels of a passage with a statement are those of the jump table -/
theorem labels_statement (hp : p.Tidy) (hd : 0 ≤ p.header.dataLength) (hr : Reaches p n u (entries p).1)
    {g : Passage} {first last : Nat} (hg : g.Spans (entries p).1 first last) {s : String}
    (hs : g.replacement? = some s) :
    (∀ l ∈ g.labels, l = tableLabel) ∧
      (g.labels = [] ↔ ∀ j : Nat, lastClear p.code last < j → j ≤ last → j ∉ p.jumpTargets) := by
  obtain ⟨hclear, hstraight⟩ := spans_statement hp hd hr hg hs
  have hlabels : ∀ {j : Nat} {e : Entry}, lastClear p.code last < j → j ≤ last → (entries p).1[j]? = some e →
      entryLabels e = if inJumpTable p j then [tableLabel] else [] :=
    fun hlow hj he => hr.entryLabels_eq he (hstraight.labels _ hlow hj)
  have hmem : ∀ e ∈ g.entries, ∃ j : Nat, lastClear p.code last < j ∧ j ≤ last ∧ (entries p).1[j]? = some e := by
    intro e he
    obtain ⟨j, hf, hl, hj⟩ := hg.mem_entries_iff.1 he
    exact ⟨j, by omega, hl, hj⟩
  unfold Passage.labels
  refine ⟨fun l hl => ?_, ?_⟩
  · obtain ⟨e, he, hl⟩ := List.mem_flatMap.1 hl
    obtain ⟨j, hlow, hj, hej⟩ := hmem e he
    rw [hlabels hlow hj hej] at hl
    split at hl
    · exact List.mem_singleton.1 hl
    · cases hl
  · rw [List.flatMap_eq_nil_iff]
    constructor
    · intro hnil j hlow hj hin
      have hlt : j < (entries p).1.length := by
        have := (List.getElem?_eq_some_iff.1 hg.last_eq).1
        omega
      have hej : (entries p).1[j]? = some (entries p).1[j] := List.getElem?_eq_getElem hlt
      have h := hnil _ (hg.mem_entries_iff.2 ⟨j, by omega, hj, hej⟩)
      have htable : inJumpTable p j = true := List.contains_iff_mem.2 hin
      rw [hlabels hlow hj hej, if_pos htable] at h
      cases h
    · intro hout e he
      obtain ⟨j, hlow, hj, hej⟩ := hmem e he
      rw [hlabels hlow hj hej]
      exact if_neg fun hin => hout j hlow hj (List.contains_iff_mem.1 hin)

end

/-- The listing of a program with replaced instructions has the labels of the full listing, in their order, but
for labels of code to which only the jump table leads.  It has all of them exactly when the jump table does not
lead into the code of a statement, from the last `enter` or statement in front of it on. -/
theorem labels_kept_iff {σ : Type} {d : Directory} {type : Option String} {file : ByteArray} {c c' : Console}
    {p : Program} (hload : Program.load d type file c = (.ok p, c')) {s t : Session σ}
    (hprint : printCode p false s = .ok () t) :
    ∃ u plain replaced, printCode p true s = .ok () u ∧ t.console.out = s.console.out ++ plain ∧
      u.console.out = s.console.out ++ replaced ∧
      (labelLines replaced).Sublist (labelLines plain) ∧
      (labelLines replaced).filter (· ≠ tableLabel) = (labelLines plain).filter (· ≠ tableLabel) ∧
      (labelLines replaced = labelLines plain ↔
        ∀ (k : Nat) (e : Entry) (text : String) (low : Int), (entries p).1[k]? = some e →
          e.statement = some text → isHollow text = false → IsGreatest (clearsBefore p.code k) low →
          ∀ j : Nat, low < j → j ≤ k → j ∉ p.jumpTargets) := by
  have hp := Program.tidy_of_load hload
  have hd := (Program.load_eq_ok hload).dataLength_nonneg
  obtain ⟨v, hr, hplain⟩ := printCode_eq_ok hprint
  obtain ⟨u, hu⟩ := (printCode_ok_iff p true s).2 ((printCode_ok_iff p false s).1 ⟨t, hprint⟩)
  obtain ⟨-, -, hreplaced⟩ := printCode_eq_ok hu
  have htidy : ∀ g ∈ passages (entries p).1, ∀ e ∈ g.entries, e.Tidy := fun g hg e he =>
    hr.tidy hp (mem_of_mem_passages hg he)
  have hlabels : labelLines (layOut false (entries p).1) = (passages (entries p).1).flatMap Passage.labels := by
    rw [layOut_eq]
    exact (Marks.join fun g hg => (marks_passage (htidy g hg)).1).labelLines_eq
  have hleft : labelLines (layOut true (entries p).1) = (passages (entries p).1).flatMap Passage.labelsLeft := by
    rw [layOut_eq]
    exact (Marks.join fun g hg => (marks_passage (htidy g hg)).2).labelLines_eq
  obtain ⟨hsub, hiff⟩ := flatMap_eq_iff (passages (entries p).1) fun g _ => g.labelsLeft_sublist
  refine ⟨u, _, _, hu, hplain, hreplaced, ?_, ?_, ?_⟩
  · rw [hlabels, hleft]
    exact hsub
  · rw [hlabels, hleft, List.filter_flatMap, List.filter_flatMap]
    refine List.flatMap_congr fun g hg => ?_
    obtain ⟨first, last, hspan⟩ := exists_spans hg
    cases hs : g.replacement? with
    | none => rw [Passage.labelsLeft, hs]; rfl
    | some text =>
      have htable := (labels_statement hp hd hr hspan hs).1
      have hnone : g.labels.filter (· ≠ tableLabel) = [] := List.filter_eq_nil_iff.2 fun l hl => by
        simp [htable l hl]
      rw [hnone, Passage.labelsLeft, hs]
      rfl
  · rw [hlabels, hleft, hiff]
    constructor
    · intro hall k e text low he hst hh hlow j hj hk
      obtain ⟨g, hg, rfl, first, hspan⟩ := exists_of_closes he (.inl (by rw [hst]; rfl))
      have hs : g.replacement? = some text := Passage.replacement?_eq_some_iff.2 ⟨hst, hh⟩
      have hnil := Passage.labelsLeft_eq_iff.1 (hall g hg) text hs
      rw [hlow.unique (lastClear_isGreatest p.code k)] at hj
      exact (labels_statement hp hd hr hspan hs).2.1 hnil j hj hk
    · intro hall g hg
      obtain ⟨first, last, hspan⟩ := exists_spans hg
      refine Passage.labelsLeft_eq_iff.2 fun text hs => (labels_statement hp hd hr hspan hs).2.2 ?_
      obtain ⟨hst, hh⟩ := Passage.replacement?_eq_some_iff.1 hs
      exact hall last g.last text _ hspan.last_eq hst hh (lastClear_isGreatest p.code last)

/-- a branch leads into the code of one statement, so only the other statement replaces its code -/
theorem labels_kept_branching :
    ∃ p c t u e plain replaced, Program.load Program.bare none branchingFile {} = (.ok p, c) ∧
      printCode p false (⟨(), {}⟩ : Session Unit) = .ok () t ∧
      printCode p true (⟨(), {}⟩ : Session Unit) = .ok () u ∧
      t.console.out = "" ++ plain ∧ u.console.out = "" ++ replaced ∧ 5 ∈ p.analysis.jumps ∧
      (entries p).1[10]? = some e ∧ e.statement = some "*(int *)(&localc) = -(0x2)" ∧
      labelLines replaced = labelLines plain := by
  obtain ⟨p, c, hl, ht⟩ := Program.exists_of_loadsWith Program.bare branchingFile
    (fun p => (entries p).2 = none && p.jumpTargets = [0] && p.code[0]? = some ⟨.enter, 32⟩ &&
      ((entries p).1[0]?).map Entry.statement = some none && 5 ∈ p.analysis.jumps &&
      ((entries p).1[10]?).map Entry.statement = some (some "*(int *)(&localc) = -(0x2)")) (by decide +kernel)
  simp only [Bool.and_eq_true, decide_eq_true_eq] at ht
  obtain ⟨⟨⟨⟨⟨hw, htargets⟩, henter⟩, hfirst⟩, hjump⟩, hstatement⟩ := ht
  obtain ⟨e, he, hst⟩ := Option.map_eq_some_iff.1 hstatement
  obtain ⟨t, hp⟩ := (printCode_ok_iff p false (⟨(), {}⟩ : Session Unit)).2 hw
  obtain ⟨u, plain, replaced, hu, hplain, hreplaced, -, -, hiff⟩ := labels_kept_iff hl hp
  refine ⟨p, c, t, u, e, plain, replaced, hl, hp, hu, hplain, hreplaced, hjump, he, hst, hiff.2 ?_⟩
  -- the jump table leads to the start of the function alone, which is no statement
  intro k f text low hf hft hh hlow j hj hk hin
  rw [htargets, List.mem_singleton] at hin
  by_cases hk0 : k = 0
  · subst hk0
    rw [hf, Option.map_some, hft] at hfirst
    cases hfirst
  · have hzero : (0 : Int) ≤ low := hlow.2 (.inr ⟨0, _, rfl, by omega, henter, rfl⟩)
    omega

/-- the same file with another word at its end, in the jump table -/
def retargeted (file : ByteArray) (target : Int) : ByteArray :=
  ⟨(file.data.toList.take (file.size - 4) ++ Instruction.wordBytes target).toArray⟩

/-- the jump table leads into the code of a statement -/
def tableFile : ByteArray :=
  retargeted (Program.fileOf [⟨.enter, 16⟩, ⟨.localAddr, 8⟩, ⟨.const, 1⟩, ⟨.store4, 0⟩, ⟨.leave, 16⟩] [] []) 2

/-- the lines of its full listing -/
def tableLines : List String :=
  ["", "; max local arg 0x8", "; ========================", "00000000  enter               0x10",
    "00000001  local           1   0x8", "", ";----------------------------------- table jump",
    "00000002  const           1   0x1", "00000003  store4         -2", "    ;; dec: *(int *)(&local8) = 0x1", "",
    "00000004  leave               0x10"]

/-- the lines of its listing with the instructions of the statement replaced -/
def tableLinesLeft : List String :=
  ["", "; max local arg 0x8", "; ========================", "00000000  enter               0x10",
    "    *(int *)(&local8) = 0x1;", "00000004  leave               0x10"]

/-- the statement replaces code to which the jump table leads -/
theorem labels_lost :
    ∃ p c t u, Program.load Program.bare none tableFile {} = (.ok p, c) ∧ p.jumpTargets = [2] ∧
      printCode p false (⟨(), {}⟩ : Session Unit) = .ok () t ∧
      printCode p true (⟨(), {}⟩ : Session Unit) = .ok () u ∧
      labelLines t.console.out = [tableLabel] ∧ labelLines u.console.out = [] := by
  obtain ⟨p, c, hl, ht⟩ := Program.exists_of_loadsWith Program.bare tableFile
    (fun p => (entries p).2 = none && p.jumpTargets = [2] &&
      layOut false (entries p).1 = String.join (tableLines.map (· ++ "\n")) &&
      layOut true (entries p).1 = String.join (tableLinesLeft.map (· ++ "\n"))) (by decide +kernel)
  simp only [Bool.and_eq_true, decide_eq_true_eq] at ht
  obtain ⟨⟨⟨hw, htargets⟩, hplain⟩, hreplaced⟩ := ht
  obtain ⟨t, hp⟩ := (printCode_ok_iff p false (⟨(), {}⟩ : Session Unit)).2 hw
  obtain ⟨u, hu⟩ := (printCode_ok_iff p true (⟨(), {}⟩ : Session Unit)).2 hw
  obtain ⟨-, -, ht⟩ := printCode_eq_ok hp
  obtain ⟨-, -, hu'⟩ := printCode_eq_ok hu
  have hmarks : Marks t.console.out [tableLabel] := ⟨tableLines, ht.trans hplain, by decide, by decide⟩
  have hleft : Marks u.console.out [] := ⟨tableLinesLeft, hu'.trans hreplaced, by decide, by decide⟩
  exact ⟨p, c, t, u, hl, htargets, hp, hu, hmarks.labelLines_eq, hleft.labelLines_eq⟩

end Disasm.Listing
