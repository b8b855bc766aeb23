import Mathlib
import Disasm.Proofs.Annotation.Reading
import Disasm.Proofs.Listing.Completion

/-!
# Pointers to templates that are not there

* `Program.Stray p target`  a range that is kept is a pointer to a template that is not there;
* `entries_problem`  only such a pointer can end a listing with a report;
* `steps_of_load`  the labels of a program that was loaded come from steps behind checked templates;
* `library_of_load`, `opens_of_stray`  which references are open then, and which of them a stray pointer has;
* `stray_of_load`  so it is a type word outside of the template files that names the template of a stray pointer.
  The check of references, which is made behind the template files, would find it.
-/

namespace Disasm

/-- a range that is kept is a pointer to a template, and no template of this name is there -/
def Program.Stray (p : Program) (target : String) : Prop :=
  ∃ (r : Range) (spot : Spot) (pointer : Pointer), p.labels.Holds r spot ∧ r.kind = .pointerToTemplate ∧
    r.pointer = some pointer ∧ pointer.target = target ∧ p.library.templates.contains target = false

namespace Listing

/-! ## listings that end with a report -/

section
variable {α β : Type} {p : Program} {s : State} {k : Nat} {i : Instruction} {next : Option Nat}

/-- the work may fail, but not with a problem that is reported -/
def Unreported (x : Step α) : Prop := ∀ text, x ≠ .error (.problem text)

namespace Unreported

theorem ok (a : α) : Unreported (.ok a) := fun _ h => by cases h

theorem fail (f : Fault) : Unreported (fail f : Step α) := fun _ h => by cases h

theorem get (o : Option α) : Unreported (get o) := by
  cases o with
  | some a => exact ok a
  | none => exact fail _

theorem lift (e : Except Fault α) : Unreported (lift e) := by
  cases e with
  | ok a => exact ok a
  | error f => exact fail f

theorem bind {x : Step α} {f : α → Step β} (hx : Unreported x) (hf : ∀ a, Unreported (f a)) :
    Unreported (x >>= f) := by
  cases x with
  | ok a => exact hf a
  | error why =>
    intro text h
    have hwhy : (Except.error why : Step β) = .error (.problem text) := h
    cases hwhy
    exact hx text rfl

end Unreported

theorem callersText_unreported (callers : List Int) : Unreported (callersText p callers) := by
  have hcaller : ∀ caller, Unreported (callerText p caller) := by
    intro caller
    unfold callerText
    cases p.labels.functions[caller]? with
    | some name => exact .ok _
    | none => exact (Unreported.get _).bind fun hash => .ok _
  induction callers with
  | nil => exact .ok ""
  | cons caller callers ih => exact (hcaller caller).bind fun text => ih.bind fun rest => .ok _

theorem heading_unreported : Unreported (heading p k) := by
  have hcallers : Unreported (callersLine p k) := by
    unfold callersLine
    cases p.analysis.calls[(k : Int)]? with
    | none => exact .ok ""
    | some callers => exact (callersText_unreported callers).bind fun text => .ok _
  have hname : Unreported (nameLine p k) := by
    unfold nameLine
    cases p.labels.functions[(k : Int)]? with
    | some name => exact .ok _
    | none => exact (Unreported.get _).bind fun hash => .ok _
  unfold heading
  exact hcallers.bind fun _ => hname.bind fun _ => (Unreported.get _).bind fun _ => .ok _

theorem constantText_unreported (value : Int) (n : Nat) : Unreported (constantText p k value n) := by
  unfold constantText
  dsimp only
  split
  · split
    · exact .ok _
    · exact .ok _
  · split
    · exact (Unreported.lift _).bind fun text => .ok _
    · split
      · exact (Unreported.lift _).bind fun text => .ok _
      · split
        · exact .ok _
        · split
          · exact .ok _
          · exact .ok _

theorem operate_unreported (stack : OperandStack) (w : OperandStack.Work Unit) : Unreported (operate stack w) := by
  unfold operate
  cases w.run stack with
  | ok u t => exact .ok t
  | error f t => exact .fail f

/-- the ranges among which a pointer is looked for are kept -/
theorem holds_of_pointerRanges {r : PointerRead} {ranges : List Range} (h : pointerRanges p s r = .ok ranges)
    {range : Range} (hr : range ∈ ranges) : ∃ spot, p.labels.Holds range spot := by
  unfold pointerRanges at h
  split at h
  · cases h
    exact ⟨.symbol r.pointer, hr⟩
  · split at h
    · cases h
    · next frame _ =>
      dsimp only at h
      split at h
      · cases h
        refine ⟨.arg (s.func.getD (-1)) (argKey (r.pointer - frame - 8)), ?_⟩
        rw [Option.mem_toList] at hr
        obtain ⟨t, ht, hkey⟩ := Option.bind_eq_some_iff.1 hr
        unfold Labels.Holds
        dsimp only
        rw [ht]
        exact hkey
      · cases h
        exact ⟨.frame (s.func.getD (-1)) r.pointer, hr⟩

theorem pointerNote_problem {r : PointerRead} {text : String} (h : pointerNote p s r = .error (.problem text)) :
    ∃ target, p.Stray target ∧ text = "unknown template " ++ target := by
  unfold pointerNote at h
  cases hranges : pointerRanges p s r with
  | error why =>
    -- looking for the ranges fails without a report
    refine absurd hranges ?_
    rw [hranges] at h
    have hwhy : (Except.error why : Step String) = .error (.problem text) := h
    cases hwhy
    refine fun hproblem => ?_
    unfold pointerRanges at hproblem
    split at hproblem
    · cases hproblem
    · split at hproblem
      · cases hproblem
      · dsimp only at hproblem
        split at hproblem <;> cases hproblem
  | ok ranges =>
    rw [hranges] at h
    dsimp only [bind, Except.bind] at h
    cases hfind : ranges.find? isPlainPointer with
    | none =>
      rw [hfind] at h
      cases h
    | some range =>
      obtain ⟨pointer, hpointer⟩ := exists_pointer (List.find?_some hfind)
      obtain ⟨spot, hspot⟩ := holds_of_pointerRanges hranges (List.mem_of_find?_eq_some hfind)
      rw [hfind] at h
      dsimp only at h
      rw [hpointer, Option.map_some, Option.getD_some] at h
      by_cases hkind : range.kind = .pointerToTemplate
      · rw [if_pos hkind] at h
        cases ht : p.library.templates[pointer.target]? with
        | none =>
          rw [ht] at h
          cases h
          refine ⟨pointer.target, ⟨range, spot, pointer, hspot, hkind, hpointer, rfl, ?_⟩, rfl⟩
          rw [Std.TreeMap.contains_eq_isSome_getElem?, ht]
          rfl
        | some t =>
          rw [ht] at h
          dsimp only at h
          split at h <;> cases h
      · rw [if_neg hkind] at h
        cases h

/-- an instruction whose entry ends with a report reads through a stray pointer -/
theorem entry_problem {text : String} (h : entry p k i next s = .error (.problem text)) :
    ∃ target, p.Stray target ∧ text = "unknown template " ++ target := by
  by_cases he : i.op = .enter
  · rw [entry_enter he] at h
    cases hheading : heading p k with
    | ok t => rw [hheading] at h; cases h
    | error why => rw [hheading] at h; cases h; exact absurd hheading (heading_unreported text)
  by_cases hl : i.op = .localAddr
  · rw [entry_local hl] at h
    cases hframe : (arriving p k s).frame with
    | none => rw [hframe] at h; cases h
    | some frame => rw [hframe] at h; cases h
  by_cases hc : i.op = .const
  · rw [entry_const hc] at h
    cases next with
    | none => cases h
    | some n =>
      dsimp only at h
      cases hconst : constantText p k i.parm n with
      | ok t => rw [hconst] at h; cases h
      | error why => rw [hconst] at h; cases h; exact absurd hconst (constantText_unreported _ _ text)
  cases ho : i.op.operation? with
  | none =>
    rw [entry_other ho he hl hc] at h
    cases h
  | some o =>
    rw [entry_operation ho, operationEntry_eq] at h
    cases hnote : loadNote p (arriving p k s) (bareEntry p k i).index (bareEntry p k i).instruction.op with
    | error why =>
      rw [hnote] at h
      cases h
      unfold loadNote readNote at hnote
      split at hnote
      · split at hnote
        · exact pointerNote_problem hnote
        · cases hnote
      · cases hnote
    | ok note =>
      rw [hnote] at h
      dsimp only at h
      cases hstack : operate (arriving p k s).stack (OperandStack.perform (parmOperand (bareEntry p k i).instruction) o) with
      | error why => rw [hstack] at h; cases h; exact absurd hstack (operate_unreported _ _ text)
      | ok stack =>
        rw [hstack] at h
        dsimp only at h
        split at h <;> cases h

/-- what is reported at the end of a listing is a stray pointer -/
theorem entries_problem {text : String} (h : (entries p).2 = some (.problem text)) :
    ∃ target, p.Stray target ∧ text = "unknown template " ++ target := by
  have hends := entries_ends p
  rw [h] at hends
  obtain ⟨k, t, -, ⟨i, -, herror⟩ | ⟨-, f, hfault⟩⟩ := hends
  · exact entry_problem herror
  · cases hfault

end
end Listing

namespace Program

open Disasm.Action

/-! ## programs that were loaded -/

section
variable {d : Directory} {type : Option String} {file : ByteArray} {c c' : Console} {p : Program}
  (h : load d type file c = (.ok p, c'))
include h

/-- the annotations of a program come from steps behind templates that have been checked -/
theorem steps_of_load :
    ∃ (lib : Library) (built : List Range), lib.Regular ∧ TemplateReader.undefined? lib = none ∧
      Annotations.Steps (Annotations.TypedLine d) { library := lib } built p.annotations := by
  obtain ⟨before, t, ht, hannotations⟩ := load_annotations h
  obtain ⟨lib, hlib, hnone, built, hsteps⟩ := (Annotations.load_yields d Library.Regular.empty).of_ok ht
  rw [hannotations]
  exact ⟨lib, built, hlib, hnone, hsteps⟩

/-- a pointer to a template that is kept leads to one that is there or expected -/
theorem pointer_expected_of_load {r : Range} {spot : Spot} (hr : p.labels.Holds r spot)
    (hkind : r.kind = .pointerToTemplate) : ∃ pointer, r.pointer = some pointer ∧ p.library.Expects none pointer.target := by
  obtain ⟨lib, built, hlib, -, hsteps⟩ := steps_of_load h
  rcases hsteps.held hr with hempty | ⟨r', hr', rfl⟩
  · exact absurd hempty (Labels.not_holds_empty r spot)
  · -- an array would be kept as plain bytes
    have hkept : r'.kept = r' := by
      unfold Range.kept at hkind ⊢
      split at hkind
      · cases hkind
      · next harray => exact if_neg harray
    rw [hkept] at hkind ⊢
    exact (hsteps.drawn r' hr').pointer_expected (hsteps.regular hlib) hkind

/-- pointers of templates lead to templates; a reference is open only if a line of symbols or functions opened it -/
theorem library_of_load : p.library.Closed ∧
    ∀ ref ∈ p.library.forward, p.library.templates.contains ref.name = true ∨
      Annotations.Opens (Annotations.TypedLine d) p.library ref := by
  obtain ⟨lib, built, hlib, hnone, hsteps⟩ := steps_of_load h
  obtain ⟨refs, hrefs, hopens⟩ := hsteps.library
  have hlibrary : p.library = lib.expecting refs := hrefs
  rw [hlibrary]
  refine ⟨hlib.closed hnone, fun ref href => ?_⟩
  rcases List.mem_append.1 href with href | href
  · have hstored : lib.templates.contains ref.name = true := by simpa using List.find?_eq_none.1 hnone ref href
    exact .inl hstored
  · have hopen := hopens ref href
    exact .inr ⟨hopen.place, hopen.absent, hopen.word⟩

/-- a stray pointer has an open reference -/
theorem opens_of_stray {target : String} (hstray : p.Stray target) :
    ∃ ref ∈ p.library.forward, ref.name = target ∧ Annotations.Opens (Annotations.TypedLine d) p.library ref := by
  obtain ⟨r, spot, pointer, hr, hkind, hpointer, rfl, habsent⟩ := hstray
  obtain ⟨pointer', hpointer', hexpects⟩ := pointer_expected_of_load h hr hkind
  cases hpointer.symm.trans hpointer'
  rcases hexpects with hstored | hcurrent | ⟨ref, href, hname⟩
  · rw [habsent] at hstored
    cases hstored
  · cases hcurrent
  · refine ⟨ref, href, hname, ((library_of_load h).2 ref href).resolve_left fun hstored => ?_⟩
    rw [hname, habsent] at hstored
    cases hstored

/-- where no reference is open there is no stray pointer -/
theorem not_stray_of_defined (hdefined : TemplateReader.undefined? p.library = none) (target : String) :
    ¬ p.Stray target := by
  intro hstray
  obtain ⟨ref, href, -, hopen⟩ := opens_of_stray h hstray
  have hstored := List.find?_eq_none.1 hdefined ref href
  rw [hopen.absent] at hstored
  exact hstored rfl

end

/-- the pointers that words on the lines of symbols and functions declare lead to templates -/
def NamesTemplates (d : Directory) (lib : Library) : Prop :=
  ∀ loc, Annotations.TypedLine d loc → ∀ word ∈ Text.words loc.line, ∀ shape pointer, lib.shape? word = some shape →
    shape.kind = .pointerToTemplate → shape.pointer = some pointer → lib.templates.contains pointer.target = true

/-- such words leave no reference open -/
theorem NamesTemplates.stored {d : Directory} {lib : Library} (hnames : NamesTemplates d lib) {ref : ForwardReference}
    (hopen : Annotations.Opens (Annotations.TypedLine d) lib ref) : lib.templates.contains ref.name = true := by
  obtain ⟨word, hword, shape, hshape, hkind, htarget⟩ := hopen.word
  obtain ⟨pointer, hpointer, hname⟩ := Option.map_eq_some_iff.1 htarget
  rw [← hname]
  exact hnames ref.location hopen.place word hword shape pointer hshape hkind hpointer

/-- no template has an open reference when a program is loaded, but type words of the other files may leave one.
Pointers of templates lead to templates.  A reference that is open was read on a line of symbols or functions with a word
that is a pointer to it, and each stray pointer has such a reference.  A listing ends with a report for a stray pointer
alone.  So the check of references that is made behind the templates, made once more behind the other files, leaves no
stray pointer and no such report; it passes when all words of these files name templates that are there -/
theorem stray_of_load {d : Directory} {type : Option String} {file : ByteArray} {c c' : Console} {p : Program}
    (h : load d type file c = (.ok p, c')) :
    p.library.Closed ∧
      (∀ ref ∈ p.library.forward, p.library.templates.contains ref.name = true ∨
        Annotations.Opens (Annotations.TypedLine d) p.library ref) ∧
      (∀ target, p.Stray target → ∃ ref ∈ p.library.forward, ref.name = target ∧
        Annotations.Opens (Annotations.TypedLine d) p.library ref) ∧
      (∀ text, (Listing.entries p).2 = some (.problem text) →
        ∃ target, p.Stray target ∧ text = "unknown template " ++ target) ∧
      (NamesTemplates d p.library → TemplateReader.undefined? p.library = none) ∧
      (TemplateReader.undefined? p.library = none →
        (∀ r spot, p.labels.Holds r spot → r.kind = .pointerToTemplate →
          ∃ pointer, r.pointer = some pointer ∧ p.library.templates.contains pointer.target = true) ∧
        ∀ text, (Listing.entries p).2 ≠ some (.problem text)) := by
  obtain ⟨hclosed, hforward⟩ := library_of_load h
  refine ⟨hclosed, hforward, fun target => opens_of_stray h, fun text => Listing.entries_problem, fun hnames => ?_,
    fun hdefined => ⟨fun r spot hr hkind => ?_, fun text htext => ?_⟩⟩
  · refine List.find?_eq_none.2 fun ref href => ?_
    rw [(hforward ref href).elim id hnames.stored]
    decide
  · obtain ⟨pointer, hpointer, -⟩ := pointer_expected_of_load h hr hkind
    refine ⟨pointer, hpointer, ?_⟩
    by_contra habsent
    exact not_stray_of_defined h hdefined pointer.target
      ⟨r, spot, pointer, hr, hkind, hpointer, rfl, eq_false_of_ne_true habsent⟩
  · obtain ⟨target, htarget, -⟩ := Listing.entries_problem htext
    exact not_stray_of_defined h hdefined target htarget

/-! ### a pointer with and without a template -/

/-- the range that a symbol keeps for the pointer -/
def firstRange : Range :=
  { size := 4, name := "first", kind := .pointerToTemplate, pointer := some ⟨"pair_t", 1⟩, elementTemplate := none }

/-- where the template is described the pointer leads to it -/
theorem stray_of_load_describing :
    ∃ p c, load Listing.describingDirectory none Listing.readingFile {} = (.ok p, c) ∧
      TemplateReader.undefined? p.library = none ∧ p.labels.Holds firstRange (.symbol 0) ∧
      p.library.templates.contains "pair_t" = true ∧ ∀ text, (Listing.entries p).2 ≠ some (.problem text) := by
  obtain ⟨p, c, hload, htest⟩ := exists_of_loadsWith Listing.describingDirectory Listing.readingFile
    (fun p => decide (TemplateReader.undefined? p.library = none ∧ firstRange ∈ p.labels.ranges.getD 0 []))
    (by decide +kernel)
  obtain ⟨hdefined, hheld⟩ := of_decide_eq_true htest
  obtain ⟨-, -, -, -, -, hall⟩ := stray_of_load hload
  obtain ⟨hstored, hlisting⟩ := hall hdefined
  obtain ⟨pointer, hpointer, htarget⟩ := hstored firstRange (.symbol 0) hheld rfl
  cases hpointer
  exact ⟨p, c, hload, hdefined, hheld, htarget, hlisting⟩

/-- where it is not, the program is loaded all the same; the listing ends with a report when a part of it is written -/
theorem load_leaves_stray :
    ∃ p c, load Listing.namingDirectory none Listing.readingFile {} = (.ok p, c) ∧ p.Stray "pair_t" ∧
      (Listing.entries p).2 = some (.problem ("unknown template " ++ "pair_t")) ∧
      Listing.layOut false (Listing.entries p).1 ≠ "" := by
  obtain ⟨p, c, hload, htest⟩ := exists_of_loadsWith Listing.namingDirectory Listing.readingFile
    (fun p => decide ((Listing.entries p).2 = some (.problem ("unknown template " ++ "pair_t")) ∧
      Listing.layOut false (Listing.entries p).1 ≠ "")) (by decide +kernel)
  obtain ⟨hproblem, htext⟩ := of_decide_eq_true htest
  obtain ⟨target, hstray, heq⟩ := Listing.entries_problem hproblem
  have htarget : "pair_t" = target := (String.append_right_inj _).1 heq
  exact ⟨p, c, hload, htarget ▸ hstray, hproblem, htext⟩

end Program
end Disasm
