import Mathlib
import Disasm.Proofs.Report
import Disasm.Proofs.Template.Step

/-!
# How a load ends early

* `ArrayWord.Truncated`  behind dimensions that are valid, a bracket is followed by another one or by nothing;
* `declare_reports`, `readLine_reports`  type words and lines that are not accepted are reported, but for such words;
* `Library.load_ends`  a load stops with a report on every other fault of its text.
-/

namespace Disasm

open Disasm.Action

/-! ## dimensions -/

namespace ArrayWord

variable {constants : Std.TreeMap String Int}

/-- behind some valid dimensions a piece between brackets is empty -/
def BreaksOff (constants : Std.TreeMap String Int) (pieces : List (List Char)) : Prop :=
  ∃ levels rest, pieces = levels ++ [] :: rest ∧ ∀ piece ∈ levels, (level? constants piece).isSome = true

/-- a bracket behind valid dimensions is followed by another one or by nothing -/
def Truncated (constants : Std.TreeMap String Int) (word : String) : Prop :=
  BreaksOff constants (Text.pieces (· == '[') word.toList).tail

theorem breaksOff_cons {piece : List Char} {rest : List (List Char)} :
    BreaksOff constants (piece :: rest) ↔
      piece = [] ∨ (level? constants piece).isSome = true ∧ BreaksOff constants rest := by
  constructor
  · rintro ⟨levels, behind, heq, hlevels⟩
    cases levels with
    | nil =>
      cases heq
      exact .inl rfl
    | cons first levels =>
      cases heq
      refine .inr ⟨hlevels piece List.mem_cons_self, levels, behind, rfl, fun p hp => ?_⟩
      exact hlevels p (List.mem_cons_of_mem piece hp)
  · rintro (rfl | ⟨hpiece, levels, behind, rfl, hlevels⟩)
    · exact ⟨[], rest, rfl, List.forall_mem_nil _⟩
    · refine ⟨piece :: levels, behind, rfl, fun p hp => ?_⟩
      rcases List.mem_cons.1 hp with rfl | hp
      · exact hpiece
      · exact hlevels p hp

theorem readLevels_eq_error_iff {pieces : List (List Char)} {f : Fault} :
    readLevels constants pieces = .error f ↔ f = .outOfBounds ∧ BreaksOff constants pieces := by
  induction pieces with
  | nil =>
    constructor
    · intro h; cases h
    · rintro ⟨-, levels, rest, heq, -⟩
      simp at heq
  | cons piece rest ih =>
    rw [breaksOff_cons]
    unfold readLevels
    by_cases hempty : piece = []
    · subst hempty
      rw [List.isEmpty_nil, if_pos rfl, Except.error.injEq, eq_comm]
      simp
    · rw [if_neg (by simpa using hempty)]
      cases hl : level? constants piece with
      | none => simp [hempty]
      | some l =>
        simp only [hempty, Option.isSome_some, true_and, false_or]
        rw [← ih]
        cases readLevels constants rest with
        | ok p => simp
        | error g => simp

/-- the dimensions of a word are read, or the word is truncated -/
theorem read_eq_error_iff {word : String} {f : Fault} :
    read constants word = .error f ↔ f = .outOfBounds ∧ Truncated constants word := by
  unfold read Truncated
  split
  · next hp =>
    rw [hp]
    simp [BreaksOff]
  · next hp =>
    rw [hp]
    simp [BreaksOff]
  · next name brackets _ hp =>
    rw [hp, List.tail_cons, ← readLevels_eq_error_iff]
    cases readLevels constants brackets with
    | ok p => simp
    | error g => simp

end ArrayWord

/-! ## type words -/

namespace Library

variable (loc : Location) (current : Option String)

theorem expect_orderly (name : String) : Orderly (expect loc current name) := by
  unfold expect
  exact Orderly.read.bind fun lib => .ite (.update _) (.pure _)

theorem pointerShape_orderly (word : List Char) : Orderly (pointerShape loc current word) := by
  unfold pointerShape
  refine .ite (.pure _) (.ite (.pure _) (.check ?_))
  exact (expect_orderly loc current _).bind fun _ => .pure _

theorem valueShape_orderly (name : String) : Orderly (valueShape loc name) := by
  unfold valueShape
  split
  · exact .pure _
  · refine .check (Orderly.read.bind fun lib => ?_)
    split
    · exact .say loc _
    · exact .pure _

theorem sizeShape_orderly (word : String) : Orderly (sizeShape loc word) := by
  unfold sizeShape
  split
  · exact .say loc _
  · exact .ite (.say loc _) (.pure _)

/-- the word is no number, and truncated once the alias in it is expanded -/
def BreaksOff (lib : Library) (word : String) : Prop :=
  startsNumber word.toList = false ∧ ArrayWord.Truncated lib.constants (lib.expandAlias word).2

theorem typeShape_reports (word : String) (s : Session Library) :
    Reports (typeShape loc current word) s
      (ArrayWord.Truncated s.state.constants (s.state.expandAlias word).2) := by
  unfold typeShape
  refine Reports.read ?_
  dsimp only
  generalize s.state.expandAlias word = r
  obtain ⟨aliased, expanded⟩ := r
  have hread : Reports (Action.ofExcept (ArrayWord.read s.state.constants expanded) : Action Library ArrayWord) s
      (ArrayWord.Truncated s.state.constants expanded) := .ofExcept fun f => ArrayWord.read_eq_error_iff
  refine hread.andThen fun w t _ => Orderly.reports (.check (.ite ?_ ?_))
  · exact (pointerShape_orderly loc current _).bind fun shape => .pure _
  · exact (valueShape_orderly loc _).bind fun shape => .pure _

/-- a word that is not accepted is reported, unless it breaks off -/
theorem declare_reports {word : String} (hword : word ≠ "") (rest : List String) (s : Session Library) :
    Reports (declare loc current (word :: rest)) s (s.state.BreaksOff word) := by
  unfold declare
  dsimp only
  rw [if_neg (by simpa using hword)]
  cases hnumber : startsNumber word.toList with
  | true =>
    rw [if_pos rfl]
    exact (sizeShape_orderly loc word).reports.congr (by simp [BreaksOff, hnumber])
  | false =>
    rw [if_neg Bool.false_ne_true]
    exact (typeShape_reports loc current word s).congr (by simp [BreaksOff, hnumber])

end Library

/-! ## lines -/

namespace TemplateReader

section
variable (override : Bool) (loc : Location) (words : List String)

theorem readAlias_orderly : Orderly (readAlias override loc words) := by
  unfold readAlias
  split
  · exact .check (Orderly.read.bind fun r => .check (.check (.update _)))
  · exact .say loc _

theorem readConstant_orderly : Orderly (readConstant override loc words) := by
  unfold readConstant
  split
  · refine .check ?_
    split
    · exact .say loc _
    · exact Orderly.read.bind fun r => .check (.update _)
  · exact .say loc _

theorem readSize_orderly (word : Option String) : Orderly (readSize loc word) := by
  unfold readSize
  split
  · exact .pure _
  · split
    · exact .say loc _
    · exact .ite (.say loc _) (.pure _)

theorem readHead_orderly : Orderly (readHead override loc words) := by
  unfold readHead
  split
  · exact .say loc _
  · refine .check (Orderly.read.bind fun r => .check (.check ?_))
    exact (readSize_orderly loc _).bind fun size => .update _

theorem readEnd_orderly (t : OpenTemplate) : Orderly (readEnd loc t words) := by
  unfold readEnd
  exact .check ((Orderly.update _).bind fun _ => .update _)

theorem checkOrder_orderly (what name : String) (offset : Int) (members : List Member) :
    Orderly (checkOrder loc what name offset members) := by
  unfold checkOrder
  split
  · exact .pure _
  · exact .ite (.warn _) (.ite (.warn _) (.pure _))

theorem addPlain_orderly (t : OpenTemplate) (given : Option Int) (shape : Shape) (name written : String) :
    Orderly (addPlain loc t given shape name written) := by
  unfold addPlain
  refine Orderly.read.bind fun r => ?_
  exact (checkOrder_orderly loc _ name _ t.members).bind fun _ => .update _

theorem addTemplate_reports (t : OpenTemplate) (given : Option Int) (shape : Shape) {inner : String}
    (name written : String) {s : Session TemplateReader} {u : Template}
    (hu : s.state.library.templates[inner]? = some u) :
    Reports (addTemplate loc t given shape inner name written) s False := by
  unfold addTemplate
  refine Reports.read ?_
  rw [hu]
  exact ((checkOrder_orderly loc _ name _ t.members).bind fun _ => .update _).reports

theorem readOffset_orderly : Orderly (readOffset loc words) := by
  unfold readOffset
  split
  · exact .pure _
  · split
    · exact .say loc _
    · exact .ite (.say loc _) (.pure _)
  · exact .say loc _

variable {words}

theorem readOffset_of_memberLine {given : Option Int} {word name : String}
    (h : MemberLine words given word name) (s : Session TemplateReader) :
    readOffset loc words s = .ok (given, [word, name]) s := by
  cases h with
  | bare => rfl
  | placed hw hn =>
    simp only [readOffset, hw]
    rw [if_neg (by omega)]
    rfl

/-- the type word of the line breaks off -/
def BreaksOff (lib : Library) (words : List String) : Prop :=
  ∃ given word name, MemberLine words given word name ∧ lib.BreaksOff word

theorem readMember_reports (hwords : ∀ w ∈ words, w ≠ "") (t : OpenTemplate) (s : Session TemplateReader) :
    Reports (readMember loc t words) s (BreaksOff s.state.library words) := by
  unfold readMember
  by_cases hline : ∃ given word name, MemberLine words given word name
  · obtain ⟨given, word, name, hline⟩ := hline
    have hword : word ≠ "" := by
      cases hline with
      | bare => exact hwords word (by simp)
      | placed => exact hwords word (by simp)
    refine Reports.afterOk (readOffset_of_memberLine loc hline s) ?_
    dsimp only
    have hbreaks : s.state.library.BreaksOff word ↔ BreaksOff s.state.library words := by
      constructor
      · intro hb
        exact ⟨given, word, name, hline, hb⟩
      · rintro ⟨given', word', name', hline', hb⟩
        have hsame := (readOffset_of_memberLine loc hline s).symm.trans (readOffset_of_memberLine loc hline' s)
        injection hsame with hsame
        injection hsame with _ hsame
        injection hsame with hsame
        rw [hsame]
        exact hb
    refine Reports.congr (Reports.andThen (Reports.within (Library.declare_reports loc (some t.name) hword [name] _))
      fun shape u hshape => ?_) hbreaks
    obtain ⟨v, hv, rfl⟩ := within_eq_ok hshape
    obtain ⟨refs, -, hdeclares⟩ := (Library.declare_yields loc (some t.name) word [name] _).of_ok hv
    refine Reports.check fun _ => Reports.check fun _ => ?_
    split
    · next inner hinner harray =>
      obtain ⟨w, hw⟩ := hdeclares.lookup hinner
      exact addTemplate_reports loc t given shape _ _ hw
    · exact (addPlain_orderly loc t given shape _ _).reports
  · -- the words are no member line, so the first part stops
    have hstops : ∀ x u, readOffset loc words s ≠ .ok x u := by
      intro x u hok
      obtain ⟨-, word, name, -, hmember⟩ := (readOffset_yields loc words s).of_ok hok
      exact hline ⟨x.1, word, name, hmember⟩
    refine Reports.congr (Reports.andThen (readOffset_orderly loc words).reports
      fun x u hok => (hstops x u hok).elim) ?_
    constructor
    · exact False.elim
    · rintro ⟨given, word, name, hmember, -⟩
      exact hline ⟨given, word, name, hmember⟩

/-- the line is one of members, and its type word breaks off -/
def Breaks (r : TemplateReader) (words : List String) : Prop :=
  ∃ t, r.pending = some t ∧ t.opened = true ∧ words.head? ≠ some "\x7d" ∧ BreaksOff r.library words

/-- a line that is not accepted is reported, unless its type word breaks off -/
theorem readLine_reports (hwords : ∀ w ∈ words, w ≠ "") (s : Session TemplateReader) :
    Reports (readLine override loc words) s (Breaks s.state words) := by
  obtain ⟨⟨lib, pending⟩, c⟩ := s
  unfold readLine
  refine Reports.read ?_
  cases words with
  | nil =>
    refine (Orderly.pure _).reports.congr ⟨False.elim, ?_⟩
    rintro ⟨t, -, -, -, given, word, name, hmember, -⟩
    cases hmember
  | cons first rest =>
    cases pending with
    | none =>
      have hnone : ¬ Breaks ⟨lib, none⟩ (first :: rest) := by
        rintro ⟨t, ht, -⟩
        cases ht
      refine Reports.congr ?_ ⟨False.elim, hnone⟩
      refine Reports.ite (fun _ => (readAlias_orderly override loc _).reports) fun _ => ?_
      refine Reports.ite (fun _ => (readConstant_orderly override loc _).reports) fun _ => ?_
      exact (readHead_orderly override loc _).reports
    | some t =>
      refine Reports.ite (fun hclosed => ?_) fun hopen => ?_
      · have hnone : ¬ Breaks ⟨lib, some t⟩ (first :: rest) := by
          rintro ⟨t', ht', hopen, -⟩
          cases ht'
          rw [hopen] at hclosed
          cases hclosed
        exact (Orderly.ite (.update _) (.say loc _)).reports.congr ⟨False.elim, hnone⟩
      · refine Reports.ite (fun hfirst => ?_) fun hfirst => ?_
        · have hnone : ¬ Breaks ⟨lib, some t⟩ (first :: rest) := by
            rintro ⟨t', -, -, hhead, -⟩
            exact hhead (by rw [eq_of_beq hfirst]; rfl)
          exact (readEnd_orderly loc _ t).reports.congr ⟨False.elim, hnone⟩
        · refine (readMember_reports loc hwords t _).congr ⟨fun h => ?_, fun ⟨_, _, _, _, h⟩ => h⟩
          exact ⟨t, rfl, by simpa using hopen, by simpa using hfirst, h⟩

end

/-! ## files -/

/-- reading comes to a line whose type word breaks off -/
def BreaksIn (override : Bool) (file : String) (index : Nat) (lines : List String) (s : Session TemplateReader) :
    Prop :=
  ∃ done line rest r c, lines = done ++ line :: rest ∧
    readLines override file index done s = .ok () ⟨r, c⟩ ∧ Breaks r (lineWords line)

section
variable {override : Bool} {file : String}

theorem breaksIn_cons {index : Nat} {line : String} {lines : List String} {s : Session TemplateReader} :
    Breaks s.state (lineWords line) ∨ (∃ u t,
        readLine override ⟨file, index, Text.strip (Text.uncomment line)⟩ (lineWords line) s = .ok u t ∧
          BreaksIn override file (index + 1) lines t) ↔
      BreaksIn override file index (line :: lines) s := by
  constructor
  · rintro (hbreaks | ⟨u, t, hline, done, line', rest, r, c, rfl, hrun, hbreaks⟩)
    · exact ⟨[], line, lines, s.state, s.console, rfl, rfl, hbreaks⟩
    · refine ⟨line :: done, line', rest, r, c, rfl, ?_, hbreaks⟩
      rw [readLines_cons, bind_of_ok hline, hrun]
  · rintro ⟨done, line', rest, r, c, hlines, hrun, hbreaks⟩
    cases done with
    | nil =>
      cases hlines
      cases hrun
      exact .inl hbreaks
    | cons first done =>
      cases hlines
      rw [readLines_cons] at hrun
      obtain ⟨u, t, hline, hrun⟩ := bind_eq_ok hrun
      exact .inr ⟨u, t, hline, done, line', rest, r, c, rfl, hrun, hbreaks⟩

theorem readLines_reports (index : Nat) (lines : List String) (s : Session TemplateReader) :
    Reports (readLines override file index lines) s (BreaksIn override file index lines s) := by
  induction lines generalizing index s with
  | nil =>
    refine (Orderly.pure _).reports.congr ⟨False.elim, ?_⟩
    rintro ⟨done, line, rest, r, c, hlines, -⟩
    simp at hlines
  | cons line lines ih =>
    have hwords : ∀ w ∈ lineWords line, w ≠ "" := by
      rintro w hw rfl
      exact (Text.isWord_of_mem_words hw).1 rfl
    rw [readLines_cons]
    exact ((readLine_reports override _ hwords s).bind fun _ t _ => ih (index + 1) t).congr breaksIn_cons

theorem readAll_reports (lines : List String) (s : Session TemplateReader) :
    Reports (readAll override file lines) s (BreaksIn override file 0 lines s) := by
  unfold readAll
  refine (readLines_reports 0 lines s).andThen fun _ t _ => ?_
  refine Reports.read (Reports.check fun _ => ?_)
  split
  · exact (Orderly.say _ _).reports
  · exact (Orderly.pure _).reports

end
end TemplateReader

namespace Library

open TemplateReader

/-- whatever the text, a load ends without fault, or it stops with a report of the problem and its place; there is
one exception, and only there it goes out of bounds: reading comes to a member whose type word has a bracket with
nothing behind it -/
theorem load_ends (override : Bool) (file text : String) (s : Session Library) :
    (∀ f t, load override file text s = .error f t → (f = .stopped 1 ∧ t.console.Tells) ∨ f = .outOfBounds) ∧
      ((∃ t, load override file text s = .error .outOfBounds t) ↔
        BreaksIn override file 0 (Text.lines text) ⟨⟨s.state, none⟩, s.console⟩) := by
  have h : Reports (readAll override file (Text.lines text)) ⟨⟨s.state, none⟩, s.console⟩ _ := readAll_reports _ _
  unfold load
  cases hr : readAll override file (Text.lines text) ⟨⟨s.state, none⟩, s.console⟩ with
  | ok u t =>
    rw [← h.crash_iff, hr]
    refine ⟨fun f t hf => (by cases hf), ?_⟩
    simp
  | error g t =>
    rw [← h.crash_iff, hr]
    refine ⟨fun f u hf => ?_, ?_⟩
    · cases hf
      exact h.told _ t hr
    · simp

def openBracketText : String := "t\n\x7b\n int[ x\n\x7d\n"

/-- not every malformed text is reported -/
theorem load_out_of_bounds :
    ∃ t, load false "templates.dat" openBracketText ⟨{}, {}⟩ = .error .outOfBounds t :=
  exists_of_endsIn (by decide +kernel)

end Library
end Disasm
