import Mathlib
import Disasm.Proofs.Annotation.Labels
import Disasm.Proofs.Program

/-!
# All texts of a program are unbroken

Comments are lines or parts of lines, and names known beforehand are words.

* `readComments_keeps`  reading the file of comments;
* `Annotations.load_keeps`, `KnownNames.load_keeps`  reading all files;
* `Program.tidy_of_load`  the tables of a program that was loaded are tidy.
-/

namespace Disasm

open Disasm.Action Disasm.Text

namespace CommentTable

theorem Tidy.setInline {t : CommentTable} (ht : t.Tidy) (addr : Int) {text : String} (h : Unbroken text) :
    (t.setInline addr text).Tidy :=
  ⟨ht.inline.insert addr h, ht.before, ht.after⟩

theorem Tidy.setLines {t : CommentTable} (ht : t.Tidy) (addr : Int) {lines : List String}
    (h : ∀ l ∈ lines, Unbroken l) (side : Side) : (t.setLines addr lines side).Tidy := by
  cases side with
  | before => exact ⟨ht.inline, ht.before.insert addr h, ht.after⟩
  | after => exact ⟨ht.inline, ht.before, ht.after.insert addr h⟩

theorem Tidy.setSpacing {t : CommentTable} (ht : t.Tidy) (addr : Int) (s : Spacing) (side : Side) :
    (t.setSpacing addr s side).Tidy := by
  cases side with
  | before => exact ⟨ht.inline, ht.before, ht.after⟩
  | after => exact ⟨ht.inline, ht.before, ht.after⟩

theorem Tidy.linesOf {t : CommentTable} (ht : t.Tidy) (addr : Int) (side : Side) :
    ∀ l ∈ t.linesOf addr side, Unbroken l := by
  cases side with
  | before =>
    have h := ht.before.getD addr (List.forall_mem_nil _)
    rwa [← Std.TreeMap.getD_eq_getD_getElem?] at h
  | after =>
    have h := ht.after.getD addr (List.forall_mem_nil _)
    rwa [← Std.TreeMap.getD_eq_getD_getElem?] at h

theorem Tidy.addLine {t : CommentTable} (ht : t.Tidy) (addr : Int) {line : String} (h : Unbroken line)
    (side : Side) : (t.addLine addr line side).Tidy := by
  refine ht.setLines addr (fun l hl => ?_) side
  rcases List.mem_append.1 hl with hl | hl
  · exact ht.linesOf addr side l hl
  · rw [List.mem_singleton.1 hl]; exact h

end CommentTable

namespace Annotations

section
variable (loc : Location)

theorem commentText_keeps (replaced : Bool) {text : String} (h : Unbroken text) :
    Keeps Tidy Unbroken (commentText loc replaced text) := by
  unfold commentText substitute
  refine Keeps.ite (fun _ => Keeps.orStop (getLabels_keeps.bind fun l hl => ?_) _) fun _ => Keeps.pure h
  split
  · next t ht => exact Keeps.pure (Labels.substitute_unbroken hl h ht)
  · exact (Keeps.report _).andThen (Keeps.fail _)

theorem checkAddress_keeps (cur : CommentCursor) (target : CommentTarget) (addr : Int) :
    Keeps Tidy (fun _ => True) (checkAddress loc cur target addr) := by
  unfold checkAddress
  cases target with
  | code => exact (warnIf_keeps loc _ _).andThen (Keeps.pure trivial)
  | data => exact (warnIf_keeps loc _ _).andThen (Keeps.pure trivial)

theorem fromFirst_suffix (part cs : List Char) : fromFirst part cs <:+ cs := by
  induction cs with
  | nil => exact List.suffix_rfl
  | cons c cs ih =>
    unfold fromFirst
    split
    · exact List.suffix_rfl
    · exact ih.trans (List.suffix_cons c cs)

theorem readInline_keeps (hl : EndsOnce loc.line.toList) (target : CommentTarget) (addr : Int)
    (replaced : Bool) (words : List String) :
    Keeps Tidy (fun _ => True) (readInline loc target addr replaced words) := by
  unfold readInline
  split
  · exact Keeps.pure trivial
  · next first rest =>
    have ht : Unbroken (stripEnd (String.ofList (fromFirst first.toList loc.line.toList))) := by
      unfold stripEnd
      rw [String.toList_ofList]
      exact unbroken_ofList (unbroken_trimEnd (hl.isSuffix (fromFirst_suffix _ _)))
    refine (commentText_keeps loc replaced ht).bind fun comment hc => ?_
    exact setComments_keeps target fun t htidy => htidy.setInline addr hc

theorem readSpacing_keeps (words : List String) : Keeps Tidy (fun _ => True) (readSpacing loc words) := by
  have hend : ∀ spacing : Spacing, Keeps Tidy (fun _ => True) (
      if spacing.above < 0 || spacing.below < 0 then
        (stop (loc.say "invalid space before or after") : Work PUnit) >>= fun _ => pure spacing
      else pure spacing) :=
    fun _ => Keeps.check fun _ => Keeps.pure trivial
  unfold readSpacing
  dsimp only
  split
  · exact Keeps.bind (P := fun _ => True) (Keeps.pure trivial) fun spacing _ => hend spacing
  · refine (number_keeps loc _ _).bind fun above _ => ?_
    exact Keeps.bind (P := fun _ => True) (Keeps.pure trivial) fun spacing _ => hend spacing
  · refine (number_keeps loc _ _).bind fun above _ => (number_keeps loc _ _).bind fun below _ => ?_
    exact Keeps.bind (P := fun _ => True) (Keeps.pure trivial) fun spacing _ => hend spacing

theorem openBlock_keeps (cur : CommentCursor) (b : OpenBlock) (words : List String) :
    Keeps Tidy (fun _ => True) (openBlock loc cur b words) := by
  unfold openBlock
  refine (readSpacing_keeps loc words).bind fun spacing _ => ?_
  refine Keeps.whenDone (setComments_keeps _ fun t ht => ht.setSpacing _ _ _) ?_
  refine (setComments_keeps _ fun t ht => ht.setLines _ (List.forall_mem_nil _) _).andThen ?_
  exact Keeps.pure trivial

theorem readEntry_keeps (hl : EndsOnce loc.line.toList) (cur : CommentCursor) (target : CommentTarget)
    (words : List String) : Keeps Tidy (fun _ => True) (readEntry loc cur target words) := by
  unfold readEntry
  split
  · refine (number_keeps loc _ _).bind fun addr _ => Keeps.check fun _ => ?_
    refine (checkAddress_keeps loc cur target addr).bind fun cur' _ => ?_
    refine Keeps.ite (fun _ => ?_) fun _ => Keeps.ite (fun _ => openBlock_keeps loc _ _ _) fun _ =>
      Keeps.ite (fun _ => openBlock_keeps loc _ _ _) fun _ => Keeps.stop _
    exact (readInline_keeps loc hl target addr _ _).andThen (Keeps.pure trivial)
  · exact Keeps.pure trivial

theorem readHeader_keeps (hl : EndsOnce loc.line.toList) (cur : CommentCursor) (words : List String) :
    Keeps Tidy (fun _ => True) (readHeader loc cur words) := by
  unfold readHeader
  split
  · exact Keeps.pure trivial
  · exact Keeps.stop _
  · exact Keeps.ite (fun _ => readEntry_keeps loc hl cur _ _) fun _ => readEntry_keeps loc hl cur _ _

theorem readBlockLine_keeps (hl : EndsOnce loc.line.toList) (cur : CommentCursor) (b : OpenBlock) :
    Keeps Tidy (fun _ => True) (readBlockLine loc cur b) := by
  unfold readBlockLine
  refine Keeps.ite (fun _ => Keeps.pure trivial) fun _ => ?_
  refine (commentText_keeps loc b.replaced (unbroken_ofList hl)).bind fun text ht => ?_
  exact (setComments_keeps _ fun t htidy => htidy.addLine _ ht _).andThen (Keeps.pure trivial)

end

theorem endsOnce_uncomment {line : String} (h : EndsOnce line.toList) :
    EndsOnce (uncomment line).toList := by
  unfold uncomment upTo
  rw [String.toList_ofList]
  exact h.isPrefix (List.takeWhile_prefix _)

theorem readComments_keeps (lines : List String) (h : ∀ l ∈ lines, EndsOnce l.toList) (index : Nat)
    (cur : CommentCursor) : Keeps Tidy (fun _ => True) (readComments index cur lines) := by
  induction lines generalizing index cur with
  | nil => exact Keeps.pure trivial
  | cons line lines ih =>
    have hl := h line List.mem_cons_self
    have hrest := ih fun l hm => h l (List.mem_cons_of_mem line hm)
    unfold readComments
    split
    · exact (readBlockLine_keeps ⟨_, index, line⟩ hl cur _).bind fun cur' _ => hrest _ cur'
    · exact (readHeader_keeps ⟨_, index, uncomment line⟩ (endsOnce_uncomment hl) cur _).bind
        fun cur' _ => hrest _ cur'

/-! ## whole directories -/

theorem loadFile_keeps (d : Directory) (file : String) {load : String → Work Unit}
    (h : ∀ text, Keeps Tidy (fun _ => True) (load text)) :
    Keeps Tidy (fun _ => True) (loadFile d file load) := by
  unfold loadFile
  refine Keeps.ite (fun _ => ?_) fun _ => Keeps.pure trivial
  exact (Keeps.ofExcept (P := fun _ => True) fun _ _ => trivial).bind fun text _ => h text

theorem load_keeps (d : Directory) : Keeps Tidy (fun _ => True) (load d) := by
  unfold load
  refine (onLibrary_keeps (Library.loadDefaults_keeps d)).andThen ?_
  refine (loadFile_keeps d _ fun text => readSymbols_keeps (Text.lines text) 0 (-1)).andThen ?_
  refine (loadFile_keeps d _ fun text => readFunctions_keeps (Text.lines text) 0 {}).andThen ?_
  refine (loadFile_keeps d _ fun text => readConstants_keeps (Text.lines text) 0 (-1)).andThen ?_
  refine loadFile_keeps d _ fun text => readComments_keeps (Text.lines text) (fun l hl => ?_) 0 {}
  exact not_mem_dropLast_of_mem_lines hl

end Annotations

/-! ## names known beforehand -/

namespace KnownNames

structure Tidy (k : KnownNames) : Prop where
  calls : Every Unbroken k.calls
  functions : Every (fun ns : List String => ∀ n ∈ ns, Unbroken n) k.functions

theorem readCall_keeps (loc : Location) {words : List String} (h : ∀ w ∈ words, Unbroken w) :
    Keeps Tidy (fun _ => True) (readCall loc words) := by
  unfold readCall
  split
  · split
    · exact Keeps.update fun k hk => ⟨hk.calls.insert _ (h _ (by simp)), hk.functions⟩
    · exact Keeps.stop _
  · exact Keeps.pure trivial

theorem readHash_keeps (loc : Location) {words : List String} (h : ∀ w ∈ words, Unbroken w) :
    Keeps Tidy (fun _ => True) (readHash loc words) := by
  unfold readHash
  split
  · next first name w rest =>
    split
    · next hash _ =>
      refine Keeps.update fun k hk => ⟨hk.calls, hk.functions.alter hash fun ns hns n hn => ?_⟩
      cases hns
      rcases List.mem_append.1 hn with hn | hn
      · exact hk.functions.getD hash (List.forall_mem_nil _) n hn
      · rw [List.mem_singleton.1 hn]; exact h name (by simp)
    · exact Keeps.stop _
  · exact Keeps.pure trivial

theorem readLines_keeps (file : String) {readLine : Location → List String → Work Unit}
    (h : ∀ loc words, (∀ w ∈ words, Unbroken w) → Keeps Tidy (fun _ => True) (readLine loc words))
    (lines : List String) (index : Nat) :
    Keeps Tidy (fun _ => True) (readLines file readLine index lines) := by
  induction lines generalizing index with
  | nil => exact Keeps.pure trivial
  | cons line lines ih =>
    unfold readLines
    exact (h _ _ fun w hw => unbroken_of_mem_words hw).andThen (ih _)

theorem fileText_keeps (d : Directory) (file : String × String) :
    Keeps Tidy (fun _ => True) (fileText d file) := by
  unfold fileText
  exact Keeps.ite (fun _ => Keeps.ofExcept fun _ _ => trivial) fun _ => Keeps.pure trivial

theorem load_keeps (d : Directory) (type : ProgramType) : Keeps Tidy (fun _ => True) (load d type) := by
  unfold load
  refine (fileText_keeps d _).bind fun calls _ => ?_
  refine (readLines_keeps _ (fun _ _ => readCall_keeps _) _ 0).andThen ?_
  refine (fileText_keeps d _).bind fun hashes _ => ?_
  exact readLines_keeps _ (fun _ _ => readHash_keeps _) _ 0

end KnownNames

/-! ## programs -/

namespace Program

/-- the tables of names and comments hold unbroken texts -/
structure Tidy (p : Program) : Prop where
  names : p.names.Tidy
  annotations : p.annotations.Tidy

theorem setType_keeps (d : Directory) (type : Option String) :
    Keeps Tidy (fun _ => True) (setType d type) := by
  unfold setType
  cases type.bind ProgramType.ofName? with
  | none => exact Keeps.pure trivial
  | some t =>
    exact (KnownNames.load_keeps d t).within (fun _ h => h.names) fun _ _ hk h => ⟨hk, h.annotations⟩

theorem annotate_keeps (d : Directory) : Keeps Tidy (fun _ => True) (annotate d) :=
  (Annotations.load_keeps d).within (fun _ h => h.annotations) fun _ _ ha h => ⟨h.names, ha⟩

theorem analyse_keeps : Keeps Tidy (fun _ => True) analyse := by
  constructor
  intro s hs
  unfold analyse
  dsimp only
  generalize s.state.analysis.extend s.state.image s.state.image.decoded = r
  obtain ⟨tables, warnings, fault⟩ := r
  cases fault with
  | none => exact ⟨⟨hs.names, hs.annotations⟩, trivial⟩
  | some f => exact ⟨hs.names, hs.annotations⟩

theorem prepare_keeps (d : Directory) (type : Option String) :
    Keeps Tidy (fun _ => True) (prepare d type) := by
  unfold prepare
  refine (setType_keeps d type).andThen ((annotate_keeps d).andThen (Keeps.andThen ?_ analyse_keeps))
  unfold readJumpTable
  refine Keeps.read.bind fun p _ => ?_
  refine (Keeps.ofExcept (P := fun _ => True) fun _ _ => trivial).bind fun targets _ => ?_
  exact Keeps.update fun _ h => ⟨h.names, h.annotations⟩

theorem tidy_of_load {d : Directory} {type : Option String} {file : ByteArray} {c c' : Console}
    {p : Program} (h : load d type file c = (.ok p, c')) : p.Tidy := by
  refine load_keeps (prepare_keeps d type) (fun image => ?_) h
  exact ⟨⟨Every.empty, Every.empty⟩, ⟨⟨Every.empty, Every.empty⟩,
    ⟨Every.empty, Every.empty, Every.empty, Every.empty, Every.empty, Every.empty, Every.empty⟩,
    ⟨Every.empty, Every.empty, Every.empty⟩, ⟨Every.empty, Every.empty, Every.empty⟩⟩⟩

end Program
end Disasm
