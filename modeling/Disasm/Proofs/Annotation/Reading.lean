import Mathlib
import Disasm.Proofs.Annotation.Steps

/-!
# What reading annotations does to ranges and references

Files of constants and of comments leave both alone.  Files of symbols and of functions keep ranges and leave
references open, line by line, behind templates that have been read and checked.

* `readComments_idle`, `readConstants_idle`  nothing happens to ranges;
* `readSymbols_proceeds`, `readFunctions_proceeds`  ranges are kept, one after the other;
* `load_yields`  a directory as a whole;
* `load_storable`  no range is built that is a whole template.
-/

namespace Disasm.Annotations

open Disasm.Action

/-! ## work that keeps no range -/

theorem symbolAddress_idle (loc : Location) (word : String) : Idle (symbolAddress loc word) := by
  unfold symbolAddress
  exact (Idle.number loc _ word).bind fun addr => Idle.check (Idle.pure addr)

theorem plainSymbol_idle (loc : Location) (prev addr : Int) (name : String) : Idle (plainSymbol loc prev addr name) := by
  unfold plainSymbol
  refine Idle.getLabels.bind fun l => (Idle.warnIf _ loc _).bind fun _ => (Idle.warnIf _ loc _).bind fun _ => ?_
  refine (Idle.setLabels fun l r spot => ?_).bind fun _ => Idle.getLabels.bind fun _ => Idle.warnIf _ loc _
  cases spot with
  | symbol | frame | arg => exact Iff.rfl

theorem argNumber_idle (loc : Location) (text : List Char) : Idle (argNumber loc text) := by
  unfold argNumber
  refine Idle.check (Idle.check ?_)
  cases Text.readInt? 10 (String.ofList text) with
  | some n => exact Idle.pure n
  | none => exact Idle.fail fun h => by cases h

theorem hasLocal_idle (func addr : Int) : Idle (hasLocal func addr) := Idle.getLabels.bind fun _ => Idle.pure _

theorem readLocalName_idle (loc : Location) (cur : FunctionCursor) (func : Int) (w name : String) :
    Idle (readLocalName loc cur func w name) := by
  have hlocals : ∀ f : Labels → Std.TreeMap Int (Std.TreeMap Int String),
      Idle (setLabels fun l => { l with locals := f l }) := by
    refine fun f => Idle.setLabels fun l r spot => ?_
    cases spot with
    | symbol | frame | arg => exact Iff.rfl
  unfold readLocalName
  refine (hlocals _).bind fun _ => (Idle.number loc _ w).bind fun addr => (hasLocal_idle func addr).bind fun _ => ?_
  refine (Idle.warnIf _ loc _).bind fun _ => (Idle.warnIf _ loc _).bind fun _ => (hlocals _).bind fun _ => ?_
  exact Idle.getLabels.bind fun _ => (Idle.warnIf _ loc _).bind fun _ => Idle.pure _

theorem readFunction_idle (loc : Location) (cur : FunctionCursor) (w name : String) :
    Idle (readFunction loc cur w name) := by
  unfold readFunction
  refine (symbolAddress_idle loc w).bind fun addr => (Idle.setLabels fun l r spot => ?_).bind fun _ => ?_
  · cases spot with
    | symbol | frame | arg => exact Iff.rfl
  · cases cur.func with
    | some prev => exact (Idle.warnIf _ loc _).bind fun _ => Idle.pure _
    | none => exact Idle.pure _

theorem readConstants_idle (lines : List String) (index : Nat) (prev : Int) : Idle (readConstants index prev lines) := by
  have hline : ∀ loc prev words, Idle (readConstant loc prev words) := by
    intro loc prev words
    unfold readConstant
    split
    · exact Idle.pure prev
    · next w name v =>
      refine (Idle.number loc _ w).bind fun addr => (Idle.number loc _ v).bind fun value => Idle.check ?_
      refine (Idle.setLabels fun l r spot => ?_).bind fun _ => (Idle.warnIf _ loc _).bind fun _ => Idle.pure addr
      cases spot with
      | symbol | frame | arg => exact Iff.rfl
    · exact Idle.stop _
  induction lines generalizing index prev with
  | nil => exact Idle.pure ()
  | cons line lines ih =>
    unfold readConstants
    exact (hline _ prev _).bind fun addr => ih _ addr

/-! ### comments -/

section
variable (loc : Location)

theorem substitute_idle (text : String) : Idle (substitute text) := by
  unfold substitute
  refine Idle.getLabels.bind fun l => ?_
  cases l.substitute text with
  | ok t => exact Idle.pure t
  | error address => exact Idle.bind ⟨fun s => ⟨Aside.refl s.state⟩⟩ fun _ => Idle.fail (by decide)

theorem commentText_idle (replaced : Bool) (text : String) : Idle (commentText loc replaced text) := by
  unfold commentText
  refine Idle.ite ⟨fun s => Yields.orStop (((substitute_idle text).run s).imp (fun _ _ h => h) ?_) _⟩ (Idle.pure text)
  exact fun f t h => ⟨h.1, by decide⟩

theorem openBlock_idle (cur : CommentCursor) (b : OpenBlock) (words : List String) :
    Idle (openBlock loc cur b words) := by
  have hspacing : Idle (readSpacing loc words) := by
    have hend : ∀ spacing : Spacing, Idle (
        if spacing.above < 0 || spacing.below < 0 then
          (stop (loc.say "invalid space before or after") : Work PUnit) >>= fun _ => pure spacing
        else pure spacing) := fun spacing => Idle.check (Idle.pure spacing)
    unfold readSpacing
    dsimp only
    split
    · exact (Idle.pure _).bind hend
    · exact (Idle.number loc _ _).bind fun above => (Idle.pure _).bind hend
    · exact (Idle.number loc _ _).bind fun above => (Idle.number loc _ _).bind fun below => (Idle.pure _).bind hend
  have hlines : Idle (do
      setComments b.target (·.setLines b.addr [] b.side)
      return { cur with block := some b }) := (Idle.setComments _ _).bind fun _ => Idle.pure _
  unfold openBlock
  exact hspacing.bind fun spacing => Idle.ite ((Idle.setComments _ _).bind fun _ => hlines) hlines

theorem readEntry_idle (cur : CommentCursor) (target : CommentTarget) (words : List String) :
    Idle (readEntry loc cur target words) := by
  have haddress : ∀ addr, Idle (checkAddress loc cur target addr) := by
    intro addr
    unfold checkAddress
    cases target with
    | code => exact (Idle.warnIf _ loc _).bind fun _ => Idle.pure _
    | data => exact (Idle.warnIf _ loc _).bind fun _ => Idle.pure _
  have hinline : ∀ addr replaced words, Idle (readInline loc target addr replaced words) := by
    intro addr replaced words
    cases words with
    | nil => exact Idle.pure ()
    | cons first rest => exact (commentText_idle loc replaced _).bind fun comment => Idle.setComments target _
  unfold readEntry
  split
  · refine (Idle.number loc _ _).bind fun addr => Idle.check ((haddress addr).bind fun cur' => ?_)
    refine Idle.ite ((hinline addr _ _).bind fun _ => Idle.pure cur') ?_
    exact Idle.ite (openBlock_idle loc cur' _ _) (Idle.ite (openBlock_idle loc cur' _ _) (Idle.stop _))
  · exact Idle.pure cur

theorem readHeader_idle (cur : CommentCursor) (words : List String) : Idle (readHeader loc cur words) := by
  unfold readHeader
  split
  · exact Idle.pure cur
  · exact Idle.stop _
  · exact Idle.ite (readEntry_idle loc cur _ _) (readEntry_idle loc cur _ _)

theorem readBlockLine_idle (cur : CommentCursor) (b : OpenBlock) : Idle (readBlockLine loc cur b) := by
  unfold readBlockLine
  refine Idle.ite (Idle.pure _) ((commentText_idle loc b.replaced _).bind fun text => ?_)
  exact (Idle.setComments b.target _).bind fun _ => Idle.pure cur

end

theorem readComments_idle (lines : List String) (index : Nat) (cur : CommentCursor) :
    Idle (readComments index cur lines) := by
  induction lines generalizing index cur with
  | nil => exact Idle.pure ()
  | cons line lines ih =>
    unfold readComments
    cases cur.block with
    | some b => exact (readBlockLine_idle ⟨_, index, line⟩ cur b).bind fun cur' => ih _ cur'
    | none => exact (readHeader_idle ⟨_, index, Text.uncomment line⟩ cur _).bind fun cur' => ih _ cur'

/-! ## symbols -/

section
variable {here : Location → Prop} {s : Session Annotations} (loc : Location)

theorem placeMembers_proceeds (addr : Int) (name : String) (ms : List Member) (hlib : s.state.library.Regular)
    (hdrawn : ∀ m ∈ ms, Drawn s.state.library (memberRange name m)) :
    Proceeds here s (fun _ _ => True) (placeMembers loc addr name ms) := by
  induction ms generalizing s with
  | nil => exact Proceeds.idle (Idle.pure ()) s
  | cons m ms ih =>
    unfold placeMembers
    refine (keep_proceeds hlib (hdrawn m List.mem_cons_self) (.symbol _)).bind fun _ t hst _ => ?_
    refine Proceeds.after Idle.getLabels fun _ u htu => Proceeds.after (Idle.warnIf _ loc _) fun _ v huv => ?_
    have hsv := hst.trans (htu.trans huv)
    exact ih (hsv.regular hlib) fun m' hm' => hsv.drawn (hdrawn m' (List.mem_cons_of_mem m hm'))

theorem placeTemplate_proceeds (addr : Int) (inner name : String) (hlib : s.state.library.Regular) :
    Proceeds here s (fun _ _ => True) (placeTemplate loc addr inner name) := by
  unfold placeTemplate
  refine Yields.read ?_
  cases ht : s.state.library.templates[inner]? with
  | none => exact Proceeds.idle (Idle.fail fun h => by cases h) s
  | some t =>
    refine (keep_proceeds hlib (.bytes t.size name) (.symbol addr)).bind fun _ u hsu _ => ?_
    refine Proceeds.after Idle.getLabels fun _ v huv => Proceeds.after (Idle.warnIf _ loc _) fun _ w hvw => ?_
    have hsw := hsu.trans (huv.trans hvw)
    exact placeMembers_proceeds loc addr name t.members (hsw.regular hlib) fun m hm => hsw.drawn (.member ht hm name)

theorem placeSymbol_proceeds (addr : Int) (name : String) {word : String} {shape : Shape}
    (hlib : s.state.library.Regular) (hs : Declares s.state.library none word shape) :
    Proceeds here s (fun _ _ => True) (placeSymbol loc addr name shape) := by
  have hplain (h : shape.template = none ∨ shape.array.isSome = true) : Proceeds here s (fun _ _ => True) (do
      addRange addr (Range.ofShape name shape)
      warnIf ((← getLabels).symbols.contains addr) loc "range would be overriden by simple symbol") := by
    refine (keep_proceeds hlib (.shape hs h name) (.symbol addr)).bind fun _ t _ _ => ?_
    exact Proceeds.after Idle.getLabels fun _ u _ => Proceeds.idle (Idle.warnIf _ loc _) u
  unfold placeSymbol
  cases htemplate : shape.template with
  | none => exact hplain (.inl htemplate)
  | some inner =>
    cases harray : shape.array with
    | some dims => exact hplain (.inr (by rw [harray]; rfl))
    | none => exact placeTemplate_proceeds loc addr inner name hlib

theorem readSymbol_proceeds (hloc : here loc) (prev : Int) {words : List String}
    (hwords : ∀ w ∈ words, w ∈ Text.words loc.line) (hlib : s.state.library.Regular) :
    Proceeds here s (fun _ _ => True) (readSymbol loc prev words) := by
  unfold readSymbol
  split
  · exact Proceeds.idle (Idle.pure prev) s
  · exact Proceeds.idle (Idle.stop _) s
  · next w name =>
    refine Proceeds.idle ((symbolAddress_idle loc w).bind fun addr => ?_) s
    exact (plainSymbol_idle loc prev addr name).bind fun _ => Idle.pure addr
  · next w type name =>
    refine Proceeds.after (symbolAddress_idle loc w) fun addr t hst => ?_
    refine Proceeds.after (Idle.warnIf _ loc _) fun _ u htu => ?_
    refine (declare_proceeds hloc (hwords type (by simp)) [name] u).bind fun shape v huv hshape => ?_
    have hsv := hst.trans (htu.trans huv)
    refine (placeSymbol_proceeds loc addr name (hsv.regular hlib) hshape).bind fun _ x _ _ => ?_
    exact Proceeds.idle (Idle.pure addr) x
  · exact Proceeds.idle (Idle.stop _) s

end

theorem readSymbols_proceeds {here : Location → Prop} (lines : List String) (index : Nat) (prev : Int)
    (hlines : ∀ (k : Nat) (line : String), lines[k]? = some line →
      here ⟨symbolsFile, ((index + k : Nat) : Int), Text.uncomment line⟩)
    {s : Session Annotations} (hlib : s.state.library.Regular) :
    Proceeds here s (fun _ _ => True) (readSymbols index prev lines) := by
  induction lines generalizing index prev s with
  | nil => exact Proceeds.idle (Idle.pure ()) s
  | cons line lines ih =>
    unfold readSymbols
    refine (readSymbol_proceeds _ (hlines 0 line rfl) prev (fun _ hw => hw) hlib).bind fun addr t hst _ => ?_
    refine ih (index + 1) addr (fun k line' hline' => ?_) (hst.regular hlib)
    have hnext := hlines (k + 1) line' hline'
    rwa [show index + 1 + k = index + (k + 1) by omega]

/-! ## arguments and locals -/

section
variable {here : Location → Prop} {s : Session Annotations} (loc : Location)

theorem argRange_proceeds (hloc : here loc) {words : List String} (hwords : ∀ w ∈ words, w ∈ Text.words loc.line) :
    Proceeds here s (fun r t => Drawn t.library r) (argRange loc words) := by
  have hpure : ∀ (r : Range) (t : Session Annotations), Drawn t.state.library r →
      Proceeds here t (fun r t => Drawn t.library r) (pure r : Work Range) :=
    fun r t hr => Yields.pure ⟨⟨[], .start⟩, hr⟩
  unfold argRange
  split
  · next type name rest =>
    refine (declare_proceeds hloc (hwords type (by simp)) [name] s).bind fun shape t _ hshape => ?_
    refine Proceeds.check fun _ => Proceeds.check fun hkind => hpure _ t ?_
    exact .arg hshape hkind name
  · next name rest _ => exact hpure _ s (.bytes 4 name)
  · exact Yields.fail ⟨⟨[], .start⟩, fun h => by cases h⟩

theorem readArg_proceeds (hloc : here loc) (cur : FunctionCursor) (key : String) {words : List String}
    (hwords : ∀ w ∈ words, w ∈ Text.words loc.line) (hlib : s.state.library.Regular) :
    Proceeds here s (fun _ _ => True) (readArg loc cur key words) := by
  unfold readArg
  split
  · exact Proceeds.idle (Idle.stop _) s
  · next func _ =>
    -- the function has a table of arguments from here on, which may be empty
    have htable : Idle (setLabels fun l => { l with args := l.args.alter func fun t => some (t.getD {}) }) := by
      refine Idle.setLabels fun l r spot => ?_
      cases spot with
      | symbol | frame => exact Iff.rfl
      | arg func' key' =>
        unfold Labels.Holds
        dsimp only
        rw [Std.TreeMap.getElem?_alter]
        split
        · next heq => rw [Std.LawfulEqCmp.eq_of_compare heq, Option.getD_some]
        · rfl
    refine Proceeds.after (argNumber_idle loc _) fun n t hst => ?_
    refine Proceeds.after (Idle.warnIf _ loc _) fun _ u htu => Proceeds.after htable fun _ v huv => ?_
    refine Proceeds.after Idle.getLabels fun _ w hvw => Proceeds.after (Idle.warnIf _ loc _) fun _ x hwx => ?_
    have hsx := hst.trans (htu.trans (huv.trans (hvw.trans hwx)))
    refine (argRange_proceeds loc hloc hwords).bind fun r y hxy hr => ?_
    refine (keep_proceeds ((hsx.trans hxy).regular hlib) hr (.arg func key)).bind fun _ z _ _ => ?_
    exact Proceeds.idle (Idle.pure _) z

theorem placeLocalMembers_proceeds (func addr : Int) (name : String) (ms : List Member)
    (hlib : s.state.library.Regular) (hdrawn : ∀ m ∈ ms, Drawn s.state.library (localMemberRange name m)) :
    Proceeds here s (fun _ _ => True) (placeLocalMembers loc func addr name ms) := by
  induction ms generalizing s with
  | nil => exact Proceeds.idle (Idle.pure ()) s
  | cons m ms ih =>
    unfold placeLocalMembers
    refine (keep_proceeds hlib (hdrawn m List.mem_cons_self) (.frame func _)).bind fun _ t hst _ => ?_
    refine Proceeds.after (hasLocal_idle func _) fun _ u htu => Proceeds.after (Idle.warnIf _ loc _) fun _ v huv => ?_
    have hsv := hst.trans (htu.trans huv)
    exact ih (hsv.regular hlib) fun m' hm' => hsv.drawn (hdrawn m' (List.mem_cons_of_mem m hm'))

theorem placeLocalTemplate_proceeds (func addr : Int) (inner name : String) (hlib : s.state.library.Regular) :
    Proceeds here s (fun _ _ => True) (placeLocalTemplate loc func addr inner name) := by
  unfold placeLocalTemplate
  refine Yields.read ?_
  cases ht : s.state.library.templates[inner]? with
  | none => exact Proceeds.idle (Idle.fail fun h => by cases h) s
  | some t =>
    refine (keep_proceeds hlib (.bytes t.size name) (.frame func addr)).bind fun _ u hsu _ => ?_
    refine Proceeds.after (hasLocal_idle func _) fun _ v huv => Proceeds.after (Idle.warnIf _ loc _) fun _ w hvw => ?_
    have hsw := hsu.trans (huv.trans hvw)
    exact placeLocalMembers_proceeds loc func addr name t.members (hsw.regular hlib)
      fun m hm => hsw.drawn (.localMember ht hm name)

theorem placeLocal_proceeds (func addr : Int) (name : String) {word : String} {shape : Shape}
    (hlib : s.state.library.Regular) (hs : Declares s.state.library none word shape) :
    Proceeds here s (fun _ _ => True) (placeLocal loc func addr name shape) := by
  have hplain (h : shape.template = none ∨ shape.array.isSome = true) : Proceeds here s (fun _ _ => True) (do
      addLocalRange func addr (Range.ofShape name shape)
      warnIf (← hasLocal func addr) loc "local range would be override by simple symbol") := by
    refine (keep_proceeds hlib (.shape hs h name) (.frame func addr)).bind fun _ t _ _ => ?_
    exact Proceeds.after (hasLocal_idle func addr) fun _ u _ => Proceeds.idle (Idle.warnIf _ loc _) u
  unfold placeLocal
  cases htemplate : shape.template with
  | none => exact hplain (.inl htemplate)
  | some inner =>
    cases harray : shape.array with
    | some dims => exact hplain (.inr (by rw [harray]; rfl))
    | none => exact placeLocalTemplate_proceeds loc func addr inner name hlib

theorem readLocal_proceeds (hloc : here loc) (cur : FunctionCursor) {words : List String}
    (hwords : ∀ w ∈ words, w ∈ Text.words loc.line) (hlib : s.state.library.Regular) :
    Proceeds here s (fun _ _ => True) (readLocal loc cur words) := by
  unfold readLocal
  split
  · exact Proceeds.idle (Idle.stop _) s
  · exact Proceeds.idle (readLocalName_idle loc cur _ _ _) s
  · next func w type name rest _ =>
    unfold readLocalRange
    refine Proceeds.after (Idle.number loc _ w) fun addr t hst => Proceeds.check fun _ => ?_
    refine Proceeds.after (Idle.warnIf _ loc _) fun _ u htu => ?_
    refine (declare_proceeds hloc (hwords type (by simp)) [name] u).bind fun shape v huv hshape => ?_
    have hsv := hst.trans (htu.trans huv)
    refine (placeLocal_proceeds loc func addr name (hsv.regular hlib) hshape).bind fun _ x _ _ => ?_
    exact Proceeds.idle (Idle.pure _) x
  · exact Proceeds.idle (Idle.stop _) s

theorem readFunctionLine_proceeds (hloc : here loc) (cur : FunctionCursor) {words : List String}
    (hwords : ∀ w ∈ words, w ∈ Text.words loc.line) (hlib : s.state.library.Regular) :
    Proceeds here s (fun _ _ => True) (readFunctionLine loc cur words) := by
  unfold readFunctionLine
  split
  · exact Proceeds.idle (Idle.pure cur) s
  · exact Proceeds.idle (Idle.stop _) s
  · next first second rest =>
    have hrest : ∀ w ∈ second :: rest, w ∈ Text.words loc.line := fun w hw => hwords w (List.mem_cons_of_mem first hw)
    refine Proceeds.ite (readArg_proceeds loc hloc cur first hrest hlib) ?_
    refine Proceeds.ite (readLocal_proceeds loc hloc cur hrest hlib) ?_
    exact Proceeds.idle (readFunction_idle loc cur first second) s

end

theorem readFunctions_proceeds {here : Location → Prop} (lines : List String) (index : Nat) (cur : FunctionCursor)
    (hlines : ∀ (k : Nat) (line : String), lines[k]? = some line →
      here ⟨functionsFile, ((index + k : Nat) : Int), Text.uncomment line⟩)
    {s : Session Annotations} (hlib : s.state.library.Regular) :
    Proceeds here s (fun _ _ => True) (readFunctions index cur lines) := by
  induction lines generalizing index cur s with
  | nil => exact Proceeds.idle (Idle.pure ()) s
  | cons line lines ih =>
    unfold readFunctions
    refine (readFunctionLine_proceeds _ (hlines 0 line rfl) cur (fun _ hw => hw) hlib).bind fun cur' t hst _ => ?_
    refine ih (index + 1) cur' (fun k line' hline' => ?_) (hst.regular hlib)
    have hnext := hlines (k + 1) line' hline'
    rwa [show index + 1 + k = index + (k + 1) by omega]

/-! ## templates -/

theorem text_fault (d : Directory) (file : String) : d.text file ≠ .error .templateRange := by
  unfold Directory.text
  intro h
  split at h
  · cases h
  · split at h <;> cases h

/-- the library stays regular, and no reference is open when the work is done -/
def Settles (a : Action Library Unit) (s : Session Library) : Prop :=
  Yields a s (fun _ lib => lib.Regular ∧ TemplateReader.undefined? lib = none)
    (fun f lib => lib.Regular ∧ f ≠ .templateRange)

theorem load_settles (override : Bool) (file text : String) {s : Session Library} (h : s.state.Regular) :
    Settles (Library.load override file text) s := by
  have hregular := Library.load_regular override file text h
  constructor
  cases hr : Library.load override file text s with
  | ok u t => exact hregular.of_ok hr
  | error f t =>
    refine ⟨hregular.of_error hr, ?_⟩
    unfold Library.load at hr
    cases hall : TemplateReader.readAll override file (Text.lines text) ⟨⟨s.state, none⟩, s.console⟩ with
    | ok u t =>
      rw [hall] at hr
      cases hr
    | error g t =>
      rw [hall] at hr
      cases hr
      rcases (TemplateReader.readAll_reports _ _).told f t hall with ⟨rfl, -⟩ | rfl
      · exact fun h => by cases h
      · exact fun h => by cases h

/-- the text of a file, in front of the rest of the work -/
theorem Settles.text {d : Directory} {file : String} {s : Session Library} {rest : String → Action Library Unit}
    (h : s.state.Regular) (hrest : ∀ text c, Settles (rest text) ⟨s.state, c⟩) :
    Settles (Action.ofExcept (d.text file) >>= rest) s := by
  refine Yields.bind (Yields.ofExcept (fun text _ c => hrest text c) fun f hf => ⟨h, ?_⟩)
  rintro rfl
  exact text_fault d file hf

theorem loadDefaults_settles (d : Directory) {s : Session Library} (h : s.state.Regular) :
    Settles (Library.loadDefaults d) s := by
  have hboth : ∀ (text : String) {s : Session Library}, s.state.Regular → Settles (do
      Library.load false Library.defaultFile text
      if d.holds Library.userFile then
        Library.load true Library.userFile (← Action.ofExcept (d.text Library.userFile))) s := by
    intro text s hs
    refine Yields.bind (Yields.imp (load_settles false Library.defaultFile text hs) ?_ fun _ _ hlib => hlib)
    rintro - lib ⟨hlib, hnone⟩ c
    refine Yields.ite (fun _ => ?_) fun _ => Yields.pure ⟨hlib, hnone⟩
    exact Settles.text hlib fun text c => load_settles true Library.userFile text hlib
  unfold Library.loadDefaults
  refine Yields.ite (fun _ => ?_) fun _ => hboth _ h
  exact Settles.text h fun text c => hboth text h

/-! ## whole directories -/

/-- a line of a file of the directory, as far as it is read -/
def LineOf (d : Directory) (file : String) (loc : Location) : Prop :=
  loc.file = file ∧ ∃ text, d.text file = .ok text ∧ ∃ (k : Nat) (line : String),
    (Text.lines text)[k]? = some line ∧ loc.index = k ∧ loc.line = Text.uncomment line

/-- a line on which a type word may stand, those of templates apart -/
def TypedLine (d : Directory) (loc : Location) : Prop := LineOf d symbolsFile loc ∨ LineOf d functionsFile loc

theorem loadFile_proceeds {here : Location → Prop} (d : Directory) (file : String) {load : String → Work Unit}
    {s : Session Annotations} (h : ∀ text, d.text file = .ok text → ∀ c, Proceeds here ⟨s.state, c⟩ (fun _ _ => True) (load text)) :
    Proceeds here s (fun _ _ => True) (loadFile d file load) := by
  unfold loadFile
  refine Proceeds.ite (Yields.bind (Yields.ofExcept (fun text htext c => h text htext c) fun f hf => ?_))
    (Proceeds.idle (Idle.pure _) s)
  refine ⟨⟨[], .start⟩, ?_⟩
  rintro rfl
  exact text_fault d file hf

/-- a file of constants or comments, in front of the rest of the work or at its end -/
theorem loadFile_idle (d : Directory) (file : String) {load : String → Work Unit} (h : ∀ text, Idle (load text)) :
    Idle (loadFile d file load) := by
  unfold loadFile
  exact Idle.ite ((Idle.ofExcept (text_fault d file)).bind h) (Idle.pure _)

/-- templates come first; what follows takes steps, however it ends -/
theorem load_yields (d : Directory) {s : Session Annotations} (hlib : s.state.library.Regular) :
    Yields (load d) s
      (fun _ t => ∃ lib, lib.Regular ∧ TemplateReader.undefined? lib = none ∧
        Leads (TypedLine d) { s.state with library := lib } t)
      (fun f t => f ≠ .templateRange ∧ ∃ lib, lib.Regular ∧ Leads (TypedLine d) { s.state with library := lib } t) := by
  unfold load
  refine Yields.bind (Yields.within ((loadDefaults_settles d hlib).imp ?_ ?_))
  · rintro - lib ⟨hregular, hnone⟩ c
    have hrest : Proceeds (TypedLine d) ⟨{ s.state with library := lib }, c⟩ (fun _ _ => True) (do
        loadFile d symbolsFile loadSymbols
        loadFile d functionsFile loadFunctions
        loadFile d constantsFile loadConstants
        loadFile d commentsFile loadComments) := by
      refine (loadFile_proceeds d symbolsFile fun text htext c => ?_).bind fun _ t hst _ => ?_
      · refine readSymbols_proceeds (Text.lines text) 0 (-1) (fun k line hline => .inl ⟨rfl, text, htext, ?_⟩) hregular
        exact ⟨k, line, hline, by rw [Nat.zero_add], rfl⟩
      refine (loadFile_proceeds d functionsFile fun text htext c => ?_).bind fun _ u htu _ => ?_
      · refine readFunctions_proceeds (Text.lines text) 0 {} (fun k line hline => .inr ⟨rfl, text, htext, ?_⟩)
          (hst.regular hregular)
        exact ⟨k, line, hline, by rw [Nat.zero_add], rfl⟩
      refine Proceeds.idle (Idle.bind ?_ fun _ => ?_) u
      · exact loadFile_idle d constantsFile fun text => readConstants_idle (Text.lines text) 0 (-1)
      · exact loadFile_idle d commentsFile fun text => readComments_idle (Text.lines text) 0 {}
    refine Yields.imp hrest ?_ ?_
    · rintro - t ⟨hleads, -⟩
      exact ⟨lib, hregular, hnone, hleads⟩
    · rintro f t ⟨hleads, hf⟩
      exact ⟨hf, lib, hregular, hleads⟩
  · rintro f lib ⟨hregular, hf⟩
    exact ⟨hf, lib, hregular, [], .start⟩

/-! ## ranges that can be kept -/

/-- what loading a directory leaves behind, however it ends -/
def leave (s : Session Annotations) (d : Directory) : Session Annotations :=
  match load d s with
  | .ok _ t => t
  | .error _ t => t

/-- what loading several directories leaves behind, one after the other -/
def loads (s : Session Annotations) (ds : List Directory) : Session Annotations := ds.foldl leave s

/-- the library is regular, and no range is a whole template -/
structure Plain (a : Annotations) : Prop where
  library : a.library.Regular
  ranges : ∀ r spot, a.labels.Holds r spot → r.kind ≠ .template

theorem leave_steps (d : Directory) {s : Session Annotations} (hlib : s.state.library.Regular) :
    ∃ lib built, lib.Regular ∧ Steps (TypedLine d) { s.state with library := lib } built (leave s d).state := by
  have hyields := load_yields d hlib
  unfold leave
  cases hr : load d s with
  | ok u t =>
    obtain ⟨lib, hregular, -, built, hsteps⟩ := hyields.of_ok hr
    exact ⟨lib, built, hregular, hsteps⟩
  | error f t =>
    obtain ⟨-, lib, hregular, built, hsteps⟩ := hyields.of_error hr
    exact ⟨lib, built, hregular, hsteps⟩

theorem Steps.storable {here : Location → Prop} {a b : Annotations} {built : List Range} (h : Steps here a built b)
    (hlib : a.library.Regular) : ∀ r ∈ built, r.Storable :=
  fun r hr => (h.drawn r hr).storable (h.regular hlib)

theorem Plain.leave {s : Session Annotations} (h : s.state.Plain) (d : Directory) : (leave s d).state.Plain := by
  obtain ⟨lib, built, hregular, hsteps⟩ := leave_steps d h.library
  refine ⟨hsteps.regular hregular, fun r spot hr => ?_⟩
  rcases hsteps.held hr with hr | ⟨r', hr', rfl⟩
  · exact h.ranges r spot hr
  · exact Range.kind_kept (hsteps.storable hregular r' hr')

theorem Plain.loads (ds : List Directory) {s : Session Annotations} (h : s.state.Plain) : (loads s ds).state.Plain := by
  induction ds generalizing s with
  | nil => exact h
  | cons d ds ih => exact ih (h.leave d)

/-- whatever a directory holds, and whatever was loaded before with whatever end, loading it never fails for a range
that is a whole template.  It takes steps behind the templates, and each range that is built in them is an array if it
is a template; so are the members of all templates, and nothing that is kept is a template -/
theorem load_storable (ds : List Directory) (d : Directory) (c : Console) :
    (∀ t, load d (loads ⟨{}, c⟩ ds) ≠ .error .templateRange t) ∧
      (∃ (lib : Library) (built : List Range), Steps (TypedLine d) { (loads ⟨{}, c⟩ ds).state with library := lib } built
          (leave (loads ⟨{}, c⟩ ds) d).state ∧
        (∀ r ∈ built, r.kind = .template → r.array.isSome = true) ∧
        ∀ (name : String) (t : Template), lib.templates[name]? = some t →
          ∀ m ∈ t.members, m.kind = .template → m.array.isSome = true) ∧
      ∀ r spot, (leave (loads ⟨{}, c⟩ ds) d).state.labels.Holds r spot → r.kind ≠ .template := by
  have hempty : ({} : Annotations).Plain :=
    ⟨Library.Regular.empty, fun r spot hr => absurd hr (Labels.not_holds_empty r spot)⟩
  have hplain : (loads ⟨{}, c⟩ ds).state.Plain := Plain.loads ds hempty
  refine ⟨fun t ht => ?_, ?_, (hplain.leave d).ranges⟩
  · exact ((load_yields d hplain.library).of_error ht).1 rfl
  · obtain ⟨lib, built, hregular, hsteps⟩ := leave_steps d hplain.library
    refine ⟨lib, built, hsteps, fun r hr hkind => ?_, fun name t ht m hm hkind => ?_⟩
    · exact (hsteps.storable hregular r hr).resolve_right fun hne => hne hkind
    · exact (((hregular.templates_regular name t ht).members_regular m hm).template_array hkind).1

end Disasm.Annotations
