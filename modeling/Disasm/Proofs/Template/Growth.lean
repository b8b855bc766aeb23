import Mathlib
import Disasm.Proofs.Template.Invariant

/-!
# What a load adds to a library

* `Library.Extends lib lib'`  all that is stored in `lib` is stored unchanged in `lib'`, and the references
  of `lib` are the first ones of `lib'`;
* `Fresh.step`  a line that may not replace entries extends the library;
* `templates_step`, `readLines_addsClosed`  a template is new only behind the brace that closes it;
* `Library.Call.leave_adds`  hence a load that may not replace entries leaves all of them as they are, however
  it ends, and adds templates that have been read to their closing brace.
-/

namespace Disasm

open Disasm.Action

/-! ## libraries that only grow -/

structure Library.Extends (lib lib' : Library) : Prop where
  templates : ∀ (name : String) (t : Template), lib.templates[name]? = some t → lib'.templates[name]? = some t
  aliases : ∀ (name : String) (a : Alias), lib.aliases[name]? = some a → lib'.aliases[name]? = some a
  constants : ∀ (name : String) (n : Int), lib.constants[name]? = some n → lib'.constants[name]? = some n
  forward : lib.forward <+: lib'.forward

namespace Library.Extends

theorem refl (lib : Library) : lib.Extends lib :=
  ⟨fun _ _ h => h, fun _ _ h => h, fun _ _ h => h, List.prefix_refl _⟩

theorem trans {lib lib' lib'' : Library} (h : lib.Extends lib') (h' : lib'.Extends lib'') : lib.Extends lib'' :=
  ⟨fun name t ht => h'.templates name t (h.templates name t ht),
    fun name a ha => h'.aliases name a (h.aliases name a ha),
    fun name n hn => h'.constants name n (h.constants name n hn), h.forward.trans h'.forward⟩

theorem expecting (lib : Library) (refs : List ForwardReference) : lib.Extends (lib.expecting refs) :=
  ⟨fun _ _ h => h, fun _ _ h => h, fun _ _ h => h, List.prefix_append _ _⟩

end Library.Extends

/-- an entry under a new name changes no other -/
theorem getElem?_insert_of_new {β : Type} {t : Std.TreeMap String β} {k name : String} {v w : β}
    (hnew : t.contains k = false) (hw : t[name]? = some w) : (t.insert k v)[name]? = some w := by
  have hne : compare k name ≠ .eq := by
    intro heq
    have hstored : t.contains name = true := by rw [Std.TreeMap.contains_eq_isSome_getElem?, hw, Option.isSome_some]
    rw [Std.LawfulEqCmp.compare_eq_iff_eq.1 heq, hstored] at hnew
    cases hnew
  rw [Std.TreeMap.getElem?_insert, if_neg hne, hw]

namespace TemplateReader

/-! ## lines that may not replace entries -/

/-- the name of the template under way is new -/
def Fresh (r : TemplateReader) : Prop :=
  ∀ t, r.pending = some t → r.library.templates.contains t.name = false

theorem fresh_idle (lib : Library) : Fresh ⟨lib, none⟩ := by
  intro t ht
  cases ht

theorem fresh_busy {lib : Library} {t : OpenTemplate} (h : lib.templates.contains t.name = false) :
    Fresh ⟨lib, some t⟩ := by
  intro t' ht'
  cases ht'
  exact h

/-- the check for a name is made where a declaration starts, the entry where it ends: the name is still new -/
theorem Fresh.step {r r' : TemplateReader} {words : List String} (hs : Step false r words r') (h : r.Fresh) :
    r'.Fresh ∧ r.library.Extends r'.library := by
  cases hs with
  | blank => exact ⟨h, .refl _⟩
  | @aliasLine lib declaration name hname hfree hnew =>
    have hnew' := hnew.resolve_left Bool.false_ne_true
    refine ⟨fresh_idle _, fun _ _ ht => ht, fun _ _ ha => ?_, fun _ _ hn => hn, List.prefix_refl _⟩
    exact getElem?_insert_of_new hnew' ha
  | @constantLine lib name value n hvalue hnew =>
    have hnew' := hnew.resolve_left Bool.false_ne_true
    refine ⟨fresh_idle _, fun _ _ ht => ht, fun _ _ ha => ha, fun _ _ hn => ?_, List.prefix_refl _⟩
    exact getElem?_insert_of_new hnew' hn
  | head halias hconstant hwords hname hfree hnew hsize hread =>
    exact ⟨fresh_busy (hnew.resolve_left Bool.false_ne_true), .refl _⟩
  | @brace lib t hclosed => exact ⟨fresh_busy (h t rfl), .refl _⟩
  | @close lib t hopen =>
    have hnew := h t rfl
    refine ⟨fresh_idle _, fun _ _ ht => ?_, fun _ _ ha => ha, fun _ _ hn => hn, List.prefix_refl _⟩
    exact getElem?_insert_of_new hnew ht
  | @plain lib refs t => exact ⟨fresh_busy (h t rfl), .expecting lib refs⟩
  | @template lib refs t => exact ⟨fresh_busy (h t rfl), .expecting lib refs⟩

theorem Fresh.steps {r r' : TemplateReader} {lines : List (List String)} (hs : Steps false r lines r')
    (h : r.Fresh) : r'.Fresh ∧ r.library.Extends r'.library := by
  refine hs.inv (I := fun r1 => r1.Fresh ∧ r.library.Extends r1.library) ?_ ⟨h, .refl _⟩
  intro r1 words r2 _ hstep ⟨hfresh, hgrown⟩
  have hnext := Fresh.step hstep hfresh
  exact ⟨hnext.1, hgrown.trans hnext.2⟩

theorem Fresh.halted {r r' : TemplateReader} {lines : List (List String)} (hs : Halted false r lines r')
    (h : r.Fresh) : r.library.Extends r'.library := by
  obtain ⟨done, mid, -, hsteps, refs, rfl⟩ := hs
  exact (h.steps hsteps).2.trans (.expecting _ refs)

/-! ## closing braces -/

/-- the lines from number `index` on, read from `s`, come to the brace that closes the template `name` as `T` -/
def ClosesFrom (override : Bool) (file : String) (index : Nat) (lines : List String) (s : Session TemplateReader)
    (name : String) (T : Template) : Prop :=
  ∃ done line rest lib t c, lines = done ++ line :: rest ∧ lineWords line = ["\x7d"] ∧
    readLines override file index done s = .ok () ⟨⟨lib, some t⟩, c⟩ ∧
    t.opened = true ∧ t.name = name ∧ OpenTemplate.close t = T

theorem templates_step {override : Bool} {r r' : TemplateReader} {words : List String}
    (hs : Step override r words r') {name : String} {T : Template}
    (hT : r'.library.templates[name]? = some T) :
    r.library.templates[name]? = some T ∨
      ∃ t, r.pending = some t ∧ words = ["\x7d"] ∧ t.opened = true ∧ t.name = name ∧ OpenTemplate.close t = T := by
  cases hs with
  | @close lib t hopen =>
    have hget : (lib.templates.insert t.name (OpenTemplate.close t))[name]? = some T := hT
    rw [Std.TreeMap.getElem?_insert] at hget
    split at hget
    · next heq =>
      cases hget
      exact .inr ⟨t, rfl, rfl, hopen, Std.LawfulEqCmp.compare_eq_iff_eq.1 heq, rfl⟩
    · exact .inl hget
  | blank | aliasLine | constantLine | head | brace | plain | template => exact .inl hT

section
variable {override : Bool} {file : String} {index : Nat} {line : String} {lines : List String}
  {s t : Session TemplateReader} {name : String} {T : Template}

theorem ClosesFrom.here {u : OpenTemplate} (hwords : lineWords line = ["\x7d"]) (hu : s.state.pending = some u)
    (hopen : u.opened = true) (hname : u.name = name) (hT : OpenTemplate.close u = T) :
    ClosesFrom override file index (line :: lines) s name T := by
  obtain ⟨⟨lib, pending⟩, c⟩ := s
  cases hu
  exact ⟨[], line, lines, lib, u, c, rfl, hwords, rfl, hopen, hname, hT⟩

theorem ClosesFrom.later
    (hline : readLine override ⟨file, index, Text.strip (Text.uncomment line)⟩ (lineWords line) s = .ok () t)
    (h : ClosesFrom override file (index + 1) lines t name T) :
    ClosesFrom override file index (line :: lines) s name T := by
  obtain ⟨done, line', rest, lib, u, c, hlines, hwords, hrun, hclosed⟩ := h
  refine ⟨line :: done, line', rest, lib, u, c, by rw [hlines]; rfl, hwords, ?_, hclosed⟩
  rw [readLines_cons, bind_of_ok hline, hrun]

end

/-- each template of a library was there before or is closed by one of the lines -/
def AddsClosed (override : Bool) (file : String) (index : Nat) (lines : List String) (s : Session TemplateReader)
    (lib : Library) : Prop :=
  ∀ (name : String) (T : Template), lib.templates[name]? = some T →
    s.state.library.templates[name]? = some T ∨ ClosesFrom override file index lines s name T

/-- however reading ends, all templates that it adds are closed by lines that have been read -/
theorem readLines_addsClosed (override : Bool) (file : String) (index : Nat) (lines : List String)
    (s : Session TemplateReader) :
    Yields (readLines override file index lines) s
      (fun _ r => AddsClosed override file index lines s r.library)
      (fun _ r => AddsClosed override file index lines s r.library) := by
  induction lines generalizing index s with
  | nil => exact Yields.pure fun name T hT => .inl hT
  | cons line lines ih =>
    have hline := readLine_yields override ⟨file, index, Text.strip (Text.uncomment line)⟩ (lineWords line) s
    constructor
    rw [readLines_cons, bind_apply]
    cases hr : readLine override ⟨file, index, Text.strip (Text.uncomment line)⟩ (lineWords line) s with
    | error f t =>
      obtain ⟨refs, hrefs⟩ := hline.of_error hr
      intro name T hT
      have hsame : t.state.library.templates = s.state.library.templates := by rw [hrefs]; rfl
      rw [hsame] at hT
      exact .inl hT
    | ok u t =>
      have hstep := hline.of_ok hr
      -- what the lines behind this one close, and what it closes itself
      have hboth : ∀ lib, AddsClosed override file (index + 1) lines t lib →
          AddsClosed override file index (line :: lines) s lib := by
        intro lib hlib name T hT
        rcases hlib name T hT with hbefore | hlater
        · rcases templates_step hstep hbefore with hold | ⟨v, hv, hwords, hopen, hname, hclose⟩
          · exact .inl hold
          · exact .inr (.here hwords hv hopen hname hclose)
        · exact .inr (hlater.later hr)
      exact ((ih (index + 1) t).imp (fun _ r => hboth r.library) fun _ r => hboth r.library).run

end TemplateReader

/-! ## loads -/

namespace Library

open TemplateReader

/-- a load leaves behind the library that reading its lines leaves behind -/
theorem load_of_readLines {P : Library → Prop} {override : Bool} {file text : String} {s : Session Library}
    (h : Yields (readLines override file 0 (Text.lines text)) ⟨⟨s.state, none⟩, s.console⟩
      (fun _ r => P r.library) (fun _ r => P r.library)) :
    Yields (load override file text) s (fun _ lib => P lib) (fun _ lib => P lib) := by
  have hall : Yields (readAll override file (Text.lines text)) ⟨⟨s.state, none⟩, s.console⟩
      (fun _ r => P r.library) (fun _ r => P r.library) := by
    unfold readAll
    refine Yields.bind (h.imp ?_ fun _ _ hr => hr)
    intro _ r hr c
    refine Yields.read (Yields.check (fun _ => hr) fun _ => ?_)
    split
    · exact Yields.stop hr
    · exact Yields.pure hr
  constructor
  unfold load
  cases hr : readAll override file (Text.lines text) ⟨⟨s.state, none⟩, s.console⟩ with
  | ok u t => exact hall.of_ok hr
  | error f t => exact hall.of_error hr

/-- a load that may not replace entries, in terms of the library before and behind it -/
def Adds (file text : String) (s : Session Library) (lib : Library) : Prop :=
  s.state.Extends lib ∧ AddsClosed false file 0 (Text.lines text) ⟨⟨s.state, none⟩, s.console⟩ lib

theorem load_adds (file text : String) (s : Session Library) :
    Yields (load false file text) s (fun _ lib => Adds file text s lib) (fun _ lib => Adds file text s lib) := by
  refine load_of_readLines ?_
  have hclosed := readLines_addsClosed false file 0 (Text.lines text) ⟨⟨s.state, none⟩, s.console⟩
  have hread := readLines_yields false file 0 (Text.lines text) ⟨⟨s.state, none⟩, s.console⟩
  constructor
  cases hr : readLines false file 0 (Text.lines text) ⟨⟨s.state, none⟩, s.console⟩ with
  | ok u t => exact ⟨((fresh_idle s.state).steps (hread.of_ok hr)).2, hclosed.of_ok hr⟩
  | error f t => exact ⟨(fresh_idle s.state).halted (hread.of_error hr), hclosed.of_error hr⟩

/-- a load that may not replace entries disturbs none, whatever the library is and however the load ends: templates,
aliases and constants stay as they are, references are added behind those there are, and each template that is new
comes from the text of the file, read up to its closing brace -/
theorem Call.leave_adds (call : Call) (hcall : call.override = false) (s : Session Library) :
    s.state.Extends (call.leave s).state ∧
      ∀ (name : String) (T : Template), (call.leave s).state.templates[name]? = some T →
        s.state.templates[name]? = some T ∨
          ∃ text, call.directory.text call.file = .ok text ∧
            ClosesFrom false call.file 0 (Text.lines text) ⟨⟨s.state, none⟩, s.console⟩ name T := by
  cases htext : call.directory.text call.file with
  | error f =>
    -- the file cannot be read, and nothing changes
    have hleave : call.leave s = s := by
      unfold leave run
      rw [htext]
      rfl
    rw [hleave]
    exact ⟨.refl _, fun name T hT => .inl hT⟩
  | ok text =>
    have hrun : call.run s = load false call.file text s := by
      unfold run
      rw [htext, hcall]
      rfl
    have hadds : Adds call.file text s (call.leave s).state := by
      have hload := load_adds call.file text s
      unfold leave
      rw [hrun]
      cases hr : load false call.file text s with
      | ok u t => exact hload.of_ok hr
      | error f t => exact hload.of_error hr
    refine ⟨hadds.1, fun name T hT => ?_⟩
    rcases hadds.2 name T hT with hold | hclosed
    · exact .inl hold
    · exact .inr ⟨text, rfl, hclosed⟩

/-! ### a load that stops at a name that is taken -/

/-- the call ends early, and the libraries before and behind it pass a test -/
def Call.stopsWith (call : Call) (s : Session Library) (test : Library → Library → Bool) : Bool :=
  match call.run s with
  | .ok _ _ => false
  | .error _ t => test s.state t.state

theorem Call.of_stopsWith {call : Call} {s : Session Library} {test : Library → Library → Bool}
    (h : call.stopsWith s test = true) :
    (∃ f t, call.run s = .error f t) ∧ test s.state (call.leave s).state = true := by
  unfold stopsWith at h
  cases hr : call.run s with
  | ok u t =>
    rw [hr] at h
    cases h
  | error f t =>
    rw [hr] at h
    have hleave : call.leave s = t := by
      unfold leave
      rw [hr]
    rw [hleave]
    exact ⟨⟨f, t, rfl⟩, h⟩

def storedText : String := "%arrayConstant N 4\n%alias float real\nnode\n\x7b\n real[N] v\n\x7d\n"

def againText : String := "list\n\x7b\n *item first\n node last\n\x7d\nnode\n"

/-- the second load adds a template and a reference before it stops -/
theorem leave_adds_stopped :
    ∃ s f t, s = loads ⟨{}, {}⟩ [callOf storedText] ∧ (callOf againText).run s = .error f t ∧
      s.state.templates.contains "node" = true ∧ s.state.Extends ((callOf againText).leave s).state ∧
      ∃ T text, ((callOf againText).leave s).state.templates["list"]? = some T ∧ T.size = 20 ∧
        ClosesFrom false "templates.dat" 0 (Text.lines text) ⟨⟨s.state, none⟩, s.console⟩ "list" T := by
  obtain ⟨⟨f, t, hrun⟩, htest⟩ := Call.of_stopsWith (show (callOf againText).stopsWith
    (loads ⟨{}, {}⟩ [callOf storedText]) (fun lib lib' => lib.templates.contains "node" &&
      lib.templates["list"]?.isNone && lib'.templates["list"]?.any (·.size == 20)) = true by decide +kernel)
  simp only [Bool.and_eq_true, Option.isNone_iff_eq_none] at htest
  obtain ⟨⟨hnode, hnone⟩, hany⟩ := htest
  obtain ⟨T, hT, hsize⟩ := (Option.any_eq_true _ _).1 hany
  obtain ⟨hextends, hadded⟩ := Call.leave_adds (callOf againText) rfl (loads ⟨{}, {}⟩ [callOf storedText])
  rcases hadded "list" T hT with hold | ⟨text, -, hclosed⟩
  · rw [hnone] at hold
    cases hold
  · exact ⟨_, f, t, rfl, hrun, hnode, hextends, T, text, hT, eq_of_beq hsize, hclosed⟩

end Library
end Disasm
