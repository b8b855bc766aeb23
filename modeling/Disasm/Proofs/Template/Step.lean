import Mathlib
import Disasm.Template.Reader
import Disasm.Proofs.Template.Declaration

/-!
# Steps of reading a template file

A template file is read line by line.

* `Step override r words r'`  what a line can do that is accepted, one case for each kind of line;
* `Stalled r r'`  what a line can leave behind that is not;
* `readLine_yields`  every line does one of the two;
* `Steps`, `Halted`  the same of several lines, and what they keep;
* `Library.load_yields`  what becomes of a library that a file is loaded into.
-/

namespace Disasm.TemplateReader

open Disasm.Action

/-! ## padding -/

/-- the least multiple that is not below; every offset is a multiple of the alignment 0 -/
theorem isLeast_padUp (offset : Int) {size : Int} (h : 0 ≤ size) :
    IsLeast {z | max 1 size ∣ z ∧ offset ≤ z} (padUp offset size) := by
  unfold padUp
  by_cases hzero : size = 0
  · rw [if_pos hzero, hzero]
    exact ⟨⟨one_dvd offset, le_rfl⟩, fun z hz => hz.2⟩
  · have hpos : 0 < size := by omega
    have hmax : max 1 size = size := by omega
    rw [if_neg hzero, hmax]
    by_cases hmod : offset % size = 0
    · rw [if_pos hmod]
      exact ⟨⟨Int.dvd_of_emod_eq_zero hmod, le_rfl⟩, fun z hz => hz.2⟩
    · rw [if_neg hmod]
      have hlt := Int.emod_lt_of_pos offset hpos
      have hnonneg := Int.emod_nonneg offset hzero
      have hfloor : size ∣ offset - offset % size := Int.dvd_self_sub_emod
      refine ⟨⟨?_, by omega⟩, fun z hz => ?_⟩
      · have hnext : size ∣ (offset - offset % size) + size := dvd_add hfloor (dvd_refl size)
        rwa [show offset - offset % size + size = offset + size - offset % size by omega] at hnext
      · -- a multiple above the one below `offset` is at least the next one
        have hle := hz.2
        have hstep := Int.le_of_dvd (by omega) (dvd_sub hz.1 hfloor)
        omega

theorem le_padUp (offset : Int) {size : Int} (h : 0 ≤ size) : offset ≤ padUp offset size :=
  (isLeast_padUp offset h).1.2

/-! ## members -/

/-- the words of a member line: the offset, if there is one, the type and the name -/
inductive MemberLine : List String → Option Int → String → String → Prop
  | bare (word name : String) : MemberLine [word, name] none word name
  | placed {w : String} {n : Int} (hw : Text.readNumber? w = some n) (hn : 0 ≤ n) (word name : String) :
    MemberLine [w, word, name] (some n) word name

/-- a member that is no template by itself -/
def plainMember (outer : String) (offset : Int) (shape : Shape) (name written : String) : Member :=
  { offset, size := shape.size, name, kind := shape.kind, pointer := shape.pointer
    array := shape.array, elementTemplate := shape.template, aliased := shape.aliased, written
    places := [⟨outer, name, offset⟩] }

/-- the template under way with such a member -/
def withPlain (lib : Library) (t : OpenTemplate) (given : Option Int) (shape : Shape)
    (name written : String) : OpenTemplate :=
  let offset := given.getD (padUp t.offset (alignment lib shape))
  { t with
    padding := max t.padding (alignment lib shape)
    offset := offset + shape.size
    members := plainMember t.name offset shape name written :: t.members }

/-- a member that is the template `u` of the name `inner` -/
def wholeMember (outer : String) (offset : Int) (u : Template) (inner : String) (aliased : Bool)
    (name written : String) : Member :=
  { offset, size := u.size, name, aliased, written, whole := some inner, places := [⟨outer, name, offset⟩] }

/-- the template under way with such a member, and the members of `u` behind it -/
def withTemplate (t : OpenTemplate) (given : Option Int) (u : Template) (inner : String)
    (aliased : Bool) (name written : String) : OpenTemplate :=
  let offset := given.getD (padUp t.offset u.padding)
  { t with
    padding := max t.padding u.padding
    offset := t.offset + u.size
    members := (u.members.map (·.inside t.name name offset)).reverse ++
      wholeMember t.name offset u inner aliased name written :: t.members }

/-! ## lines -/

/-- what a line does that is accepted -/
inductive Step (override : Bool) : TemplateReader → List String → TemplateReader → Prop
  | blank (r : TemplateReader) : Step override r [] r
  | aliasLine {lib : Library} {declaration name : String} (hname : isName name = true)
    (hfree : lib.templates.contains name = false)
    (hnew : override = true ∨ lib.aliases.contains name = false) :
    Step override ⟨lib, none⟩ ["%alias", declaration, name]
      ⟨{ lib with aliases := lib.aliases.insert name ⟨name, declaration, (lib.expandAlias declaration).2⟩ }, none⟩
  | constantLine {lib : Library} {name value : String} {n : Int} (hvalue : Text.readNumber? value = some n)
    (hnew : override = true ∨ lib.constants.contains name = false) :
    Step override ⟨lib, none⟩ ["%arrayConstant", name, value]
      ⟨{ lib with constants := lib.constants.insert name n }, none⟩
  | head {lib : Library} {first : String} {rest : List String} {word : Option String} {size : Option Int}
    (halias : first ≠ "%alias") (hconstant : first ≠ "%arrayConstant")
    (hwords : sizeWord? (first :: rest) = some word) (hname : isName first = true)
    (hfree : lib.aliases.contains first = false)
    (hnew : override = true ∨ lib.templates.contains first = false)
    (hsize : size.isSome = word.isSome) (hread : ∀ n, size = some n → 0 ≤ n ∧ word.bind Text.readNumber? = some n) :
    Step override ⟨lib, none⟩ (first :: rest)
      ⟨lib, some { name := first, size, opened := (first :: rest).getLast? == some "\x7b" }⟩
  | brace {lib : Library} {t : OpenTemplate} (hclosed : t.opened = false) :
    Step override ⟨lib, some t⟩ ["\x7b"] ⟨lib, some { t with opened := true }⟩
  | close {lib : Library} {t : OpenTemplate} (hopen : t.opened = true) :
    Step override ⟨lib, some t⟩ ["\x7d"]
      ⟨{ lib with templates := lib.templates.insert t.name (OpenTemplate.close t) }, none⟩
  | plain {lib : Library} {refs : List ForwardReference} {t : OpenTemplate} {words : List String}
    {given : Option Int} {word name : String} {shape : Shape} (hopen : t.opened = true)
    (hwords : MemberLine words given word name)
    (hshape : Declares (lib.expecting refs) (some t.name) word shape)
    (hplain : shape.template = none ∨ shape.array.isSome = true) (hname : isName name = true)
    (hnew : ∀ m ∈ t.members, m.name ≠ name) :
    Step override ⟨lib, some t⟩ words
      ⟨lib.expecting refs, some (withPlain (lib.expecting refs) t given shape name (words.getD 1 ""))⟩
  | template {lib : Library} {refs : List ForwardReference} {t : OpenTemplate} {words : List String}
    {given : Option Int} {word name : String} {shape : Shape} {inner : String} {u : Template}
    (hopen : t.opened = true) (hwords : MemberLine words given word name)
    (hshape : Declares (lib.expecting refs) (some t.name) word shape) (hinner : shape.template = some inner)
    (harray : shape.array = none) (hu : lib.templates[inner]? = some u) (hname : isName name = true)
    (hnew : ∀ m ∈ t.members, m.name ≠ name) :
    Step override ⟨lib, some t⟩ words
      ⟨lib.expecting refs, some (withTemplate t given u inner shape.aliased name (words.getD 1 ""))⟩

/-- what a line leaves behind that is not accepted -/
def Stalled (r r' : TemplateReader) : Prop := ∃ refs, r' = { r with library := r.library.expecting refs }

theorem Stalled.refl (r : TemplateReader) : Stalled r r := ⟨[], by rw [Library.expecting_nil]⟩

section
variable (override : Bool) (loc : Location) (lib : Library) (c : Console)

/-- a check that is left out when entries may be replaced -/
theorem replace_or_new {override found : Bool} (h : ¬ (!override && found) = true) :
    override = true ∨ found = false := by
  cases override with
  | false => exact .inr (by simpa using h)
  | true => exact .inl rfl

theorem readAlias_yields (rest : List String) :
    Yields (readAlias override loc ("%alias" :: rest)) ⟨⟨lib, none⟩, c⟩
      (fun _ r => Step override ⟨lib, none⟩ ("%alias" :: rest) r) (fun _ r => Stalled ⟨lib, none⟩ r) := by
  unfold readAlias
  split
  · next first declaration name hwords =>
    cases hwords
    refine Yields.check (fun _ => .refl _) fun hname => Yields.read ?_
    refine Yields.check (fun _ => .refl _) fun hfree => Yields.check (fun _ => .refl _) fun hnew => ?_
    exact Yields.update (.aliasLine (by simpa using hname) (eq_false_of_ne_true hfree) (replace_or_new hnew))
  · exact Yields.stop (.refl _)

theorem readConstant_yields (rest : List String) :
    Yields (readConstant override loc ("%arrayConstant" :: rest)) ⟨⟨lib, none⟩, c⟩
      (fun _ r => Step override ⟨lib, none⟩ ("%arrayConstant" :: rest) r)
      (fun _ r => Stalled ⟨lib, none⟩ r) := by
  unfold readConstant
  split
  · next first name value hwords =>
    cases hwords
    refine Yields.check (fun _ => .refl _) fun _ => ?_
    split
    · exact Yields.stop (.refl _)
    · next n hvalue =>
      refine Yields.read (Yields.check (fun _ => .refl _) fun hnew => ?_)
      exact Yields.update (.constantLine hvalue (replace_or_new hnew))
  · exact Yields.stop (.refl _)

theorem readSize_yields (word : Option String) (s : Session TemplateReader) :
    Yields (readSize loc word) s
      (fun size r => r = s.state ∧ size.isSome = word.isSome ∧
        ∀ n, size = some n → 0 ≤ n ∧ word.bind Text.readNumber? = some n)
      (fun _ r => r = s.state) := by
  unfold readSize
  split
  · exact Yields.pure ⟨rfl, rfl, fun n hn => by cases hn⟩
  · split
    · exact Yields.stop rfl
    · next w n hw =>
      refine Yields.ite (fun _ => Yields.stop rfl) fun hn => Yields.pure ⟨rfl, rfl, ?_⟩
      rintro m hm
      cases hm
      exact ⟨by omega, hw⟩

theorem readHead_yields {first : String} (rest : List String) (halias : first ≠ "%alias")
    (hconstant : first ≠ "%arrayConstant") :
    Yields (readHead override loc (first :: rest)) ⟨⟨lib, none⟩, c⟩
      (fun _ r => Step override ⟨lib, none⟩ (first :: rest) r) (fun _ r => Stalled ⟨lib, none⟩ r) := by
  unfold readHead
  split
  · exact Yields.stop (.refl _)
  · next word hwords =>
    refine Yields.check (fun _ => .refl _) fun hname => Yields.read ?_
    refine Yields.check (fun _ => .refl _) fun hfree => Yields.check (fun _ => .refl _) fun hnew => ?_
    refine Yields.bind ((readSize_yields loc word _).imp ?_ ?_)
    · rintro size r ⟨rfl, hsize, hread⟩ c'
      exact Yields.update (.head halias hconstant hwords (by simpa using hname) (eq_false_of_ne_true hfree)
        (replace_or_new hnew) hsize hread)
    · rintro f r rfl
      exact .refl _

theorem checkOrder_yields (what name : String) (offset : Int) (members : List Member)
    (s : Session TemplateReader) (E : Fault → TemplateReader → Prop) :
    Yields (checkOrder loc what name offset members) s (fun _ r => r = s.state) E := by
  unfold checkOrder
  split
  · exact Yields.pure rfl
  · refine Yields.ite (fun _ => Yields.warn rfl) fun _ => ?_
    exact Yields.ite (fun _ => Yields.warn rfl) fun _ => Yields.pure rfl

theorem addPlain_yields (t : OpenTemplate) (given : Option Int) (shape : Shape) (name written : String) :
    Yields (addPlain loc t given shape name written) ⟨⟨lib, some t⟩, c⟩
      (fun _ r => r = ⟨lib, some (withPlain lib t given shape name written)⟩) (fun _ _ => False) := by
  unfold addPlain
  refine Yields.read (Yields.bind ?_)
  refine (checkOrder_yields loc _ name _ t.members _ (fun _ _ => False)).imp ?_ fun _ _ h => h
  rintro - r rfl c'
  exact Yields.update rfl

theorem addTemplate_found (t : OpenTemplate) (given : Option Int) (shape : Shape) {inner : String} {u : Template}
    (hu : lib.templates[inner]? = some u) (name written : String) :
    Yields (addTemplate loc t given shape inner name written) ⟨⟨lib, some t⟩, c⟩
      (fun _ r => r = ⟨lib, some (withTemplate t given u inner shape.aliased name written)⟩) (fun _ _ => False) := by
  unfold addTemplate
  refine Yields.read ?_
  rw [hu]
  refine Yields.bind ?_
  refine (checkOrder_yields loc _ name _ t.members _ (fun _ _ => False)).imp ?_ fun _ _ h => h
  rintro - r rfl c'
  exact Yields.update rfl

theorem addTemplate_yields (t : OpenTemplate) (given : Option Int) (shape : Shape)
    (inner name written : String) :
    Yields (addTemplate loc t given shape inner name written) ⟨⟨lib, some t⟩, c⟩
      (fun _ r => ∃ u, lib.templates[inner]? = some u ∧
        r = ⟨lib, some (withTemplate t given u inner shape.aliased name written)⟩)
      (fun _ r => r = ⟨lib, some t⟩) := by
  cases hu : lib.templates[inner]? with
  | none =>
    unfold addTemplate
    refine Yields.read ?_
    rw [hu]
    exact Yields.fail rfl
  | some u =>
    have hfound := addTemplate_found loc lib c t given shape hu name written
    exact hfound.imp (fun _ r hr => ⟨u, rfl, hr⟩) fun _ _ h => h.elim

theorem readOffset_yields (words : List String) (s : Session TemplateReader) :
    Yields (readOffset loc words) s
      (fun p r => r = s.state ∧ ∃ word name, p.2 = [word, name] ∧ MemberLine words p.1 word name)
      (fun _ r => r = s.state) := by
  unfold readOffset
  split
  · next word name => exact Yields.pure ⟨rfl, word, name, rfl, .bare word name⟩
  · next w word name =>
    split
    · exact Yields.stop rfl
    · next n hw =>
      refine Yields.ite (fun _ => Yields.stop rfl) fun hn => Yields.pure ⟨rfl, word, name, rfl, ?_⟩
      exact .placed hw (by omega) word name
  · exact Yields.stop rfl

theorem readMember_yields {t : OpenTemplate} (hopen : t.opened = true) (words : List String) :
    Yields (readMember loc t words) ⟨⟨lib, some t⟩, c⟩
      (fun _ r => Step override ⟨lib, some t⟩ words r) (fun _ r => Stalled ⟨lib, some t⟩ r) := by
  unfold readMember
  refine Yields.bind ((readOffset_yields loc words _).imp ?_ ?_)
  · rintro ⟨given, rest⟩ r ⟨rfl, word, name, hrest, hwords⟩ c1
    dsimp only at hrest hwords
    subst hrest
    refine Yields.bind (Yields.within ((Library.declare_yields loc (some t.name) word [name] _).imp ?_ ?_))
    · rintro shape lib' ⟨refs, rfl, hshape⟩ c2
      have hstalled : Stalled ⟨lib, some t⟩ ⟨lib.expecting refs, some t⟩ := ⟨refs, rfl⟩
      refine Yields.check (fun _ => hstalled) fun hname => Yields.check (fun _ => hstalled) fun hnew => ?_
      have hname' : isName name = true := by simpa using hname
      have hnew' : ∀ m ∈ t.members, m.name ≠ name := by
        intro m hm he
        exact hnew (List.any_eq_true.2 ⟨m, hm, by simpa using he⟩)
      split
      · next inner hinner harray =>
        refine (addTemplate_yields loc _ c2 t given shape inner name _).imp ?_ ?_
        · rintro - r ⟨u, hu, rfl⟩
          exact .template hopen hwords hshape hinner harray hu hname' hnew'
        · rintro f r rfl
          exact hstalled
      · next hplain =>
        have hplain' : shape.template = none ∨ shape.array.isSome = true := by
          cases htemplate : shape.template with
          | none => exact .inl rfl
          | some inner =>
            cases harray : shape.array with
            | none => exact (hplain inner htemplate harray).elim
            | some d => exact .inr rfl
        refine (addPlain_yields loc _ c2 t given shape name _).imp ?_ fun _ _ h => h.elim
        rintro - r rfl
        exact .plain hopen hwords hshape hplain' hname' hnew'
    · rintro f lib' ⟨rfl, -⟩
      exact .refl _
  · rintro f r rfl
    exact .refl _

/-- every line makes a step or is not accepted -/
theorem readLine_yields (words : List String) (s : Session TemplateReader) :
    Yields (readLine override loc words) s (fun _ r => Step override s.state words r)
      (fun _ r => Stalled s.state r) := by
  obtain ⟨⟨lib, pending⟩, c⟩ := s
  unfold readLine
  refine Yields.read ?_
  cases words with
  | nil => exact Yields.pure (.blank _)
  | cons first rest =>
    cases pending with
    | none =>
      refine Yields.ite (fun h => ?_) fun halias => Yields.ite (fun h => ?_) fun hconstant => ?_
      · rw [eq_of_beq h]
        exact readAlias_yields override loc lib c rest
      · rw [eq_of_beq h]
        exact readConstant_yields override loc lib c rest
      · exact readHead_yields override loc lib c rest (by simpa using halias) (by simpa using hconstant)
    | some t =>
      refine Yields.ite (fun hclosed => ?_) fun hopen => ?_
      · refine Yields.ite (fun h => ?_) fun _ => Yields.stop (.refl _)
        rw [eq_of_beq h]
        exact Yields.update (.brace (by simpa using hclosed))
      · have hopen' : t.opened = true := by simpa using hopen
        refine Yields.ite (fun h => ?_) fun _ => ?_
        · rw [eq_of_beq h]
          unfold readEnd
          refine Yields.check (fun _ => .refl _) fun hone => ?_
          obtain rfl : rest = [] := by simpa using hone
          exact Yields.bind (Yields.update fun _ => Yields.update (.close hopen'))
        · exact readMember_yields override loc lib c hopen' (first :: rest)

end

/-! ## files -/

/-- the words of a line -/
def lineWords (line : String) : List String := Text.words (Text.strip (Text.uncomment line))

/-- the words of the lines of a text -/
def textWords (text : String) : List (List String) := (Text.lines text).map lineWords

/-- what several lines do that are accepted -/
inductive Steps (override : Bool) : TemplateReader → List (List String) → TemplateReader → Prop
  | nil (r : TemplateReader) : Steps override r [] r
  | cons {r r' r'' : TemplateReader} {words : List String} {rest : List (List String)}
    (head : Step override r words r') (tail : Steps override r' rest r'') :
    Steps override r (words :: rest) r''

/-- what is left behind by lines of which the last one that was read is not accepted -/
def Halted (override : Bool) (r : TemplateReader) (lines : List (List String)) (r' : TemplateReader) : Prop :=
  ∃ done mid, done <+: lines ∧ Steps override r done mid ∧ Stalled mid r'

section
variable {override : Bool} {r r' : TemplateReader}

theorem Halted.cons {words : List String} {rest : List (List String)} {r'' : TemplateReader}
    (head : Step override r words r') (tail : Halted override r' rest r'') :
    Halted override r (words :: rest) r'' := by
  obtain ⟨done, mid, hdone, hsteps, hmid⟩ := tail
  exact ⟨words :: done, mid, (List.prefix_cons_inj words).2 hdone, .cons head hsteps, hmid⟩

/-- what every line keeps, accepted or not, the lines of a file keep -/
theorem Steps.inv {I : TemplateReader → Prop} {lines : List (List String)}
    (hstep : ∀ r words r', words ∈ lines → Step override r words r' → I r → I r')
    (h : Steps override r lines r') (hr : I r) : I r' := by
  induction h with
  | nil r => exact hr
  | cons head tail ih =>
    refine ih (fun r words r' hw => hstep r words r' (List.mem_cons_of_mem _ hw)) ?_
    exact hstep _ _ _ List.mem_cons_self head hr

theorem Halted.inv {I : TemplateReader → Prop} (hstep : ∀ r words r', Step override r words r' → I r → I r')
    (hstalled : ∀ r r', Stalled r r' → I r → I r') {lines : List (List String)}
    (h : Halted override r lines r') (hr : I r) : I r' := by
  obtain ⟨done, mid, -, hsteps, hmid⟩ := h
  exact hstalled mid r' hmid (hsteps.inv (fun r words r' _ => hstep r words r') hr)

end

section
variable (override : Bool) (file : String)

theorem readLines_cons (index : Nat) (line : String) (rest : List String) :
    readLines override file index (line :: rest) =
      readLine override ⟨file, index, Text.strip (Text.uncomment line)⟩ (lineWords line) >>= fun _ =>
        readLines override file (index + 1) rest := rfl

theorem readLines_yields (index : Nat) (lines : List String) (s : Session TemplateReader) :
    Yields (readLines override file index lines) s
      (fun _ r => Steps override s.state (lines.map lineWords) r)
      (fun _ r => Halted override s.state (lines.map lineWords) r) := by
  induction lines generalizing index s with
  | nil => exact Yields.pure (.nil _)
  | cons line rest ih =>
    rw [List.map_cons, readLines_cons]
    refine Yields.bind ((readLine_yields override _ (lineWords line) s).imp ?_ ?_)
    · rintro - r hhead c
      exact (ih (index + 1) ⟨r, c⟩).imp (fun _ _ htail => .cons hhead htail) fun _ _ htail => .cons hhead htail
    · intro f r hr
      exact ⟨[], s.state, List.nil_prefix, .nil _, hr⟩

theorem readAll_yields (lines : List String) (s : Session TemplateReader) :
    Yields (readAll override file lines) s
      (fun _ r => Steps override s.state (lines.map lineWords) r ∧ r.pending = none ∧
        undefined? r.library = none)
      (fun _ r => Halted override s.state (lines.map lineWords) r) := by
  unfold readAll
  refine Yields.bind ((readLines_yields override file 0 lines s).imp ?_ fun _ _ h => h)
  intro _ r hsteps c
  have hhalted : Halted override s.state (lines.map lineWords) r :=
    ⟨_, r, List.prefix_rfl, hsteps, .refl r⟩
  refine Yields.read (Yields.check (fun _ => hhalted) fun hpending => ?_)
  split
  · exact Yields.stop hhalted
  · next hnone => exact Yields.pure ⟨hsteps, by simpa using hpending, hnone⟩

end

end Disasm.TemplateReader

namespace Disasm.Library

open Disasm.Action Disasm.TemplateReader

/-- a text that is accepted has been read to its end and leaves no reference open; from one that is not, all
that was read before stays -/
theorem load_yields (override : Bool) (file text : String) (s : Session Library) :
    Yields (load override file text) s
      (fun _ lib => Steps override ⟨s.state, none⟩ (textWords text) ⟨lib, none⟩ ∧ undefined? lib = none)
      (fun _ lib => ∃ pending, Halted override ⟨s.state, none⟩ (textWords text) ⟨lib, pending⟩) := by
  have h := readAll_yields override file (Text.lines text) ⟨⟨s.state, none⟩, s.console⟩
  constructor
  unfold load
  cases hr : readAll override file (Text.lines text) ⟨⟨s.state, none⟩, s.console⟩ with
  | ok u t =>
    obtain ⟨⟨lib, pending⟩, c⟩ := t
    obtain ⟨hsteps, hpending, hnone⟩ := h.of_ok hr
    dsimp only at hpending
    subst hpending
    exact ⟨hsteps, hnone⟩
  | error f t => exact ⟨t.state.pending, h.of_error hr⟩

end Disasm.Library
