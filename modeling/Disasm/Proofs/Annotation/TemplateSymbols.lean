import Mathlib
import Disasm.Proofs.Annotation.Placement
import Disasm.Proofs.Report
import Disasm.Proofs.Template.Expansion

/-!
# Symbols that are templates

* `PlainWord`, `Library.shape?_template`  the name of a template is a type word for it, unless it reads as a pointer or
  as an array;
* `MemberPath.range`  the range of the member at the end of a path;
* `loadSymbols_template`  a symbols file of one line gives a template its range and those of its members;
* `Library.expansion_of_load`  from the lines of a template file to the ranges of a symbol.
-/

namespace Disasm

open Disasm.Action TemplateReader

/-! ## names of templates -/

/-- the word has no star in front and no bracket in it -/
def PlainWord (word : String) : Prop := word.toList.head? ≠ some '*' ∧ '[' ∉ word.toList

instance (word : String) : Decidable (PlainWord word) := inferInstanceAs (Decidable (_ ∧ _))

namespace Library

variable {lib : Library} {name : String} {T : Template}

theorem expandAlias_plain (hplain : PlainWord name) (hfree : lib.aliases.contains name = false) :
    lib.expandAlias name = (false, name) := by
  obtain ⟨hstar, hbracket⟩ := hplain
  have hstars : name.toList.takeWhile (· == '*') = [] ∧ name.toList.dropWhile (· == '*') = name.toList := by
    cases hcs : name.toList with
    | nil => exact ⟨rfl, rfl⟩
    | cons ch cs =>
      have hne : (ch == '*') = false := by
        rw [hcs] at hstar
        simpa using hstar
      exact ⟨by simp [hne], by simp [hne]⟩
  have hall : ∀ ch ∈ name.toList, (ch != '[') = true := by
    intro ch hch
    have hne : ch ≠ '[' := fun he => hbracket (he ▸ hch)
    simpa using hne
  have hnone : lib.aliases[name]? = none := by
    rwa [Std.TreeMap.contains_eq_isSome_getElem?, Option.isSome_eq_false_iff, Option.isNone_iff_eq_none] at hfree
  unfold expandAlias
  simp only [hstars.1, hstars.2, List.takeWhile_eq_self_iff.2 hall, List.dropWhile_eq_nil_iff.2 hall,
    String.ofList_toList, hnone]
  simp

theorem shape?_template (h : lib.Regular) (hT : lib.templates[name]? = some T) (hplain : PlainWord name) :
    lib.shape? name = some { size := T.size, kind := .template, template := some name } := by
  have hstored : lib.templates.contains name = true := by
    rw [Std.TreeMap.contains_eq_isSome_getElem?, hT, Option.isSome_some]
  have hname := h.template_name name hstored
  have hparts : (name.isEmpty = false ∧ startsNumber name.toList = false) ∧ BasicType.ofName? name = none := by
    unfold isName at hname
    simp only [Bool.and_eq_true, Bool.not_eq_true', Option.isNone_iff_eq_none] at hname
    exact ⟨hname.1.1, hname.2⟩
  obtain ⟨⟨hempty, hnumber⟩, hbasic⟩ := hparts
  have hread : ArrayWord.read lib.constants name = .ok ⟨true, name, false, []⟩ := by
    have hpieces : Text.pieces (· == '[') name.toList = [name.toList] := by
      refine Text.pieces_of_forall fun ch hch => ?_
      have hne : ch ≠ '[' := fun he => hplain.2 (he ▸ hch)
      simpa using hne
    unfold ArrayWord.read
    rw [hpieces]
  have hstar : (name.toList.head? == some '*') = false := by simpa using hplain.1
  unfold shape? typeShape? valueShape?
  rw [expandAlias_plain hplain (h.not_both name hstored), hread]
  simp [hempty, hnumber, hstar, hbasic, hname, hT]

end Library

/-! ## ranges of members -/

/-- the range of the member at the end of the path, in a template that is placed as `name` -/
def MemberPath.range (name : String) (p : MemberPath) : Range where
  size := p.last.size
  name := name ++ "." ++ p.name
  kind := if p.last.array.isSome then .raw else p.last.kind
  pointer := p.last.pointer
  array := p.last.array
  elementTemplate := p.last.elementTemplate

theorem Member.Follows.kept_memberRange {m : Member} {p : MemberPath} (h : m.Follows p) (name : String) :
    (Annotations.memberRange name m).kept = p.range name := by
  unfold Range.kept Annotations.memberRange MemberPath.range
  rw [h.name, h.size, h.kind, h.pointer, h.array, h.elementTemplate]
  split <;> rfl

/-- the members at an address are the ends of the paths that lead there -/
theorem ranges_of_follows {ms : List Member} {ps : List MemberPath} (h : List.Forall₂ Member.Follows ms ps)
    (name : String) (addr a : Int) :
    (ms.filter fun m => addr + m.offset = a).map (fun m => (Annotations.memberRange name m).kept) =
      (ps.filter fun p => addr + p.offset = a).map (MemberPath.range name) := by
  induction h with
  | nil => rfl
  | @cons m p ms ps hm _ ih =>
    by_cases ha : addr + p.offset = a
    · rw [List.filter_cons_of_pos (by simpa [hm.offset] using ha), List.filter_cons_of_pos (by simpa using ha),
        List.map_cons, List.map_cons, hm.kept_memberRange, ih]
    · rw [List.filter_cons_of_neg (by simpa [hm.offset] using ha), List.filter_cons_of_neg (by simpa using ha), ih]

namespace Annotations

variable {lib : Library} {type name w : String} {T : Template} {addr : Int}

theorem placed_template (range : String → Member → Range) (hT : lib.templates[type]? = some T) :
    placed range lib addr name { size := T.size, kind := .template, template := some type } =
      (addr, { size := T.size, name }) :: T.members.map fun m => (addr + m.offset, range name m) := by
  unfold placed
  dsimp only
  rw [hT]

theorem accepts_template (h : lib.Regular) (hT : lib.templates[type]? = some T) (hplain : PlainWord type)
    (haddr : Text.readNumber? w = some addr) (hnonneg : 0 ≤ addr) :
    Accepts lib w type name addr { size := T.size, kind := .template, template := some type } := by
  refine ⟨haddr, hnonneg, Library.shape?_template h hT hplain, fun e he => ?_⟩
  rw [placed_template memberRange hT] at he
  rcases List.mem_cons.1 he with rfl | he
  · exact .inr (by simp)
  · -- a template is a member only as an array
    obtain ⟨m, hm, rfl⟩ := List.mem_map.1 he
    by_cases hkind : m.kind = .template
    · exact .inl (((h.templates_regular type T hT).members_regular m hm).template_array hkind).1
    · exact .inr hkind

/-- the ranges of a template at one address -/
theorem kept_template (a : Int) :
    (((addr, ({ size := T.size, name } : Range)) :: T.members.map fun m => (addr + m.offset, memberRange name m)).filter
        fun e => decide (e.1 = a)).map (fun e => e.2.kept) =
      (if a = addr then [{ size := T.size, name }] else []) ++
        (T.members.filter fun m => addr + m.offset = a).map (fun m => (memberRange name m).kept) := by
  have hmembers : ((T.members.map fun m => (addr + m.offset, memberRange name m)).filter
        fun e => decide (e.1 = a)).map (fun e => e.2.kept) =
      (T.members.filter fun m => addr + m.offset = a).map fun m => (memberRange name m).kept := by
    rw [List.filter_map, List.map_map]
    rfl
  by_cases ha : addr = a
  · rw [List.filter_cons_of_pos (by simpa using ha), List.map_cons, hmembers, if_pos ha.symm]
    rfl
  · rw [List.filter_cons_of_neg (by simpa using ha), hmembers, if_neg fun he => ha he.symm]
    rfl

/-- a symbols file of one line, of which the type word is the name of a template -/
theorem loadSymbols_template (h : lib.Regular) (hT : lib.templates[type]? = some T) (hplain : PlainWord type)
    {text line : String} (hlines : Text.lines text = [line])
    (hwords : Text.words (Text.uncomment line) = [w, type, name]) (haddr : Text.readNumber? w = some addr)
    (hnonneg : 0 ≤ addr) (c : Console) :
    ∃ t, loadSymbols text ⟨{ library := lib }, c⟩ = .ok () t ∧
      ∀ a : Int, t.state.labels.ranges[a]?.getD [] = (if a = addr then [{ size := T.size, name }] else []) ++
          (T.members.filter fun m => addr + m.offset = a).map (fun m => (memberRange name m).kept) ∧
        t.state.labels.ranges[a]? ≠ some [] := by
  have haccepts : Accepts lib w type name addr _ := accepts_template h hT hplain haddr hnonneg
  have hread : loadSymbols text =
      readSymbol ⟨symbolsFile, ((0 : Nat) : Int), Text.uncomment line⟩ (-1) [w, type, name] >>= fun next =>
        readSymbols 1 next [] := by
    unfold loadSymbols
    rw [hlines, ← hwords]
    rfl
  have hyields := readSymbol_yields w type name ⟨symbolsFile, ((0 : Nat) : Int), Text.uncomment line⟩ (-1)
    ⟨{ library := lib }, c⟩
  cases hrun : readSymbol ⟨symbolsFile, ((0 : Nat) : Int), Text.uncomment line⟩ (-1) [w, type, name]
    ⟨{ library := lib }, c⟩ with
  | error f t => exact absurd ⟨addr, _, haccepts⟩ (hyields.of_error hrun)
  | ok n t =>
    obtain ⟨addr', shape', haccepts', htable⟩ := hyields.of_ok hrun
    obtain ⟨rfl, rfl⟩ := haccepts.unique haccepts'
    have hload : loadSymbols text ⟨{ library := lib }, c⟩ = .ok () t := by
      rw [hread, bind_of_ok hrun]
      rfl
    have hranges : t.state.labels.ranges = RangeTable.addAll {} (placed memberRange lib addr name _) := htable
    rw [placed_template memberRange hT] at hranges
    refine ⟨t, hload, fun a => ?_⟩
    have hgroups := RangeTable.groups_addAll (t := ({} : RangeTable)) (fun a => Std.TreeMap.getElem?_emptyc)
      ((addr, { size := T.size, name }) :: T.members.map fun m => (addr + m.offset, memberRange name m)) a
    rw [← hranges] at hgroups
    exact ⟨hgroups.1.trans (kept_template a), hgroups.2⟩

end Annotations

/-! ## loads -/

namespace Library

/-- a file that is loaded into an empty library and declares no member with a dot in its name.  A template stands in
the file between its head and its closing brace; its list is that of the members declared there, each that is a
template with the members of that template behind it.  So its members are the paths through nested templates, each
once.  A symbol with this template gets its own range and, in the order of the members, one for each path, at the
sum of the offsets -/
theorem expansion_of_load {file text : String} {c : Console} {s : Session Library}
    (h : load false file text ⟨{}, c⟩ = .ok () s) (hdot : s.state.Dotless) {U : String} {T : Template}
    (hT : s.state.templates[U]? = some T) :
    (∃ before rest body after, textWords text = before ++ (U :: rest) :: (body ++ ["\x7d"] :: after) ∧
        Composed s.state U body T.members) ∧
      ∃ ps : List MemberPath, ps.Nodup ∧ (∀ p, p ∈ ps ↔ p.Valid s.state (declared T.members)) ∧
        List.Forall₂ Member.Follows T.members ps ∧
        (PlainWord U → ∀ (symbols line w name : String) (A : Int) (c' : Console), Text.lines symbols = [line] →
          Text.words (Text.uncomment line) = [w, U, name] → Text.readNumber? w = some A → 0 ≤ A →
          ∃ t, Annotations.loadSymbols symbols ⟨{ library := s.state }, c'⟩ = .ok () t ∧
            ∀ a : Int, t.state.labels.ranges[a]?.getD [] = (if a = A then [{ size := T.size, name }] else []) ++
                (ps.filter fun p => A + p.offset = a).map (MemberPath.range name) ∧
              t.state.labels.ranges[a]? ≠ some []) := by
  have hexpanded := expanded_of_load h
  have hregular : s.state.Regular := hexpanded.regular.library
  obtain ⟨ps, hnodup, hvalid, hfollows⟩ := hexpanded.nests.exists_paths hregular hdot hT
  refine ⟨hexpanded.stored U T hT, ps, hnodup, hvalid, hfollows, ?_⟩
  intro hplain symbols line w name A c' hlines hwords haddr hnonneg
  obtain ⟨t, hload, hranges⟩ := Annotations.loadSymbols_template hregular hT hplain hlines hwords haddr hnonneg c'
  refine ⟨t, hload, fun a => ?_⟩
  rw [← ranges_of_follows hfollows name A a]
  exact hranges a

/-! ### templates in templates -/

/-- what a test says about a path -/
def pathFacts (p : MemberPath) : String × Int × Nat := (p.name, p.offset, p.length)

theorem facts_of_follows {ms : List Member} {ps : List MemberPath} (h : List.Forall₂ Member.Follows ms ps) :
    ps.map pathFacts = ms.map fun m => (m.name, m.offset, m.places.length) := by
  induction h with
  | nil => rfl
  | cons hm _ ih =>
    rw [List.map_cons, List.map_cons, ih, hm.name, hm.offset, hm.depth]
    rfl

def treeText : String :=
  "leaf\n\x7b\n byte tag\n *leaf next\n\x7d\nnode\n\x7b\n int kind\n leaf first\n\x7d\ntree\n\x7b\n short depth\n node root\n\x7d\n"

def treeFacts : List (String × Int × Nat) :=
  [("depth", 0, 1), ("root", 4, 1), ("root.kind", 4, 2), ("root.first", 8, 2), ("root.first.tag", 8, 3),
    ("root.first.next", 12, 3)]

/-- two members of one symbol share an address -/
theorem expansion_of_tree :
    ∃ s T, load false "templates.dat" treeText ⟨{}, {}⟩ = .ok () s ∧ s.state.Dotless ∧
      s.state.templates["tree"]? = some T ∧ ∃ ps : List MemberPath, ps.map pathFacts = treeFacts ∧
        (∀ p, p ∈ ps ↔ p.Valid s.state (declared T.members)) ∧
        ∃ t, Annotations.loadSymbols "0x10 tree s\n" ⟨{ library := s.state }, {}⟩ = .ok () t ∧
          (t.state.labels.ranges[(24 : Int)]?.getD []).map Range.name = ["s.root.first", "s.root.first.tag"] := by
  obtain ⟨s, hload, htest⟩ := exists_of_endsWith
    (show endsWith (load false "templates.dat" treeText) ⟨{}, {}⟩ (fun lib => decide lib.Dotless &&
      lib.templates["tree"]?.any fun T =>
        decide ((T.members.map fun m => (m.name, m.offset, m.places.length)) = treeFacts)) = true by decide +kernel)
  simp only [Bool.and_eq_true, decide_eq_true_eq, Option.any_eq_true] at htest
  obtain ⟨hdot, T, hT, hfacts⟩ := htest
  obtain ⟨-, ps, -, hvalid, hfollows, hsymbols⟩ := expansion_of_load hload hdot hT
  have hps : ps.map pathFacts = treeFacts := (facts_of_follows hfollows).trans hfacts
  obtain ⟨t, hrun, hranges⟩ := hsymbols (by decide) "0x10 tree s\n" "0x10 tree s\n" "0x10" "s" 16 {}
    (by decide +kernel) (by decide +kernel) (by decide +kernel) (by decide)
  refine ⟨s, T, hload, hdot, hT, ps, hps, hvalid, t, hrun, ?_⟩
  have hnames : ((ps.filter fun p => decide (16 + p.offset = 24)).map (MemberPath.range "s")).map Range.name =
      ((ps.map pathFacts).filter fun e => decide (16 + e.2.1 = 24)).map fun e => "s" ++ "." ++ e.1 := by
    rw [List.filter_map, List.map_map, List.map_map]
    rfl
  rw [(hranges 24).1, if_neg (by decide), List.nil_append, hnames, hps]
  decide

def bracketText : String := "v[2]\n\x7b\n int x\n\x7d\n"

/-- a template whose name reads as an array cannot be named in a symbols file -/
theorem bracket_name_refused :
    ∃ s, load false "templates.dat" bracketText ⟨{}, {}⟩ = .ok () s ∧ s.state.Dotless ∧
      s.state.templates.contains "v[2]" = true ∧
      ∃ t, Annotations.loadSymbols "0x10 v[2] s\n" ⟨{ library := s.state }, {}⟩ = .error (.stopped 1) t := by
  obtain ⟨s, hload, htest⟩ := exists_of_endsWith
    (show endsWith (load false "templates.dat" bracketText) ⟨{}, {}⟩ (fun lib => decide lib.Dotless &&
      lib.templates.contains "v[2]" &&
        endsIn (.stopped 1) (Annotations.loadSymbols "0x10 v[2] s\n") ⟨{ library := lib }, {}⟩) = true by
      decide +kernel)
  simp only [Bool.and_eq_true, decide_eq_true_eq] at htest
  obtain ⟨⟨hdot, hstored⟩, hends⟩ := htest
  exact ⟨s, hload, hdot, hstored, exists_of_endsIn hends⟩

end Library
end Disasm
