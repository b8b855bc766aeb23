import Mathlib
import Disasm.Template.Declaration
import Disasm.Proofs.Action
import Disasm.Proofs.Text.Numeral

/-!
# What a type word declares

* `Library.expecting`  a library with more references to templates that are not known yet;
* `shape?`  whether a word is accepted, and its shape, as a function of the library and the word;
* `Element`, `Formed`  what is known about the shapes of type names, pointers included, and of words;
* `Declares lib current word shape`  both of them, when `lib` is the library behind the word;
* `declare_yields`  a word that is accepted declares its shape and can only add references;
* `opened`, `declare_opens`  which references it adds.
-/

namespace Disasm

open Disasm.Action

namespace Library

/-- the library with more references behind those it has -/
def expecting (lib : Library) (refs : List ForwardReference) : Library :=
  { lib with forward := lib.forward ++ refs }

theorem expecting_nil (lib : Library) : lib.expecting [] = lib := by
  unfold expecting
  rw [List.append_nil]

/-- a template of this name is there, is the one under way or is referred to -/
def Expects (lib : Library) (current : Option String) (name : String) : Prop :=
  lib.templates.contains name = true ∨ current = some name ∨ ∃ r ∈ lib.forward, r.name = name

/-! ## the shape of a word -/

/-- the shape of a type name with stars in front of it -/
def pointerShape? (word : List Char) : Option Shape :=
  let target := pointerTarget word
  let shape (kind : Kind) : Shape :=
    { size := 4, kind, pointer := some ⟨target, (word.takeWhile (· == '*')).length⟩ }
  if target == "void" then some (shape .pointerToVoid)
  else if (BasicType.ofName? target).isSome then some (shape .pointerToBasic)
  else if isName target then some (shape .pointerToTemplate)
  else none

/-- the shape of a type name without stars -/
def valueShape? (lib : Library) (name : String) : Option Shape :=
  match BasicType.ofName? name with
  | some t => some { size := t.size, kind := .basic t }
  | none =>
    if isName name then
      lib.templates[name]?.map fun t => { size := t.size, kind := .template, template := some name }
    else none

/-- the shape of a word that is no number, behind its aliases -/
def typeShape? (lib : Library) (aliased : Bool) (word : String) : Option Shape :=
  match ArrayWord.read lib.constants word with
  | .error _ => none
  | .ok w =>
    if w.valid then
      (if w.name.toList.head? == some '*' then pointerShape? w.name.toList else lib.valueShape? w.name).map
        fun shape => { (if w.isArray then arrayShape w.levels shape else shape) with aliased }
    else none

/-- the shape of a type word, wherever it stands; none for a word that is not accepted -/
def shape? (lib : Library) (word : String) : Option Shape :=
  if word.isEmpty then none
  else if startsNumber word.toList then
    ((Text.readNumber? word).filter fun n => decide (0 ≤ n)).map fun n => { size := n }
  else lib.typeShape? (lib.expandAlias word).1 (lib.expandAlias word).2

end Library

/-! ## what is known about a shape -/

/-- the shape of a type name, with the stars in front of it -/
inductive Element (lib : Library) (current : Option String) : Shape → Prop
  | basic (t : BasicType) : Element lib current { size := t.size, kind := .basic t }
  | template {name : String} {t : Template} (h : lib.templates[name]? = some t) :
    Element lib current { size := t.size, kind := .template, template := some name }
  | pointerToVoid (p : Pointer) :
    Element lib current { size := 4, kind := .pointerToVoid, pointer := some p }
  | pointerToBasic (p : Pointer) :
    Element lib current { size := 4, kind := .pointerToBasic, pointer := some p }
  | pointerToTemplate (p : Pointer) (h : lib.Expects current p.target) :
    Element lib current { size := 4, kind := .pointerToTemplate, pointer := some p }

/-- the shape of a type word: a number of bytes, or an element or an array of one -/
inductive Formed (lib : Library) (current : Option String) (word : String) : Shape → Prop
  | bytes {n : Int} (hw : startsNumber word.toList = true) (hn : 0 ≤ n) :
    Formed lib current word { size := n }
  | element {shape : Shape} (hw : startsNumber word.toList = false) (h : Element lib current shape)
    (aliased : Bool) : Formed lib current word { shape with aliased }
  | array {shape : Shape} (hw : startsNumber word.toList = false) (h : Element lib current shape)
    (aliased : Bool) {levels : List Level} (hl : ∀ l ∈ levels, 0 ≤ l.value) :
    Formed lib current word { Library.arrayShape levels shape with aliased }

/-- the word has this shape, and what is known about it -/
structure Declares (lib : Library) (current : Option String) (word : String) (shape : Shape) : Prop where
  shape_eq : lib.shape? word = some shape
  formed : Formed lib current word shape

/-- a shape that names a template names one that is there -/
theorem Declares.lookup {lib : Library} {current : Option String} {word inner : String} {shape : Shape}
    (h : Declares lib current word shape) (hinner : shape.template = some inner) :
    ∃ t, lib.templates[inner]? = some t := by
  have helement : ∀ {shape : Shape}, Element lib current shape → shape.template = some inner →
      ∃ t, lib.templates[inner]? = some t := by
    intro shape he hname
    cases he with
    | @template name t ht =>
      cases hname
      exact ⟨t, ht⟩
    | basic | pointerToVoid | pointerToBasic | pointerToTemplate => cases hname
  cases h.formed with
  | bytes => cases hinner
  | element hw he aliased => exact helement he hinner
  | array hw he aliased hl => exact helement he hinner

theorem startsNumber_of_readNumber? {w : String} (hw : Text.IsWord w.toList) {n : Int}
    (h : Text.readNumber? w = some n) : startsNumber w.toList = true := by
  obtain ⟨c, cs, hcs, hc⟩ := Text.head_of_readNumber? hw h
  rw [hcs]
  simpa [startsNumber, or_assoc] using hc

/-! ## dimensions -/

namespace ArrayWord

variable {constants : Std.TreeMap String Int}

theorem level?_nonneg {piece : List Char} {l : Level} (h : level? constants piece = some l) : 0 ≤ l.value := by
  unfold level? at h
  split at h
  · cases h
  · split at h
    · cases h
    · have := Option.filter_eq_some_iff.1 h
      simpa using this.2

theorem readLevels_nonneg {pieces : List (List Char)} {valid : Bool} {ls : List Level}
    (h : readLevels constants pieces = .ok (valid, ls)) : ∀ l ∈ ls, 0 ≤ l.value := by
  induction pieces generalizing valid ls with
  | nil =>
    cases h
    exact List.forall_mem_nil _
  | cons piece pieces ih =>
    unfold readLevels at h
    split at h
    · cases h
    · split at h
      · cases h
        exact List.forall_mem_nil _
      · next l hl =>
        split at h
        · next valid' ls' hrest =>
          cases h
          intro m hm
          rcases List.mem_cons.1 hm with rfl | hm
          · exact level?_nonneg hl
          · exact ih hrest m hm
        · cases h

/-- no dimension that was read is negative -/
theorem read_nonneg {word : String} {w : ArrayWord} (h : read constants word = .ok w) :
    ∀ l ∈ w.levels, 0 ≤ l.value := by
  unfold read at h
  split at h
  · cases h
    exact List.forall_mem_nil _
  · cases h
    exact List.forall_mem_nil _
  · split at h
    · next hl =>
      cases h
      exact readLevels_nonneg hl
    · cases h

end ArrayWord

theorem product_nonneg {levels : List Level} (h : ∀ l ∈ levels, 0 ≤ l.value) : 0 ≤ Level.product levels := by
  unfold Level.product
  induction levels with
  | nil => exact zero_le_one
  | cons l levels ih =>
    exact mul_nonneg (h l List.mem_cons_self) (ih fun l' hl' => h l' (List.mem_cons_of_mem l hl'))

/-! ## shapes -/

namespace Library

variable (loc : Location) (current : Option String)

theorem expect_yields (name : String) (s : Session Library) (E : Fault → Library → Prop) :
    Yields (expect loc current name) s
      (fun _ lib => ∃ refs, lib = s.state.expecting refs ∧ lib.Expects current name) E := by
  unfold expect
  refine Yields.read (Yields.ite (fun _ => Yields.update ?_) fun h => Yields.pure ?_)
  · refine ⟨[⟨name, loc⟩], rfl, .inr (.inr ⟨⟨name, loc⟩, ?_, rfl⟩)⟩
    exact List.mem_append_right _ List.mem_cons_self
  · refine ⟨[], (expecting_nil _).symm, ?_⟩
    simp only [Bool.and_eq_true, Bool.not_eq_true', bne_iff_ne, ne_eq, not_and, not_not] at h
    by_cases hc : s.state.templates.contains name = true
    · exact .inl hc
    · exact .inr (.inl (h (eq_false_of_ne_true hc)))

theorem pointerShape_yields (word : List Char) (s : Session Library) :
    Yields (pointerShape loc current word) s
      (fun shape lib => ∃ refs, lib = s.state.expecting refs ∧ Element lib current shape)
      (fun _ lib => lib = s.state) := by
  unfold pointerShape
  dsimp only
  refine Yields.ite (fun _ => Yields.pure ⟨[], (expecting_nil _).symm, .pointerToVoid _⟩) fun _ => ?_
  refine Yields.ite (fun _ => Yields.pure ⟨[], (expecting_nil _).symm, .pointerToBasic _⟩) fun _ => ?_
  refine Yields.check (fun _ => rfl) fun _ => Yields.bind ?_
  refine (expect_yields loc current _ s (fun _ lib => lib = s.state)).imp ?_ fun _ _ h => h
  rintro - lib ⟨refs, hlib, hname⟩ c
  exact Yields.pure ⟨refs, hlib, .pointerToTemplate _ hname⟩

theorem valueShape_yields (name : String) (s : Session Library) :
    Yields (valueShape loc name) s
      (fun shape lib => ∃ refs, lib = s.state.expecting refs ∧ Element lib current shape)
      (fun _ lib => lib = s.state) := by
  unfold valueShape
  split
  · exact Yields.pure ⟨[], (expecting_nil _).symm, .basic _⟩
  · refine Yields.check (fun _ => rfl) fun _ => Yields.read ?_
    split
    · exact Yields.stop rfl
    · next t ht => exact Yields.pure ⟨[], (expecting_nil _).symm, .template ht⟩

theorem sizeShape_yields {word : String} (hw : startsNumber word.toList = true) (s : Session Library) :
    Yields (sizeShape loc word) s
      (fun shape lib => ∃ refs, lib = s.state.expecting refs ∧ Formed lib current word shape)
      (fun _ lib => lib = s.state) := by
  unfold sizeShape
  split
  · exact Yields.stop rfl
  · refine Yields.ite (fun _ => Yields.stop rfl) fun hn => Yields.pure ⟨[], (expecting_nil _).symm, ?_⟩
    exact .bytes hw (by omega)

theorem typeShape_yields {word : String} (hw : startsNumber word.toList = false) (s : Session Library) :
    Yields (typeShape loc current word) s
      (fun shape lib => ∃ refs, lib = s.state.expecting refs ∧ Formed lib current word shape)
      (fun _ lib => lib = s.state) := by
  unfold typeShape
  refine Yields.read ?_
  dsimp only
  generalize s.state.expandAlias word = r
  obtain ⟨aliased, expanded⟩ := r
  refine Yields.bind (Yields.ofExcept (fun w hread c => ?_) fun f _ => rfl)
  have hlevels := ArrayWord.read_nonneg hread
  refine Yields.check (fun _ => rfl) fun _ => ?_
  -- whatever the element is, it is completed in the same way
  have hshape : ∀ (shape : Shape) (lib : Library),
      (∃ refs, lib = s.state.expecting refs ∧ Element lib current shape) → ∀ c,
      Yields (pure { (if w.isArray then arrayShape w.levels shape else shape) with aliased } :
          Action Library Shape) ⟨lib, c⟩
        (fun shape lib => ∃ refs, lib = s.state.expecting refs ∧ Formed lib current word shape)
        (fun _ lib => lib = s.state) := by
    rintro shape lib ⟨refs, hlib, helement⟩ c
    refine Yields.pure ⟨refs, hlib, ?_⟩
    cases w.isArray with
    | false => exact .element hw helement aliased
    | true => exact .array hw helement aliased hlevels
  refine Yields.ite (fun _ => Yields.bind ?_) fun _ => Yields.bind ?_
  · exact (pointerShape_yields loc current _ _).imp hshape fun _ _ h => h
  · exact (valueShape_yields loc current _ _).imp hshape fun _ _ h => h

theorem declare_formed (word : String) (rest : List String) (s : Session Library) :
    Yields (declare loc current (word :: rest)) s
      (fun shape lib => ∃ refs, lib = s.state.expecting refs ∧ Formed lib current word shape)
      (fun _ lib => lib = s.state) := by
  unfold declare
  refine Yields.ite (fun _ => Yields.fail rfl) fun _ => Yields.ite (fun hw => ?_) fun hw => ?_
  · exact sizeShape_yields loc current hw s
  · exact typeShape_yields loc current (by simpa using hw) s

/-! ## whether a word is accepted -/

theorem pointerShape_shape? (word : List Char) (s : Session Library) :
    Yields (pointerShape loc current word) s (fun shape _ => pointerShape? word = some shape)
      (fun _ _ => pointerShape? word = none) := by
  unfold pointerShape pointerShape?
  dsimp only
  refine Yields.ite (fun h => Yields.pure (if_pos h)) fun hvoid => ?_
  rw [if_neg hvoid]
  refine Yields.ite (fun h => Yields.pure (if_pos h)) fun hbasic => ?_
  rw [if_neg hbasic]
  refine Yields.check (fun h => if_neg (by simpa using h)) fun hname => Yields.bind ?_
  have hname' : isName (pointerTarget word) = true := by simpa using hname
  rw [if_pos hname']
  refine (expect_yields loc current _ s (fun _ _ => False)).imp ?_ fun _ _ h => h.elim
  intro _ lib _ c
  exact Yields.pure rfl

theorem valueShape_shape? (name : String) (s : Session Library) :
    Yields (valueShape loc name) s (fun shape _ => s.state.valueShape? name = some shape)
      (fun _ _ => s.state.valueShape? name = none) := by
  unfold valueShape valueShape?
  cases BasicType.ofName? name with
  | some t => exact Yields.pure rfl
  | none =>
    refine Yields.check (fun h => if_neg (by simpa using h)) fun hname => Yields.read ?_
    have hname' : isName name = true := by simpa using hname
    dsimp only
    rw [if_pos hname']
    split
    · next hnone => exact Yields.stop (by rw [hnone]; rfl)
    · next t ht => exact Yields.pure (by rw [ht]; rfl)

theorem typeShape_shape? (word : String) (s : Session Library) :
    Yields (typeShape loc current word) s
      (fun shape _ => s.state.typeShape? (s.state.expandAlias word).1 (s.state.expandAlias word).2 = some shape)
      (fun _ _ => s.state.typeShape? (s.state.expandAlias word).1 (s.state.expandAlias word).2 = none) := by
  unfold typeShape
  refine Yields.read ?_
  dsimp only
  generalize s.state.expandAlias word = r
  obtain ⟨aliased, expanded⟩ := r
  dsimp only
  unfold typeShape?
  refine Yields.bind (Yields.ofExcept (fun w hread c => ?_) fun f hread => by rw [hread])
  rw [hread]
  dsimp only
  refine Yields.check (fun h => if_neg (by simpa using h)) fun hvalid => ?_
  have hvalid' : w.valid = true := by simpa using hvalid
  rw [if_pos hvalid']
  refine Yields.ite (fun hstar => Yields.bind ?_) fun hstar => Yields.bind ?_
  · rw [if_pos hstar]
    refine (pointerShape_shape? loc current _ _).imp (fun shape _ h c' => Yields.pure ?_) fun _ _ h => ?_
    · rw [h]
      rfl
    · rw [h]
      rfl
  · rw [if_neg hstar]
    refine (valueShape_shape? loc _ _).imp (fun shape _ h c' => Yields.pure ?_) fun _ _ h => ?_
    · have h' : s.state.valueShape? w.name = some shape := h
      rw [h']
      rfl
    · have h' : s.state.valueShape? w.name = none := h
      rw [h']
      rfl

/-- what a word declares does not depend on the place it is read at -/
theorem declare_shape? (word : String) (rest : List String) (s : Session Library) :
    Yields (declare loc current (word :: rest)) s (fun shape _ => s.state.shape? word = some shape)
      (fun _ _ => s.state.shape? word = none) := by
  unfold declare shape?
  refine Yields.ite (fun h => Yields.fail (if_pos h)) fun hempty => ?_
  rw [if_neg hempty]
  refine Yields.ite (fun hw => ?_) fun hw => ?_
  · rw [if_pos hw]
    unfold sizeShape
    split
    · next hnone => exact Yields.stop (by rw [hnone]; rfl)
    · next n hn =>
      rw [hn]
      refine Yields.ite (fun h => Yields.stop ?_) fun h => Yields.pure ?_
      · simpa using h
      · simpa using h
  · rw [if_neg hw]
    exact typeShape_shape? loc current word s

/-- a word that is accepted declares its shape and can only add references -/
theorem declare_yields (word : String) (rest : List String) (s : Session Library) :
    Yields (declare loc current (word :: rest)) s
      (fun shape lib => ∃ refs, lib = s.state.expecting refs ∧ Declares lib current word shape)
      (fun _ lib => lib = s.state ∧ lib.shape? word = none) := by
  refine ((declare_formed loc current word rest s).both (declare_shape? loc current word rest s)).imp ?_ ?_
  · rintro shape lib ⟨⟨refs, rfl, hformed⟩, hshape⟩
    exact ⟨refs, rfl, hshape, hformed⟩
  · rintro f lib ⟨rfl, hnone⟩
    exact ⟨rfl, hnone⟩

/-! ## references -/

/-- the reference that a shape leaves open on a line: to a template that is neither there nor under way -/
def opened (lib : Library) (shape : Shape) : List ForwardReference :=
  if shape.kind = .pointerToTemplate then
    (shape.pointer.toList.filter fun p => !lib.templates.contains p.target && current != some p.target).map
      fun p => ⟨p.target, loc⟩
  else []

theorem mem_opened {lib : Library} {shape : Shape} {r : ForwardReference} (h : r ∈ lib.opened loc none shape) :
    shape.kind = .pointerToTemplate ∧ shape.pointer.map Pointer.target = some r.name ∧ r.location = loc ∧
      lib.templates.contains r.name = false := by
  unfold opened at h
  split at h
  · next hkind =>
    obtain ⟨p, hp, rfl⟩ := List.mem_map.1 h
    obtain ⟨hp, hopen⟩ := List.mem_filter.1 hp
    rw [Option.mem_toList] at hp
    refine ⟨hkind, by rw [hp]; rfl, rfl, ?_⟩
    simpa using hopen
  · cases h

theorem pointerShape_opens (word : List Char) (s : Session Library) :
    Yields (pointerShape loc current word) s (fun shape lib => lib = s.state.expecting (s.state.opened loc current shape))
      (fun _ lib => lib = s.state) := by
  unfold pointerShape
  dsimp only
  refine Yields.ite (fun _ => Yields.pure (expecting_nil _).symm) fun _ => ?_
  refine Yields.ite (fun _ => Yields.pure (expecting_nil _).symm) fun _ => ?_
  refine Yields.check (fun _ => rfl) fun _ => Yields.bind ?_
  unfold expect
  refine Yields.read (Yields.ite (fun h => Yields.update fun c => Yields.pure ?_) fun h => Yields.pure fun c => Yields.pure ?_)
  · unfold opened
    rw [if_pos rfl, Option.toList_some, List.filter_cons, if_pos h]
    rfl
  · unfold opened
    rw [if_pos rfl, Option.toList_some, List.filter_cons, if_neg h]
    exact (expecting_nil _).symm

theorem valueShape_opens (name : String) (s : Session Library) :
    Yields (valueShape loc name) s (fun shape lib => lib = s.state.expecting (s.state.opened loc current shape))
      (fun _ lib => lib = s.state) := by
  unfold valueShape
  split
  · exact Yields.pure (expecting_nil _).symm
  · refine Yields.check (fun _ => rfl) fun _ => Yields.read ?_
    split
    · exact Yields.stop rfl
    · exact Yields.pure (expecting_nil _).symm

/-- a word that is accepted adds the reference that its shape leaves open, and no other -/
theorem declare_opens (word : String) (rest : List String) (s : Session Library) :
    Yields (declare loc current (word :: rest)) s
      (fun shape lib => lib = s.state.expecting (s.state.opened loc current shape)) (fun _ lib => lib = s.state) := by
  unfold declare
  refine Yields.ite (fun _ => Yields.fail rfl) fun _ => Yields.ite (fun _ => ?_) fun _ => ?_
  · unfold sizeShape
    split
    · exact Yields.stop rfl
    · exact Yields.ite (fun _ => Yields.stop rfl) fun _ => Yields.pure (expecting_nil _).symm
  · unfold typeShape
    refine Yields.read ?_
    dsimp only
    generalize s.state.expandAlias word = r
    obtain ⟨aliased, expanded⟩ := r
    refine Yields.bind (Yields.ofExcept (fun w _ c => ?_) fun f _ => rfl)
    refine Yields.check (fun _ => rfl) fun _ => ?_
    -- an array has the kind and the pointer of its elements
    have hshape : ∀ (shape : Shape) (lib : Library), lib = s.state.expecting (s.state.opened loc current shape) → ∀ c,
        Yields (pure { (if w.isArray then arrayShape w.levels shape else shape) with aliased } : Action Library Shape)
          ⟨lib, c⟩ (fun shape lib => lib = s.state.expecting (s.state.opened loc current shape))
          (fun _ lib => lib = s.state) := by
      rintro shape lib hlib c
      refine Yields.pure (hlib.trans ?_)
      cases w.isArray with
      | false => rfl
      | true => rfl
    refine Yields.ite (fun _ => Yields.bind ?_) fun _ => Yields.bind ?_
    · exact (pointerShape_opens loc current _ _).imp hshape fun _ _ h => h
    · exact (valueShape_opens loc current _ _).imp hshape fun _ _ h => h

end Library
end Disasm
