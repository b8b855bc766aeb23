import Mathlib
import Disasm.Proofs.C.TypeWord
import Disasm.Proofs.Template.Layout

/-!
# Structs as templates

The text of structs is read as a file of templates, and the templates are the structs.

* `Struct.Fits`, `WellFormed`  structs that only hold what is known where they stand;
* `Represents`, `Holds`  templates that stand for structs;
* `Accepts rows r Q`  lines that are read without fault, and what they lead to;
* `Filled`  a template under way with some fields of a struct; `Filled.step`, `Filled.run`  the rows of more fields;
* `Loaded.step`, `Loaded.run`  the rows of one struct, and of one after the other;
* `structs_translated`  the text of structs is printed, and read to the templates of just these structs.
-/

namespace Disasm.C

open Disasm.Action Disasm.Text Disasm.TemplateReader

/-! ## structs that are well formed -/

/-- the target is known where the type stands: a struct that is defined before, or behind a pointer the one being
defined -/
def FieldType.fits (earlier : List String) (own : String) (t : FieldType) : Bool :=
  t.lengths.all isLength &&
    match t.target with
    | .basic _ => true
    | .void => t.depth != 0
    | .struct name => earlier.contains name || (t.depth != 0 && name == own)

/-- a struct that can be defined behind the structs of these names -/
@[mk_iff]
structure Struct.Fits (earlier : List String) (s : Struct) : Prop where
  identifier : isIdentifier s.name = true
  named : isName s.name = true
  new : s.name ∉ earlier
  wanted : s.name ∉ fakeStructs
  fields : ∀ f ∈ s.fields, isIdentifier f.name = true ∧ isName f.name = true ∧ f.type.fits earlier s.name = true
  nodup : (s.fields.map Field.name).Nodup

instance (earlier : List String) (s : Struct) : Decidable (s.Fits earlier) :=
  decidable_of_iff _ (Struct.fits_iff earlier s).symm

/-- each struct fits behind those in front of it -/
def WellFormed : List String → List Struct → Prop
  | _, [] => True
  | earlier, s :: ss => s.Fits earlier ∧ WellFormed (earlier ++ [s.name]) ss

instance decidableWellFormed : (earlier : List String) → (ss : List Struct) → Decidable (WellFormed earlier ss)
  | _, [] => inferInstanceAs (Decidable True)
  | earlier, s :: ss =>
    haveI := decidableWellFormed (earlier ++ [s.name]) ss
    inferInstanceAs (Decidable (s.Fits earlier ∧ WellFormed (earlier ++ [s.name]) ss))

/-- what it means that a type fits -/
theorem FieldType.of_fits {earlier : List String} {own : String} {t : FieldType} (h : t.fits earlier own = true) :
    (∀ l ∈ t.lengths, isLength l = true) ∧ (t.target = .void → t.depth ≠ 0) ∧
      ∀ name, t.target = .struct name → name ∈ earlier ∨ (t.depth ≠ 0 ∧ name = own) := by
  unfold FieldType.fits at h
  rw [Bool.and_eq_true, List.all_eq_true] at h
  refine ⟨h.1, fun htarget => ?_, fun name htarget => ?_⟩
  · rw [htarget] at h
    simpa using h.2
  · rw [htarget] at h
    simpa using h.2

/-- a struct that stands in itself is pointed to -/
theorem Struct.Fits.proper {earlier : List String} {s : Struct} (h : s.Fits earlier) : s.Proper := by
  intro f hf hdepth _ htarget
  obtain ⟨-, -, hstruct⟩ := FieldType.of_fits (h.fields f hf).2.2
  rcases hstruct s.name htarget with hmem | ⟨hpointer, -⟩
  · exact h.new hmem
  · exact hpointer hdepth

/-! ## the words of rows -/

theorem lineWords_eq {line : String} (h : ';' ∉ line.toList) : lineWords line = words line := by
  unfold lineWords
  rw [uncomment_eq_self h, words_strip]

section
variable {t : FieldType}

theorem mem_word {c : Char} (h : t.Written) (hc : c ∈ t.word.toList) :
    c = '*' ∨ isIdentifierChar c = true ∨ c = '[' ∨ c ∈ decimalDigits ∨ c = ']' := by
  rw [toList_word, FieldType.stem, List.mem_append, List.mem_append, List.mem_flatMap] at hc
  rcases hc with (hc | hc) | ⟨piece, hpiece, hc⟩
  · exact .inl (List.eq_of_mem_replicate hc)
  · exact .inr (.inl (by_contra fun hne => not_mem_identifier h.target (eq_false_of_ne_true hne) hc))
  · obtain ⟨l, hl, rfl⟩ := List.mem_map.1 hpiece
    rw [List.mem_cons, List.mem_append, List.mem_singleton] at hc
    have hdigit := fun hc : c ∈ l.toList => by_contra fun hne => not_mem_length (h.lengths l hl) hne hc
    exact .inr (.inr (hc.imp_right (Or.imp_left hdigit)))

theorem isWord_word (h : t.Written) : IsWord t.word.toList := by
  refine ⟨?_, fun c hc => ?_⟩
  · rw [toList_word, FieldType.stem]
    simp [(isWord_of_identifier h.target).1]
  · rcases mem_word h hc with rfl | hc | rfl | hc | rfl
    · decide
    · exact (isGraphic_of_identifierChar hc).not_blank
    · decide
    · exact (isGraphic_of_decimal hc).not_blank
    · decide

theorem lineWords_row {f : Field} (htype : f.type.Written) (hname : isIdentifier f.name = true) :
    lineWords f.row = [f.type.word, f.name] := by
  have hsemicolon : ';' ∉ f.row.toList := by
    have hword : ';' ∉ f.type.word.toList := fun hc => absurd (mem_word htype hc) (by decide)
    have hfield : ';' ∉ f.name.toList := not_mem_identifier hname (by decide)
    unfold Field.row
    simp only [String.toList_append, List.mem_append, not_or]
    exact ⟨⟨⟨⟨by decide, hword⟩, by decide⟩, hfield⟩, by decide⟩
  have hgap : StartsBlank " " := ⟨' ', rfl, by decide⟩
  have hend : StartsBlank "\n" := ⟨'\n', rfl, by decide⟩
  rw [lineWords_eq hsemicolon]
  unfold Field.row
  simp only [String.append_assoc]
  rw [words_blanks_append (by decide), words_word_append (isWord_word htype) (hgap.append _),
    words_blanks_append (by decide), words_word_append (isWord_of_identifier hname) hend]
  rfl

end

theorem lineWords_head {name : String} (hname : isIdentifier name = true) :
    lineWords (name ++ " \x7b\n") = [name, "\x7b"] := by
  have hsemicolon : ';' ∉ (name ++ " \x7b\n").toList := by
    rw [String.toList_append, List.mem_append, not_or]
    exact ⟨not_mem_identifier hname (by decide), by decide⟩
  rw [lineWords_eq hsemicolon, words_word_append (isWord_of_identifier hname) ⟨' ', by decide, by decide⟩]
  congr 1

/-! ## templates that stand for structs -/

/-- a member that is a field -/
structure Represents (f : Field) (m : Member) : Prop where
  name : m.name = f.name
  pointer : m.pointer = f.type.pointer?
  levels : m.array.map Dimensions.levels = f.type.levels?
  /-- a struct by itself is a member that is a template -/
  whole : m.whole = if f.type.lengths = [] then f.type.struct? else none
  element : m.whole = none → m.kind = f.type.kind ∧ m.elementTemplate = f.type.struct?

/-- the library has the templates of the structs and nothing else -/
structure Holds (lib : Library) (ss : List Struct) : Prop extends Plain lib where
  names : ∀ name, lib.templates.contains name = true ↔ name ∈ ss.map Struct.name
  templates : ∀ s ∈ ss, ∃ t, lib.templates[s.name]? = some t ∧ List.Forall₂ Represents s.fields (declared t.members)

/-- every member knows which template declares it -/
def Placed (lib : Library) : Prop :=
  ∀ (name : String) (t : Template), lib.templates[name]? = some t → ∀ m ∈ t.members, m.places ≠ []

/-! ## lines that are accepted -/

/-- the lines are read without fault, and lead from one state to another -/
def Accepts (rows : List String) (r : TemplateReader) (Q : TemplateReader → Prop) : Prop :=
  ∀ file index c, Yields (readLines false file index rows) ⟨r, c⟩ (fun _ => Q) fun _ _ => False

theorem Accepts.nil {r : TemplateReader} {Q : TemplateReader → Prop} (h : Q r) : Accepts [] r Q :=
  fun _ _ _ => Yields.pure h

theorem Accepts.cons {row : String} {rows : List String} {r : TemplateReader} {Q : TemplateReader → Prop}
    (h : ∀ loc c, Yields (readLine false loc (lineWords row)) ⟨r, c⟩ (fun _ r' => Accepts rows r' Q) fun _ _ => False) :
    Accepts (row :: rows) r Q := by
  intro file index c
  rw [readLines_cons]
  exact Yields.bind ((h _ c).imp (fun _ r' hr' c' => hr' file (index + 1) c') fun _ _ hf => hf)

/-- a text whose lines are accepted is loaded -/
theorem Accepts.load {text : String} {lib : Library} {P : Library → Prop}
    (h : Accepts (lines text) ⟨lib, none⟩ fun r => ∃ lib', r = ⟨lib', none⟩ ∧ lib'.forward = [] ∧ P lib')
    (file : String) (c : Console) : ∃ lib' c', Library.load false file text ⟨lib, c⟩ = .ok () ⟨lib', c'⟩ ∧ P lib' := by
  have hall : Yields (readAll false file (lines text)) ⟨⟨lib, none⟩, c⟩ (fun _ r => P r.library) fun _ _ => False := by
    unfold readAll
    refine Yields.bind ((h file 0 c).imp ?_ fun _ _ hf => hf)
    rintro - r ⟨lib', rfl, hforward, hP⟩ c'
    refine Yields.read (Yields.check (fun hpending => by cases hpending) fun _ => ?_)
    unfold undefined?
    dsimp only
    rw [hforward]
    exact Yields.pure hP
  unfold Library.load
  dsimp only
  cases hr : readAll false file (lines text) ⟨⟨lib, none⟩, c⟩ with
  | ok u t => exact ⟨t.state.library, t.console, rfl, hall.of_ok hr⟩
  | error f t => exact (hall.of_error hr).elim

/-! ## the rows of fields -/

/-- the template under way has some fields of a struct -/
structure Filled (own : String) (fs : List Field) (t : OpenTemplate) : Prop where
  name : t.name = own
  opened : t.opened = true
  fields : List.Forall₂ Represents fs (declared t.members.reverse)
  /-- the members that are not declared have a dot in their names -/
  names : ∀ m ∈ t.members, m.name ∈ fs.map Field.name ∨ '.' ∈ m.name.toList
  placed : ∀ m ∈ t.members, m.places ≠ []

section
variable {lib : Library} {own : String} {fs : List Field} {f : Field} {t : OpenTemplate}

theorem Filled.start (own : String) : Filled own [] { name := own, size := none, opened := true } where
  name := rfl
  opened := rfl
  fields := .nil
  names := List.forall_mem_nil _
  placed := List.forall_mem_nil _

/-- a member, with those behind it that belong to it -/
theorem Filled.push (h : Filled own fs t) {t' : OpenTemplate} {m : Member} (hm : Represents f m)
    (hplace : m.places.length = 1) {inner : List Member} (hinner : declared inner = [])
    (hdots : ∀ n ∈ inner, '.' ∈ n.name.toList) (hplaced : ∀ n ∈ inner, n.places ≠ [])
    (hname : t'.name = t.name) (hopened : t'.opened = t.opened)
    (hmembers : t'.members = inner.reverse ++ m :: t.members) : Filled own (fs ++ [f]) t' where
  name := hname.trans h.name
  opened := hopened.trans h.opened
  fields := by
    have hreverse : t'.members.reverse = t.members.reverse ++ m :: inner := by rw [hmembers]; simp
    rw [hreverse, declared_append_cons hplace hinner]
    exact List.rel_append h.fields (.cons hm .nil)
  names := by
    intro n hn
    rw [hmembers, List.mem_append, List.mem_reverse, List.mem_cons] at hn
    rw [List.map_append, List.mem_append]
    rcases hn with hn | rfl | hn
    · exact .inr (hdots n hn)
    · exact .inl (.inr (List.mem_singleton.2 hm.name))
    · exact (h.names n hn).imp_left .inl
  placed := by
    intro n hn
    rw [hmembers, List.mem_append, List.mem_reverse, List.mem_cons] at hn
    rcases hn with hn | rfl | hn
    · exact hplaced n hn
    · exact List.ne_nil_of_length_eq_add_one hplace
    · exact h.placed n hn

theorem withPlain_filled (h : Filled own fs t) {shape : Shape} (hshape : f.type.HasShape shape)
    (hplain : ∀ inner, shape.template = some inner → shape.array ≠ none) (written : String) :
    Filled own (fs ++ [f]) (withPlain lib t none shape f.name written) := by
  refine h.push ⟨rfl, hshape.pointer, hshape.levels, ?_, fun _ => ⟨hshape.kind, hshape.template⟩⟩ rfl rfl
    (List.forall_mem_nil _) (List.forall_mem_nil _) rfl rfl rfl
  show none = _
  split
  · next hls =>
    rw [← hshape.template]
    refine (Option.eq_none_iff_forall_ne_some.2 fun inner hinner => ?_).symm
    exact hplain inner hinner (hshape.single_iff.2 hls)
  · rfl

theorem withTemplate_filled (h : Filled own fs t) {shape : Shape} (hshape : f.type.HasShape shape) {inner : String}
    (hinner : shape.template = some inner) (harray : shape.array = none) {u : Template}
    (hu : ∀ m ∈ u.members, m.places ≠ []) (aliased : Bool) (written : String) :
    Filled own (fs ++ [f]) (withTemplate t none u inner aliased f.name written) := by
  have hstruct : f.type.struct? = some inner := hshape.template.symm.trans hinner
  have hls : f.type.lengths = [] := hshape.single_iff.1 harray
  have hm : Represents f (wholeMember t.name (padUp t.offset u.padding) u inner aliased f.name written) := by
    refine ⟨rfl, (pointer?_of_struct? hstruct).symm, ?_, ?_, fun hwhole => by cases hwhole⟩
    · exact (if_pos hls).symm
    · rw [if_pos hls, hstruct]
      rfl
  refine h.push hm rfl (declared_inside hu _ _ _) ?_ ?_ rfl rfl rfl
  · intro n hn
    obtain ⟨m, -, rfl⟩ := List.mem_map.1 hn
    show '.' ∈ (f.name ++ "." ++ m.name).toList
    simp
  · intro n hn
    obtain ⟨m, -, rfl⟩ := List.mem_map.1 hn
    exact List.append_ne_nil_of_right_ne_nil _ (List.cons_ne_nil _ _)

/-- the row of a field adds the field -/
theorem Filled.step (hlib : Plain lib) (hplaced : Placed lib) (h : Filled own fs t) (hname : isIdentifier f.name = true)
    (hvalid : isName f.name = true) (hnew : f.name ∉ fs.map Field.name) (htype : f.type.Known lib own)
    (loc : Location) (c : Console) :
    Yields (readLine false loc [f.type.word, f.name]) ⟨⟨lib, some t⟩, c⟩
      (fun _ r => ∃ t', r = ⟨lib, some t'⟩ ∧ Filled own (fs ++ [f]) t') fun _ _ => False := by
  have hbrace : ¬ (f.type.word == "\x7d") = true := by
    intro he
    have hmem : '\x7d' ∈ f.type.word.toList := by rw [eq_of_beq he]; decide
    exact absurd (mem_word htype.written hmem) (by decide)
  -- the name is no earlier field's, and a member inside an earlier field has a dot
  have hfresh : ¬ (t.members.any (·.name == f.name)) = true := by
    rw [List.any_eq_true]
    rintro ⟨m, hm, he⟩
    rcases h.names m hm with hold | hdot
    · exact hnew (eq_of_beq he ▸ hold)
    · rw [eq_of_beq he] at hdot
      exact not_mem_identifier hname (by decide) hdot
  obtain ⟨shape, hword, hshape⟩ := shape?_word hlib htype
  unfold readLine
  refine Yields.read ?_
  dsimp only
  rw [h.opened, if_neg (by decide), if_neg hbrace]
  unfold readMember readOffset
  refine Yields.bind (Yields.pure fun c' => ?_)
  dsimp only
  -- the shape is the one that the word has, and no reference changes the library
  have hdeclare := (Library.declare_shape? loc (some t.name) f.type.word [f.name] ⟨lib, c'⟩).both
    (Library.declare_opens loc (some t.name) f.type.word [f.name] ⟨lib, c'⟩)
  refine Yields.bind (Yields.within (hdeclare.imp ?_ ?_))
  · rintro shape' lib' ⟨hshape', hlib'⟩ c''
    obtain rfl : shape = shape' := Option.some.inj (hword.symm.trans hshape')
    obtain rfl : lib' = lib := by
      rw [hlib', h.name, opened_eq_nil htype hshape loc, Library.expecting_nil]
    refine Yields.check (fun hinvalid => absurd hvalid (by simpa using hinvalid)) fun _ => ?_
    refine Yields.check hfresh fun _ => ?_
    split
    · next inner hinner harray =>
      obtain ⟨u, hu⟩ := htype.template (hshape.template.symm.trans hinner)
      refine (addTemplate_found loc _ c'' t none shape hu f.name _).imp ?_ fun _ _ hf => hf
      rintro - r rfl
      exact ⟨_, rfl, withTemplate_filled h hshape hinner harray (hplaced inner u hu) shape.aliased _⟩
    · next hplain =>
      refine (addPlain_yields loc _ c'' t none shape f.name _).imp ?_ fun _ _ hf => hf
      rintro - r rfl
      exact ⟨_, rfl, withPlain_filled h hshape hplain _⟩
  · rintro fault lib' ⟨hnone, -⟩
    exact absurd (hword.symm.trans hnone) (Option.some_ne_none _)

/-- the rows of fields, one after the other -/
theorem Filled.run (hlib : Plain lib) (hplaced : Placed lib) (h : Filled own fs t) {gs : List Field}
    (hgs : ∀ f ∈ gs, isIdentifier f.name = true ∧ isName f.name = true ∧ f.type.Known lib own)
    (hnodup : ((fs ++ gs).map Field.name).Nodup) {rows : List String} {Q : TemplateReader → Prop}
    (hQ : ∀ t', Filled own (fs ++ gs) t' → Accepts rows ⟨lib, some t'⟩ Q) :
    Accepts (gs.map Field.row ++ rows) ⟨lib, some t⟩ Q := by
  induction gs generalizing fs t with
  | nil =>
    rw [List.append_nil] at hQ
    exact hQ t h
  | cons f gs ih =>
    obtain ⟨⟨hname, hvalid, htype⟩, hrest⟩ := List.forall_mem_cons.1 hgs
    have hnew : f.name ∉ fs.map Field.name := by
      rw [List.map_append, List.map_cons] at hnodup
      exact fun hmem => (List.disjoint_of_nodup_append hnodup) hmem List.mem_cons_self
    refine Accepts.cons fun loc c => ?_
    rw [lineWords_row htype.written hname]
    refine (h.step hlib hplaced hname hvalid hnew htype loc c).imp ?_ fun _ _ hf => hf
    rintro - r ⟨t', rfl, ht'⟩
    refine ih ht' hrest ?_ ?_
    · rwa [List.append_assoc]
    · rwa [List.append_assoc]

end

/-! ## the rows of structs -/

/-- the library while the structs are read -/
structure Loaded (lib : Library) (ss : List Struct) : Prop extends Holds lib ss where
  placed : Placed lib
  named : ∀ s ∈ ss, isIdentifier s.name = true ∧ isName s.name = true

section
variable {lib : Library} {ss : List Struct} {s : Struct}

theorem Loaded.start : Loaded {} [] where
  aliases := rfl
  constants := rfl
  forward := rfl
  names := by simp
  templates := List.forall_mem_nil _
  placed := by
    intro name t ht
    simp at ht
  named := List.forall_mem_nil _

/-- the types of fields that fit are known -/
theorem Loaded.known (h : Loaded lib ss) (hs : s.Fits (ss.map Struct.name)) {f : Field} (hf : f ∈ s.fields) :
    f.type.Known lib s.name := by
  obtain ⟨hlengths, hvoid, hstruct⟩ := FieldType.of_fits (hs.fields f hf).2.2
  refine ⟨hlengths, hvoid, fun name htarget => ?_, fun name htarget => ?_⟩
  · rcases hstruct name htarget with hmem | ⟨-, rfl⟩
    · obtain ⟨s', hs', rfl⟩ := List.mem_map.1 hmem
      exact h.named s' hs'
    · exact ⟨hs.identifier, hs.named⟩
  · exact (hstruct name htarget).imp_left (h.names name).2

/-- the closing brace adds the template of the struct -/
theorem Loaded.close (h : Loaded lib ss) (hs : s.Fits (ss.map Struct.name)) {t : OpenTemplate}
    (ht : Filled s.name s.fields t) :
    Loaded { lib with templates := lib.templates.insert t.name (OpenTemplate.close t) } (ss ++ [s]) where
  aliases := h.aliases
  constants := h.constants
  forward := h.forward
  names := by
    intro name
    rw [Std.TreeMap.contains_insert, ht.name, Bool.or_eq_true, beq_iff_eq, Std.LawfulEqCmp.compare_eq_iff_eq,
      h.names name, List.map_append, List.mem_append, List.map_singleton, List.mem_singleton, or_comm, eq_comm]
  templates := by
    have hnew : lib.templates.contains t.name = false := by
      rw [ht.name]
      exact eq_false_of_ne_true fun hc => hs.new ((h.names _).1 hc)
    refine List.forall_mem_append.2 ⟨fun s' hs' => ?_, List.forall_mem_singleton.2 ⟨OpenTemplate.close t, ?_, ?_⟩⟩
    · obtain ⟨T, hT, hfields⟩ := h.templates s' hs'
      exact ⟨T, getElem?_insert_of_new hnew hT, hfields⟩
    · rw [ht.name]
      exact Std.TreeMap.getElem?_insert_self
    · rw [members_close]
      exact ht.fields
  placed := by
    intro name T hT m hm
    rw [Std.TreeMap.getElem?_insert] at hT
    split at hT
    · cases hT
      rw [members_close, List.mem_reverse] at hm
      exact ht.placed m hm
    · exact h.placed name T hT m hm
  named := List.forall_mem_append.2 ⟨h.named, List.forall_mem_singleton.2 ⟨hs.identifier, hs.named⟩⟩

/-- the head of a struct opens a template without fields -/
theorem Loaded.head (h : Loaded lib ss) (hs : s.Fits (ss.map Struct.name)) (loc : Location) (c : Console) :
    Yields (readLine false loc [s.name, "\x7b"]) ⟨⟨lib, none⟩, c⟩
      (fun _ r => ∃ t, r = ⟨lib, some t⟩ ∧ Filled s.name [] t) fun _ _ => False := by
  have hfirst : ∀ word : String, '%' ∈ word.toList → ¬ (s.name == word) = true := by
    intro word hword he
    rw [← eq_of_beq he] at hword
    exact not_mem_identifier hs.identifier (by decide) hword
  unfold readLine
  refine Yields.read ?_
  dsimp only
  rw [if_neg (hfirst "%alias" (by decide)), if_neg (hfirst "%arrayConstant" (by decide))]
  unfold readHead
  show Yields (if !isName s.name then _ else _) _ _ _
  refine Yields.check (fun hinvalid => absurd hs.named (by simpa using hinvalid)) fun _ => Yields.read ?_
  refine Yields.check (fun hfound => ?_) fun _ => Yields.check (fun hfound => ?_) fun _ => ?_
  · have hfound' : lib.aliases.contains s.name = true := hfound
    rw [h.aliases] at hfound'
    simp at hfound'
  · exact hs.new ((h.names s.name).1 hfound)
  · exact Yields.bind (Yields.pure fun c' => Yields.update ⟨_, rfl, Filled.start s.name⟩)

/-- the closing brace adds the template -/
theorem readLine_close {t : OpenTemplate} (hopen : t.opened = true) (loc : Location) (c : Console) :
    Yields (readLine false loc ["\x7d"]) ⟨⟨lib, some t⟩, c⟩
      (fun _ r => r = ⟨{ lib with templates := lib.templates.insert t.name (OpenTemplate.close t) }, none⟩)
      fun _ _ => False := by
  unfold readLine
  refine Yields.read ?_
  dsimp only
  rw [hopen, if_neg (by decide), if_pos (by decide)]
  unfold readEnd
  refine Yields.check (fun hone => absurd hone (by decide)) fun _ => ?_
  exact Yields.bind (Yields.update fun _ => Yields.update rfl)

/-- the rows of a struct add its template -/
theorem Loaded.step (h : Loaded lib ss) (hs : s.Fits (ss.map Struct.name)) {rows : List String}
    {Q : TemplateReader → Prop} (hQ : ∀ lib', Loaded lib' (ss ++ [s]) → Accepts rows ⟨lib', none⟩ Q) :
    Accepts (s.rows ++ rows) ⟨lib, none⟩ Q := by
  have hfields : ∀ f ∈ s.fields, isIdentifier f.name = true ∧ isName f.name = true ∧ f.type.Known lib s.name :=
    fun f hf => ⟨(hs.fields f hf).1, (hs.fields f hf).2.1, h.known hs hf⟩
  unfold Struct.rows
  rw [List.cons_append, List.append_assoc]
  refine Accepts.cons fun loc c => ?_
  rw [lineWords_head hs.identifier]
  refine (h.head hs loc c).imp ?_ fun _ _ hf => hf
  rintro - r ⟨t, rfl, ht⟩
  refine ht.run h.toPlain h.placed hfields hs.nodup fun t' ht' => ?_
  rw [List.nil_append] at ht'
  refine Accepts.cons fun loc c => ?_
  refine (readLine_close ht'.opened loc c).imp ?_ fun _ _ hf => hf
  rintro - r rfl
  refine Accepts.cons fun loc c => ?_
  exact Yields.read (Yields.pure (hQ _ (h.close hs ht')))

/-- the rows of structs, one after the other -/
theorem Loaded.run (h : Loaded lib ss) {more : List Struct} (hmore : WellFormed (ss.map Struct.name) more) :
    Accepts (more.flatMap Struct.rows) ⟨lib, none⟩ fun r => ∃ lib', r = ⟨lib', none⟩ ∧ Loaded lib' (ss ++ more) := by
  induction more generalizing lib ss with
  | nil =>
    rw [List.append_nil]
    exact Accepts.nil ⟨lib, rfl, h⟩
  | cons s more ih =>
    obtain ⟨hs, hrest⟩ := hmore
    rw [List.flatMap_cons]
    refine h.step hs fun lib' hlib' => ?_
    have hrun := ih hlib' (by rwa [List.map_append])
    rwa [List.append_assoc] at hrun

end

/-! ## files of structs -/

/-- every row of a struct is a line -/
theorem exists_line {s : Struct} (hname : isIdentifier s.name = true)
    (hfields : ∀ f ∈ s.fields, isIdentifier f.name = true ∧ f.type.Written) :
    ∀ row ∈ s.rows, ∃ l, Unbroken l ∧ row = l ++ "\n" := by
  intro row hrow
  unfold Struct.rows at hrow
  rw [List.mem_cons, List.mem_append, List.mem_map] at hrow
  rcases hrow with rfl | ⟨f, hf, rfl⟩ | hrow
  · refine ⟨s.name ++ " \x7b", unbroken_append (isWord_of_identifier hname).unbroken (by decide), ?_⟩
    rw [String.append_assoc]
    rfl
  · obtain ⟨hname, htype⟩ := hfields f hf
    refine ⟨"    " ++ f.type.word ++ " " ++ f.name, ?_, rfl⟩
    simp only [unbroken_append_iff]
    exact ⟨⟨⟨by decide, (isWord_word htype).unbroken⟩, by decide⟩, (isWord_of_identifier hname).unbroken⟩
  · simp only [List.mem_cons, List.not_mem_nil, or_false] at hrow
    rcases hrow with rfl | rfl
    · exact ⟨"\x7d", by decide, rfl⟩
    · exact ⟨"", by decide, rfl⟩

namespace WellFormed

variable {earlier : List String} {ss : List Struct}

/-- every row of the structs is a line -/
theorem lines (h : WellFormed earlier ss) (hearlier : ∀ name ∈ earlier, isIdentifier name = true) :
    ∀ row ∈ ss.flatMap Struct.rows, ∃ l, Unbroken l ∧ row = l ++ "\n" := by
  induction ss generalizing earlier with
  | nil => exact List.forall_mem_nil _
  | cons s ss ih =>
    obtain ⟨hs, hrest⟩ := h
    have hnames : ∀ name ∈ earlier ++ [s.name], isIdentifier name = true :=
      List.forall_mem_append.2 ⟨hearlier, List.forall_mem_singleton.2 hs.identifier⟩
    have hfields : ∀ f ∈ s.fields, isIdentifier f.name = true ∧ f.type.Written := by
      intro f hf
      obtain ⟨hname, -, hfits⟩ := hs.fields f hf
      obtain ⟨hlengths, -, hstruct⟩ := FieldType.of_fits hfits
      refine ⟨hname, isIdentifier_word fun name htarget => ?_, hlengths⟩
      rcases hstruct name htarget with hmem | ⟨-, rfl⟩
      · exact hearlier name hmem
      · exact hs.identifier
    intro row hrow
    rw [List.flatMap_cons, List.mem_append] at hrow
    exact hrow.elim (exists_line hs.identifier hfields row) (ih hrest hnames row)

theorem of_append {ss' : List Struct} (h : WellFormed earlier (ss ++ ss')) : WellFormed earlier ss := by
  induction ss generalizing earlier with
  | nil => trivial
  | cons s ss ih => exact ⟨h.1, ih h.2⟩

theorem exists_fits (h : WellFormed earlier ss) {s : Struct} (hs : s ∈ ss) : ∃ names, s.Fits names := by
  induction ss generalizing earlier with
  | nil => cases hs
  | cons s' ss ih =>
    rcases List.mem_cons.1 hs with rfl | hs
    · exact ⟨earlier, h.1⟩
    · exact ih h.2 hs

end WellFormed

theorem join_texts (ss : List Struct) : String.join (ss.map Struct.text) = String.join (ss.flatMap Struct.rows) := by
  induction ss with
  | nil => rfl
  | cons s ss ih =>
    rw [List.map_cons, String.join_cons, ih, List.flatMap_cons, String.join_append]
    rfl

/-- the texts of structs are read to their templates -/
theorem load_texts {ss : List Struct} (h : WellFormed [] ss) (file : String) (c : Console) :
    ∃ lib c', Library.load false file (String.join (ss.map Struct.text)) ⟨{}, c⟩ = .ok () ⟨lib, c'⟩ ∧ Holds lib ss := by
  refine Accepts.load ?_ file c
  -- reading starts at the empty library, which has the templates of no structs
  rw [join_texts, lines_join_rows (h.lines (List.forall_mem_nil _))]
  intro file index c
  refine (Loaded.start.run h file index c).imp ?_ fun _ _ hf => hf
  rintro - r ⟨lib, rfl, hlib⟩
  exact ⟨lib, rfl, hlib.forward, hlib.toHolds⟩

/-- the text that is printed for structs is read back as their templates: all of them are read, and after any number of
them the library has just these, with the fields in their order -/
theorem structs_translated {σ : Type} {ts : List Tree} {ss : List Struct} (hts : ts.mapM Struct.ofTree? = some ss)
    (hss : WellFormed [] ss) :
    Delivers (printStructs everything ts : Action σ (List (Option String) × List String))
      (String.join (ss.map Struct.text)) (ss.map fun s => some s.name, []) ∧
    ∀ first, first <+: ss → ∀ file c, ∃ lib c',
      Library.load false file (String.join (first.map Struct.text)) ⟨{}, c⟩ = .ok () ⟨lib, c'⟩ ∧ Holds lib first := by
  refine ⟨printStructs_delivers hts (fun s hs => ?_) fun s hs => ?_, fun first hfirst file c => ?_⟩
  · obtain ⟨names, hfits⟩ := hss.exists_fits hs
    exact hfits.wanted
  · obtain ⟨names, hfits⟩ := hss.exists_fits hs
    exact hfits.proper
  · obtain ⟨rest, rfl⟩ := hfirst
    exact load_texts hss.of_append file c

def memberTree (name : String) (type : Tree) : Tree :=
  .node .decl [.text name, .list [], .list [], .list [], .list [], type, .null, .null]

def typeTree (name : String) (type : Tree) : Tree := .node .typeDecl [.text name, .list [], .null, type]

def wordsTree (name : String) (words : List String) : Tree :=
  typeTree name (.node .identifierType [.list (words.map .text)])

def pointerTree (type : Tree) : Tree := .node .ptrDecl [.list [], type]

def arrayTree (length : String) (type : Tree) : Tree :=
  .node .arrayDecl [type, .node .constant [.text "int", .text length], .list []]

/-- a list and its nodes, with a pointer to the struct itself, one to a function, and arrays -/
def listTrees : List Tree :=
  [.node .typedef [.text "node_t", .list [], .list [.text "typedef"],
      typeTree "node_t" (.node .struct [.text "node_s", .list [
      memberTree "value" (wordsTree "value" ["int"]),
      memberTree "next" (pointerTree (typeTree "next" (.node .struct [.text "node_s", .null]))),
      memberTree "names" (arrayTree "16" (arrayTree "2" (wordsTree "names" ["char"]))),
      memberTree "run" (pointerTree (.node .funcDecl [.null, wordsTree "run" ["void"]]))]])],
    .node .decl [.null, .list [], .list [], .list [], .list [], .node .struct [.text "list", .list [
      memberTree "first" (wordsTree "first" ["node_t"]),
      memberTree "rest" (arrayTree "3" (pointerTree (wordsTree "rest" ["node_t"]))),
      memberTree "bytes" (pointerTree (wordsTree "bytes" ["unsigned", "char"]))]], .null, .null]]

def listStructs : List Struct :=
  [⟨"node_t", [⟨"value", { target := .basic .int }⟩, ⟨"next", { target := .struct "node_t", depth := 1 }⟩,
      ⟨"names", { target := .basic .char, lengths := ["16", "2"] }⟩, ⟨"run", { target := .void, depth := 1 }⟩]⟩,
    ⟨"list", [⟨"first", { target := .struct "node_t" }⟩,
      ⟨"rest", { target := .struct "node_t", depth := 1, lengths := ["3"] }⟩,
      ⟨"bytes", { target := .basic .uchar, depth := 1 }⟩]⟩]

theorem structs_translated_list :
    listTrees.mapM Struct.ofTree? = some listStructs ∧ WellFormed [] listStructs ∧
    Delivers (printStructs everything listTrees : Action Unit (List (Option String) × List String))
      (String.join (listStructs.map Struct.text)) ([some "node_t", some "list"], []) ∧
    ∀ first, first <+: listStructs → ∀ file c, ∃ lib c',
      Library.load false file (String.join (first.map Struct.text)) ⟨{}, c⟩ = .ok () ⟨lib, c'⟩ ∧ Holds lib first :=
  ⟨rfl, by decide, structs_translated rfl (by decide)⟩

end Disasm.C
