import Mathlib
import Disasm.Directory
import Disasm.Proofs.Table
import Disasm.Proofs.Template.Step

/-!
# What holds of a library after any loads

* `Library.Sound`  names, sizes, alignments, arrays of templates and the names of members are as they should be;
* `TemplateReader.Regular`  the invariant behind it, which also follows the template under way and the
  pointers to templates that are not known yet;
* `Regular.step`  every line that is accepted keeps it, and `Regular.stalled`  so does one that is not;
* `Library.sound_after_loads`  hence libraries are sound after all loads, and after a load that ends without
  fault no pointer to a template is left open.
-/

namespace Disasm

open Disasm.Action

/-! ## sound libraries -/

/-- the name on the line that declared a member -/
def Member.declared? (m : Member) : Option String := m.places.head?.map Place.name

/-- no member of the list was declared with a dot in its name -/
def Undotted (members : List Member) : Prop :=
  ∀ m ∈ members, ∀ name, m.declared? = some name → '.' ∉ name.toList

structure Member.Sound (lib : Library) (m : Member) : Prop where
  offset_nonneg : 0 ≤ m.offset
  size_nonneg : 0 ≤ m.size
  template_array : m.kind = .template → m.array.isSome = true ∧
    ∃ inner, m.elementTemplate = some inner ∧ lib.templates.contains inner = true

structure Template.Sound (lib : Library) (t : Template) : Prop where
  size_nonneg : 0 ≤ t.size
  padding_listed : t.padding ∈ [0, 1, 2, 4]
  paddingUsed_nonneg : 0 ≤ t.paddingUsed
  members_sound : ∀ m ∈ t.members, m.Sound lib
  names_nodup : Undotted t.members → (t.members.map Member.name).Nodup

structure Library.Sound (lib : Library) : Prop where
  template_name : ∀ name, lib.templates.contains name = true → isName name = true
  alias_name : ∀ name, lib.aliases.contains name = true → isName name = true
  not_both : ∀ name, lib.templates.contains name = true → lib.aliases.contains name = false
  templates_sound : Every (Template.Sound lib) lib.templates

/-- the pointers to templates lead to templates that are there -/
def Library.Closed (lib : Library) : Prop :=
  Every (fun t : Template => ∀ m ∈ t.members, m.kind = .pointerToTemplate →
    ∃ p, m.pointer = some p ∧ lib.templates.contains p.target = true) lib.templates

/-! ## the names of members -/

/-- a name up to its first dot -/
def topName (name : String) : String := String.ofList (name.toList.takeWhile (· != '.'))

theorem topName_eq_self {name : String} (h : '.' ∉ name.toList) : topName name = name := by
  unfold topName
  have htake : name.toList.takeWhile (· != '.') = name.toList := by
    rw [List.takeWhile_eq_self_iff]
    intro c hc
    have hne : c ≠ '.' := fun he => h (he ▸ hc)
    simpa using hne
  rw [htake, String.ofList_toList]

theorem topName_dotted {name : String} (h : '.' ∉ name.toList) (rest : String) :
    topName (name ++ "." ++ rest) = name := by
  have htop := topName_eq_self h
  unfold topName at htop ⊢
  rw [String.toList_append, String.toList_append, List.append_assoc, List.takeWhile_append_of_pos]
  · rw [show ".".toList = ['.'] from rfl, List.singleton_append, List.takeWhile_cons_of_neg (by simp),
      List.append_nil, String.ofList_toList]
  · intro c hc
    have hne : c ≠ '.' := fun he => h (he ▸ hc)
    simpa using hne

/-- if no member was declared with a dot, the names differ and lie below names of the list -/
def Distinct (members : List Member) : Prop :=
  Undotted members → (members.map Member.name).Nodup ∧
    ∀ m ∈ members, topName m.name ∈ members.map Member.name

theorem Distinct.nil : Distinct [] :=
  fun _ => ⟨List.nodup_nil, List.forall_mem_nil _⟩

theorem Distinct.reverse {members : List Member} (h : Distinct members) : Distinct members.reverse := by
  intro hu
  have hu' : Undotted members := fun m hm => hu m (List.mem_reverse.2 hm)
  obtain ⟨hnodup, htop⟩ := h hu'
  rw [List.map_reverse]
  refine ⟨List.nodup_reverse.2 hnodup, fun m hm => List.mem_reverse.2 ?_⟩
  exact htop m (List.mem_reverse.1 hm)

/-- a member with a new name -/
theorem Distinct.cons {members : List Member} (h : Distinct members) {m : Member}
    (hdeclared : m.declared? = some m.name) (hnew : ∀ m' ∈ members, m'.name ≠ m.name) :
    Distinct (m :: members) := by
  intro hu
  have hdot : '.' ∉ m.name.toList := hu m List.mem_cons_self m.name hdeclared
  obtain ⟨hnodup, htop⟩ := h fun m' hm' => hu m' (List.mem_cons_of_mem m hm')
  rw [List.map_cons]
  refine ⟨List.nodup_cons.2 ⟨?_, hnodup⟩, fun m' hm' => ?_⟩
  · intro hmem
    obtain ⟨m', hm', he⟩ := List.mem_map.1 hmem
    exact hnew m' hm' he
  · rcases List.mem_cons.1 hm' with rfl | hm'
    · rw [topName_eq_self hdot]
      exact List.mem_cons_self
    · exact List.mem_cons_of_mem _ (htop m' hm')

theorem declared?_inside {m : Member} (h : m.places ≠ []) (outer name : String) (offset : Int) :
    (m.inside outer name offset).declared? = m.declared? := by
  unfold Member.declared? Member.inside
  rw [List.head?_append_of_ne_nil _ h]

/-- a member that is a template, with the members of that template behind it -/
theorem Distinct.nest {members inner : List Member} (h : Distinct members) (hinner : Distinct inner)
    (hplaces : ∀ m ∈ inner, m.places ≠ []) (whole : Member) (hdeclared : whole.declared? = some whole.name)
    (hnew : ∀ m ∈ members, m.name ≠ whole.name) (outer : String) (offset : Int) :
    Distinct ((inner.map (·.inside outer whole.name offset)).reverse ++ whole :: members) := by
  intro hu
  have hcons := h.cons hdeclared hnew fun m hm => hu m (List.mem_append_right _ hm)
  have hdot : '.' ∉ whole.name.toList :=
    hu whole (List.mem_append_right _ List.mem_cons_self) whole.name hdeclared
  have hinner' := hinner fun m hm name hname => by
    refine hu (m.inside outer whole.name offset) ?_ name ?_
    · exact List.mem_append_left _ (List.mem_reverse.2 (List.mem_map_of_mem hm))
    · rw [declared?_inside (hplaces m hm), hname]
  have hnames : ((inner.map (·.inside outer whole.name offset)).map Member.name) =
      (inner.map Member.name).map (whole.name ++ "." ++ ·) := by
    rw [List.map_map, List.map_map]
    rfl
  have hinjective : Function.Injective (whole.name ++ "." ++ ·) :=
    fun a b hab => String.append_right_inj _ |>.1 hab
  -- a name below `whole` that is in the list already would put `whole` itself there
  have htop : ∀ m ∈ inner.map (·.inside outer whole.name offset), topName m.name = whole.name := by
    intro m hm
    obtain ⟨m', -, rfl⟩ := List.mem_map.1 hm
    exact topName_dotted hdot m'.name
  rw [List.map_append, List.map_reverse]
  refine ⟨List.nodup_append.2 ⟨List.nodup_reverse.2 ?_, hcons.1, ?_⟩, ?_⟩
  · rw [hnames]
    exact hinner'.1.map hinjective
  · rintro a ha b hb rfl
    obtain ⟨m, hm, rfl⟩ := List.mem_map.1 (List.mem_reverse.1 ha)
    rw [List.map_cons] at hb
    rcases List.mem_cons.1 hb with he | hb
    · obtain ⟨m', -, rfl⟩ := List.mem_map.1 hm
      have he' : whole.name ++ "." ++ m'.name = whole.name := he
      refine hdot ?_
      rw [← he', String.toList_append, String.toList_append]
      exact List.mem_append_left _ (List.mem_append_right _ List.mem_cons_self)
    · obtain ⟨m', hm', he⟩ := List.mem_map.1 hb
      have hmem := (h fun m hm => hu m (List.mem_append_right _ (List.mem_cons_of_mem _ hm))).2 m' hm'
      rw [he, htop m hm] at hmem
      obtain ⟨m'', hm'', he''⟩ := List.mem_map.1 hmem
      exact hnew m'' hm'' he''
  · intro m hm
    refine List.mem_append_right _ ?_
    rcases List.mem_append.1 hm with hm | hm
    · rw [htop m (List.mem_reverse.1 hm)]
      exact List.mem_cons_self
    · exact hcons.2 m hm

/-! ## the invariant -/

/-- `current` is the template that the member stands in, when that is still under way -/
structure Member.Regular (lib : Library) (current : Option String) (m : Member) : Prop
    extends m.Sound lib where
  places_ne_nil : m.places ≠ []
  pointer_expected : m.kind = .pointerToTemplate → ∃ p, m.pointer = some p ∧ lib.Expects current p.target

structure Template.Regular (lib : Library) (t : Template) : Prop where
  size_nonneg : 0 ≤ t.size
  padding_listed : t.padding ∈ [0, 1, 2, 4]
  paddingUsed_nonneg : 0 ≤ t.paddingUsed
  members_regular : ∀ m ∈ t.members, m.Regular lib none
  members_distinct : Distinct t.members

structure Library.Regular (lib : Library) : Prop where
  template_name : ∀ name, lib.templates.contains name = true → isName name = true
  alias_name : ∀ name, lib.aliases.contains name = true → isName name = true
  not_both : ∀ name, lib.templates.contains name = true → lib.aliases.contains name = false
  templates_regular : Every (Template.Regular lib) lib.templates

structure OpenTemplate.Regular (lib : Library) (t : OpenTemplate) : Prop where
  name_valid : isName t.name = true
  name_free : lib.aliases.contains t.name = false
  size_nonneg : ∀ n, t.size = some n → 0 ≤ n
  padding_listed : t.padding ∈ [0, 1, 2, 4]
  offset_nonneg : 0 ≤ t.offset
  members_regular : ∀ m ∈ t.members, m.Regular lib (some t.name)
  members_distinct : Distinct t.members

structure TemplateReader.Regular (r : TemplateReader) : Prop where
  library : r.library.Regular
  pending : ∀ t, r.pending = some t → t.Regular r.library

theorem Library.Regular.empty : ({} : Library).Regular where
  template_name name h := by
    rw [Std.TreeMap.contains_emptyc] at h
    cases h
  alias_name name h := by
    rw [Std.TreeMap.contains_emptyc] at h
    cases h
  not_both name h := by
    rw [Std.TreeMap.contains_emptyc] at h
    cases h
  templates_regular := Every.empty

theorem Library.Regular.sound {lib : Library} (h : lib.Regular) : lib.Sound where
  template_name := h.template_name
  alias_name := h.alias_name
  not_both := h.not_both
  templates_sound := by
    intro name t ht
    have hreg := h.templates_regular name t ht
    exact ⟨hreg.size_nonneg, hreg.padding_listed, hreg.paddingUsed_nonneg,
      fun m hm => (hreg.members_regular m hm).toSound, fun hu => (hreg.members_distinct hu).1⟩

/-- with no reference open, the pointers to templates lead to templates -/
theorem Library.Regular.closed {lib : Library} (h : lib.Regular)
    (hnone : TemplateReader.undefined? lib = none) : lib.Closed := by
  intro name t ht m hm hkind
  obtain ⟨p, hp, hexpects⟩ := ((h.templates_regular name t ht).members_regular m hm).pointer_expected hkind
  refine ⟨p, hp, ?_⟩
  rcases hexpects with hstored | hcurrent | ⟨r, hr, he⟩
  · exact hstored
  · cases hcurrent
  · have hfound := List.find?_eq_none.1 hnone r hr
    rw [← he]
    simpa using hfound

/-! ## libraries that grow -/

/-- all that is stored or referred to in a library stays so -/
structure Library.Within (lib lib' : Library) : Prop where
  stored : ∀ name, lib.templates.contains name = true → lib'.templates.contains name = true
  referred : ∀ r ∈ lib.forward, r ∈ lib'.forward

theorem Library.Within.expecting (lib : Library) (refs : List ForwardReference) :
    lib.Within (lib.expecting refs) :=
  ⟨fun _ h => h, fun _ hr => List.mem_append_left refs hr⟩

theorem Library.Within.insert (lib : Library) (name : String) (t : Template) :
    lib.Within { lib with templates := lib.templates.insert name t } := by
  refine ⟨fun name' h => ?_, fun _ hr => hr⟩
  rw [Std.TreeMap.contains_insert, h, Bool.or_true]

theorem Member.Sound.mono {lib lib' : Library} (hw : lib.Within lib') {m : Member} (h : m.Sound lib) :
    m.Sound lib' where
  offset_nonneg := h.offset_nonneg
  size_nonneg := h.size_nonneg
  template_array hkind := by
    obtain ⟨harray, inner, hinner, hstored⟩ := h.template_array hkind
    exact ⟨harray, inner, hinner, hw.stored inner hstored⟩

theorem Member.Regular.mono {lib lib' : Library} (hw : lib.Within lib') {current current' : Option String}
    (hcurrent : ∀ name, current = some name → lib'.Expects current' name) {m : Member}
    (h : m.Regular lib current) : m.Regular lib' current' where
  toSound := h.toSound.mono hw
  places_ne_nil := h.places_ne_nil
  pointer_expected hkind := by
    obtain ⟨p, hp, hexpects⟩ := h.pointer_expected hkind
    refine ⟨p, hp, ?_⟩
    rcases hexpects with hstored | hself | ⟨r, hr, he⟩
    · exact .inl (hw.stored _ hstored)
    · exact hcurrent _ hself
    · exact .inr (.inr ⟨r, hw.referred r hr, he⟩)

theorem Template.Regular.mono {lib lib' : Library} (hw : lib.Within lib') {t : Template}
    (h : t.Regular lib) : t.Regular lib' where
  size_nonneg := h.size_nonneg
  padding_listed := h.padding_listed
  paddingUsed_nonneg := h.paddingUsed_nonneg
  members_regular m hm := (h.members_regular m hm).mono hw fun name he => by cases he
  members_distinct := h.members_distinct

theorem Library.Regular.expecting {lib : Library} (h : lib.Regular) (refs : List ForwardReference) :
    (lib.expecting refs).Regular where
  template_name := h.template_name
  alias_name := h.alias_name
  not_both := h.not_both
  templates_regular name t ht := (h.templates_regular name t ht).mono (.expecting lib refs)

theorem OpenTemplate.Regular.expecting {lib : Library} {t : OpenTemplate} (h : t.Regular lib)
    (refs : List ForwardReference) : t.Regular (lib.expecting refs) where
  name_valid := h.name_valid
  name_free := h.name_free
  size_nonneg := h.size_nonneg
  padding_listed := h.padding_listed
  offset_nonneg := h.offset_nonneg
  members_regular m hm := (h.members_regular m hm).mono (.expecting lib refs) fun _ he => .inr (.inl he)
  members_distinct := h.members_distinct

/-! ## declared shapes -/

section
variable {lib : Library} {current : Option String} {shape : Shape}

theorem Element.size_nonneg (hs : Element lib current shape) (h : lib.Regular) : 0 ≤ shape.size := by
  cases hs with
  | basic t => cases t <;> decide
  | template ht => exact (h.templates_regular _ _ ht).size_nonneg
  | pointerToVoid p => exact (by decide : (0 : Int) ≤ 4)
  | pointerToBasic p => exact (by decide : (0 : Int) ≤ 4)
  | pointerToTemplate p _ => exact (by decide : (0 : Int) ≤ 4)

theorem Declares.size_nonneg {word : String} (hs : Declares lib current word shape) (h : lib.Regular) :
    0 ≤ shape.size := by
  cases hs.formed with
  | bytes hw hn => exact hn
  | @element shape hw he aliased => exact he.size_nonneg h
  | @array shape hw he aliased levels hl => exact mul_nonneg (he.size_nonneg h) (product_nonneg hl)

theorem Element.template_stored (hs : Element lib current shape) (hk : shape.kind = .template) :
    ∃ inner, shape.template = some inner ∧ lib.templates.contains inner = true := by
  cases hs with
  | @template name t ht =>
    refine ⟨name, rfl, ?_⟩
    rw [Std.TreeMap.contains_eq_isSome_getElem?, ht]
    rfl
  | basic | pointerToVoid | pointerToBasic | pointerToTemplate => cases hk

theorem Declares.template_stored {word : String} (hs : Declares lib current word shape)
    (hk : shape.kind = .template) :
    ∃ inner, shape.template = some inner ∧ lib.templates.contains inner = true := by
  cases hs.formed with
  | bytes => cases hk
  | @element shape hw he aliased => exact he.template_stored hk
  | @array shape hw he aliased levels hl => exact he.template_stored hk

theorem Element.pointer_expected (hs : Element lib current shape) (hk : shape.kind = .pointerToTemplate) :
    ∃ p, shape.pointer = some p ∧ lib.Expects current p.target := by
  cases hs with
  | pointerToTemplate p hp => exact ⟨p, rfl, hp⟩
  | basic | template | pointerToVoid | pointerToBasic => cases hk

theorem Declares.pointer_expected {word : String} (hs : Declares lib current word shape)
    (hk : shape.kind = .pointerToTemplate) :
    ∃ p, shape.pointer = some p ∧ lib.Expects current p.target := by
  cases hs.formed with
  | bytes => cases hk
  | @element shape hw he aliased => exact he.pointer_expected hk
  | @array shape hw he aliased levels hl => exact he.pointer_expected hk

end

namespace TemplateReader

/-! ## new members -/

theorem padding_listed_nonneg {n : Int} (h : n ∈ ([0, 1, 2, 4] : List Int)) : 0 ≤ n := by
  simp only [List.mem_cons, List.not_mem_nil, or_false] at h
  omega

theorem max_listed {m n : Int} (hm : m ∈ ([0, 1, 2, 4] : List Int)) (hn : n ∈ ([0, 1, 2, 4] : List Int)) :
    max m n ∈ ([0, 1, 2, 4] : List Int) := by
  rcases max_choice m n with he | he
  · rw [he]; exact hm
  · rw [he]; exact hn

variable {lib : Library}

theorem alignment_listed (h : lib.Regular) (shape : Shape) : alignment lib shape ∈ ([0, 1, 2, 4] : List Int) := by
  unfold alignment
  split
  · decide
  · next t _ => cases t <;> decide
  · cases hu : shape.template.bind (lib.templates[·]?) with
    | none => decide
    | some u =>
      obtain ⟨inner, -, hinner⟩ := Option.bind_eq_some_iff.1 hu
      exact (h.templates_regular inner u hinner).padding_listed
  · decide

theorem MemberLine.given_nonneg {words : List String} {given : Option Int} {word name : String}
    (h : MemberLine words given word name) {n : Int} (hn : given = some n) : 0 ≤ n := by
  cases h with
  | bare => cases hn
  | placed hw hn' =>
    cases hn
    exact hn'

/-- no member is put in front of the template it stands in -/
theorem placed_nonneg {words : List String} {given : Option Int} {word name : String}
    (h : MemberLine words given word name) {offset size : Int} (ho : 0 ≤ offset) (hs : 0 ≤ size) :
    0 ≤ given.getD (padUp offset size) := by
  cases hg : given with
  | none => exact ho.trans (le_padUp offset hs)
  | some n => exact h.given_nonneg hg

section
variable {t : OpenTemplate} {words : List String} {given : Option Int} {word name written : String}
  {shape : Shape}

theorem withPlain_regular (hlib : lib.Regular) (ht : t.Regular lib) (hwords : MemberLine words given word name)
    (hshape : Declares lib (some t.name) word shape)
    (hplain : shape.template = none ∨ shape.array.isSome = true) (hnew : ∀ m ∈ t.members, m.name ≠ name) :
    (withPlain lib t given shape name written).Regular lib := by
  have halign := alignment_listed hlib shape
  have hsize := hshape.size_nonneg hlib
  have hoffset := placed_nonneg hwords ht.offset_nonneg (padding_listed_nonneg halign)
  refine ⟨ht.name_valid, ht.name_free, ht.size_nonneg, max_listed ht.padding_listed halign,
    add_nonneg hoffset hsize, ?_, ht.members_distinct.cons rfl hnew⟩
  intro m hm
  rcases List.mem_cons.1 hm with rfl | hm
  · refine ⟨⟨hoffset, hsize, fun hkind => ?_⟩, List.cons_ne_nil _ _, hshape.pointer_expected⟩
    obtain ⟨inner, hinner, hstored⟩ := hshape.template_stored hkind
    rcases hplain with hnone | harray
    · rw [hinner] at hnone
      cases hnone
    · exact ⟨harray, inner, hinner, hstored⟩
  · exact ht.members_regular m hm

theorem inside_regular {m : Member} (h : m.Regular lib none) {offset : Int} (ho : 0 ≤ offset)
    (outer name : String) : (m.inside outer name offset).Regular lib (some outer) := by
  have hm : m.Regular lib (some outer) := h.mono ⟨fun _ hn => hn, fun _ hr => hr⟩ fun _ he => by cases he
  refine ⟨⟨add_nonneg ho hm.offset_nonneg, hm.size_nonneg, hm.template_array⟩, ?_, hm.pointer_expected⟩
  exact List.append_ne_nil_of_left_ne_nil hm.places_ne_nil _

theorem withTemplate_regular {inner : String} {u : Template} {aliased : Bool} (hu : u.Regular lib)
    (ht : t.Regular lib) (hwords : MemberLine words given word name)
    (hnew : ∀ m ∈ t.members, m.name ≠ name) :
    (withTemplate t given u inner aliased name written).Regular lib := by
  have hoffset := placed_nonneg hwords ht.offset_nonneg (padding_listed_nonneg hu.padding_listed)
  have hdistinct := ht.members_distinct.nest hu.members_distinct
    (fun m hm => (hu.members_regular m hm).places_ne_nil)
    (wholeMember t.name (given.getD (padUp t.offset u.padding)) u inner aliased name written)
    rfl hnew t.name (given.getD (padUp t.offset u.padding))
  refine ⟨ht.name_valid, ht.name_free, ht.size_nonneg, max_listed ht.padding_listed hu.padding_listed,
    add_nonneg ht.offset_nonneg hu.size_nonneg, ?_, hdistinct⟩
  intro m hm
  rcases List.mem_append.1 hm with hm | hm
  · obtain ⟨m', hm', rfl⟩ := List.mem_map.1 (List.mem_reverse.1 hm)
    exact inside_regular (hu.members_regular m' hm') hoffset t.name name
  · rcases List.mem_cons.1 hm with rfl | hm
    · exact ⟨⟨hoffset, hu.size_nonneg, fun hk => (by cases hk)⟩, List.cons_ne_nil _ _, fun hk => (by cases hk)⟩
    · exact ht.members_regular m hm

end

/-! ## steps -/

theorem close_regular {t : OpenTemplate} (ht : t.Regular lib)
    (hmembers : ∀ m ∈ t.members, m.Regular lib none) : (OpenTemplate.close t).Regular lib := by
  have hregular : ∀ m ∈ t.members.reverse, m.Regular lib none :=
    fun m hm => hmembers m (List.mem_reverse.1 hm)
  unfold OpenTemplate.close
  split
  · next n hn =>
    exact ⟨ht.size_nonneg n hn, ht.padding_listed, le_rfl, hregular, ht.members_distinct.reverse⟩
  · exact ⟨le_rfl, ht.padding_listed, le_rfl, hregular, ht.members_distinct.reverse⟩
  · next last rest _ hlast =>
    have hm := hmembers last (by rw [hlast]; exact List.mem_cons_self)
    have hstop := le_padUp (last.offset + last.size) (padding_listed_nonneg ht.padding_listed)
    have hnonneg := add_nonneg hm.offset_nonneg hm.size_nonneg
    exact ⟨hnonneg.trans hstop, ht.padding_listed, sub_nonneg.2 hstop, hregular, ht.members_distinct.reverse⟩

/-- what is under way may be stored -/
theorem insert_regular (hlib : lib.Regular) {t : OpenTemplate} (ht : t.Regular lib) :
    ({ lib with templates := lib.templates.insert t.name (OpenTemplate.close t) } : Library).Regular := by
  have hw := Library.Within.insert lib t.name (OpenTemplate.close t)
  have hstored : (lib.templates.insert t.name (OpenTemplate.close t)).contains t.name = true :=
    Std.TreeMap.contains_insert_self
  have hmembers : ∀ m ∈ t.members, m.Regular
      { lib with templates := lib.templates.insert t.name (OpenTemplate.close t) } none := by
    intro m hm
    refine (ht.members_regular m hm).mono hw fun name he => .inl ?_
    cases he
    exact hstored
  have ht' : t.Regular { lib with templates := lib.templates.insert t.name (OpenTemplate.close t) } :=
    ⟨ht.name_valid, ht.name_free, ht.size_nonneg, ht.padding_listed, ht.offset_nonneg,
      fun m hm => (ht.members_regular m hm).mono hw fun _ he => .inr (.inl he), ht.members_distinct⟩
  refine ⟨fun name h => ?_, hlib.alias_name, fun name h => ?_, ?_⟩
  · rcases contains_insert_iff.1 h with rfl | h
    · exact ht.name_valid
    · exact hlib.template_name name h
  · rcases contains_insert_iff.1 h with rfl | h
    · exact ht.name_free
    · exact hlib.not_both name h
  · have hold : Every (Template.Regular
        { lib with templates := lib.templates.insert t.name (OpenTemplate.close t) }) lib.templates :=
      fun name u hu => (hlib.templates_regular name u hu).mono hw
    exact hold.insert t.name (close_regular ht' hmembers)

theorem alias_regular (hlib : lib.Regular) {name : String} (entry : Alias) (hname : isName name = true)
    (hfree : lib.templates.contains name = false) :
    ({ lib with aliases := lib.aliases.insert name entry } : Library).Regular := by
  have hw : lib.Within { lib with aliases := lib.aliases.insert name entry } :=
    ⟨fun _ hn => hn, fun _ hr => hr⟩
  refine ⟨hlib.template_name, fun name' h => ?_, fun name' h => ?_, fun name' t ht => ?_⟩
  · rcases contains_insert_iff.1 h with rfl | h
    · exact hname
    · exact hlib.alias_name name' h
  · refine eq_false_of_ne_true fun hboth => ?_
    rcases contains_insert_iff.1 hboth with rfl | hboth
    · rw [hfree] at h
      cases h
    · rw [hlib.not_both name' h] at hboth
      cases hboth
  · exact (hlib.templates_regular name' t ht).mono hw

theorem constant_regular (hlib : lib.Regular) (constants : Std.TreeMap String Int) :
    ({ lib with constants } : Library).Regular := by
  have hw : lib.Within { lib with constants } := ⟨fun _ hn => hn, fun _ hr => hr⟩
  exact ⟨hlib.template_name, hlib.alias_name, hlib.not_both,
    fun name t ht => (hlib.templates_regular name t ht).mono hw⟩

/-- nothing is asked of a reader without a template under way but what is asked of its library -/
theorem regular_idle (hlib : lib.Regular) : Regular ⟨lib, none⟩ := ⟨hlib, fun t ht => by cases ht⟩

theorem regular_busy (hlib : lib.Regular) {t : OpenTemplate} (ht : t.Regular lib) : Regular ⟨lib, some t⟩ := by
  refine ⟨hlib, fun t' ht' => ?_⟩
  cases ht'
  exact ht

/-- every line that is accepted keeps the invariant -/
theorem Regular.step {override : Bool} {r r' : TemplateReader} {words : List String}
    (hs : Step override r words r') (h : r.Regular) : r'.Regular := by
  cases hs with
  | blank => exact h
  | aliasLine hname hfree hnew => exact regular_idle (alias_regular h.library _ hname hfree)
  | constantLine hvalue hnew => exact regular_idle (constant_regular h.library _)
  | head halias hconstant hwords hname hfree hnew hsize hread =>
    refine regular_busy h.library ⟨hname, hfree, fun n hn => (hread n hn).1, ?_, le_rfl, ?_, .nil⟩
    · exact List.mem_cons_self
    · exact List.forall_mem_nil _
  | @brace lib t hclosed =>
    have ht := h.pending t rfl
    exact regular_busy h.library ⟨ht.name_valid, ht.name_free, ht.size_nonneg, ht.padding_listed,
      ht.offset_nonneg, ht.members_regular, ht.members_distinct⟩
  | @close lib t hopen => exact regular_idle (insert_regular h.library (h.pending t rfl))
  | @plain lib refs t _ _ _ _ _ hopen hwords hshape hplain hname hnew =>
    have hlib := h.library.expecting refs
    have ht := (h.pending t rfl).expecting refs
    exact regular_busy hlib (withPlain_regular hlib ht hwords hshape hplain hnew)
  | @template lib refs t _ _ _ _ _ inner u hopen hwords hshape hinner harray hu hname hnew =>
    have hlib := h.library.expecting refs
    have ht := (h.pending t rfl).expecting refs
    exact regular_busy hlib (withTemplate_regular (hlib.templates_regular inner u hu) ht hwords hnew)

/-- and so does one that is not -/
theorem Regular.stalled {r r' : TemplateReader} (hs : Stalled r r') (h : r.Regular) : r'.Regular := by
  obtain ⟨refs, rfl⟩ := hs
  exact ⟨h.library.expecting refs, fun t ht => (h.pending t ht).expecting refs⟩

end TemplateReader

/-! ## loads -/

namespace Library

open TemplateReader

/-- a file that is loaded: where it is, whether its entries may replace others, and its name -/
structure Call where
  directory : Directory
  override : Bool
  file : String

def Call.run (call : Call) : Action Library Unit := do
  load call.override call.file (← Action.ofExcept (call.directory.text call.file))

/-- what a call leaves behind, however it ends -/
def Call.leave (s : Session Library) (call : Call) : Session Library :=
  match call.run s with
  | .ok _ t => t
  | .error _ t => t

/-- what several calls leave behind, one after the other -/
def loads (s : Session Library) (calls : List Call) : Session Library := calls.foldl Call.leave s

/-- a load keeps a library regular, however it ends, and leaves no reference open when it ends without fault -/
theorem load_regular (override : Bool) (file text : String) {s : Session Library} (h : s.state.Regular) :
    Yields (load override file text) s (fun _ lib => lib.Regular ∧ undefined? lib = none) (fun _ lib => lib.Regular) := by
  refine (load_yields override file text s).imp ?_ ?_
  · rintro - lib ⟨hsteps, hnone⟩
    exact ⟨(hsteps.inv (fun _ _ _ _ hs => Regular.step hs) (regular_idle h)).library, hnone⟩
  · rintro - lib ⟨pending, hhalted⟩
    exact (hhalted.inv (fun _ _ _ hs => Regular.step hs) (fun _ _ hs => Regular.stalled hs)
      (regular_idle h)).library

/-- a call keeps a library regular, however it ends, and closes it when it ends without fault -/
theorem Call.run_yields (call : Call) (s : Session Library) (h : s.state.Regular) :
    Yields call.run s (fun _ lib => lib.Regular ∧ lib.Closed) (fun _ lib => lib.Regular) := by
  unfold Call.run
  refine Yields.bind (Yields.ofExcept (fun text _ c => ?_) fun _ _ => h)
  refine (load_regular call.override call.file text (s := ⟨s.state, c⟩) h).imp ?_ fun _ _ hlib => hlib
  rintro - lib ⟨hlib, hnone⟩
  exact ⟨hlib, hlib.closed hnone⟩

theorem Call.leave_regular (call : Call) {s : Session Library} (h : s.state.Regular) :
    (call.leave s).state.Regular := by
  have hy := call.run_yields s h
  unfold Call.leave
  cases hr : call.run s with
  | ok u t => exact (hy.of_ok hr).1
  | error f t => exact hy.of_error hr

theorem loads_regular (calls : List Call) {s : Session Library} (h : s.state.Regular) :
    (loads s calls).state.Regular := by
  induction calls generalizing s with
  | nil => exact h
  | cons call calls ih => exact ih (call.leave_regular h)

/-- after any loads, each with any end, a library is sound; after one that ended without fault, its pointers to
templates all lead to templates -/
theorem sound_after_loads (c : Console) (calls : List Call) :
    (loads ⟨{}, c⟩ calls).state.Sound ∧
      ∀ (call : Call) (t : Session Library), call.run (loads ⟨{}, c⟩ calls) = .ok () t → t.state.Closed := by
  have h := loads_regular calls (s := ⟨{}, c⟩) Regular.empty
  refine ⟨h.sound, fun call t hr => ?_⟩
  exact ((call.run_yields _ h).of_ok hr).2

/-! ## a load that stops, and one behind it -/

def callOf (text : String) : Call :=
  ⟨({} : Directory).write "templates.dat" text.toUTF8, false, "templates.dat"⟩

/-- stops inside its second template; the first one points to a template that it does not declare -/
def brokenText : String := "list\n\x7b\n *node first\n\x7d\nrest\n\x7b\n int\n"

def nodeText : String := "node\n\x7b\n *node next\n int value\n\x7d\n"

/-- `list` comes from the load that stopped -/
theorem sound_after_broken_load :
    endsWith (callOf brokenText).run ⟨{}, {}⟩ (fun _ => true) = false ∧
      ∃ t, (callOf nodeText).run (loads ⟨{}, {}⟩ [callOf brokenText]) = .ok () t ∧
        t.state.templates.contains "list" = true ∧
        (loads ⟨{}, {}⟩ [callOf brokenText]).state.Sound ∧ t.state.Closed := by
  refine ⟨by decide +kernel, ?_⟩
  obtain ⟨t, hr, hlist⟩ := exists_of_endsWith
    (show endsWith (callOf nodeText).run (loads ⟨{}, {}⟩ [callOf brokenText])
      (·.templates.contains "list") = true by decide +kernel)
  obtain ⟨hsound, hclosed⟩ := sound_after_loads {} [callOf brokenText]
  exact ⟨t, hr, hlist, hsound, hclosed _ t hr⟩

end Library
end Disasm
