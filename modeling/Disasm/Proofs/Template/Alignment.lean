import Mathlib
import Disasm.Proofs.Template.Layout

/-!
# Alignment of templates

Templates whose members have no offsets, with or without sizes.

* `Kind.alignment?`, `Member.template?`, `Member.padding`  the alignment of a member: of a basic or a pointer type, of
  the template that the member is or is an array of, 0 where any place will do;
* `MembersAligned lib members padding`  every member of a flat list is at a multiple of its alignment, and `padding`
  is the largest alignment of one;
* `Template.Rounded`  the size is the end of the last member, rounded up;
* `withPlain_aligned`, `withTemplate_aligned`  what a line adds.  A nested member stays aligned (`MembersAligned.inside`)
  because alignments are powers of two, so that its own divides the one of the template around it;
* `Suited`, `Suited.step`, `Rounding.step`  what the lines of such a file keep;
* `Library.aligned_of_load`  all templates of such a file.
-/

namespace Disasm

open Disasm.Action

/-! ## alignments of members -/

/-- the alignment of a basic or a pointer type -/
def Kind.alignment? : Kind → Option Int
  | .basic t => some t.size
  | .pointerToVoid | .pointerToBasic | .pointerToTemplate => some 4
  | .raw | .template | .unlisted _ => none

/-- the template that a member is, or is an array of -/
def Member.template? (m : Member) : Option String :=
  match m.kind with
  | .template => m.elementTemplate
  | .raw => m.whole
  | _ => none

/-- the alignment of a member, an array having that of its elements; 0 where any place will do -/
def Member.padding (lib : Library) (m : Member) : Int :=
  match m.template? with
  | some inner => ((lib.templates[inner]?).map Template.padding).getD 0
  | none => m.kind.alignment?.getD 0

/-- the members stand at multiples of their alignments, of which `padding` is the largest -/
structure MembersAligned (lib : Library) (members : List Member) (padding : Int) : Prop where
  value_dvd : ∀ m ∈ members, ∀ a, m.kind.alignment? = some a → a ∣ m.offset
  template_dvd : ∀ m ∈ members, ∀ inner, m.template? = some inner →
    ∃ u, lib.templates[inner]? = some u ∧ (0 < u.padding → u.padding ∣ m.offset)
  padding_greatest : IsGreatest (insert 0 {a | ∃ m ∈ members, m.padding lib = a}) padding

/-- the size is the least multiple of the alignment at which the last member has ended -/
structure Template.Rounded (t : Template) : Prop where
  size_least : IsLeast {z | (t.padding ≠ 0 → t.padding ∣ z) ∧ endOf t.members ≤ z} t.size
  paddingUsed_eq : t.paddingUsed = t.size - endOf t.members

theorem padding_of_alignment? (lib : Library) {m : Member} {a : Int} (h : m.kind.alignment? = some a) :
    m.padding lib = a := by
  have hnone : m.template? = none := by
    unfold Member.template?
    split
    · next hkind =>
      rw [hkind] at h
      cases h
    · next hkind =>
      rw [hkind] at h
      cases h
    · rfl
  unfold Member.padding
  rw [hnone, h]
  rfl

theorem padding_of_template? {lib : Library} {m : Member} {inner : String} {u : Template}
    (h : m.template? = some inner) (hu : lib.templates[inner]? = some u) : m.padding lib = u.padding := by
  unfold Member.padding
  rw [h]
  dsimp only
  rw [hu]
  rfl

theorem alignment?_listed {k : Kind} {a : Int} (h : k.alignment? = some a) : a ∈ ([1, 2, 4] : List Int) := by
  cases k with
  | basic t => cases t <;> cases h <;> decide
  | pointerToVoid | pointerToBasic | pointerToTemplate =>
    cases h
    decide
  | raw | template | unlisted => cases h

/-- of two alignments the smaller one divides the larger one -/
theorem dvd_of_listed {m n : Int} (hm : m ∈ ([1, 2, 4] : List Int)) (hn : n ∈ ([0, 1, 2, 4] : List Int)) (h : m ≤ n) :
    m ∣ n := by
  simp only [List.mem_cons, List.not_mem_nil, or_false] at hm hn
  rcases hm with rfl | rfl | rfl <;> rcases hn with rfl | rfl | rfl | rfl <;> revert h <;> decide

namespace MembersAligned

variable {lib lib' : Library} {ms ms' : List Member} {p q : Int}

theorem nil : MembersAligned lib [] 0 := by
  refine ⟨List.forall_mem_nil _, List.forall_mem_nil _, Set.mem_insert _ _, ?_⟩
  rintro a (rfl | ⟨m, hm, -⟩)
  · exact le_rfl
  · cases hm

theorem congr (h : MembersAligned lib ms p) (hmem : ∀ m, m ∈ ms' ↔ m ∈ ms) : MembersAligned lib ms' p := by
  refine ⟨fun m hm => h.value_dvd m ((hmem m).1 hm), fun m hm => h.template_dvd m ((hmem m).1 hm), ?_⟩
  simpa only [hmem] using h.padding_greatest

theorem append (h : MembersAligned lib ms p) (h' : MembersAligned lib ms' q) :
    MembersAligned lib (ms ++ ms') (max p q) := by
  refine ⟨?_, ?_, ?_⟩
  · exact List.forall_mem_append.2 ⟨h.value_dvd, h'.value_dvd⟩
  · exact List.forall_mem_append.2 ⟨h.template_dvd, h'.template_dvd⟩
  · have hset : {a | ∃ m ∈ ms ++ ms', m.padding lib = a} =
        {a | ∃ m ∈ ms, m.padding lib = a} ∪ {a | ∃ m ∈ ms', m.padding lib = a} := by
      ext a
      simp only [Set.mem_union, Set.mem_ofPred_eq, List.mem_append, or_and_right, exists_or]
    rw [hset, Set.insert_union_distrib]
    exact h.padding_greatest.union h'.padding_greatest

/-- templates that are there stay, and with them the alignments of their members -/
theorem mono (h : MembersAligned lib ms p) (hext : lib.Extends lib') : MembersAligned lib' ms p := by
  have hpadding : ∀ m ∈ ms, m.padding lib' = m.padding lib := by
    intro m hm
    unfold Member.padding
    cases hinner : m.template? with
    | none => rfl
    | some inner =>
      obtain ⟨u, hu, -⟩ := h.template_dvd m hm inner hinner
      dsimp only
      rw [hu, hext.templates inner u hu]
  refine ⟨h.value_dvd, fun m hm inner hinner => ?_, ?_⟩
  · obtain ⟨u, hu, hdvd⟩ := h.template_dvd m hm inner hinner
    exact ⟨u, hext.templates inner u hu, hdvd⟩
  · have hset : {a | ∃ m ∈ ms, m.padding lib' = a} = {a | ∃ m ∈ ms, m.padding lib = a} := by
      ext a
      exact exists_congr fun m => and_congr_right fun hm => by rw [hpadding m hm]
    rw [hset]
    exact h.padding_greatest

theorem padding_le (h : MembersAligned lib ms p) {m : Member} (hm : m ∈ ms) : m.padding lib ≤ p :=
  h.padding_greatest.2 (.inr ⟨m, hm, rfl⟩)

end MembersAligned

/-! ## new members -/

section
variable {lib : Library}

theorem membersAligned_single {m : Member} {p : Int} (hpadding : m.padding lib = p) (hnonneg : 0 ≤ p)
    (hoffset : 0 < p → p ∣ m.offset)
    (hstored : ∀ inner, m.template? = some inner → ∃ u, lib.templates[inner]? = some u) :
    MembersAligned lib [m] p := by
  refine ⟨?_, ?_, .inr ⟨m, List.mem_cons_self, hpadding⟩, ?_⟩
  · rintro m' hm' a ha
    obtain rfl := List.mem_singleton.1 hm'
    have hlisted := alignment?_listed ha
    simp only [List.mem_cons, List.not_mem_nil, or_false] at hlisted
    obtain rfl := (padding_of_alignment? lib ha).symm.trans hpadding
    exact hoffset (by omega)
  · rintro m' hm' inner hinner
    obtain rfl := List.mem_singleton.1 hm'
    obtain ⟨u, hu⟩ := hstored inner hinner
    obtain rfl := (padding_of_template? hinner hu).symm.trans hpadding
    exact ⟨u, hu, hoffset⟩
  · rintro a (rfl | ⟨m', hm', rfl⟩)
    · exact hnonneg
    · rw [List.mem_singleton.1 hm', hpadding]

/-- members of a template that is put at a multiple of its alignment -/
theorem MembersAligned.inside (hlib : lib.Regular) {ms : List Member} {p : Int} (h : MembersAligned lib ms p)
    (hp : p ∈ ([0, 1, 2, 4] : List Int)) {offset : Int} (hoffset : 0 < p → p ∣ offset) (outer name : String) :
    MembersAligned lib (ms.map (·.inside outer name offset)) p := by
  -- an alignment that divides the offset inside the template divides the one of the template as well
  have hdvd : ∀ m ∈ ms, ∀ a, a ∈ ([1, 2, 4] : List Int) → m.padding lib = a → a ∣ m.offset →
      a ∣ (m.inside outer name offset).offset := by
    intro m hm a ha hpadding hinner
    have hle : a ≤ p := hpadding ▸ h.padding_le hm
    have hpos : 0 < a := by
      simp only [List.mem_cons, List.not_mem_nil, or_false] at ha
      omega
    exact dvd_add ((dvd_of_listed ha hp hle).trans (hoffset (hpos.trans_le hle))) hinner
  refine ⟨?_, ?_, ?_⟩
  · rintro m' hm' a ha
    obtain ⟨m, hm, rfl⟩ := List.mem_map.1 hm'
    exact hdvd m hm a (alignment?_listed ha) (padding_of_alignment? lib ha) (h.value_dvd m hm a ha)
  · rintro m' hm' inner hinner
    obtain ⟨m, hm, rfl⟩ := List.mem_map.1 hm'
    obtain ⟨u, hu, hu'⟩ := h.template_dvd m hm inner hinner
    refine ⟨u, hu, fun hpos => hdvd m hm u.padding ?_ (padding_of_template? hinner hu) (hu' hpos)⟩
    have hlisted := (hlib.templates_regular inner u hu).padding_listed
    simp only [List.mem_cons, List.not_mem_nil, or_false] at hlisted ⊢
    omega
  · have hset : {a | ∃ m ∈ ms.map (·.inside outer name offset), m.padding lib = a} =
        {a | ∃ m ∈ ms, m.padding lib = a} := by
      ext a
      constructor
      · rintro ⟨m', hm', ha⟩
        obtain ⟨m, hm, rfl⟩ := List.mem_map.1 hm'
        exact ⟨m, hm, ha⟩
      · rintro ⟨m, hm, ha⟩
        exact ⟨_, List.mem_map_of_mem hm, ha⟩
    rw [hset]
    exact h.padding_greatest

end

namespace TemplateReader

theorem dvd_padUp (offset : Int) {size : Int} (h : 0 < size) : size ∣ padUp offset size := by
  have hdvd := (isLeast_padUp offset h.le).1.1
  rwa [max_eq_right (by omega : (1 : Int) ≤ size)] at hdvd

section
variable {lib : Library} {t : OpenTemplate} {name written : String}

theorem padding_plainMember {current : Option String} {word : String} {shape : Shape}
    (h : Declares lib current word shape) (outer : String) (offset : Int) (name written : String) :
    (plainMember outer offset shape name written).padding lib = alignment lib shape := by
  cases h.formed with
  | bytes => rfl
  | @element shape hw he aliased => cases he <;> rfl
  | @array shape hw he aliased levels hl => cases he <;> rfl

theorem template?_plainMember {outer : String} {offset : Int} {shape : Shape} {inner : String}
    (h : (plainMember outer offset shape name written).template? = some inner) : shape.template = some inner := by
  unfold Member.template? plainMember at h
  dsimp only at h
  split at h
  · exact h
  · cases h
  · cases h

theorem withPlain_aligned (hlib : lib.Regular) (h : MembersAligned lib t.members t.padding) {word : String}
    {shape : Shape} (hshape : Declares lib (some t.name) word shape) :
    MembersAligned lib (withPlain lib t none shape name written).members
      (withPlain lib t none shape name written).padding := by
  have hsingle : MembersAligned lib [plainMember t.name (padUp t.offset (alignment lib shape)) shape name written]
      (alignment lib shape) :=
    membersAligned_single (padding_plainMember hshape _ _ _ _) (padding_listed_nonneg (alignment_listed hlib shape))
      (dvd_padUp t.offset) fun inner hinner => hshape.lookup (template?_plainMember hinner)
  show MembersAligned lib (_ :: t.members) (max t.padding (alignment lib shape))
  rw [max_comm]
  exact hsingle.append h

theorem withTemplate_aligned (hlib : lib.Regular) (h : MembersAligned lib t.members t.padding) {inner : String}
    {u : Template} (hu : lib.templates[inner]? = some u) (haligned : MembersAligned lib u.members u.padding)
    (aliased : Bool) :
    MembersAligned lib (withTemplate t none u inner aliased name written).members
      (withTemplate t none u inner aliased name written).padding := by
  have hlisted := (hlib.templates_regular inner u hu).padding_listed
  have hsingle : MembersAligned lib [wholeMember t.name (padUp t.offset u.padding) u inner aliased name written]
      u.padding := by
    refine membersAligned_single (padding_of_template? rfl hu) (padding_listed_nonneg hlisted)
      (dvd_padUp t.offset) fun inner' hinner => ?_
    cases hinner
    exact ⟨u, hu⟩
  have hinside := haligned.inside hlib hlisted (dvd_padUp t.offset) t.name name
  have hboth := (hinside.append hsingle).append h
  rw [max_self, max_comm] at hboth
  refine hboth.congr fun m => ?_
  show m ∈ (u.members.map (·.inside t.name name (padUp t.offset u.padding))).reverse ++
    wholeMember t.name (padUp t.offset u.padding) u inner aliased name written :: t.members ↔ _
  simp only [List.mem_append, List.mem_reverse, List.mem_cons, List.not_mem_nil, or_false, or_assoc]

end

/-! ## the end of a template -/

theorem close_rounded {t : OpenTemplate} (hsize : t.size = none) (hpadding : 0 ≤ t.padding) :
    (OpenTemplate.close t).Rounded := by
  have hused : (OpenTemplate.close t).paddingUsed = (OpenTemplate.close t).size - endOf t.members.reverse := by
    unfold OpenTemplate.close
    split
    · next n hn =>
      rw [hsize] at hn
      cases hn
    · next hnil =>
      rw [hnil]
      rfl
    · next last rest _ hmembers =>
      rw [hmembers, List.reverse_cons, endOf_concat]
      rfl
  have hleast := isLeast_padUp (endOf t.members.reverse) hpadding
  refine ⟨?_, by rw [hused, members_close]⟩
  rw [size_close hsize, members_close, padding_close]
  have hset : {z | (t.padding ≠ 0 → t.padding ∣ z) ∧ endOf t.members.reverse ≤ z} =
      {z | max 1 t.padding ∣ z ∧ endOf t.members.reverse ≤ z} := by
    ext z
    refine and_congr_left fun _ => ?_
    rcases eq_or_lt_of_le hpadding with hzero | hpos
    · rw [← hzero]
      simp
    · rw [max_eq_right (by omega : (1 : Int) ≤ t.padding)]
      exact ⟨fun h => h (by omega), fun h _ => h⟩
  rw [hset]
  exact hleast

/-! ## files -/

/-- a line of three words of which the first is a number; where a file is accepted, these are the lines that give
a member an offset -/
def givesOffset : List String → Bool
  | [w, _, _] => (Text.readNumber? w).isSome
  | _ => false

theorem given_of_not_givesOffset {words : List String} {given : Option Int} {word name : String}
    (h : MemberLine words given word name) (hnot : givesOffset words = false) : given = none := by
  cases h with
  | bare => rfl
  | @placed w n hw hn =>
    have hnone : (Text.readNumber? w).isSome = false := hnot
    rw [hw] at hnone
    cases hnone

/-- what lines without offsets keep, when they may not replace entries -/
structure Suited (r : TemplateReader) : Prop where
  regular : r.Regular
  fresh : r.Fresh
  stored : Every (fun u : Template => MembersAligned r.library u.members u.padding) r.library.templates
  pending : ∀ t, r.pending = some t → MembersAligned r.library t.members t.padding

theorem Suited.start : Suited ⟨{}, none⟩ :=
  ⟨regular_idle Library.Regular.empty, fresh_idle _, Every.empty, fun t ht => by cases ht⟩

theorem Suited.step {r r' : TemplateReader} {words : List String} (hs : Step false r words r')
    (hwords : givesOffset words = false) (h : r.Suited) : r'.Suited := by
  have hregular := Regular.step hs h.regular
  obtain ⟨hfresh, hext⟩ := Fresh.step hs h.fresh
  have hstored : Every (fun u : Template => MembersAligned r'.library u.members u.padding) r.library.templates :=
    fun name u hu => (h.stored name u hu).mono hext
  cases hs with
  | blank => exact h
  | aliasLine hname hfree hnew => exact ⟨hregular, hfresh, hstored, fun t ht => by cases ht⟩
  | constantLine hvalue hnew => exact ⟨hregular, hfresh, hstored, fun t ht => by cases ht⟩
  | head halias hconstant hwords hname hfree hnew hsize hread =>
    refine ⟨hregular, hfresh, hstored, fun t ht => ?_⟩
    cases ht
    exact .nil
  | @brace lib t hclosed =>
    refine ⟨hregular, hfresh, hstored, fun t' ht' => ?_⟩
    cases ht'
    exact h.pending t rfl
  | @close lib t hopen =>
    refine ⟨hregular, hfresh, hstored.insert t.name ?_, fun t' ht' => by cases ht'⟩
    rw [members_close, padding_close]
    exact ((h.pending t rfl).mono hext).congr fun m => List.mem_reverse
  | @plain lib refs t _ given _ _ shape hopen hline hshape hplain hname hnew =>
    refine ⟨hregular, hfresh, hstored, fun t' ht' => ?_⟩
    cases ht'
    rw [given_of_not_givesOffset hline hwords]
    exact withPlain_aligned hregular.library ((h.pending t rfl).mono hext) hshape
  | @template lib refs t _ given _ _ shape inner u hopen hline hshape hinner harray hu hname hnew =>
    refine ⟨hregular, hfresh, hstored, fun t' ht' => ?_⟩
    cases ht'
    rw [given_of_not_givesOffset hline hwords]
    exact withTemplate_aligned hregular.library ((h.pending t rfl).mono hext) hu (hstored inner u hu) shape.aliased

theorem Suited.steps {r r' : TemplateReader} {lines : List (List String)} (hs : Steps false r lines r')
    (hwords : ∀ words ∈ lines, givesOffset words = false) (h : r.Suited) : r'.Suited :=
  hs.inv (fun _ words _ hw hstep hr => hr.step hstep (hwords words hw)) h

/-! ### templates without a size -/

/-- the template `name` is under way and has no size, or it is closed and rounded -/
def Rounding (name : String) (r : TemplateReader) : Prop :=
  (∃ t, r.pending = some t ∧ t.name = name ∧ t.size = none) ∨
    ∃ T, r.library.templates[name]? = some T ∧ T.Rounded

theorem Rounding.step {name : String} {r r' : TemplateReader} {words : List String} (hs : Step false r words r')
    (hsuited : r.Suited) (h : r.Rounding name) : r'.Rounding name := by
  rcases h with ⟨t, ht, hname, hsize⟩ | ⟨T, hT, hrounded⟩
  · cases hs with
    | blank => exact .inl ⟨t, ht, hname, hsize⟩
    | aliasLine | constantLine | head => cases ht
    | brace | plain | template =>
      cases ht
      exact .inl ⟨_, rfl, hname, hsize⟩
    | @close lib t' hopen =>
      cases ht
      have hpadding := padding_listed_nonneg (hsuited.regular.pending t rfl).padding_listed
      refine .inr ⟨OpenTemplate.close t, ?_, close_rounded hsize hpadding⟩
      rw [← hname]
      exact Std.TreeMap.getElem?_insert_self
  · exact .inr ⟨T, (Fresh.step hs hsuited.fresh).2.templates name T hT, hrounded⟩

/-- a line that starts the template `name` without a size -/
theorem rounding_of_head {lib : Library} {r : TemplateReader} {name : String} {words : List String}
    (hs : Step false ⟨lib, none⟩ words r) (hwords : words = [name] ∨ words = [name, "\x7b"]) : r.Rounding name := by
  cases hs with
  | blank => rcases hwords with hnil | hnil <;> cases hnil
  | aliasLine | constantLine => rcases hwords with hthree | hthree <;> cases hthree
  | @head lib first rest word size halias hconstant hword hname hfree hnew hsize hread =>
    have hnone : word = none ∧ first = name := by
      rcases hwords with hline | hline <;> cases hline <;> cases hword <;> exact ⟨rfl, rfl⟩
    rw [hnone.1] at hsize
    refine .inl ⟨_, rfl, hnone.2, ?_⟩
    exact Option.not_isSome_iff_eq_none.1 fun hsome => by rw [hsome] at hsize; cases hsize

/-- the lines from the start of a template without size on: in the end it is rounded, if it is there -/
theorem rounded_of_steps {lib : Library} {r : TemplateReader} {name : String} {words : List String}
    {rest : List (List String)} (hs : Steps false ⟨lib, none⟩ (words :: rest) r) (h : Suited ⟨lib, none⟩)
    (hnot : ∀ ws ∈ words :: rest, givesOffset ws = false) (hwords : words = [name] ∨ words = [name, "\x7b"])
    {T : Template} (hT : r.library.templates[name]? = some T) : T.Rounded := by
  cases hs with
  | cons head tail =>
    have hfirst := h.step head (hnot words List.mem_cons_self)
    obtain ⟨hsuited, hround⟩ : r.Suited ∧ r.Rounding name := by
      refine tail.inv (I := fun r => r.Suited ∧ r.Rounding name) ?_ ⟨hfirst, rounding_of_head head hwords⟩
      intro r1 ws r2 hw hstep ⟨hr, hround⟩
      exact ⟨hr.step hstep (hnot ws (List.mem_cons_of_mem _ hw)), hround.step hstep hr⟩
    rcases hround with ⟨t, ht, hname, -⟩ | ⟨T', hT', hrounded⟩
    · -- the name of a template under way is new
      have hfresh := hsuited.fresh t ht
      rw [hname, Std.TreeMap.contains_eq_isSome_getElem?, hT] at hfresh
      cases hfresh
    · obtain rfl : T' = T := Option.some.inj (hT'.symm.trans hT)
      exact hrounded

/-- while a file is read, a line outside of templates starts the template `name` and gives no size -/
def StartsUnsized (file text : String) (c : Console) (name : String) : Prop :=
  ∃ done line rest lib c', Text.lines text = done ++ line :: rest ∧
    readLines false file 0 done ⟨⟨{}, none⟩, c⟩ = .ok () ⟨⟨lib, none⟩, c'⟩ ∧
    (lineWords line = [name] ∨ lineWords line = [name, "\x7b"])

end TemplateReader

namespace Library

open TemplateReader

/-- a file whose members have no offsets, read into an empty library: all templates of it are aligned, and those that
start without a size end at the next multiple of their alignment behind their last member -/
theorem aligned_of_load {file text : String} {c : Console} {s : Session Library}
    (h : load false file text ⟨{}, c⟩ = .ok () s)
    (hwords : ∀ words ∈ textWords text, givesOffset words = false) :
    ∀ (name : String) (T : Template), s.state.templates[name]? = some T →
      MembersAligned s.state T.members T.padding ∧ (StartsUnsized file text c name → T.Rounded) := by
  intro name T hT
  obtain ⟨s', hrun, hlib⟩ := readLines_of_load h
  have hsteps := (readLines_yields false file 0 (Text.lines text) _).of_ok hrun
  have hsuited := Suited.start.steps hsteps hwords
  rw [← hlib] at hT ⊢
  refine ⟨hsuited.stored name T hT, ?_⟩
  rintro ⟨done, line, rest, lib, c', hlines, hdone, hline⟩
  have hsplit : textWords text = done.map lineWords ++ lineWords line :: rest.map lineWords := by
    unfold textWords
    rw [hlines, List.map_append, List.map_cons]
  rw [hsplit] at hwords
  have hstart : Suited ⟨lib, none⟩ :=
    Suited.start.steps ((readLines_yields false file 0 done _).of_ok hdone)
      fun words hw => hwords words (List.mem_append_left _ hw)
  rw [hlines, readLines_append, bind_of_ok hdone] at hrun
  exact rounded_of_steps ((readLines_yields false file _ (line :: rest) _).of_ok hrun) hstart
    (fun words hw => hwords words (List.mem_append_right _ hw)) hline hT

/-- a template with a size that is no multiple of its alignment -/
def spotLines : List String := ["spot 9 \x7b\n", " float[2] xy\n", " byte tag\n", "\x7d\n"]

def trackText : String :=
  String.join spotLines ++ "track\n\x7b\n 3 head\n short id\n spot at\n spot[2] path\n *track next\n char last\n\x7d\n"

/-- plain bytes, a nested template, an array of it and a pointer -/
theorem aligned_of_track :
    ∃ s, load false "templates.dat" trackText ⟨{}, {}⟩ = .ok () s ∧
      (∀ words ∈ textWords trackText, givesOffset words = false) ∧
      StartsUnsized "templates.dat" trackText {} "track" ∧
      ∃ T, s.state.templates["track"]? = some T ∧
        T.members.map Member.offset = [0, 4, 8, 8, 16, 16, 36, 40] ∧ T.padding = 4 ∧ T.size = 44 ∧
        MembersAligned s.state T.members T.padding ∧ T.Rounded := by
  obtain ⟨s, hload, htest⟩ := exists_of_endsWith
    (show endsWith (load false "templates.dat" trackText) ⟨{}, {}⟩ (fun lib =>
      lib.templates["track"]?.any fun T =>
        decide (T.members.map Member.offset = [0, 4, 8, 8, 16, 16, 36, 40] ∧ T.padding = 4 ∧ T.size = 44)) = true by
      decide +kernel)
  obtain ⟨T, hT, hplaces⟩ := (Option.any_eq_true _ _).1 htest
  obtain ⟨hmembers, hpadding, hsize⟩ := of_decide_eq_true hplaces
  have hwords : ∀ words ∈ textWords trackText, givesOffset words = false := by decide +kernel
  have hstarts : StartsUnsized "templates.dat" trackText {} "track" := by
    obtain ⟨⟨⟨lib, pending⟩, c'⟩, hdone, hidle⟩ := exists_of_endsWith
      (show endsWith (readLines false "templates.dat" 0 spotLines) ⟨⟨{}, none⟩, {}⟩ (·.pending.isNone) = true by
        decide +kernel)
    obtain rfl : pending = none := by simpa using hidle
    have hlines : Text.lines trackText = spotLines ++ "track\n" :: (Text.lines trackText).drop 5 := by decide +kernel
    exact ⟨spotLines, _, _, lib, c', hlines, hdone, .inl (by decide +kernel)⟩
  obtain ⟨haligned, hrounded⟩ := aligned_of_load hload hwords "track" T hT
  exact ⟨s, hload, hwords, hstarts, T, hT, hmembers, hpadding, hsize, haligned, hrounded hstarts⟩

end Library

end Disasm
