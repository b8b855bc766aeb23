import Mathlib
import Disasm.Proofs.Template.Growth

/-!
# Where the members of templates are placed

Templates without sizes, whose members have no offsets.

* `LaidOut align next start ms`  each member is at the least multiple of its alignment that is not below the
  running offset; `next` moves that offset.  In the layout of structs it moves to the end of the member,
  in the layout of templates (`Member.next`) a member that is a template moves it by its size alone;
* `laidOut_stop_iff`  the two layouts agree exactly when no member overlaps an earlier one;
* `OpenTemplate.Laid`, `Flowing`  what the lines of such a file keep;
* `Closes`  a template is closed while a file is read;
* `Library.layout_of_load`  the templates of a file: their members, alignments and sizes.
-/

namespace Disasm

open Disasm.Action

/-! ## members and their alignment -/

/-- the end of a member -/
def Member.stop (m : Member) : Int := m.offset + m.size

/-- the alignment of a template; one without members stands anywhere -/
def Template.alignment (t : Template) : Int := max 1 t.padding

/-- the alignment of a member; that of an array is the one of its elements -/
def Member.alignment (lib : Library) (m : Member) : Int :=
  let named (name : Option String) : Int :=
    ((name.bind (lib.templates[·]?)).map Template.alignment).getD 1
  if m.whole.isSome then named m.whole
  else match m.kind with
    | .raw => 1
    | .basic t => t.size
    | .template => named m.elementTemplate
    | _ => 4

/-- the members that a template declares itself: the others stand in a member that is a template -/
def declared (members : List Member) : List Member := members.filter (·.places.length == 1)

/-- the end of the last member -/
def endOf (members : List Member) : Int := (members.getLast?.map Member.stop).getD 0

theorem endOf_concat (members : List Member) (m : Member) : endOf (members ++ [m]) = m.stop := by
  unfold endOf
  rw [List.getLast?_concat]
  rfl

theorem declared_append (ms ms' : List Member) : declared (ms ++ ms') = declared ms ++ declared ms' :=
  List.filter_append ..

/-- a declared member, with members behind it that are not -/
theorem declared_append_cons {ms inner : List Member} {m : Member} (hm : m.places.length = 1)
    (hinner : declared inner = []) : declared (ms ++ m :: inner) = declared ms ++ [m] := by
  have hcons : declared (m :: inner) = m :: declared inner := List.filter_cons_of_pos (by simpa using hm)
  rw [declared_append, hcons, hinner]

/-! ## layouts -/

/-- each member is at the least multiple of its alignment that is not below the running offset -/
def LaidOut (align : Member → Int) (next : Int → Member → Int) : Int → List Member → Prop
  | _, [] => True
  | start, m :: ms => IsLeast {z | align m ∣ z ∧ start ≤ z} m.offset ∧ LaidOut align next (next start m) ms

/-- how the running offset moves in a template -/
def Member.next (start : Int) (m : Member) : Int :=
  if m.whole.isSome then start + m.size else m.stop

section
variable {align : Member → Int}

theorem laidOut_concat {next : Int → Member → Int} {start : Int} {ms : List Member} {m : Member} :
    LaidOut align next start (ms ++ [m]) ↔
      LaidOut align next start ms ∧ IsLeast {z | align m ∣ z ∧ ms.foldl next start ≤ z} m.offset := by
  induction ms generalizing start with
  | nil =>
    show _ ∧ True ↔ True ∧ _
    rw [and_true, true_and]
    rfl
  | cons m' ms ih =>
    show _ ∧ LaidOut align next (next start m') (ms ++ [m]) ↔ (_ ∧ LaidOut align next (next start m') ms) ∧ _
    rw [ih, and_assoc]
    rfl

theorem next_le_stop {start : Int} {m : Member} (h : start ≤ m.offset) : m.next start ≤ m.stop := by
  unfold Member.next
  split
  · unfold Member.stop
    omega
  · exact le_rfl

/-- members laid out as in a template are so as in a struct exactly when none starts before the end of another
in front of it -/
theorem laidOut_stop_iff {start stop : Int} {ms : List Member} (h : LaidOut align Member.next start ms)
    (hle : start ≤ stop) (hsize : ∀ m ∈ ms, 0 ≤ m.size) :
    LaidOut align (fun _ m => m.stop) stop ms ↔
      (∀ m ∈ ms, stop ≤ m.offset) ∧ ms.Pairwise (fun m m' => m.stop ≤ m'.offset) := by
  induction ms generalizing start stop with
  | nil => exact ⟨fun _ => ⟨List.forall_mem_nil _, List.Pairwise.nil⟩, fun _ => trivial⟩
  | cons m ms ih =>
    obtain ⟨hleast, hrest⟩ := h
    have hstop : m.next start ≤ m.stop := next_le_stop hleast.1.2
    have hih := ih hrest hstop fun m' hm' => hsize m' (List.mem_cons_of_mem m hm')
    have hm : m.offset ≤ m.stop := by
      have := hsize m List.mem_cons_self
      unfold Member.stop
      omega
    constructor
    · rintro ⟨hfirst, hothers⟩
      obtain ⟨hbehind, hpairs⟩ := hih.1 hothers
      have hstart : stop ≤ m.offset := hfirst.1.2
      refine ⟨fun m' hm' => ?_, List.pairwise_cons.2 ⟨hbehind, hpairs⟩⟩
      rcases List.mem_cons.1 hm' with rfl | hm'
      · exact hstart
      · exact (hstart.trans hm).trans (hbehind m' hm')
    · rintro ⟨hbehind, hpairs⟩
      obtain ⟨hothers, hpairs⟩ := List.pairwise_cons.1 hpairs
      refine ⟨⟨⟨hleast.1.1, hbehind m List.mem_cons_self⟩, fun z hz => ?_⟩, hih.2 ⟨hothers, hpairs⟩⟩
      exact hleast.2 ⟨hz.1, hle.trans hz.2⟩

end

/-- the members of a template are laid out one behind the other, and its alignment and size follow from them -/
structure Template.Laid (align : Member → Int) (t : Template) : Prop where
  /-- the alignment is the largest one of a member -/
  alignment_greatest : IsGreatest (insert 1 {a | ∃ m ∈ declared t.members, align m = a}) t.alignment
  placed : LaidOut align Member.next 0 (declared t.members)
  /-- the size is the end of the last member, rounded up -/
  size_least : IsLeast {z | t.alignment ∣ z ∧ endOf (declared t.members) ≤ z} t.size
  struct_iff : LaidOut align (fun _ m => m.stop) 0 (declared t.members) ↔
    (declared t.members).Pairwise (fun m m' => m.stop ≤ m'.offset)

/-! ## the template under way -/

/-- the same of a template under way, of which the last member is the first of the list -/
structure OpenTemplate.Laid (align : Member → Int) (t : OpenTemplate) : Prop where
  size_none : t.size = none
  alignment_greatest :
    IsGreatest (insert 1 {a | ∃ m ∈ declared t.members.reverse, align m = a}) (max 1 t.padding)
  placed : LaidOut align Member.next 0 (declared t.members.reverse)
  offset_eq : t.offset = (declared t.members.reverse).foldl Member.next 0
  /-- the end of all members is rounded up to the same place as the end of the declared ones -/
  end_iff : ∀ z, max 1 t.padding ∣ z →
    (endOf t.members.reverse ≤ z ↔ endOf (declared t.members.reverse) ≤ z)

namespace OpenTemplate.Laid

variable {align : Member → Int} {t : OpenTemplate}

theorem start {name : String} {opened : Bool} : Laid align { name, size := none, opened } where
  size_none := rfl
  alignment_greatest := by
    refine ⟨Set.mem_insert _ _, fun a ha => ?_⟩
    rcases ha with rfl | ⟨m, hm, -⟩
    · exact le_rfl
    · cases hm
  placed := trivial
  offset_eq := rfl
  end_iff _ _ := Iff.rfl

/-- a member is declared; `inner` are the members that come with it -/
theorem push {t' : OpenTemplate} (h : t.Laid align) {m : Member} (inner : List Member) {a : Int}
    (hsize : t'.size = t.size) (hmembers : t'.members = inner.reverse ++ m :: t.members)
    (hpadding : t'.padding = max t.padding a) (halign : align m = max 1 a) (hm : m.places.length = 1)
    (hinner : declared inner = []) (hoffset : IsLeast {z | align m ∣ z ∧ t.offset ≤ z} m.offset)
    (hnext : t'.offset = m.next t.offset)
    (hend : ∀ z, max 1 t'.padding ∣ z → (endOf (m :: inner) ≤ z ↔ m.stop ≤ z)) : t'.Laid align := by
  have hreverse : t'.members.reverse = t.members.reverse ++ (m :: inner) := by
    rw [hmembers, List.reverse_append, List.reverse_reverse, List.reverse_cons, List.append_assoc]
    rfl
  have hdeclared : declared t'.members.reverse = declared t.members.reverse ++ [m] := by
    rw [hreverse, declared_append_cons hm hinner]
  refine ⟨hsize.trans h.size_none, ?_, ?_, ?_, fun z hz => ?_⟩
  · have hset : (insert 1 {a | ∃ m' ∈ declared t.members.reverse ++ [m], align m' = a} : Set Int) =
        insert (align m) (insert 1 {a | ∃ m' ∈ declared t.members.reverse, align m' = a}) := by
      ext x
      simp only [Set.mem_insert_iff, Set.mem_ofPred_eq, List.mem_append, List.mem_singleton]
      constructor
      · rintro (hx | ⟨m', hm' | rfl, hx⟩)
        · exact .inr (.inl hx)
        · exact .inr (.inr ⟨m', hm', hx⟩)
        · exact .inl hx.symm
      · rintro (hx | hx | ⟨m', hm', hx⟩)
        · exact .inr ⟨m, .inr rfl, hx.symm⟩
        · exact .inl hx
        · exact .inr ⟨m', .inl hm', hx⟩
    have hmax : max 1 t'.padding = max (align m) (max 1 t.padding) := by
      rw [hpadding, halign]
      omega
    rw [hdeclared, hset, hmax]
    exact h.alignment_greatest.insert (align m)
  · rw [hdeclared, laidOut_concat, ← h.offset_eq]
    exact ⟨h.placed, hoffset⟩
  · rw [hdeclared, List.foldl_append, ← h.offset_eq, hnext]
    rfl
  · have hlast : endOf (t.members.reverse ++ (m :: inner)) = endOf (m :: inner) := by
      unfold endOf
      rw [List.getLast?_append_of_ne_nil _ (List.cons_ne_nil m inner)]
    rw [hdeclared, hreverse, endOf_concat, hlast]
    exact hend z hz

end OpenTemplate.Laid

namespace TemplateReader

/-! ## new members -/

theorem alignment_plainMember (lib : Library) (outer : String) (offset : Int) (shape : Shape)
    (name written : String) :
    (plainMember outer offset shape name written).alignment lib = max 1 (alignment lib shape) := by
  obtain ⟨size, kind, template, pointer, array, aliased⟩ := shape
  cases kind with
  | basic t => cases t <;> rfl
  | template =>
    show ((template.bind (lib.templates[·]?)).map Template.alignment).getD 1 =
      max 1 (((template.bind (lib.templates[·]?)).map Template.padding).getD 0)
    cases template.bind (lib.templates[·]?) <;> rfl
  | raw | pointerToVoid | pointerToBasic | pointerToTemplate | unlisted => rfl

theorem alignment_wholeMember {lib : Library} {inner : String} {u : Template}
    (hu : lib.templates[inner]? = some u) (outer : String) (offset : Int) (aliased : Bool)
    (name written : String) :
    (wholeMember outer offset u inner aliased name written).alignment lib = max 1 u.padding := by
  unfold Member.alignment wholeMember
  dsimp only [Option.isSome_some]
  rw [if_pos rfl, Option.bind_some, hu]
  rfl

/-- alignments are powers of two, so that of two the smaller one divides the larger one -/
theorem dvd_max_listed {m n : Int} (hm : m ∈ ([0, 1, 2, 4] : List Int)) (hn : n ∈ ([0, 1, 2, 4] : List Int)) :
    max 1 n ∣ max 1 (max m n) := by
  simp only [List.mem_cons, List.not_mem_nil, or_false] at hm hn
  rcases hm with rfl | rfl | rfl | rfl <;> rcases hn with rfl | rfl | rfl | rfl <;> decide

section
variable {lib : Library} {t : OpenTemplate} {name written : String}

theorem withPlain_laid (hlib : lib.Regular) (h : t.Laid (Member.alignment lib)) (shape : Shape) :
    (withPlain lib t none shape name written).Laid (Member.alignment lib) := by
  have halign := alignment_plainMember lib t.name (padUp t.offset (alignment lib shape)) shape name written
  have hleast := isLeast_padUp t.offset (padding_listed_nonneg (alignment_listed hlib shape))
  rw [← halign] at hleast
  exact h.push [] rfl rfl rfl halign rfl rfl hleast rfl fun z _ => Iff.rfl

theorem stop_inside (m : Member) (outer name : String) (offset : Int) :
    (m.inside outer name offset).stop = offset + m.stop :=
  add_assoc offset m.offset m.size

theorem declared_inside {members : List Member} (h : ∀ m ∈ members, m.places ≠ []) (outer name : String)
    (offset : Int) : declared (members.map (·.inside outer name offset)) = [] := by
  unfold declared
  rw [List.filter_eq_nil_iff]
  intro m hm hone
  obtain ⟨m', hm', rfl⟩ := List.mem_map.1 hm
  have hlength : (m'.inside outer name offset).places.length = m'.places.length + 1 := List.length_append
  rw [eq_of_beq hone] at hlength
  exact h m' hm' (List.length_eq_zero_iff.1 (by omega))

theorem withTemplate_laid {inner : String} {u : Template} (hu : lib.templates[inner]? = some u)
    (hregular : u.Regular lib) (hsize : u.size = padUp (endOf u.members) u.padding)
    (ht : t.padding ∈ ([0, 1, 2, 4] : List Int)) (h : t.Laid (Member.alignment lib)) (aliased : Bool) :
    (withTemplate t none u inner aliased name written).Laid (Member.alignment lib) := by
  have hpadding := padding_listed_nonneg hregular.padding_listed
  have halign := alignment_wholeMember hu t.name (padUp t.offset u.padding) aliased name written
  have hleast := isLeast_padUp t.offset hpadding
  refine h.push (u.members.map (·.inside t.name name (padUp t.offset u.padding))) rfl rfl rfl halign
    rfl (declared_inside (fun m hm => (hregular.members_regular m hm).places_ne_nil) _ _ _) ?_ rfl ?_
  · rw [halign]
    exact hleast
  · intro z hz
    cases hlast : u.members.getLast? with
    | none =>
      rw [List.getLast?_eq_none_iff.1 hlast]
      exact Iff.rfl
    | some last =>
      have hend : endOf u.members = last.stop := by
        unfold endOf
        rw [hlast]
        rfl
      have hflat : endOf (wholeMember t.name (padUp t.offset u.padding) u inner aliased name written ::
          u.members.map (·.inside t.name name (padUp t.offset u.padding))) =
          padUp t.offset u.padding + last.stop := by
        unfold endOf
        rw [List.getLast?_cons, List.getLast?_map, hlast]
        exact stop_inside last _ _ _
      -- the offset is a multiple of the alignment of `u`, and so is `z`
      have hdvd : max 1 u.padding ∣ z - padUp t.offset u.padding :=
        dvd_sub ((dvd_max_listed ht hregular.padding_listed).trans hz) hleast.1.1
      have hround := isLeast_padUp last.stop hpadding
      rw [hflat]
      show _ ↔ padUp t.offset u.padding + u.size ≤ z
      rw [hsize, hend]
      constructor
      · intro hle
        have := hround.2 ⟨hdvd, show last.stop ≤ z - padUp t.offset u.padding by omega⟩
        omega
      · intro hle
        have := hround.1.2
        omega

end

/-! ## the end of a template -/

theorem size_close {t : OpenTemplate} (h : t.size = none) :
    (OpenTemplate.close t).size = padUp (endOf t.members.reverse) t.padding := by
  unfold OpenTemplate.close
  split
  · next n hn =>
    rw [h] at hn
    cases hn
  · next hnil =>
    rw [hnil]
    show 0 = padUp 0 t.padding
    unfold padUp
    simp
  · next last rest _ hmembers =>
    rw [hmembers, List.reverse_cons, endOf_concat]
    rfl

theorem close_laid {align : Member → Int} {t : OpenTemplate} (h : t.Laid align) (hpadding : 0 ≤ t.padding)
    (hmembers : ∀ m ∈ t.members, 0 ≤ m.offset ∧ 0 ≤ m.size) : (OpenTemplate.close t).Laid align := by
  have hdeclared : ∀ m ∈ declared t.members.reverse, 0 ≤ m.offset ∧ 0 ≤ m.size :=
    fun m hm => hmembers m (List.mem_reverse.1 (List.mem_of_mem_filter hm))
  have halignment : (OpenTemplate.close t).alignment = max 1 t.padding := by
    unfold Template.alignment
    rw [padding_close]
  have hleast := isLeast_padUp (endOf t.members.reverse) hpadding
  refine ⟨?_, ?_, ?_, ?_⟩
  · rw [halignment, members_close]
    exact h.alignment_greatest
  · rw [members_close]
    exact h.placed
  · rw [halignment, members_close, size_close h.size_none]
    refine ⟨⟨hleast.1.1, (h.end_iff _ hleast.1.1).1 hleast.1.2⟩, fun z hz => ?_⟩
    exact hleast.2 ⟨hz.1, (h.end_iff z hz.1).2 hz.2⟩
  · rw [members_close, laidOut_stop_iff h.placed le_rfl fun m hm => (hdeclared m hm).2]
    exact and_iff_right fun m hm => (hdeclared m hm).1

/-! ## files -/

/-- a line that gives no size to a template and no offset to a member: of two words the second is no number, and
three words declare an alias or a constant -/
def implicit : List String → Bool
  | [_, w] => !startsNumber w.toList
  | [w, _, _] => w == "%alias" || w == "%arrayConstant"
  | _ => true

theorem given_eq_none {words : List String} {given : Option Int} {word name : String}
    (h : MemberLine words given word name) (himplicit : implicit words = true) : given = none := by
  cases h with
  | bare => rfl
  | @placed w n hw hn =>
    have hmark : w = "%alias" ∨ w = "%arrayConstant" := by simpa [implicit] using himplicit
    rcases hmark with rfl | rfl
    · rw [show Text.readNumber? "%alias" = none by decide] at hw
      cases hw
    · rw [show Text.readNumber? "%arrayConstant" = none by decide] at hw
      cases hw

theorem size_eq_none {first : String} {rest : List String} {word : Option String} {size : Option Int}
    (halias : first ≠ "%alias") (hconstant : first ≠ "%arrayConstant")
    (hwords : sizeWord? (first :: rest) = some word) (hsize : size.isSome = word.isSome)
    (hread : ∀ n, size = some n → 0 ≤ n ∧ word.bind Text.readNumber? = some n)
    (himplicit : implicit (first :: rest) = true) (hword : ∀ w ∈ first :: rest, Text.IsWord w.toList) :
    size = none := by
  cases hn : size with
  | none => rfl
  | some n =>
    obtain ⟨-, hnumber⟩ := hread n hn
    rw [hn] at hsize
    match rest, hwords with
    | [], hwords =>
      cases hwords
      cases hsize
    | [w], hwords =>
      have hw : (if w == "\x7b" then none else some w) = word := Option.some.inj hwords
      split at hw
      · rw [← hw] at hsize
        cases hsize
      · rw [← hw] at hnumber
        have hstarts := startsNumber_of_readNumber? (hword w (by simp)) hnumber
        have hnot : startsNumber w.toList = false := by simpa [implicit] using himplicit
        rw [hnot] at hstarts
        cases hstarts
    | [w, w'], hwords =>
      have hmark : first = "%alias" ∨ first = "%arrayConstant" := by simpa [implicit] using himplicit
      exact (hmark.elim halias hconstant).elim

/-- what implicit lines keep -/
structure Flowing (r : TemplateReader) : Prop where
  regular : r.Regular
  stored : Every (fun u : Template => u.size = padUp (endOf u.members) u.padding) r.library.templates
  pending : ∀ t, r.pending = some t → t.Laid (Member.alignment r.library)

theorem Flowing.step {override : Bool} {r r' : TemplateReader} {words : List String}
    (hs : Step override r words r') (himplicit : implicit words = true)
    (hword : ∀ w ∈ words, Text.IsWord w.toList) (h : r.Flowing) : r'.Flowing := by
  have hregular := Regular.step hs h.regular
  cases hs with
  | blank => exact h
  | aliasLine hname hfree hnew => exact ⟨hregular, h.stored, fun t ht => by cases ht⟩
  | constantLine hvalue hnew => exact ⟨hregular, h.stored, fun t ht => by cases ht⟩
  | head halias hconstant hwords hname hfree hnew hsize hread =>
    have hnone := size_eq_none halias hconstant hwords hsize hread himplicit hword
    refine ⟨hregular, h.stored, fun t ht => ?_⟩
    cases ht
    rw [hnone]
    exact .start
  | @brace lib t hclosed =>
    have ht := h.pending t rfl
    refine ⟨hregular, h.stored, fun t' ht' => ?_⟩
    cases ht'
    exact ⟨ht.size_none, ht.alignment_greatest, ht.placed, ht.offset_eq, ht.end_iff⟩
  | @close lib t hopen =>
    refine ⟨hregular, h.stored.insert t.name ?_, fun t' ht' => by cases ht'⟩
    rw [size_close (h.pending t rfl).size_none, members_close, padding_close]
  | @plain lib refs t _ given _ _ shape hopen hwords hshape hplain hname hnew =>
    refine ⟨hregular, h.stored, fun t' ht' => ?_⟩
    cases ht'
    rw [given_eq_none hwords himplicit]
    exact withPlain_laid hregular.library (h.pending t rfl) shape
  | @template lib refs t _ given _ _ shape inner u hopen hwords hshape hinner harray hu hname hnew =>
    refine ⟨hregular, h.stored, fun t' ht' => ?_⟩
    cases ht'
    rw [given_eq_none hwords himplicit]
    exact withTemplate_laid hu (h.regular.library.templates_regular inner u hu) (h.stored inner u hu)
      (h.regular.pending t rfl).padding_listed (h.pending t rfl) shape.aliased

theorem Flowing.steps {override : Bool} {lines : List String} {r r' : TemplateReader}
    (hs : Steps override r (lines.map lineWords) r') (himplicit : ∀ line ∈ lines, implicit (lineWords line) = true)
    (h : r.Flowing) : r'.Flowing := by
  refine hs.inv (fun r words r' hwords hstep hr => ?_) h
  obtain ⟨line, hline, rfl⟩ := List.mem_map.1 hwords
  exact hr.step hstep (himplicit line hline) fun w hw => Text.isWord_of_mem_words hw

theorem Flowing.start : Flowing ⟨{}, none⟩ :=
  ⟨regular_idle Library.Regular.empty, Every.empty, fun t ht => by cases ht⟩

/-! ## the templates of a file -/

/-- while a file is read, the template `name` is closed as `T`; `lib` is the library on that line -/
def Closes (override : Bool) (file text : String) (c : Console) (lib : Library) (name : String)
    (T : Template) : Prop :=
  ∃ done line rest t c', Text.lines text = done ++ line :: rest ∧ lineWords line = ["\x7d"] ∧
    readLines override file 0 done ⟨⟨{}, none⟩, c⟩ = .ok () ⟨⟨lib, some t⟩, c'⟩ ∧
    t.name = name ∧ OpenTemplate.close t = T

theorem Closes.laid {override : Bool} {file text : String} {c : Console} {lib : Library} {name : String}
    {T : Template} (h : Closes override file text c lib name T)
    (himplicit : ∀ words ∈ textWords text, implicit words = true) : T.Laid (Member.alignment lib) := by
  obtain ⟨done, line, rest, t, c', hlines, -, hrun, -, rfl⟩ := h
  have hsteps := (readLines_yields override file 0 done _).of_ok hrun
  have hdone : ∀ l ∈ done, implicit (lineWords l) = true := by
    intro l hl
    refine himplicit _ (List.mem_map_of_mem ?_)
    rw [hlines]
    exact List.mem_append_left _ hl
  have hflow := Flowing.start.steps hsteps hdone
  have ht := hflow.regular.pending t rfl
  refine close_laid (hflow.pending t rfl) (padding_listed_nonneg ht.padding_listed) fun m hm => ?_
  exact ⟨(ht.members_regular m hm).offset_nonneg, (ht.members_regular m hm).size_nonneg⟩

theorem readLines_append (override : Bool) (file : String) (index : Nat) (lines lines' : List String)
    (s : Session TemplateReader) :
    readLines override file index (lines ++ lines') s =
      (readLines override file index lines >>= fun _ =>
        readLines override file (index + lines.length) lines') s := by
  induction lines generalizing index s with
  | nil => rfl
  | cons line lines ih =>
    rw [List.cons_append, readLines_cons, readLines_cons, bind_apply, bind_apply, bind_apply]
    cases readLine override ⟨file, index, Text.strip (Text.uncomment line)⟩ (lineWords line) s with
    | ok u t =>
      show readLines override file (index + 1) (lines ++ lines') t = _
      rw [ih, bind_apply, List.length_cons, show index + 1 + lines.length = index + (lines.length + 1) by omega]
    | error f t => rfl

end TemplateReader

namespace Library

open TemplateReader

theorem readLines_of_load {override : Bool} {file text : String} {s t : Session Library}
    (h : load override file text s = .ok () t) :
    ∃ s', readLines override file 0 (Text.lines text) ⟨⟨s.state, none⟩, s.console⟩ = .ok () s' ∧
      s'.state.library = t.state := by
  unfold load at h
  split at h
  · next u s' hr =>
    cases h
    obtain ⟨v, s1, h1, hrest⟩ := bind_eq_ok hr
    refine ⟨s1, h1, ?_⟩
    -- what follows the lines only looks at the library
    have hstate : s'.state = s1.state := by
      refine Yields.of_ok (Q := fun _ r => r = s1.state) (E := fun _ _ => True) ?_ hrest
      refine Yields.read (Yields.check (fun _ => trivial) fun _ => ?_)
      split
      · exact Yields.stop trivial
      · exact Yields.pure rfl
    rw [hstate]
  · cases h

/-- a file without sizes and offsets, read into an empty library: every template in the end was closed on a line
of it, and every template that is closed is laid out; without leave to replace entries, the templates that it
is made of are those in the end -/
theorem layout_of_load {override : Bool} {file text : String} {c : Console} {s : Session Library}
    (h : load override file text ⟨{}, c⟩ = .ok () s)
    (himplicit : ∀ words ∈ textWords text, implicit words = true) :
    (∀ name T, s.state.templates[name]? = some T → ∃ lib, Closes override file text c lib name T) ∧
      ∀ lib name T, Closes override file text c lib name T → T.Laid (Member.alignment lib) ∧
        (override = false → ∀ (inner : String) (u : Template), lib.templates[inner]? = some u →
          s.state.templates[inner]? = some u) := by
  obtain ⟨s', hrun, hlib⟩ := readLines_of_load h
  refine ⟨fun name T hT => ?_, fun lib name T hcloses => ⟨hcloses.laid himplicit, ?_⟩⟩
  · rw [← hlib] at hT
    rcases (readLines_addsClosed override file 0 (Text.lines text) _).of_ok hrun name T hT with
      hnone | ⟨done, line, rest, lib, t, c', hlines, hwords, hdone, -, hclosed⟩
    · rw [Std.TreeMap.getElem?_emptyc] at hnone
      cases hnone
    · exact ⟨lib, done, line, rest, t, c', hlines, hwords, hdone, hclosed⟩
  · rintro rfl inner u hu
    obtain ⟨done, line, rest, t, c', hlines, -, hdone, -, -⟩ := hcloses
    have hfirst := ((fresh_idle {}).steps ((readLines_yields false file 0 done _).of_ok hdone)).1
    rw [hlines, readLines_append, bind_of_ok hdone] at hrun
    have hrest := (readLines_yields false file _ (line :: rest) _).of_ok hrun
    rw [← hlib]
    exact (hfirst.steps hrest).2.templates inner u hu

def shotText : String :=
  "vec\n\x7b\n float[2] xy\n byte tag\n\x7d\nshot\n\x7b\n byte kind\n short[3] marks\n vec origin\n *shot next\n vec[2] path\n char last\n\x7d\n"

/-- a template, arrays of it and of basic types, and a pointer -/
theorem layout_of_shot :
    ∃ s, load false "templates.dat" shotText ⟨{}, {}⟩ = .ok () s ∧
      (∀ words ∈ textWords shotText, implicit words = true) ∧
      ∃ T, s.state.templates["shot"]? = some T ∧
        (declared T.members).map (fun m => (m.offset, m.size)) =
          [(0, 1), (2, 6), (8, 12), (20, 4), (24, 24), (48, 1)] ∧ T.size = 52 ∧
        ∃ lib, Closes false "templates.dat" shotText {} lib "shot" T ∧ T.Laid (Member.alignment lib) := by
  obtain ⟨s, hload, htest⟩ := exists_of_endsWith
    (show endsWith (load false "templates.dat" shotText) ⟨{}, {}⟩ (fun lib =>
      lib.templates["shot"]?.any fun T =>
        decide ((declared T.members).map (fun m => (m.offset, m.size)) =
          [(0, 1), (2, 6), (8, 12), (20, 4), (24, 24), (48, 1)] ∧ T.size = 52)) = true by decide +kernel)
  have himplicit : ∀ words ∈ textWords shotText, implicit words = true := by decide +kernel
  obtain ⟨T, hT, hplaces⟩ := (Option.any_eq_true _ _).1 htest
  obtain ⟨hmembers, hsize⟩ := of_decide_eq_true hplaces
  obtain ⟨hclosed, hlaid⟩ := layout_of_load hload himplicit
  obtain ⟨lib, hcloses⟩ := hclosed "shot" T hT
  exact ⟨s, hload, himplicit, T, hT, hmembers, hsize, lib, hcloses, (hlaid lib "shot" T hcloses).1⟩

/-- a small member behind a template that padding has moved -/
def overlapText : String :=
  "inner\n\x7b\n int x\n\x7d\nouter\n\x7b\n byte a\n inner b\n byte c\n\x7d\n"

/-- members are not always laid out as in a struct: the last one lies inside the template in front of it -/
theorem layout_overlaps :
    ∃ s, load false "templates.dat" overlapText ⟨{}, {}⟩ = .ok () s ∧
      (∀ words ∈ textWords overlapText, implicit words = true) ∧
      ∃ T, s.state.templates["outer"]? = some T ∧
        (declared T.members).map (fun m => (m.offset, m.size)) = [(0, 1), (4, 4), (5, 1)] ∧
        ¬ LaidOut (Member.alignment s.state) (fun _ m => m.stop) 0 (declared T.members) := by
  obtain ⟨s, hload, htest⟩ := exists_of_endsWith
    (show endsWith (load false "templates.dat" overlapText) ⟨{}, {}⟩ (fun lib =>
      lib.templates["outer"]?.any fun T =>
        decide ((declared T.members).map (fun m => (m.offset, m.size)) = [(0, 1), (4, 4), (5, 1)])) = true by
      decide +kernel)
  obtain ⟨T, hT, hplaces⟩ := (Option.any_eq_true _ _).1 htest
  have hmembers := of_decide_eq_true hplaces
  refine ⟨s, hload, by decide +kernel, T, hT, hmembers, fun hlaid => ?_⟩
  obtain ⟨a, rest, hrest, -, hmap⟩ := List.map_eq_cons_iff.1 hmembers
  obtain ⟨b, rest', rfl, hb, hmap⟩ := List.map_eq_cons_iff.1 hmap
  obtain ⟨c, rest'', rfl, hc, -⟩ := List.map_eq_cons_iff.1 hmap
  rw [hrest] at hlaid
  obtain ⟨-, -, hlast, -⟩ := hlaid
  have hstop : b.offset + b.size ≤ c.offset := hlast.1.2
  rw [Prod.mk.injEq] at hb hc
  omega

end Library
end Disasm
