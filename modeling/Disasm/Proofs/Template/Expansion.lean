import Mathlib
import Disasm.Proofs.Template.Layout

/-!
# Members of members

A template that is a member of another one brings its members with it.

* `Member.Nested d n m`  `m` is the member `n` of the template that the member `d` is;
* `Brings`, `Expands lib ds ms`  the members that come with one, and the flat list `ms` of the declared members `ds`;
* `Expanded`  what the lines of a file keep that may not replace entries: the declared members of a template stand on
  the lines between its head and its closing brace, and its list is the flat one;
* `MemberPath`  a way through nested templates, with the name, the offset and the depth that it stands for;
* `Library.Nests.exists_paths`  the members of a template are the paths through it, one each.
-/

namespace Disasm

open Disasm.Action

/-! ## flat lists -/

/-- `m` is the member `n` of the template that the member `d` is -/
structure Member.Nested (d n m : Member) : Prop where
  name : m.name = d.name ++ "." ++ n.name
  offset : m.offset = d.offset + n.offset
  size : m.size = n.size
  kind : m.kind = n.kind
  pointer : m.pointer = n.pointer
  array : m.array = n.array
  elementTemplate : m.elementTemplate = n.elementTemplate
  declared : m.declared? = n.declared?
  depth : m.places.length = n.places.length + 1

theorem nested_inside {n : Member} (h : n.places ≠ []) (outer : String) (d : Member) :
    d.Nested n (n.inside outer d.name d.offset) :=
  ⟨rfl, rfl, rfl, rfl, rfl, rfl, rfl, declared?_inside h outer d.name d.offset, List.length_append⟩

/-- the members that come with the member `d`: those of the template that it is -/
inductive Brings (lib : Library) (d : Member) : List Member → Prop
  | plain (hd : d.whole = none) : Brings lib d []
  | whole {inner : String} {T : Template} {ns : List Member} (hd : d.whole = some inner)
    (hT : lib.templates[inner]? = some T) (hns : List.Forall₂ d.Nested T.members ns) : Brings lib d ns

/-- the members `ds`, each with those that come with it behind it -/
inductive Expands (lib : Library) : List Member → List Member → Prop
  | nil : Expands lib [] []
  | cons {d : Member} {ns ds ms : List Member} (hd : Brings lib d ns) (h : Expands lib ds ms) :
    Expands lib (d :: ds) (d :: (ns ++ ms))

namespace Expands

variable {lib lib' : Library} {ds ds' ms ms' : List Member}

theorem append (h : Expands lib ds ms) (h' : Expands lib ds' ms') : Expands lib (ds ++ ds') (ms ++ ms') := by
  induction h with
  | nil => exact h'
  | cons hd _ ih =>
    rw [List.cons_append, List.cons_append, List.append_assoc]
    exact .cons hd ih

theorem single {d : Member} {ns : List Member} (hd : Brings lib d ns) : Expands lib [d] (d :: ns) := by
  have hcons := Expands.cons hd .nil
  rwa [List.append_nil] at hcons

theorem mono (hlib : lib.Extends lib') (h : Expands lib ds ms) : Expands lib' ds ms := by
  induction h with
  | nil => exact .nil
  | cons hd _ ih =>
    refine .cons ?_ ih
    cases hd with
    | plain hd => exact .plain hd
    | whole hd hT hns => exact .whole hd (hlib.templates _ _ hT) hns

theorem subset (h : Expands lib ds ms) : ds ⊆ ms := by
  induction h with
  | nil => exact List.Subset.refl _
  | cons _ _ ih => exact List.cons_subset_cons _ (List.subset_append_of_subset_right _ ih)

/-- a declared member that is a template brings the members of that template -/
theorem exists_nested (h : Expands lib ds ms) {d : Member} {inner : String} {T : Template} (hd : d ∈ ds)
    (hwhole : d.whole = some inner) (hT : lib.templates[inner]? = some T) {n : Member} (hn : n ∈ T.members) :
    ∃ m ∈ ms, d.Nested n m := by
  induction h with
  | nil => cases hd
  | @cons e ns ds ms he _ ih =>
    rcases List.mem_cons.1 hd with rfl | hd
    · cases he with
      | plain hnone =>
        rw [hnone] at hwhole
        cases hwhole
      | @whole inner' T' ns hwhole' hT' hns =>
        rw [hwhole] at hwhole'
        cases hwhole'
        rw [hT] at hT'
        cases hT'
        obtain ⟨m, hm, hnested⟩ := exists_of_forall₂ hns hn
        exact ⟨m, List.mem_cons_of_mem d (List.mem_append_left ms hm), hnested⟩
    · obtain ⟨m, hm, hnested⟩ := ih hd
      exact ⟨m, List.mem_cons_of_mem e (List.mem_append_right ns hm), hnested⟩

end Expands

namespace TemplateReader

/-! ## the lines of a template -/

/-- the member that a line of the template `outer` declares: with its name, with its offset where there is one, and
with the shape that its type word has in the library -/
inductive DeclaredOn (lib : Library) (outer : String) (words : List String) : Member → Prop
  | plain {given : Option Int} {word name : String} {offset : Int} {shape : Shape}
    (hwords : MemberLine words given word name) (hgiven : ∀ n, given = some n → offset = n)
    (hshape : lib.shape? word = some shape) (hplain : shape.template = none ∨ shape.array.isSome = true)
    (written : String) : DeclaredOn lib outer words (plainMember outer offset shape name written)
  | whole {given : Option Int} {word name inner : String} {offset : Int} {shape : Shape} {T : Template}
    (hwords : MemberLine words given word name) (hgiven : ∀ n, given = some n → offset = n)
    (hshape : lib.shape? word = some shape) (hinner : shape.template = some inner) (harray : shape.array = none)
    (hT : lib.templates[inner]? = some T) (written : String) :
    DeclaredOn lib outer words (wholeMember outer offset T inner shape.aliased name written)

section
variable {lib lib' : Library} {outer : String} {words : List String} {body : List (List String)} {d : Member}
  {ms : List Member}

theorem DeclaredOn.two_le_length (h : DeclaredOn lib outer words d) : 2 ≤ words.length := by
  cases h with
  | plain hwords => cases hwords <;> simp
  | whole hwords => cases hwords <;> simp

theorem DeclaredOn.places_length (h : DeclaredOn lib outer words d) : d.places.length = 1 := by
  cases h <;> rfl

theorem DeclaredOn.declared?_eq (h : DeclaredOn lib outer words d) : d.declared? = some d.name := by
  cases h <;> rfl

/-- the members of the template `outer`, of which these lines have been read: the lines of two words or more declare
members, each in a library that `lib` extends, and their flat list is `ms` -/
structure Composed (lib : Library) (outer : String) (body : List (List String)) (ms : List Member) : Prop where
  lines : List.Forall₂ (fun words d => ∃ lib₀ : Library, lib₀.Extends lib ∧ DeclaredOn lib₀ outer words d)
    (body.filter fun words => decide (2 ≤ words.length)) (declared ms)
  flat : Expands lib (declared ms) ms
  nodup : ((declared ms).map Member.name).Nodup

namespace Composed

theorem start : Composed lib outer [] [] := ⟨.nil, .nil, List.nodup_nil⟩

theorem mono (hlib : lib.Extends lib') (h : Composed lib outer body ms) : Composed lib' outer body ms := by
  refine ⟨h.lines.imp ?_, h.flat.mono hlib, h.nodup⟩
  intro words d ⟨lib₀, hlib₀, hd⟩
  exact ⟨lib₀, hlib₀.trans hlib, hd⟩

/-- a blank line or an opening brace -/
theorem skip (h : Composed lib outer body ms) (hwords : words.length < 2) :
    Composed lib outer (body ++ [words]) ms := by
  refine ⟨?_, h.flat, h.nodup⟩
  rw [List.filter_append, List.filter_cons_of_neg (by simpa using hwords), List.filter_nil, List.append_nil]
  exact h.lines

/-- a member is declared; `inner` are the members that come with it -/
theorem push (h : Composed lib outer body ms) (inner : List Member) (hd : DeclaredOn lib outer words d)
    (hnew : ∀ m ∈ ms, m.name ≠ d.name) (hinner : declared inner = []) (hbrings : Brings lib d inner) :
    Composed lib outer (body ++ [words]) (ms ++ d :: inner) := by
  have hdeclared : declared (ms ++ d :: inner) = declared ms ++ [d] := declared_append_cons hd.places_length hinner
  refine ⟨?_, ?_, ?_⟩
  · rw [hdeclared, List.filter_append, List.filter_cons_of_pos (by simpa using hd.two_le_length), List.filter_nil]
    exact List.rel_append h.lines (.cons ⟨lib, .refl lib, hd⟩ .nil)
  · rw [hdeclared]
    exact h.flat.append (.single hbrings)
  · rw [hdeclared, List.map_append]
    refine List.nodup_append.2 ⟨h.nodup, List.nodup_singleton _, ?_⟩
    intro a ha b hb hab
    obtain ⟨m, hm, rfl⟩ := List.mem_map.1 ha
    have hname : m.name = d.name := hab.trans (List.mem_singleton.1 hb)
    exact hnew m (List.mem_of_mem_filter hm) hname

theorem declared?_eq (h : Composed lib outer body ms) (hd : d ∈ declared ms) : d.declared? = some d.name := by
  obtain ⟨words, -, lib₀, -, hon⟩ := exists_of_forall₂ h.lines.flip hd
  exact hon.declared?_eq

end Composed

section
variable {t : OpenTemplate} {given : Option Int} {word name written : String} {shape : Shape}

theorem withPlain_composed (h : Composed lib t.name body t.members.reverse) (hwords : MemberLine words given word name)
    (hshape : lib.shape? word = some shape) (hplain : shape.template = none ∨ shape.array.isSome = true)
    (hnew : ∀ m ∈ t.members, m.name ≠ name) :
    Composed lib t.name (body ++ [words]) (withPlain lib t given shape name written).members.reverse := by
  have hd : DeclaredOn lib t.name words
      (plainMember t.name (given.getD (padUp t.offset (alignment lib shape))) shape name written) :=
    .plain hwords (fun n hn => by rw [hn]; rfl) hshape hplain written
  have hpush := h.push [] hd (fun m hm => hnew m (List.mem_reverse.1 hm)) rfl (.plain rfl)
  simpa [withPlain] using hpush

theorem withTemplate_composed {inner : String} {u : Template} (h : Composed lib t.name body t.members.reverse)
    (hwords : MemberLine words given word name) (hshape : lib.shape? word = some shape)
    (hinner : shape.template = some inner) (harray : shape.array = none) (hu : lib.templates[inner]? = some u)
    (hplaces : ∀ m ∈ u.members, m.places ≠ []) (hnew : ∀ m ∈ t.members, m.name ≠ name) :
    Composed lib t.name (body ++ [words])
      (withTemplate t given u inner shape.aliased name written).members.reverse := by
  have hd : DeclaredOn lib t.name words
      (wholeMember t.name (given.getD (padUp t.offset u.padding)) u inner shape.aliased name written) :=
    .whole hwords (fun n hn => by rw [hn]; rfl) hshape hinner harray hu written
  have hnested := List.forall₂_map_right_iff.2 (List.forall₂_same.2 fun n hn => nested_inside (hplaces n hn) t.name
    (wholeMember t.name (given.getD (padUp t.offset u.padding)) u inner shape.aliased name written))
  have hmembers : (withTemplate t given u inner shape.aliased name written).members.reverse = t.members.reverse ++
      wholeMember t.name (given.getD (padUp t.offset u.padding)) u inner shape.aliased name written ::
        u.members.map (·.inside t.name name (given.getD (padUp t.offset u.padding))) := by
    simp [withTemplate]
  rw [hmembers]
  exact h.push _ hd (fun m hm => hnew m (List.mem_reverse.1 hm)) (declared_inside hplaces t.name name _)
    (.whole rfl hu hnested)

end
end

/-! ## files -/

/-- what the lines of a file keep that may not replace entries; `lines` are those that have been read -/
structure Expanded (lines : List (List String)) (r : TemplateReader) : Prop where
  regular : r.Regular
  fresh : r.Fresh
  stored : ∀ (name : String) (T : Template), r.library.templates[name]? = some T → ∃ before rest body after,
    lines = before ++ (name :: rest) :: (body ++ ["\x7d"] :: after) ∧ Composed r.library name body T.members
  pending : ∀ t, r.pending = some t → ∃ before rest body,
    lines = before ++ (t.name :: rest) :: body ∧ Composed r.library t.name body t.members.reverse

theorem Expanded.start : Expanded [] ⟨{}, none⟩ where
  regular := regular_idle Library.Regular.empty
  fresh := fresh_idle {}
  stored name T hT := by
    rw [Std.TreeMap.getElem?_emptyc] at hT
    cases hT
  pending t ht := by cases ht

section
variable {lines : List (List String)} {words : List String} {r r' : TemplateReader}

/-- templates stay where they are when lines are added -/
theorem Expanded.stored_mono (h : Expanded lines r) (hlib : r.library.Extends r'.library) (words : List String)
    {name : String} {T : Template} (hT : r.library.templates[name]? = some T) : ∃ before rest body after,
      lines ++ [words] = before ++ (name :: rest) :: (body ++ ["\x7d"] :: after) ∧
        Composed r'.library name body T.members := by
  obtain ⟨before, rest, body, after, hlines, hcomposed⟩ := h.stored name T hT
  refine ⟨before, rest, body, after ++ [words], ?_, hcomposed.mono hlib⟩
  simp [hlines]

/-- the line is one of the template under way -/
theorem Expanded.pending_mono (h : Expanded lines r) {t t' : OpenTemplate} (ht : r.pending = some t)
    (hname : t'.name = t.name) (hnext : ∀ body, Composed r.library t.name body t.members.reverse →
      Composed r'.library t.name (body ++ [words]) t'.members.reverse) : ∃ before rest body,
      lines ++ [words] = before ++ (t'.name :: rest) :: body ∧ Composed r'.library t'.name body t'.members.reverse := by
  obtain ⟨before, rest, body, hlines, hcomposed⟩ := h.pending t ht
  rw [hname]
  refine ⟨before, rest, body ++ [words], ?_, hnext body hcomposed⟩
  simp [hlines]

/-- every line that is accepted keeps it -/
theorem Expanded.step (hs : Step false r words r') (h : Expanded lines r) : Expanded (lines ++ [words]) r' := by
  have hregular := Regular.step hs h.regular
  obtain ⟨hfresh, hlib⟩ := h.fresh.step hs
  have hstored : ∀ (name : String) (T : Template), r.library.templates[name]? = some T → _ :=
    fun name T hT => h.stored_mono hlib words hT
  cases hs with
  | blank =>
    refine ⟨hregular, hfresh, hstored, fun t ht => ?_⟩
    exact h.pending_mono ht rfl fun body hbody => hbody.skip (by simp)
  | aliasLine => exact ⟨hregular, hfresh, hstored, fun t ht => by cases ht⟩
  | constantLine => exact ⟨hregular, hfresh, hstored, fun t ht => by cases ht⟩
  | @head lib first rest =>
    refine ⟨hregular, hfresh, hstored, fun t ht => ?_⟩
    cases ht
    exact ⟨lines, rest, [], rfl, .start⟩
  | @brace lib t hclosed =>
    refine ⟨hregular, hfresh, hstored, fun t' ht' => ?_⟩
    cases ht'
    exact h.pending_mono rfl rfl fun body hbody => hbody.skip (by simp)
  | @close lib t hopen =>
    refine ⟨hregular, hfresh, fun name T hT => ?_, fun t' ht' => by cases ht'⟩
    have hget : (lib.templates.insert t.name (OpenTemplate.close t))[name]? = some T := hT
    rw [Std.TreeMap.getElem?_insert] at hget
    split at hget
    · next heq =>
      cases hget
      obtain rfl := Std.LawfulEqCmp.compare_eq_iff_eq.1 heq
      obtain ⟨before, rest, body, hlines, hcomposed⟩ := h.pending t rfl
      refine ⟨before, rest, body, [], by simp [hlines], ?_⟩
      rw [members_close]
      exact hcomposed.mono hlib
    · exact hstored name T hget
  | @plain lib refs t words given word name shape hopen hwords hshape hplain hname hnew =>
    refine ⟨hregular, hfresh, hstored, fun t' ht' => ?_⟩
    cases ht'
    refine h.pending_mono rfl rfl fun body hbody => ?_
    exact withPlain_composed (hbody.mono hlib) hwords hshape.shape_eq hplain hnew
  | @template lib refs t words given word name shape inner u hopen hwords hshape hinner harray hu hname hnew =>
    have hplaces : ∀ m ∈ u.members, m.places ≠ [] := fun m hm =>
      ((h.regular.library.templates_regular inner u hu).members_regular m hm).places_ne_nil
    refine ⟨hregular, hfresh, hstored, fun t' ht' => ?_⟩
    cases ht'
    refine h.pending_mono rfl rfl fun body hbody => ?_
    exact withTemplate_composed (hbody.mono hlib) hwords hshape.shape_eq hinner harray hu hplaces hnew

/-- what every line keeps, the lines of a file keep -/
theorem Expanded.steps {more : List (List String)} (hs : Steps false r more r') (h : Expanded lines r) :
    Expanded (lines ++ more) r' := by
  induction hs generalizing lines with
  | nil r =>
    rw [List.append_nil]
    exact h
  | cons head tail ih =>
    have hmore := ih (h.step head)
    rwa [List.append_assoc] at hmore

end
end TemplateReader

/-! ## paths -/

/-- a way through nested templates: the members on it, from the outermost inwards -/
inductive MemberPath where
  | here (d : Member)
  | through (d : Member) (rest : MemberPath)

namespace MemberPath

/-- the names on the path, with dots between them -/
def name : MemberPath → String
  | here d => d.name
  | through d rest => d.name ++ "." ++ rest.name

/-- the sum of the offsets on the path -/
def offset : MemberPath → Int
  | here d => d.offset
  | through d rest => d.offset + rest.offset

def length : MemberPath → Nat
  | here _ => 1
  | through _ rest => rest.length + 1

/-- the innermost member -/
def last : MemberPath → Member
  | here d => d
  | through _ rest => rest.last

/-- the path starts with one of the members `ds`, and goes on from a member that is a template to a member that this
template declares -/
def Valid (lib : Library) : List Member → MemberPath → Prop
  | ds, here d => d ∈ ds
  | ds, through d rest => d ∈ ds ∧ ∃ inner T, d.whole = some inner ∧ lib.templates[inner]? = some T ∧
      rest.Valid lib (declared T.members)

theorem Valid.mono {lib : Library} {ds ds' : List Member} {p : MemberPath} (h : p.Valid lib ds) (hds : ds ⊆ ds') :
    p.Valid lib ds' := by
  cases p with
  | here d => exact hds h
  | through d rest => exact ⟨hds h.1, h.2⟩

end MemberPath

/-- the member stands at the end of the path -/
structure Member.Follows (m : Member) (p : MemberPath) : Prop where
  name : m.name = p.name
  offset : m.offset = p.offset
  depth : m.places.length = p.length
  size : m.size = p.last.size
  kind : m.kind = p.last.kind
  pointer : m.pointer = p.last.pointer
  array : m.array = p.last.array
  elementTemplate : m.elementTemplate = p.last.elementTemplate
  declared : m.declared? = some p.last.name

/-- a member that the list declares itself -/
theorem follows_here {d : Member} (hlength : d.places.length = 1) (hdeclared : d.declared? = some d.name) :
    d.Follows (.here d) :=
  ⟨rfl, rfl, hlength, rfl, rfl, rfl, rfl, rfl, hdeclared⟩

theorem Member.Nested.follows {d n m : Member} {p : MemberPath} (h : d.Nested n m) (hn : n.Follows p) :
    m.Follows (.through d p) where
  name := by rw [h.name, hn.name]; rfl
  offset := by rw [h.offset, hn.offset]; rfl
  depth := by rw [h.depth, hn.depth]; rfl
  size := h.size.trans hn.size
  kind := h.kind.trans hn.kind
  pointer := h.pointer.trans hn.pointer
  array := h.array.trans hn.array
  elementTemplate := h.elementTemplate.trans hn.elementTemplate
  declared := h.declared.trans hn.declared

/-- the lists of all templates are flat, and the members that a template declares have names of their own -/
structure Library.Nests (lib : Library) : Prop where
  flat : ∀ (name : String) (T : Template), lib.templates[name]? = some T → Expands lib (declared T.members) T.members
  named : ∀ (name : String) (T : Template), lib.templates[name]? = some T →
    ∀ d ∈ declared T.members, d.declared? = some d.name
  nodup : ∀ (name : String) (T : Template), lib.templates[name]? = some T →
    ((declared T.members).map Member.name).Nodup

/-- no template declares a member with a dot in its name -/
def Library.Dotless (lib : Library) : Prop :=
  ∀ (name : String) (T : Template), lib.templates[name]? = some T → ∀ d ∈ declared T.members, '.' ∉ d.name.toList

instance (lib : Library) : Decidable lib.Dotless :=
  decidable_of_iff (∀ e ∈ lib.templates.toList, ∀ d ∈ declared e.2.members, '.' ∉ d.name.toList)
    ⟨fun h name T hT => h (name, T) (Std.TreeMap.mem_toList_iff_getElem?_eq_some.2 hT),
      fun h e he => h e.1 e.2 (Std.TreeMap.mem_toList_iff_getElem?_eq_some.1 he)⟩

theorem places_of_mem_declared {ms : List Member} {d : Member} (h : d ∈ declared ms) : d.places.length = 1 := by
  have hone := (List.mem_filter.1 h).2
  exact eq_of_beq hone

namespace Library.Nests

variable {lib : Library}

/-- every member stands at the end of a path; the induction is on the depth of the member -/
theorem exists_path (h : lib.Nests) {ds ms : List Member} (hflat : Expands lib ds ms)
    (hds : ∀ d ∈ ds, d.places.length = 1 ∧ d.declared? = some d.name) {m : Member} (hm : m ∈ ms) :
    ∃ p : MemberPath, p.Valid lib ds ∧ m.Follows p := by
  induction hdepth : m.places.length using Nat.strong_induction_on generalizing ds ms m with
  | _ depth ih =>
    induction hflat with
    | nil => cases hm
    | @cons d ns ds ms hd _ ihflat =>
      rcases List.mem_cons.1 hm with rfl | hm
      · obtain ⟨hlength, hname⟩ := hds m List.mem_cons_self
        exact ⟨.here m, List.mem_cons_self, follows_here hlength hname⟩
      · rcases List.mem_append.1 hm with hm | hm
        · cases hd with
          | plain => cases hm
          | @whole inner T ns hwhole hT hns =>
            -- a member of `d`: the path goes through `d`
            obtain ⟨n, hn, hnested⟩ := exists_of_forall₂ hns.flip hm
            have hlength : n.places.length < depth := by
              have := hnested.depth
              omega
            obtain ⟨p, hp, hfollows⟩ := ih n.places.length hlength (h.flat inner T hT)
              (fun e he => ⟨places_of_mem_declared he, h.named inner T hT e he⟩) hn rfl
            exact ⟨.through d p, ⟨List.mem_cons_self, inner, T, hwhole, hT, hp⟩, hnested.follows hfollows⟩
        · obtain ⟨p, hp, hfollows⟩ := ihflat (fun e he => hds e (List.mem_cons_of_mem d he)) hm
          exact ⟨p, hp.mono (List.subset_cons_self d ds), hfollows⟩

/-- and every path leads to a member -/
theorem exists_member (h : lib.Nests) {ds ms : List Member} (hflat : Expands lib ds ms)
    (hds : ∀ d ∈ ds, d.places.length = 1 ∧ d.declared? = some d.name) {p : MemberPath} (hp : p.Valid lib ds) :
    ∃ m ∈ ms, m.Follows p := by
  induction p generalizing ds ms with
  | here d =>
    obtain ⟨hlength, hname⟩ := hds d hp
    exact ⟨d, hflat.subset hp, follows_here hlength hname⟩
  | through d rest ih =>
    obtain ⟨hd, inner, T, hwhole, hT, hrest⟩ := hp
    obtain ⟨n, hn, hfollows⟩ := ih (h.flat inner T hT)
      (fun e he => ⟨places_of_mem_declared he, h.named inner T hT e he⟩) hrest
    obtain ⟨m, hm, hnested⟩ := hflat.exists_nested hd hwhole hT hn
    exact ⟨m, hm, hnested.follows hfollows⟩

/-- paths differ in their names -/
theorem path_unique (h : lib.Nests) (hdot : lib.Dotless) {ds : List Member} (hnodup : (ds.map Member.name).Nodup)
    (hds : ∀ d ∈ ds, '.' ∉ d.name.toList) {p q : MemberPath} (hp : p.Valid lib ds) (hq : q.Valid lib ds)
    (hname : p.name = q.name) : p = q := by
  have hdotted : ∀ (e : Member) (rest : MemberPath), '.' ∈ (e.name ++ "." ++ rest.name).toList := by
    intro e rest
    rw [String.toList_append, String.toList_append]
    simp
  induction p generalizing ds q with
  | here d =>
    cases q with
    | here e => rw [List.inj_on_of_nodup_map hnodup hp hq hname]
    | through e rest =>
      have hname' : d.name = e.name ++ "." ++ rest.name := hname
      exact absurd (hname' ▸ hdotted e rest) (hds d hp)
  | through d rest ih =>
    obtain ⟨hd, inner, T, hwhole, hT, hrest⟩ := hp
    cases q with
    | here e =>
      have hname' : d.name ++ "." ++ rest.name = e.name := hname
      exact absurd (hname' ▸ hdotted d rest) (hds e hq)
    | through e rest' =>
      obtain ⟨he, inner', T', hwhole', hT', hrest'⟩ := hq
      have hname' : d.name ++ "." ++ rest.name = e.name ++ "." ++ rest'.name := hname
      -- the name up to its first dot is the name of the first member
      have htop : d.name = e.name := by
        rw [← topName_dotted (hds d hd) rest.name, hname', topName_dotted (hds e he)]
      obtain rfl := List.inj_on_of_nodup_map hnodup hd he htop
      rw [hwhole] at hwhole'
      cases hwhole'
      rw [hT] at hT'
      cases hT'
      rw [ih (h.nodup inner T hT) (hdot inner T hT) hrest hrest' ((String.append_right_inj _).1 hname')]

/-- no member has a dot in the name that it was declared with -/
theorem last_undotted (hdot : lib.Dotless) {ds : List Member} (hds : ∀ d ∈ ds, '.' ∉ d.name.toList) {p : MemberPath}
    (hp : p.Valid lib ds) : '.' ∉ p.last.name.toList := by
  induction p generalizing ds with
  | here d => exact hds d hp
  | through d rest ih =>
    obtain ⟨-, inner, T, -, hT, hrest⟩ := hp
    exact ih (hdot inner T hT) hrest

/-- without dots in declared names, the members of a template are the paths through it, each once -/
theorem exists_paths (h : lib.Nests) (hregular : lib.Regular) (hdot : lib.Dotless) {name : String} {T : Template}
    (hT : lib.templates[name]? = some T) :
    ∃ ps : List MemberPath, ps.Nodup ∧ (∀ p, p ∈ ps ↔ p.Valid lib (declared T.members)) ∧
      List.Forall₂ Member.Follows T.members ps := by
  have hds : ∀ d ∈ declared T.members, d.places.length = 1 ∧ d.declared? = some d.name :=
    fun d hd => ⟨places_of_mem_declared hd, h.named name T hT d hd⟩
  have hpaths : ∀ m ∈ T.members, ∃ p : MemberPath, p.Valid lib (declared T.members) ∧ m.Follows p :=
    fun m hm => h.exists_path (h.flat name T hT) hds hm
  have hnonempty : Nonempty MemberPath := ⟨.here { offset := 0, size := 0, name := "" }⟩
  choose! path hvalid hfollows using hpaths
  refine ⟨T.members.map path, ?_, fun p => ⟨fun hp => ?_, fun hp => ?_⟩, ?_⟩
  · -- members have different names, hence so have their paths
    have hundotted : Undotted T.members := by
      intro m hm declaredName hname
      rw [(hfollows m hm).declared] at hname
      cases hname
      exact last_undotted hdot (hdot name T hT) (hvalid m hm)
    have hnodup := ((hregular.templates_regular name T hT).members_distinct hundotted).1
    have hnames : (T.members.map path).map MemberPath.name = T.members.map Member.name := by
      rw [List.map_map]
      exact List.map_congr_left fun m hm => (hfollows m hm).name.symm
    exact List.Nodup.of_map MemberPath.name (hnames ▸ hnodup)
  · obtain ⟨m, hm, rfl⟩ := List.mem_map.1 hp
    exact hvalid m hm
  · obtain ⟨m, hm, hmp⟩ := h.exists_member (h.flat name T hT) hds hp
    have hsame : path m = p := h.path_unique hdot (h.nodup name T hT) (hdot name T hT) (hvalid m hm) hp
      ((hfollows m hm).name.symm.trans hmp.name)
    exact List.mem_map.2 ⟨m, hm, hsame⟩
  · exact List.forall₂_map_right_iff.2 (List.forall₂_same.2 hfollows)

end Library.Nests

/-! ## loads -/

open TemplateReader

theorem TemplateReader.Expanded.nests {lines : List (List String)} {r : TemplateReader} (h : Expanded lines r) :
    r.library.Nests where
  flat name T hT := by
    obtain ⟨_, _, _, _, -, hcomposed⟩ := h.stored name T hT
    exact hcomposed.flat
  named name T hT d hd := by
    obtain ⟨_, _, _, _, -, hcomposed⟩ := h.stored name T hT
    exact hcomposed.declared?_eq hd
  nodup name T hT := by
    obtain ⟨_, _, _, _, -, hcomposed⟩ := h.stored name T hT
    exact hcomposed.nodup

theorem Library.expanded_of_load {file text : String} {c : Console} {s : Session Library}
    (h : load false file text ⟨{}, c⟩ = .ok () s) : Expanded (textWords text) ⟨s.state, none⟩ :=
  Expanded.start.steps ((load_yields false file text ⟨{}, c⟩).of_ok h).1

end Disasm
