import Mathlib
import Disasm.Annotation.Load
import Disasm.Proofs.Annotation.Placement
import Disasm.Proofs.Template.Invariant
import Disasm.Proofs.Template.Report

/-!
# Steps of reading annotations

* `Spot`, `Labels.Holds`  where ranges are kept, and that one is kept there;
* `Drawn lib r`  what a range is made of: bytes, a member of a template, or what a type word declares;
* `Drawn.storable`, `Drawn.pointer_expected`  so it can be kept, and leads to a template that is there or expected;
* `Step`, `Steps`  ranges are kept, type words leave references open, and all else leaves both alone.  `Steps` lists
  the ranges that are built on the way;
* `Idle a`, `Proceeds here s P a`  the action `a` leaves ranges and references alone, or takes such steps, however it
  ends, and never ends with a range that cannot be kept.  One lemma for each way of making an action.
-/

namespace Disasm

open Disasm.Action

/-! ## ranges that are held -/

/-- a place at which a range is kept: among the symbols, or with the locals or the arguments of a function -/
inductive Spot where
  | symbol (addr : Int)
  | frame (func addr : Int)
  | arg (func : Int) (key : String)

namespace Labels

/-- the labels with one more range -/
def put (l : Labels) (r : Range) : Spot → Labels
  | .symbol addr => { l with ranges := l.ranges.add addr r }
  | .frame func addr =>
    { l with localRanges := l.localRanges.alter func fun t => some ((t.getD {}).add addr r) }
  | .arg func key => { l with args := l.args.alter func fun t => some ((t.getD {}).insert key r) }

/-- the range is kept at the spot -/
def Holds (l : Labels) (r : Range) : Spot → Prop
  | .symbol addr => r ∈ l.ranges.getD addr []
  | .frame func addr => r ∈ (l.localRangesOf func).getD addr []
  | .arg func key => (l.args[func]?.getD {})[key]? = some r

end Labels

theorem RangeTable.mem_add {t : RangeTable} {start addr : Int} {r r' : Range}
    (h : r' ∈ (t.add start r).getD addr []) : r' = r ∨ r' ∈ t.getD addr [] := by
  rw [Std.TreeMap.getD_eq_getD_getElem?] at h ⊢
  rw [show (t.add start r)[addr]? = _ from getElem?_append t start addr r] at h
  split at h
  · rw [Option.getD_some] at h
    exact (List.mem_append.1 h).symm.imp_left List.mem_singleton.1
  · exact .inr h

/-- a range that is kept behind a change was kept before or is the new one -/
theorem Labels.holds_put {l : Labels} {r r' : Range} {spot spot' : Spot} (h : (l.put r spot).Holds r' spot') :
    r' = r ∨ l.Holds r' spot' := by
  cases spot with
  | symbol addr =>
    cases spot' with
    | symbol addr' => exact RangeTable.mem_add h
    | frame | arg => exact .inr h
  | frame func addr =>
    cases spot' with
    | symbol | arg => exact .inr h
    | frame func' addr' =>
      unfold Labels.Holds Labels.localRangesOf at h ⊢
      unfold Labels.put at h
      dsimp only at h ⊢
      rw [Std.TreeMap.getD_alter] at h
      split at h
      · next heq =>
        rw [Std.LawfulEqCmp.eq_of_compare heq, ← Std.TreeMap.getD_eq_getD_getElem?] at h
        exact RangeTable.mem_add h
      · exact .inr h
  | arg func key =>
    cases spot' with
    | symbol | frame => exact .inr h
    | arg func' key' =>
      unfold Labels.Holds at h ⊢
      unfold Labels.put at h
      dsimp only at h ⊢
      rw [Std.TreeMap.getElem?_alter] at h
      split at h
      · next heq =>
        rw [Std.LawfulEqCmp.eq_of_compare heq, Option.getD_some, Std.TreeMap.getElem?_insert] at h
        split at h
        · exact .inl (Option.some.inj h).symm
        · exact .inr h
      · exact .inr h

theorem Labels.not_holds_empty (r : Range) (spot : Spot) : ¬ ({} : Labels).Holds r spot := by
  intro h
  cases spot with
  | symbol addr =>
    unfold Labels.Holds at h
    dsimp only at h
    rw [Std.TreeMap.getD_emptyc] at h
    cases h
  | frame func addr =>
    unfold Labels.Holds Labels.localRangesOf at h
    dsimp only at h
    rw [Std.TreeMap.getD_emptyc, Std.TreeMap.getD_emptyc] at h
    cases h
  | arg func key =>
    unfold Labels.Holds at h
    dsimp only at h
    rw [Std.TreeMap.getElem?_emptyc, Option.getD_none, Std.TreeMap.getElem?_emptyc] at h
    cases h

/-! ## what ranges are made of -/

/-- what is kept is no template -/
theorem Range.kind_kept {r : Range} (h : r.Storable) : r.kept.kind ≠ .template := by
  unfold kept
  split
  · exact fun hkind => by cases hkind
  · next harray => exact h.resolve_left harray

open Annotations in
/-- a range is drawn from a number of bytes, from a member of a template, or from the shape of a type word; where that
shape is a template, it is an array of it -/
inductive Drawn (lib : Library) : Range → Prop
  | bytes (size : Int) (name : String) : Drawn lib { size, name }
  | member {inner : String} {t : Template} {m : Member} (ht : lib.templates[inner]? = some t) (hm : m ∈ t.members)
    (name : String) : Drawn lib (memberRange name m)
  | localMember {inner : String} {t : Template} {m : Member} (ht : lib.templates[inner]? = some t)
    (hm : m ∈ t.members) (name : String) : Drawn lib (localMemberRange name m)
  | shape {word : String} {shape : Shape} (hs : Declares lib none word shape)
    (hplain : shape.template = none ∨ shape.array.isSome = true) (name : String) :
    Drawn lib (Range.ofShape name shape)
  | arg {word : String} {shape : Shape} (hs : Declares lib none word shape) (hkind : shape.kind ≠ .template)
    (name : String) : Drawn lib { size := shape.size, name, kind := shape.kind, pointer := shape.pointer }

theorem Declares.expecting {lib : Library} {word : String} {shape : Shape} (h : Declares lib none word shape)
    (refs : List ForwardReference) : Declares (lib.expecting refs) none word shape := by
  have helement : ∀ {shape : Shape}, Element lib none shape → Element (lib.expecting refs) none shape := by
    intro shape he
    cases he with
    | basic t => exact .basic t
    | template ht => exact .template ht
    | pointerToVoid p => exact .pointerToVoid p
    | pointerToBasic p => exact .pointerToBasic p
    | pointerToTemplate p hp =>
      refine .pointerToTemplate p (hp.imp_right fun hp => hp.imp_right ?_)
      rintro ⟨r, hr, hname⟩
      exact ⟨r, List.mem_append_left refs hr, hname⟩
  refine ⟨h.shape_eq, ?_⟩
  cases h.formed with
  | bytes hw hn => exact .bytes hw hn
  | element hw he aliased => exact .element hw (helement he) aliased
  | array hw he aliased hl => exact .array hw (helement he) aliased hl

namespace Drawn

variable {lib : Library} {r : Range}

theorem expecting (h : Drawn lib r) (refs : List ForwardReference) : Drawn (lib.expecting refs) r := by
  cases h with
  | bytes size name => exact .bytes size name
  | @member inner t m ht hm name =>
    have ht' : (lib.expecting refs).templates[inner]? = some t := ht
    exact .member ht' hm name
  | @localMember inner t m ht hm name =>
    have ht' : (lib.expecting refs).templates[inner]? = some t := ht
    exact .localMember ht' hm name
  | shape hs hplain name => exact .shape (hs.expecting refs) hplain name
  | arg hs hkind name => exact .arg (hs.expecting refs) hkind name

/-- a range that is a template is an array of it -/
theorem storable (h : Drawn lib r) (hlib : lib.Regular) : r.Storable := by
  have hmember : ∀ {inner : String} {t : Template} {m : Member}, lib.templates[inner]? = some t → m ∈ t.members →
      m.array.isSome = true ∨ m.kind ≠ .template := by
    intro inner t m ht hm
    by_cases hkind : m.kind = .template
    · exact .inl (((hlib.templates_regular inner t ht).members_regular m hm).template_array hkind).1
    · exact .inr hkind
  cases h with
  | bytes size name => exact .inr fun hkind => by cases hkind
  | member ht hm name => exact hmember ht hm
  | localMember ht hm name => exact hmember ht hm
  | @shape word shape hs hplain name =>
    by_cases hkind : shape.kind = .template
    · obtain ⟨inner, hinner, -⟩ := hs.template_stored hkind
      refine .inl (hplain.resolve_left fun hnone => ?_)
      rw [hinner] at hnone
      cases hnone
    · exact .inr hkind
  | arg hs hkind name => exact .inr hkind

/-- a range that is a pointer to a template leads to one that is there or expected -/
theorem pointer_expected (h : Drawn lib r) (hlib : lib.Regular) (hkind : r.kind = .pointerToTemplate) :
    ∃ p, r.pointer = some p ∧ lib.Expects none p.target := by
  cases h with
  | bytes size name => cases hkind
  | member ht hm name => exact ((hlib.templates_regular _ _ ht).members_regular _ hm).pointer_expected hkind
  | localMember ht hm name =>
    obtain ⟨p, hp, hexpects⟩ := ((hlib.templates_regular _ _ ht).members_regular _ hm).pointer_expected hkind
    refine ⟨{ p with depth := 0 }, ?_, hexpects⟩
    show Option.map _ _ = _
    rw [hp]
    rfl
  | shape hs hplain name => exact hs.pointer_expected hkind
  | arg hs hkind' name => exact hs.pointer_expected hkind

end Drawn

namespace Annotations

/-! ## steps -/

/-- references and ranges are the same -/
structure Aside (a b : Annotations) : Prop where
  library : b.library = a.library
  held : ∀ r spot, b.labels.Holds r spot ↔ a.labels.Holds r spot

theorem Aside.refl (a : Annotations) : Aside a a := ⟨rfl, fun _ _ => Iff.rfl⟩

theorem Aside.trans {a b c : Annotations} (h : Aside a b) (h' : Aside b c) : Aside a c :=
  ⟨h'.library.trans h.library, fun r spot => (h'.held r spot).trans (h.held r spot)⟩

/-- one step, with the range that is built in it; references come from the places `here` -/
inductive Step (here : Location → Prop) (a : Annotations) : List Range → Annotations → Prop
  | aside {b : Annotations} (h : Aside a b) : Step here a [] b
  | declare {loc : Location} {word : String} {shape : Shape} (hloc : here loc) (hword : word ∈ Text.words loc.line)
    (hshape : a.library.shape? word = some shape) :
    Step here a [] { a with library := a.library.expecting (a.library.opened loc none shape) }
  | keep {r : Range} (hr : Drawn a.library r) (spot : Spot) :
    Step here a [r] { a with labels := a.labels.put r.kept spot }

/-- some steps, with the ranges that are built in them -/
inductive Steps (here : Location → Prop) (a : Annotations) : List Range → Annotations → Prop
  | start : Steps here a [] a
  | step {built new : List Range} {b c : Annotations} (h : Steps here a built b) (hs : Step here b new c) :
    Steps here a (built ++ new) c

/-- a reference to a template that is not there, which a type word at one of the places leaves open -/
structure Opens (here : Location → Prop) (lib : Library) (r : ForwardReference) : Prop where
  place : here r.location
  absent : lib.templates.contains r.name = false
  word : ∃ word ∈ Text.words r.location.line, ∃ shape, lib.shape? word = some shape ∧
    shape.kind = .pointerToTemplate ∧ shape.pointer.map Pointer.target = some r.name

namespace Steps

variable {here : Location → Prop} {a b c : Annotations} {built built' : List Range}

theorem trans (h : Steps here a built b) (h' : Steps here b built' c) : Steps here a (built ++ built') c := by
  induction h' with
  | start => rwa [List.append_nil]
  | step _ hs ih =>
    rw [← List.append_assoc]
    exact ih.step hs

/-- only references are added to the library, each by a type word -/
theorem library (h : Steps here a built b) :
    ∃ refs, b.library = a.library.expecting refs ∧ ∀ r ∈ refs, Opens here a.library r := by
  induction h with
  | start => exact ⟨[], (Library.expecting_nil _).symm, List.forall_mem_nil _⟩
  | @step built new b c _ hs ih =>
    obtain ⟨refs, hlib, hopens⟩ := ih
    cases hs with
    | aside h => exact ⟨refs, h.library.trans hlib, hopens⟩
    | keep hr spot => exact ⟨refs, hlib, hopens⟩
    | @declare loc word shape hloc hword hshape =>
      refine ⟨refs ++ b.library.opened loc none shape, ?_, fun r hr => ?_⟩
      · dsimp only
        rw [hlib]
        unfold Library.expecting
        rw [List.append_assoc]
      · rcases List.mem_append.1 hr with hr | hr
        · exact hopens r hr
        · obtain ⟨hkind, htarget, rfl, habsent⟩ := Library.mem_opened loc hr
          rw [hlib] at hshape habsent
          exact ⟨hloc, habsent, word, hword, shape, hshape, hkind, htarget⟩

theorem regular (h : Steps here a built b) (hlib : a.library.Regular) : b.library.Regular := by
  obtain ⟨refs, hrefs, -⟩ := h.library
  rw [hrefs]
  exact hlib.expecting refs

theorem drawn_mono (h : Steps here a built b) {r : Range} (hr : Drawn a.library r) : Drawn b.library r := by
  obtain ⟨refs, hrefs, -⟩ := h.library
  rw [hrefs]
  exact hr.expecting refs

/-- what is built is drawn from the library -/
theorem drawn (h : Steps here a built b) : ∀ r ∈ built, Drawn b.library r := by
  induction h with
  | start => exact List.forall_mem_nil _
  | @step built new b c h hs ih =>
    have hstep : Steps here b ([] ++ new) c := Steps.start.step hs
    intro r hr
    rcases List.mem_append.1 hr with hr | hr
    · exact hstep.drawn_mono (ih r hr)
    · cases hs with
      | aside => cases hr
      | declare => cases hr
      | keep hdrawn spot => rwa [List.mem_singleton.1 hr]

/-- what is held was held before or has been built -/
theorem held (h : Steps here a built b) {r : Range} {spot : Spot} (hr : b.labels.Holds r spot) :
    a.labels.Holds r spot ∨ ∃ r' ∈ built, r = r'.kept := by
  induction h with
  | start => exact .inl hr
  | @step built new b c h hs ih =>
    have hold : b.labels.Holds r spot → a.labels.Holds r spot ∨ ∃ r' ∈ built ++ new, r = r'.kept := by
      refine fun hb => (ih hb).imp_right ?_
      rintro ⟨r', hr', he⟩
      exact ⟨r', List.mem_append_left new hr', he⟩
    cases hs with
    | aside haside => exact hold ((haside.held r spot).1 hr)
    | declare => exact hold hr
    | @keep r' hr' spot' =>
      rcases Labels.holds_put hr with rfl | hr
      · exact .inr ⟨r', List.mem_append_right built (List.mem_singleton_self r'), rfl⟩
      · exact hold hr

end Steps

/-! ## actions that take no step of note -/

section
variable {α β : Type}

/-- the action leaves references and ranges alone, and does not build any -/
structure Idle (a : Work α) : Prop where
  run : ∀ s, Yields a s (fun _ t => Aside s.state t) (fun f t => Aside s.state t ∧ f ≠ .templateRange)

namespace Idle

theorem pure (x : α) : Idle (Pure.pure x : Work α) := ⟨fun s => Yields.pure (.refl s.state)⟩

theorem bind {a : Work α} {f : α → Work β} (ha : Idle a) (hf : ∀ x, Idle (f x)) : Idle (a >>= f) := by
  refine ⟨fun s => Yields.bind ((ha.run s).imp ?_ fun _ _ h => h)⟩
  intro x t hst c
  refine ((hf x).run ⟨t, c⟩).imp ?_ ?_
  · intro y u htu
    exact hst.trans htu
  · rintro e u ⟨htu, he⟩
    exact ⟨hst.trans htu, he⟩

theorem ite {c : Prop} [Decidable c] {a b : Work α} (ha : Idle a) (hb : Idle b) : Idle (if c then a else b) := by
  by_cases h : c
  · rw [if_pos h]; exact ha
  · rw [if_neg h]; exact hb

theorem fail {f : Fault} (h : f ≠ .templateRange) : Idle (Action.fail f : Work α) :=
  ⟨fun s => Yields.fail ⟨.refl s.state, h⟩⟩

theorem stop (text : String) : Idle (Action.stop text : Work α) :=
  ⟨fun s => Yields.stop ⟨.refl s.state, fun h => by cases h⟩⟩

theorem check {c : Prop} [Decidable c] {text : String} {b : Work β} (hb : Idle b) :
    Idle (if c then (Action.stop text : Work PUnit) >>= fun _ => b else b) :=
  ite ((stop text).bind fun _ => hb) hb

theorem update {f : Annotations → Annotations} (h : ∀ a, Aside a (f a)) : Idle (Action.update f) :=
  ⟨fun s => Yields.update (h s.state)⟩

theorem ofExcept {e : Except Fault α} (h : e ≠ .error .templateRange) : Idle (Action.ofExcept e : Work α) := by
  refine ⟨fun s => Yields.ofExcept (fun _ _ => .refl s.state) fun f hf => ⟨.refl s.state, ?_⟩⟩
  rintro rfl
  exact h hf

theorem getLabels : Idle getLabels := ⟨fun s => Yields.read (Yields.pure (.refl s.state))⟩

/-- labels other than ranges change -/
theorem setLabels {f : Labels → Labels} (h : ∀ l r spot, (f l).Holds r spot ↔ l.Holds r spot) :
    Idle (setLabels f) := update fun a => ⟨rfl, h a.labels⟩

theorem setComments (target : CommentTarget) (f : CommentTable → CommentTable) : Idle (setComments target f) := by
  cases target with
  | code => exact update fun a => show Aside a { a with code := f a.code } from ⟨rfl, fun _ _ => Iff.rfl⟩
  | data => exact update fun a => show Aside a { a with data := f a.data } from ⟨rfl, fun _ _ => Iff.rfl⟩

theorem warnIf (cond : Bool) (loc : Location) (message : String) : Idle (warnIf cond loc message) := by
  unfold Annotations.warnIf
  exact ite ⟨fun s => Yields.warn (.refl s.state)⟩ (pure ())

theorem number (loc : Location) (message word : String) : Idle (number loc message word) := by
  unfold Annotations.number
  cases Text.readNumber? word with
  | some n => exact pure n
  | none => exact stop _

end Idle
end

/-! ## actions that take steps -/

section
variable {α β : Type} {here : Location → Prop} {s : Session Annotations} {P : α → Annotations → Prop}
  {Q : β → Annotations → Prop}

/-- some steps lead from one state to another -/
def Leads (here : Location → Prop) (a b : Annotations) : Prop := ∃ built, Steps here a built b

theorem Leads.trans {a b c : Annotations} (h : Leads here a b) (h' : Leads here b c) : Leads here a c := by
  obtain ⟨built, h⟩ := h
  obtain ⟨built', h'⟩ := h'
  exact ⟨built ++ built', h.trans h'⟩

theorem Leads.of_step {a b : Annotations} {new : List Range} (h : Step here a new b) : Leads here a b :=
  ⟨[] ++ new, Steps.start.step h⟩

theorem Leads.regular {a b : Annotations} (h : Leads here a b) (hlib : a.library.Regular) : b.library.Regular := by
  obtain ⟨built, h⟩ := h
  exact h.regular hlib

theorem Leads.drawn {a b : Annotations} (h : Leads here a b) {r : Range} (hr : Drawn a.library r) : Drawn b.library r := by
  obtain ⟨built, h⟩ := h
  exact h.drawn_mono hr

/-- the action takes steps alone, however it ends; it never ends with a range that cannot be kept -/
def Proceeds (here : Location → Prop) (s : Session Annotations) (P : α → Annotations → Prop) (a : Work α) : Prop :=
  Yields a s (fun x t => Leads here s.state t ∧ P x t) (fun f t => Leads here s.state t ∧ f ≠ .templateRange)

namespace Proceeds

theorem bind {a : Work α} {f : α → Work β} (ha : Proceeds here s P a)
    (hf : ∀ x t, Leads here s.state t.state → P x t.state → Proceeds here t Q (f x)) :
    Proceeds here s Q (a >>= f) := by
  refine Yields.bind (Yields.imp ha ?_ fun _ _ h => h)
  rintro x t ⟨hst, hx⟩ c
  refine Yields.imp (hf x ⟨t, c⟩ hst hx) ?_ ?_
  · rintro y u ⟨htu, hy⟩
    exact ⟨hst.trans htu, hy⟩
  · rintro e u ⟨htu, he⟩
    exact ⟨hst.trans htu, he⟩

theorem idle {a : Work α} (h : Idle a) (s : Session Annotations) : Proceeds here s (fun _ _ => True) a := by
  refine Yields.imp (h.run s) ?_ ?_
  · intro x t hst
    exact ⟨.of_step (.aside hst), trivial⟩
  · rintro f t ⟨hst, hf⟩
    exact ⟨.of_step (.aside hst), hf⟩

/-- idle work in front of the rest of it -/
theorem after {a : Work α} {f : α → Work β} (h : Idle a)
    (hf : ∀ x t, Leads here s.state t.state → Proceeds here t Q (f x)) : Proceeds here s Q (a >>= f) :=
  (idle h s).bind fun x t hst _ => hf x t hst

theorem ite {c : Prop} [Decidable c] {a b : Work α} (ha : Proceeds here s P a) (hb : Proceeds here s P b) :
    Proceeds here s P (if c then a else b) := Yields.ite (fun _ => ha) fun _ => hb

/-- a check that ends the work, in front of the rest of it -/
theorem check {c : Prop} [Decidable c] {text : String} {b : Work β} (hb : ¬ c → Proceeds here s Q b) :
    Proceeds here s Q (if c then (stop text : Work PUnit) >>= fun _ => b else b) :=
  Yields.check (fun _ => ⟨⟨[], .start⟩, fun h => by cases h⟩) hb

end Proceeds

/-- a range is kept; this is how symbols, locals and arguments are added -/
def keep (spot : Spot) (r : Range) : Work Unit := do
  let r ← Action.ofExcept r.checked
  setLabels fun l => l.put r spot

theorem keep_proceeds (hlib : s.state.library.Regular) {r : Range} (hr : Drawn s.state.library r) (spot : Spot) :
    Proceeds here s (fun _ _ => True) (keep spot r) := by
  refine Yields.bind (Yields.ofExcept (fun r' hr' c => Yields.update ?_) fun f hf => ?_)
  · obtain ⟨-, rfl⟩ := Range.checked_eq_ok hr'
    exact ⟨.of_step (.keep hr spot), trivial⟩
  · exact absurd (hr.storable hlib) (Range.checked_eq_error hf)

/-- a type word is read -/
theorem declare_proceeds {loc : Location} (hloc : here loc) {word : String} (hword : word ∈ Text.words loc.line)
    (rest : List String) (s : Session Annotations) :
    Proceeds here s (fun shape t => Declares t.library none word shape)
      (onLibrary (Library.declare loc none (word :: rest))) := by
  have hreports : ∀ f t, Library.declare loc none (word :: rest) ⟨s.state.library, s.console⟩ = .error f t →
      f ≠ .templateRange := by
    have hne : word ≠ "" := by
      rintro rfl
      exact (Text.isWord_of_mem_words hword).1 rfl
    intro f t hf
    rcases (Library.declare_reports loc none hne rest _).told f t hf with ⟨rfl, -⟩ | rfl
    · exact fun h => by cases h
    · exact fun h => by cases h
  have hyields := (Library.declare_yields loc none word rest ⟨s.state.library, s.console⟩).both
    (Library.declare_opens loc none word rest ⟨s.state.library, s.console⟩)
  refine Yields.within ⟨?_⟩
  cases hr : Library.declare loc none (word :: rest) ⟨s.state.library, s.console⟩ with
  | ok shape t =>
    obtain ⟨⟨refs, -, hdeclares⟩, hopens⟩ := hyields.of_ok hr
    have hshape : s.state.library.shape? word = some shape := by
      rw [← hdeclares.shape_eq, hopens]
      rfl
    refine ⟨?_, hdeclares⟩
    rw [hopens]
    exact .of_step (.declare hloc hword hshape)
  | error f t =>
    obtain ⟨-, hsame⟩ := hyields.of_error hr
    refine ⟨?_, hreports f t hr⟩
    rw [hsame]
    exact ⟨[], .start⟩

end

end Annotations
end Disasm
