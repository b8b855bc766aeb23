import Mathlib
import Disasm.Annotation.Functions
import Disasm.Proofs.Table
import Disasm.Proofs.Template.Declaration

/-!
# Ranges of symbols and of locals

* `Range.kept`, `Range.Storable`  what a range is kept as, and whether it can be kept;
* `placed range lib addr name shape`  the ranges of a name at an address, with the places at which they start: a
  template has one for itself and one for each member, which `range` makes;
* `Stores table es s a`  the action `a` adds the ranges `es` to a table, unless one of them cannot be kept;
* `Accepts`  the address and the shape that a line with an address, a type word and a name gives;
* `local_agrees`  a line for a symbol and a line for a local with the same words give the same ranges, but that
  members of a template lose the depth of their pointers in a frame.
-/

namespace Disasm

open Disasm.Action

/-! ## ranges as they are kept -/

namespace Range

/-- arrays are kept as plain bytes -/
def kept (r : Range) : Range := if r.array.isSome then { r with kind := .raw } else r

/-- a template is kept only as an array -/
def Storable (r : Range) : Prop := r.array.isSome = true ∨ r.kind ≠ .template

theorem checked_eq_ok {r r' : Range} (h : r.checked = .ok r') : r.Storable ∧ r' = r.kept := by
  unfold checked at h
  unfold kept
  split at h
  · next ha =>
    cases h
    rw [if_pos ha]
    exact ⟨.inl ha, rfl⟩
  · next ha =>
    split at h
    · cases h
    · next hk =>
      cases h
      rw [if_neg ha]
      exact ⟨.inr hk, rfl⟩

theorem checked_eq_error {r : Range} {f : Fault} (h : r.checked = .error f) : ¬ r.Storable := by
  unfold checked at h
  split at h
  · cases h
  · next ha =>
    split at h
    · next hk => exact fun hs => hs.elim ha fun hne => hne hk
    · cases h

/-- a range as it is kept in a frame, of a template that is placed as `name` or of one of its members -/
def inFrame (name : String) (r : Range) : Range :=
  if r.name = name then r else { r with pointer := r.pointer.map fun p => { p with depth := 0 } }

theorem storable_inFrame {name : String} {r : Range} : (r.inFrame name).Storable ↔ r.Storable := by
  unfold inFrame
  split <;> exact Iff.rfl

theorem kept_inFrame (name : String) (r : Range) : (r.inFrame name).kept = r.kept.inFrame name := by
  unfold inFrame kept
  by_cases hname : r.name = name
  · by_cases harray : r.array.isSome = true <;> simp [hname, harray]
  · by_cases harray : r.array.isSome = true <;> simp [hname, harray]

theorem inFrame_eq_self_iff {name : String} {r : Range} :
    r.inFrame name = r ↔ (r.name ≠ name → ∀ p, r.pointer = some p → p.depth = 0) := by
  unfold inFrame
  by_cases hname : r.name = name
  · simp [hname]
  · rw [if_neg hname]
    obtain ⟨size, rname, kind, pointer, array, elementTemplate⟩ := r
    cases pointer with
    | none => simp
    | some p =>
      obtain ⟨target, depth⟩ := p
      have hne : rname ≠ name := hname
      simp [hne, eq_comm]

end Range

/-! ## tables of ranges -/

/-- the table with more ranges, in their order -/
def RangeTable.addAll (t : RangeTable) (es : List (Int × Range)) : RangeTable :=
  es.foldl (fun t e => t.add e.1 e.2.kept) t

theorem RangeTable.addAll_append (t : RangeTable) (es es' : List (Int × Range)) :
    t.addAll (es ++ es') = (t.addAll es).addAll es' :=
  List.foldl_append

/-- ranges that are added to a table without any are listed by their addresses -/
theorem RangeTable.groups_addAll {t : RangeTable} (h : ∀ a : Int, t[a]? = none) (es : List (Int × Range)) :
    Groups (t.addAll es) Prod.fst (fun e => e.2.kept) es := by
  induction es using List.reverseRecOn with
  | nil =>
    intro a
    show t[a]?.getD [] = [] ∧ t[a]? ≠ some []
    rw [h a]
    exact ⟨rfl, fun hnone => by cases hnone⟩
  | append_singleton es e ih =>
    rw [addAll_append]
    exact ih.concat e

namespace Annotations

/-- the ranges of a name at an address, with the places at which they start -/
def placed (range : String → Member → Range) (lib : Library) (addr : Int) (name : String) (shape : Shape) :
    List (Int × Range) :=
  match shape.template, shape.array with
  | some inner, none =>
    match lib.templates[inner]? with
    | none => []
    | some t => (addr, { size := t.size, name }) :: t.members.map fun m => (addr + m.offset, range name m)
  | _, _ => [(addr, Range.ofShape name shape)]

/-- a member has a longer name than what it is a member of -/
theorem name_memberRange_ne (name : String) (m : Member) : (memberRange name m).name ≠ name := by
  intro h
  have hlength := congrArg (fun s : String => s.toList.length) h
  simp only [memberRange, String.toList_append, List.length_append] at hlength
  have hdot : ".".toList.length = 1 := rfl
  omega

theorem localMemberRange_eq (name : String) (m : Member) :
    localMemberRange name m = (memberRange name m).inFrame name := by
  unfold Range.inFrame
  rw [if_neg (name_memberRange_ne name m)]
  rfl

/-- only members differ between symbols and locals -/
theorem placed_localMemberRange (lib : Library) (addr : Int) (name : String) (shape : Shape) :
    placed localMemberRange lib addr name shape =
      (placed memberRange lib addr name shape).map fun e => (e.1, e.2.inFrame name) := by
  have hself : ∀ r : Range, r.name = name → r.inFrame name = r := fun r hr => if_pos hr
  unfold placed
  split
  · split
    · rfl
    · rw [List.map_cons, List.map_map, hself _ rfl]
      congr 1
      refine List.map_congr_left fun m _ => ?_
      rw [localMemberRange_eq]
      rfl
  · rw [List.map_singleton, hself _ rfl]

/-! ## actions that add ranges -/

section
variable {α β : Type} {table : Annotations → RangeTable} {es : List (Int × Range)} {e : Int × Range}
  {s : Session Annotations}

/-- the action adds ranges to a table; it fails when one of them cannot be kept -/
def Stores (table : Annotations → RangeTable) (es : List (Int × Range)) (s : Session Annotations) (a : Work α) :
    Prop :=
  Yields a s (fun _ t => (∀ e ∈ es, e.2.Storable) ∧ table t = (table s.state).addAll es)
    (fun _ _ => ¬ ∀ e ∈ es, e.2.Storable)

namespace Stores

theorem bind {es' : List (Int × Range)} {a : Work α} {b : α → Work β} (ha : Stores table es s a)
    (hb : ∀ x t, Stores table es' t (b x)) : Stores table (es ++ es') s (a >>= b) := by
  refine Yields.bind (Yields.imp ha ?_ ?_)
  · intro x t ⟨hes, ht⟩ c
    refine Yields.imp (hb x ⟨t, c⟩) ?_ ?_
    · intro y u ⟨hes', hu⟩
      refine ⟨fun e he => (List.mem_append.1 he).elim (hes e) (hes' e), ?_⟩
      rw [hu, ht, RangeTable.addAll_append]
    · intro f u hfail hall
      exact hfail fun e he => hall e (List.mem_append_right es he)
  · intro f t hfail hall
    exact hfail fun e he => hall e (List.mem_append_left es' he)

/-- work that adds nothing, in front of the rest of it -/
theorem pass {a : Work α} {b : α → Work β} (ha : Stores table [] s a) (hb : ∀ x t, Stores table es t (b x)) :
    Stores table es s (a >>= b) := ha.bind hb

/-- work that adds one range, in front of the rest of it -/
theorem first {a : Work α} {b : α → Work β} (ha : Stores table [e] s a) (hb : ∀ x t, Stores table es t (b x)) :
    Stores table (e :: es) s (a >>= b) := ha.bind hb

theorem pure (x : α) : Stores table [] s (Pure.pure x : Work α) := Yields.pure ⟨List.forall_mem_nil _, rfl⟩

theorem getLabels : Stores table [] s getLabels := Yields.read (Stores.pure _)

theorem warnIf (cond : Bool) (loc : Location) (message : String) : Stores table [] s (warnIf cond loc message) := by
  unfold Annotations.warnIf
  exact Yields.ite (fun _ => Yields.warn ⟨List.forall_mem_nil _, rfl⟩) fun _ => Stores.pure ()

theorem hasLocal (func addr : Int) : Stores table [] s (hasLocal func addr) :=
  getLabels.pass fun _ _ => Stores.pure _

end Stores
end

/-! ## symbols -/

theorem addRange_stores (addr : Int) (r : Range) (s : Session Annotations) :
    Stores (·.labels.ranges) [(addr, r)] s (addRange addr r) := by
  unfold addRange
  refine Yields.bind (Yields.ofExcept (fun r' hr' c => Yields.update ?_) fun f hf hall => ?_)
  · obtain ⟨hr, rfl⟩ := Range.checked_eq_ok hr'
    exact ⟨by simpa using hr, rfl⟩
  · exact Range.checked_eq_error hf (hall _ List.mem_cons_self)

section
variable (loc : Location) (addr : Int) (name : String)

theorem placeMembers_stores (ms : List Member) (s : Session Annotations) :
    Stores (·.labels.ranges) (ms.map fun m => (addr + m.offset, memberRange name m)) s
      (placeMembers loc addr name ms) := by
  induction ms generalizing s with
  | nil => exact Stores.pure ()
  | cons m ms ih =>
    unfold placeMembers
    refine (addRange_stores _ _ s).first fun _ _ => Stores.getLabels.pass fun _ _ => ?_
    exact (Stores.warnIf _ loc _).pass fun _ t => ih t

theorem placeSymbol_stores {shape : Shape} {s : Session Annotations}
    (h : ∀ inner, shape.template = some inner → ∃ t, s.state.library.templates[inner]? = some t) :
    Stores (·.labels.ranges) (placed memberRange s.state.library addr name shape) s
      (placeSymbol loc addr name shape) := by
  have hplain : Stores (·.labels.ranges) [(addr, Range.ofShape name shape)] s (do
      addRange addr (Range.ofShape name shape)
      warnIf ((← getLabels).symbols.contains addr) loc "range would be overriden by simple symbol") := by
    refine (addRange_stores _ _ s).first fun _ _ => Stores.getLabels.pass fun _ _ => ?_
    exact Stores.warnIf _ loc _
  unfold placeSymbol placed
  cases htemplate : shape.template with
  | none => exact hplain
  | some inner =>
    cases shape.array with
    | some d => exact hplain
    | none =>
      obtain ⟨t, ht⟩ := h inner htemplate
      dsimp only
      unfold placeTemplate
      refine Yields.read ?_
      rw [ht]
      refine (addRange_stores _ _ s).first fun _ _ => Stores.getLabels.pass fun _ _ => ?_
      exact (Stores.warnIf _ loc _).pass fun _ u => placeMembers_stores loc addr name t.members u

end

/-! ## locals -/

theorem addLocalRange_stores (func addr : Int) (r : Range) (s : Session Annotations) :
    Stores (·.labels.localRangesOf func) [(addr, r)] s (addLocalRange func addr r) := by
  unfold addLocalRange
  refine Yields.bind (Yields.ofExcept (fun r' hr' c => Yields.update ?_) fun f hf hall => ?_)
  · obtain ⟨hr, rfl⟩ := Range.checked_eq_ok hr'
    refine ⟨by simpa using hr, ?_⟩
    show (Std.TreeMap.alter s.state.labels.localRanges func _).getD func {} = _
    rw [Std.TreeMap.getD_alter_self, ← Std.TreeMap.getD_eq_getD_getElem?]
    rfl
  · exact Range.checked_eq_error hf (hall _ List.mem_cons_self)

section
variable (loc : Location) (func addr : Int) (name : String)

theorem placeLocalMembers_stores (ms : List Member) (s : Session Annotations) :
    Stores (·.labels.localRangesOf func) (ms.map fun m => (addr + m.offset, localMemberRange name m)) s
      (placeLocalMembers loc func addr name ms) := by
  induction ms generalizing s with
  | nil => exact Stores.pure ()
  | cons m ms ih =>
    unfold placeLocalMembers
    refine (addLocalRange_stores func _ _ s).first fun _ _ => (Stores.hasLocal func _).pass fun _ _ => ?_
    exact (Stores.warnIf _ loc _).pass fun _ t => ih t

theorem placeLocal_stores {shape : Shape} {s : Session Annotations}
    (h : ∀ inner, shape.template = some inner → ∃ t, s.state.library.templates[inner]? = some t) :
    Stores (·.labels.localRangesOf func) (placed localMemberRange s.state.library addr name shape) s
      (placeLocal loc func addr name shape) := by
  have hplain : Stores (·.labels.localRangesOf func) [(addr, Range.ofShape name shape)] s (do
      addLocalRange func addr (Range.ofShape name shape)
      warnIf (← hasLocal func addr) loc "local range would be override by simple symbol") := by
    refine (addLocalRange_stores func _ _ s).first fun _ _ => (Stores.hasLocal func _).pass fun _ _ => ?_
    exact Stores.warnIf _ loc _
  unfold placeLocal placed
  cases htemplate : shape.template with
  | none => exact hplain
  | some inner =>
    cases shape.array with
    | some d => exact hplain
    | none =>
      obtain ⟨t, ht⟩ := h inner htemplate
      dsimp only
      unfold placeLocalTemplate
      refine Yields.read ?_
      rw [ht]
      refine (addLocalRange_stores func _ _ s).first fun _ _ => (Stores.hasLocal func _).pass fun _ _ => ?_
      exact (Stores.warnIf _ loc _).pass fun _ u => placeLocalMembers_stores loc func addr name t.members u

end

/-! ## lines -/

/-- the line with an address, a type word and a name is accepted: the name has this address and this shape -/
structure Accepts (lib : Library) (w type name : String) (addr : Int) (shape : Shape) : Prop where
  address : Text.readNumber? w = some addr
  nonneg : 0 ≤ addr
  declared : lib.shape? type = some shape
  storable : ∀ e ∈ placed memberRange lib addr name shape, e.2.Storable

theorem Accepts.unique {lib : Library} {w type name : String} {addr addr' : Int} {shape shape' : Shape}
    (h : Accepts lib w type name addr shape) (h' : Accepts lib w type name addr' shape') :
    addr = addr' ∧ shape = shape' :=
  ⟨Option.some.inj (h.address.symm.trans h'.address), Option.some.inj (h.declared.symm.trans h'.declared)⟩

/-- what a line adds to a table, where `range` makes the ranges of members -/
def Adds (table : Annotations → RangeTable) (range : String → Member → Range) (w type name : String)
    (a t : Annotations) : Prop :=
  ∃ addr shape, Accepts a.library w type name addr shape ∧
    table t = (table a).addAll (placed range a.library addr name shape)

/-- the address of a line, in front of the rest of the work; a word that is no number and a negative one are refused -/
theorem number_yields {α : Type} {Q : α → Annotations → Prop} {E : Fault → Annotations → Prop} {w : String}
    {s : Session Annotations} {rest : Int → Work α} (loc : Location) (message text : String)
    (hbad : (∀ addr, Text.readNumber? w = some addr → addr < 0) → ∀ f, E f s.state)
    (hrest : ∀ addr, Text.readNumber? w = some addr → 0 ≤ addr → ∀ c, Yields (rest addr) ⟨s.state, c⟩ Q E) :
    Yields (do
      let addr ← number loc message w
      if addr < 0 then stop text
      rest addr) s Q E := by
  unfold number
  refine Yields.bind ?_
  cases hw : Text.readNumber? w with
  | none => exact Yields.stop (hbad (fun addr haddr => by rw [hw] at haddr; cases haddr) _)
  | some addr =>
    refine Yields.pure fun c => Yields.check (fun hneg => hbad (fun addr' haddr' => ?_) _) fun hneg => ?_
    · rw [hw] at haddr'
      cases haddr'
      exact hneg
    · exact hrest addr hw (by omega) c

section
variable {table : Annotations → RangeTable} {range : String → Member → Range} {w type name : String} {addr : Int}

/-- behind the address, a type word is read and its shape is placed -/
theorem declare_place_yields {α : Type} {place : Shape → Work Unit}
    (htable : ∀ a lib, table { a with library := lib } = table a)
    (hrange : ∀ lib shape, (∀ e ∈ placed range lib addr name shape, e.2.Storable) ↔
      ∀ e ∈ placed memberRange lib addr name shape, e.2.Storable)
    (hplace : ∀ (shape : Shape) (s : Session Annotations),
      (∀ inner, shape.template = some inner → ∃ t, s.state.library.templates[inner]? = some t) →
      Stores table (placed range s.state.library addr name shape) s (place shape))
    (haddr : Text.readNumber? w = some addr) (hnonneg : 0 ≤ addr) (loc : Location) (cond : Bool) (message : String)
    (r : α) (s : Session Annotations) :
    Yields (do
      warnIf cond loc message
      let shape ← onLibrary (Library.declare loc none [type, name])
      place shape
      return r) s
      (fun _ t => Adds table range w type name s.state t)
      (fun _ _ => ¬ ∃ addr shape, Accepts s.state.library w type name addr shape) := by
  have hwarn : Yields (warnIf cond loc message) s (fun _ t => t = s.state)
      (fun _ _ => ¬ ∃ addr shape, Accepts s.state.library w type name addr shape) := by
    unfold warnIf
    exact Yields.ite (fun _ => Yields.warn rfl) fun _ => Yields.pure rfl
  refine Yields.bind (hwarn.imp ?_ fun _ _ h => h)
  rintro - t rfl c
  refine Yields.bind (Yields.within ((Library.declare_yields loc none type [name] ⟨s.state.library, c⟩).imp ?_ ?_))
  · intro shape lib ⟨refs, hlib, hdeclares⟩ c
    have hshape : s.state.library.shape? type = some shape := by
      rw [← hdeclares.shape_eq, hlib]
      rfl
    have hlookup : ∀ inner, shape.template = some inner → ∃ t, lib.templates[inner]? = some t :=
      fun inner hinner => hdeclares.lookup hinner
    -- references are no templates
    have hplaced : placed range lib addr name shape = placed range s.state.library addr name shape := by
      rw [hlib]
      rfl
    have hstores := hplace shape ⟨{ s.state with library := lib }, c⟩ hlookup
    unfold Stores at hstores
    rw [hplaced, hrange, htable] at hstores
    refine Yields.bind (hstores.imp ?_ ?_)
    · intro _ t ⟨hstorable, ht⟩ c'
      exact Yields.pure ⟨addr, shape, ⟨haddr, hnonneg, hshape, hstorable⟩, ht⟩
    · rintro f t hfail ⟨addr', shape', haccepts⟩
      refine hfail ?_
      rw [Option.some.inj (haddr.symm.trans haccepts.address), Option.some.inj (hshape.symm.trans haccepts.declared)]
      exact haccepts.storable
  · rintro f lib ⟨rfl, hnone⟩ ⟨addr', shape', haccepts⟩
    have hsome := haccepts.declared
    rw [hnone] at hsome
    cases hsome

end

section
variable {lib : Library} (w type name : String)

theorem not_accepts (h : ∀ addr, Text.readNumber? w = some addr → addr < 0) :
    ¬ ∃ addr shape, Accepts lib w type name addr shape := by
  rintro ⟨addr, shape, haccepts⟩
  exact absurd haccepts.nonneg (not_le.2 (h addr haccepts.address))

/-- a line of the symbols file -/
theorem readSymbol_yields (loc : Location) (prev : Int) (s : Session Annotations) :
    Yields (readSymbol loc prev [w, type, name]) s
      (fun _ t => Adds (·.labels.ranges) memberRange w type name s.state t)
      (fun _ _ => ¬ ∃ addr shape, Accepts s.state.library w type name addr shape) := by
  have haddress : Yields (symbolAddress loc w) s
      (fun addr t => t = s.state ∧ Text.readNumber? w = some addr ∧ 0 ≤ addr)
      (fun _ _ => ¬ ∃ addr shape, Accepts s.state.library w type name addr shape) :=
    number_yields loc _ _ (fun hbad _ => not_accepts w type name hbad)
      fun addr haddr hnonneg c => Yields.pure ⟨rfl, haddr, hnonneg⟩
  refine Yields.bind (haddress.imp ?_ fun _ _ h => h)
  rintro addr t ⟨rfl, haddr, hnonneg⟩ c
  exact declare_place_yields (fun _ _ => rfl) (fun _ _ => Iff.rfl)
    (fun shape s h => placeSymbol_stores loc addr name h) haddr hnonneg loc _ _ addr ⟨s.state, c⟩

theorem readLocalRange_yields (loc : Location) (cur : FunctionCursor) (func : Int) (s : Session Annotations) :
    Yields (readLocalRange loc cur func w type name) s
      (fun _ t => Adds (·.labels.localRangesOf func) localMemberRange w type name s.state t)
      (fun _ _ => ¬ ∃ addr shape, Accepts s.state.library w type name addr shape) := by
  unfold readLocalRange
  refine number_yields loc _ _ (fun hbad _ => not_accepts w type name hbad) fun addr haddr hnonneg c => ?_
  refine declare_place_yields (fun _ _ => rfl) (fun lib shape => ?_)
    (fun shape s h => placeLocal_stores loc func addr name h) haddr hnonneg loc _ _ _ ⟨s.state, c⟩
  rw [placed_localMemberRange]
  simp only [List.forall_mem_map, Range.storable_inFrame]

/-- a line for a local in the functions file -/
theorem readLocal_yields (loc : Location) {cur : FunctionCursor} {func : Int} (hfunc : cur.func = some func)
    (s : Session Annotations) :
    Yields (readFunctionLine loc cur ["local", w, type, name]) s
      (fun _ t => Adds (·.labels.localRangesOf func) localMemberRange w type name s.state t)
      (fun _ _ => ¬ ∃ addr shape, Accepts s.state.library w type name addr shape) := by
  have hline : readFunctionLine loc cur ["local", w, type, name] = readLocalRange loc cur func w type name := by
    unfold readFunctionLine readLocal
    dsimp only
    rw [if_neg (by decide +kernel), if_pos (beq_self_eq_true "local"), hfunc]
  rw [hline]
  exact readLocalRange_yields w type name loc cur func s

end

/-! ## symbols and locals -/

/-- the ranges of a name in a frame are those of a symbol, seen in a frame -/
theorem groups_inFrame {t t' : RangeTable} {lib : Library} {addr : Int} {name : String} {shape : Shape}
    (h : Groups t Prod.fst (fun e => e.2.kept) (placed memberRange lib addr name shape))
    (h' : Groups t' Prod.fst (fun e => e.2.kept) (placed localMemberRange lib addr name shape)) (a : Int) :
    t'[a]? = t[a]?.map (List.map (Range.inFrame name)) := by
  obtain ⟨hlist, hne⟩ := h a
  obtain ⟨hlist', hne'⟩ := h' a
  have hlists : t'[a]?.getD [] = (t[a]?.getD []).map (Range.inFrame name) := by
    rw [hlist, hlist', placed_localMemberRange, List.filter_map, List.map_map, List.map_map]
    refine List.map_congr_left fun e _ => ?_
    exact Range.kept_inFrame name e.2
  cases ht : t[a]? with
  | none =>
    cases ht' : t'[a]? with
    | none => rfl
    | some rs' =>
      rw [ht, ht'] at hlists
      exact absurd (ht'.trans (congrArg some hlists)) hne'
  | some rs =>
    cases ht' : t'[a]? with
    | none =>
      rw [ht, ht'] at hlists
      have hnil : rs = [] := List.map_eq_nil_iff.1 hlists.symm
      exact absurd (ht.trans (congrArg some hnil)) hne
    | some rs' =>
      rw [ht, ht'] at hlists
      exact congrArg some hlists

/-- a line for a symbol and a line for a local of the same words are accepted alike, whatever the templates are.
Where there were no ranges before, they give the same ones at every address and in the same order, but that
pointers of members lose their depth in a frame; so they agree in all exactly when no member has a pointer of
some depth -/
theorem local_agrees (w type name : String) (loc loc' : Location) (prev : Int) (cur : FunctionCursor) {func : Int}
    (hfunc : cur.func = some func) (s s' : Session Annotations) (hlib : s'.state.library = s.state.library)
    (hempty : ∀ a : Int, s.state.labels.ranges[a]? = none)
    (hempty' : ∀ a : Int, (s'.state.labels.localRangesOf func)[a]? = none) :
    ((∃ n t, readSymbol loc prev [w, type, name] s = .ok n t) ↔
        ∃ cur' t', readFunctionLine loc' cur ["local", w, type, name] s' = .ok cur' t') ∧
      ∀ n t cur' t', readSymbol loc prev [w, type, name] s = .ok n t →
        readFunctionLine loc' cur ["local", w, type, name] s' = .ok cur' t' →
        (∀ a : Int, (t'.state.labels.localRangesOf func)[a]? =
            t.state.labels.ranges[a]?.map (List.map (Range.inFrame name))) ∧
          ((∀ a : Int, (t'.state.labels.localRangesOf func)[a]? = t.state.labels.ranges[a]?) ↔
            ∀ (a : Int) (rs : List Range), t.state.labels.ranges[a]? = some rs →
              ∀ r ∈ rs, r.name ≠ name → ∀ p, r.pointer = some p → p.depth = 0) := by
  have hsymbol := readSymbol_yields w type name loc prev s
  have hlocal := readLocal_yields w type name loc' hfunc s'
  rw [hlib] at hlocal
  have haccepted : ∀ {table : Annotations → RangeTable} {range : String → Member → Range} {a t : Annotations},
      a.library = s.state.library → Adds table range w type name a t →
      ∃ addr shape, Accepts s.state.library w type name addr shape := by
    intro table range a t ha ⟨addr, shape, haccepts, _⟩
    exact ⟨addr, shape, ha ▸ haccepts⟩
  constructor
  · have hiff := (hsymbol.imp (fun _ _ => haccepted rfl) fun _ _ h => h).ok_iff
    have hiff' := (hlocal.imp (fun _ _ => haccepted hlib) fun _ _ h => h).ok_iff
    exact hiff.trans hiff'.symm
  · intro n t cur' t' hrun hrun'
    obtain ⟨addr, shape, haccepts, htable⟩ := hsymbol.of_ok hrun
    obtain ⟨addr', shape', haccepts', htable'⟩ := hlocal.of_ok hrun'
    rw [hlib] at haccepts' htable'
    obtain ⟨rfl, rfl⟩ := haccepts.unique haccepts'
    have hgroups := RangeTable.groups_addAll hempty (placed memberRange s.state.library addr name shape)
    have hgroups' := RangeTable.groups_addAll hempty' (placed localMemberRange s.state.library addr name shape)
    rw [← htable] at hgroups
    rw [← htable'] at hgroups'
    have hframe := groups_inFrame hgroups hgroups'
    refine ⟨hframe, ?_⟩
    constructor
    · intro hsame a rs hrs r hr
      have heq := (hframe a).symm.trans (hsame a)
      rw [hrs] at heq
      have hmap : rs.map (Range.inFrame name) = rs.map id := by
        rw [List.map_id]
        exact Option.some.inj heq
      exact Range.inFrame_eq_self_iff.1 (List.map_inj_left.1 hmap r hr)
    · intro hdepth a
      rw [hframe a]
      cases hrs : t.state.labels.ranges[a]? with
      | none => rfl
      | some rs =>
        refine congrArg some ?_
        have hmap : rs.map (Range.inFrame name) = rs.map id :=
          List.map_congr_left fun r hr => Range.inFrame_eq_self_iff.2 (hdepth a rs hrs r hr)
        rw [hmap, List.map_id]

/-! ### a template with a pointer -/

/-- one template, with a pointer to a pointer and a number as members -/
def nodeLibrary : Library where
  templates := ({} : Std.TreeMap String Template).insert "node" ⟨8, 4, 0, [
    { offset := 0, size := 4, name := "next", kind := .pointerToTemplate, pointer := some ⟨"node", 2⟩ },
    { offset := 4, size := 4, name := "value", kind := .basic .int }]⟩

def nodeSymbol : Work Int := readSymbol ⟨symbolsFile, 0, "0x10 node s\n"⟩ (-1) ["0x10", "node", "s"]

def nodeLocal : Work FunctionCursor :=
  readFunctionLine ⟨functionsFile, 1, "local 0x10 node s\n"⟩ { func := some 0 } ["local", "0x10", "node", "s"]

/-- both lines are accepted, and the two tables pass a test -/
def nodePlacedWith (test : RangeTable → RangeTable → Bool) : Bool :=
  match nodeSymbol ⟨{ library := nodeLibrary }, {}⟩, nodeLocal ⟨{ library := nodeLibrary }, {}⟩ with
  | .ok _ t, .ok _ t' => test t.state.labels.ranges (t'.state.labels.localRangesOf 0)
  | _, _ => false

theorem exists_of_nodePlacedWith {test : RangeTable → RangeTable → Bool} (h : nodePlacedWith test = true) :
    ∃ n t cur t', nodeSymbol ⟨{ library := nodeLibrary }, {}⟩ = .ok n t ∧
      nodeLocal ⟨{ library := nodeLibrary }, {}⟩ = .ok cur t' ∧
      test t.state.labels.ranges (t'.state.labels.localRangesOf 0) = true := by
  unfold nodePlacedWith at h
  split at h
  · next n t cur t' hrun hrun' => exact ⟨n, t, cur, t', hrun, hrun', h⟩
  · cases h

/-- the second member has no pointer, and is the same at both places -/
theorem local_agrees_node :
    ∃ n t cur t', nodeSymbol ⟨{ library := nodeLibrary }, {}⟩ = .ok n t ∧
      nodeLocal ⟨{ library := nodeLibrary }, {}⟩ = .ok cur t' ∧
      (t'.state.labels.localRangesOf 0)[(20 : Int)]? =
        some [{ size := 4, name := "s.value", kind := .basic .int }] ∧
      ∀ a : Int, (t'.state.labels.localRangesOf 0)[a]? =
        t.state.labels.ranges[a]?.map (List.map (Range.inFrame "s")) := by
  obtain ⟨n, t, cur, t', hrun, hrun', htest⟩ := exists_of_nodePlacedWith
    (show nodePlacedWith (fun _ frame => decide (frame[(20 : Int)]? =
      some [{ size := 4, name := "s.value", kind := .basic .int }])) = true by decide +kernel)
  have hagrees := local_agrees "0x10" "node" "s" ⟨symbolsFile, 0, "0x10 node s\n"⟩
    ⟨functionsFile, 1, "local 0x10 node s\n"⟩ (-1) { func := some 0 } rfl ⟨{ library := nodeLibrary }, {}⟩
    ⟨{ library := nodeLibrary }, {}⟩ rfl (fun a => Std.TreeMap.getElem?_emptyc)
    (fun a => Std.TreeMap.getElem?_emptyc)
  exact ⟨n, t, cur, t', hrun, hrun', of_decide_eq_true htest, (hagrees.2 n t cur t' hrun hrun').1⟩

/-- the first member is not -/
theorem local_loses_depth :
    ∃ n t cur t', nodeSymbol ⟨{ library := nodeLibrary }, {}⟩ = .ok n t ∧
      nodeLocal ⟨{ library := nodeLibrary }, {}⟩ = .ok cur t' ∧
      (t'.state.labels.localRangesOf 0)[(16 : Int)]? ≠ t.state.labels.ranges[(16 : Int)]? := by
  obtain ⟨n, t, cur, t', hrun, hrun', htest⟩ := exists_of_nodePlacedWith
    (show nodePlacedWith (fun ranges frame => decide (frame[(16 : Int)]? ≠ ranges[(16 : Int)]?)) = true by
      decide +kernel)
  exact ⟨n, t, cur, t', hrun, hrun', of_decide_eq_true htest⟩

end Annotations
end Disasm
