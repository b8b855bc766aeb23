import Mathlib
import Disasm.Proofs.Annotation.CommentFile
import Disasm.Proofs.Annotation.Reading

/-!
# The locals of functions

* `FrameEntry`  what a line says of a local: a plain name for an address, or a name with a type word;
* `frameEntries cur lines`  what the lines of a functions file say of locals, when the first of them stand behind the
  function `cur`;
* `Labels.Reflects lib es l`  the labels hold the plain names and the ranges of some entries and no others;
* `Leaves view a`  the action `a` leaves alone what `view` shows of the annotations.  One lemma for each way of making
  an action;
* `readFunctionLine_reflects`, `readFunctions_reflects`  a line adds its entry to what the labels reflect, and so do
  many lines;
* `load_reflects`  hence the labels of a directory reflect its functions file.
-/

namespace Disasm.Annotations

open Disasm.Action

/-! ## tables of tables -/

section
variable {β : Type} [EmptyCollection β] (t : Std.TreeMap Int β) (k x : Int) (g : β → β)

/-- one of the tables is changed, and made first if it is not there -/
def changeAt : Std.TreeMap Int β := t.alter k fun v => some (g (v.getD ∅))

theorem getD_changeAt : (changeAt t k g).getD x ∅ = if k = x then g (t.getD k ∅) else t.getD x ∅ := by
  rw [changeAt, Std.TreeMap.getD_alter]
  by_cases h : k = x
  · rw [if_pos h, if_pos (compare_eq_iff_eq.2 h), Std.TreeMap.getD_eq_getD_getElem?]
    rfl
  · rw [if_neg h, if_neg fun he => h (compare_eq_iff_eq.1 he)]

theorem contains_changeAt : (changeAt t k g).contains x = (decide (k = x) || t.contains x) := by
  rw [changeAt, Std.TreeMap.contains_alter]
  by_cases h : k = x
  · rw [if_pos (compare_eq_iff_eq.2 h), decide_eq_true h]
    rfl
  · rw [if_neg fun he => h (compare_eq_iff_eq.1 he), decide_eq_false h, Bool.false_or]

end

/-! ## entries -/

/-- a line about a local of a function -/
inductive FrameEntry where
  | name (func addr : Int) (name : String)
  | range (func addr : Int) (type name : String)
  deriving DecidableEq

namespace FrameEntry

/-- the plain name that an entry gives to an address -/
def nameAt? (func addr : Int) : FrameEntry → Option String
  | name g a n => if g = func ∧ a = addr then some n else none
  | range _ _ _ _ => none

/-- whether an entry gives a plain name to a local of a function -/
def names (func : Int) : FrameEntry → Bool
  | name g _ _ => g = func
  | range _ _ _ _ => false

/-- the ranges that an entry adds to those of a function -/
def ranges (lib : Library) (func : Int) : FrameEntry → List (Int × Range)
  | name _ _ _ => []
  | range g addr type n => if g = func then ((lib.shape? type).map (placed localMemberRange lib addr n)).getD [] else []

/-- the entry in the words behind `local` -/
def ofWords? (func : Int) : List String → Option FrameEntry
  | [w, n] => (Text.readNumber? w).map fun addr => name func addr n
  | w :: type :: n :: _ => (Text.readNumber? w).map fun addr => range func addr type n
  | _ => none

/-- the entry in a line behind the function `cur` -/
def ofLine? (cur : Option Int) : List String → Option FrameEntry
  | first :: second :: rest => if first = "local" then cur.bind fun func => ofWords? func (second :: rest) else none
  | _ => none

end FrameEntry

/-- the function that is described behind a line -/
def functionBehind (cur : Option Int) : List String → Option Int
  | first :: _ :: _ => if "arg".isPrefixOf first || first = "local" then cur else Text.readNumber? first
  | _ => cur

/-- what some lines say of locals -/
def frameEntries : Option Int → List String → List FrameEntry
  | _, [] => []
  | cur, line :: rest =>
    let words := Text.words (Text.uncomment line)
    (FrameEntry.ofLine? cur words).toList ++ frameEntries (functionBehind cur words) rest

/-- the plain name of an address, which is the last one given -/
def plainName? (es : List FrameEntry) (func addr : Int) : Option String :=
  es.reverse.findSome? (FrameEntry.nameAt? func addr)

/-- the ranges of the locals of a function -/
def frameRanges (lib : Library) (es : List FrameEntry) (func : Int) : RangeTable :=
  RangeTable.addAll {} (es.flatMap (FrameEntry.ranges lib func))

/-- the labels hold these plain names and these ranges of locals -/
structure Reflects (lib : Library) (es : List FrameEntry) (l : Labels) : Prop where
  name : ∀ func addr, (l.localsOf func)[addr]? = plainName? es func addr
  named : ∀ func, l.locals.contains func = es.any (FrameEntry.names func)
  ranges : ∀ func, l.localRangesOf func = frameRanges lib es func

theorem plainName?_append (es es' : List FrameEntry) (func addr : Int) :
    plainName? (es ++ es') func addr = (plainName? es' func addr).or (plainName? es func addr) := by
  unfold plainName?
  rw [List.reverse_append, List.findSome?_append]

theorem frameRanges_append (lib : Library) (es es' : List FrameEntry) (func : Int) :
    frameRanges lib (es ++ es') func = (frameRanges lib es func).addAll (es'.flatMap (FrameEntry.ranges lib func)) := by
  unfold frameRanges
  rw [List.flatMap_append, RangeTable.addAll_append]

theorem plainName?_singleton (e : FrameEntry) (func addr : Int) : plainName? [e] func addr = e.nameAt? func addr :=
  List.findSome?_singleton

namespace Reflects
variable {lib : Library} {es : List FrameEntry} {l l' : Labels} {func addr : Int} {n : String}

theorem empty : Reflects lib [] {} where
  name _ _ := Std.TreeMap.getElem?_emptyc
  named _ := Std.TreeMap.contains_emptyc
  ranges _ := Std.TreeMap.getD_emptyc

/-- nothing about locals has changed -/
theorem same (h : Reflects lib es l) (hlocals : l'.locals = l.locals) (hranges : l'.localRanges = l.localRanges) :
    Reflects lib es l' where
  name f a := by
    rw [← h.name, Labels.localsOf, hlocals]
    rfl
  named f := by rw [← h.named, hlocals]
  ranges f := by
    rw [← h.ranges, Labels.localRangesOf, hranges]
    rfl

theorem addName (h : Reflects lib es l) (hranges : l'.localRanges = l.localRanges)
    (hname : ∀ f a, (l'.localsOf f)[a]? = if func = f ∧ addr = a then some n else (l.localsOf f)[a]?)
    (hnamed : ∀ f, l'.locals.contains f = (decide (func = f) || l.locals.contains f)) :
    Reflects lib (es ++ [.name func addr n]) l' where
  name f a := by
    rw [hname, h.name, plainName?_append, plainName?_singleton, FrameEntry.nameAt?]
    split
    · rfl
    · rfl
  named f := by
    rw [hnamed, h.named, List.any_append, Bool.or_comm]
    show _ = (_ || (decide (func = f) || false))
    rw [Bool.or_false]
  ranges f := by
    rw [frameRanges_append, ← h.ranges, Labels.localRangesOf, hranges]
    rfl

theorem addRange {type : String} {shape : Shape} (h : Reflects lib es l) (hlocals : l'.locals = l.locals)
    (hshape : lib.shape? type = some shape)
    (hranges : l'.localRangesOf func = (l.localRangesOf func).addAll (placed localMemberRange lib addr n shape))
    (hothers : ∀ f, f ≠ func → l'.localRangesOf f = l.localRangesOf f) :
    Reflects lib (es ++ [.range func addr type n]) l' where
  name f a := by
    rw [plainName?_append, plainName?_singleton, ← h.name, Labels.localsOf, hlocals]
    rfl
  named f := by
    rw [List.any_append, ← h.named, hlocals]
    exact (Bool.or_false _).symm
  ranges f := by
    rw [frameRanges_append, ← h.ranges, List.flatMap_singleton, FrameEntry.ranges, hshape]
    by_cases hf : func = f
    · rw [if_pos hf, ← hf, hranges]
      rfl
    · rw [if_neg hf, hothers f (Ne.symm hf)]
      rfl

end Reflects

/-! ## what actions leave alone -/

section
variable {α β γ : Type}

/-- the action, if it ends well, leaves alone what `view` shows -/
structure Leaves (view : Annotations → γ) (a : Work α) : Prop where
  run : ∀ s, Yields a s (fun _ t => view t = view s.state) (fun _ _ => True)

namespace Leaves
variable {view : Annotations → γ}

theorem of_ok {a : Work α} (h : Leaves view a) {s t : Session Annotations} {x : α} (ha : a s = .ok x t) :
    view t.state = view s.state := (h.run s).of_ok ha

theorem pure (x : α) : Leaves view (Pure.pure x : Work α) := ⟨fun _ => Yields.pure rfl⟩

theorem bind {a : Work α} {f : α → Work β} (ha : Leaves view a) (hf : ∀ x, Leaves view (f x)) :
    Leaves view (a >>= f) := by
  refine ⟨fun s => Yields.bind ((ha.run s).imp ?_ fun _ _ h => h)⟩
  intro x t ht c
  exact ((hf x).run ⟨t, c⟩).imp (fun _ _ hu => hu.trans ht) fun _ _ h => h

theorem ite {c : Prop} [Decidable c] {a b : Work α} (ha : Leaves view a) (hb : Leaves view b) :
    Leaves view (if c then a else b) := ⟨fun s => Yields.ite (fun _ => ha.run s) fun _ => hb.run s⟩

theorem fail (f : Fault) : Leaves view (Action.fail f : Work α) := ⟨fun _ => Yields.fail trivial⟩

theorem stop (text : String) : Leaves view (Action.stop text : Work α) := ⟨fun _ => Yields.stop trivial⟩

theorem check {c : Prop} [Decidable c] {text : String} {b : Work β} (hb : Leaves view b) :
    Leaves view (if c then (Action.stop text : Work PUnit) >>= fun _ => b else b) :=
  ite ((stop text).bind fun _ => hb) hb

theorem ofExcept (e : Except Fault α) : Leaves view (Action.ofExcept e : Work α) :=
  ⟨fun _ => Yields.ofExcept (fun _ _ => rfl) fun _ _ => trivial⟩

theorem getLabels : Leaves view getLabels := ⟨fun _ => Yields.read (Yields.pure rfl)⟩

theorem setLabels {f : Labels → Labels} (h : ∀ a : Annotations, view { a with labels := f a.labels } = view a) :
    Leaves view (setLabels f) := ⟨fun s => Yields.update (h s.state)⟩

theorem onLibrary {a : Action Library α} (h : ∀ (a : Annotations) lib, view { a with library := lib } = view a) :
    Leaves view (onLibrary a) := by
  refine ⟨fun s => Yields.within ⟨?_⟩⟩
  cases a ⟨s.state.library, s.console⟩ with
  | ok x t => exact h s.state t.state
  | error f t => trivial

theorem warnIf (cond : Bool) (loc : Location) (message : String) : Leaves view (warnIf cond loc message) := by
  unfold Annotations.warnIf
  exact ite ⟨fun _ => Yields.warn rfl⟩ (pure ())

theorem number (loc : Location) (message word : String) : Leaves view (number loc message word) := by
  unfold Annotations.number
  cases Text.readNumber? word with
  | some n => exact pure n
  | none => exact stop _

end Leaves
end

theorem hasLocal_leaves {γ : Type} {view : Annotations → γ} (func addr : Int) : Leaves view (hasLocal func addr) :=
  Leaves.getLabels.bind fun _ => Leaves.pure _

/-- all that is kept of locals -/
def frames (a : Annotations) : Std.TreeMap Int (Std.TreeMap Int String) × Std.TreeMap Int RangeTable :=
  (a.labels.locals, a.labels.localRanges)

/-! ### symbols and constants -/

theorem addRange_leaves (addr : Int) (r : Range) : Leaves frames (addRange addr r) := by
  unfold addRange
  exact (Leaves.ofExcept _).bind fun _ => Leaves.setLabels fun _ => rfl

section
variable (loc : Location)

theorem placeMembers_leaves (addr : Int) (name : String) (ms : List Member) :
    Leaves frames (placeMembers loc addr name ms) := by
  induction ms with
  | nil => exact Leaves.pure ()
  | cons m ms ih =>
    unfold placeMembers
    exact (addRange_leaves _ _).bind fun _ => Leaves.getLabels.bind fun _ => (Leaves.warnIf _ loc _).bind fun _ => ih

theorem placeSymbol_leaves (addr : Int) (name : String) (shape : Shape) :
    Leaves frames (placeSymbol loc addr name shape) := by
  unfold placeSymbol
  split
  · next inner _ _ =>
    unfold placeTemplate
    refine ⟨fun s => Yields.read ?_⟩
    cases s.state.library.templates[inner]? with
    | none => exact (Leaves.fail _).run s
    | some t =>
      refine Leaves.run ?_ s
      refine (addRange_leaves _ _).bind fun _ => Leaves.getLabels.bind fun _ => (Leaves.warnIf _ loc _).bind fun _ => ?_
      exact placeMembers_leaves loc addr name t.members
  · exact (addRange_leaves _ _).bind fun _ => Leaves.getLabels.bind fun _ => Leaves.warnIf _ loc _

theorem symbolAddress_leaves {γ : Type} {view : Annotations → γ} (word : String) :
    Leaves view (symbolAddress loc word) :=
  (Leaves.number loc _ word).bind fun addr => Leaves.check (Leaves.pure addr)

theorem readSymbol_leaves (prev : Int) (words : List String) : Leaves frames (readSymbol loc prev words) := by
  unfold readSymbol
  split
  · exact Leaves.pure prev
  · exact Leaves.stop _
  · refine (symbolAddress_leaves loc _).bind fun addr => ?_
    refine Leaves.bind (Leaves.bind Leaves.getLabels fun _ => ?_) fun _ => Leaves.pure addr
    refine (Leaves.warnIf _ loc _).bind fun _ => (Leaves.warnIf _ loc _).bind fun _ => ?_
    refine (Leaves.setLabels fun _ => rfl).bind fun _ => Leaves.getLabels.bind fun _ => Leaves.warnIf _ loc _
  · refine (symbolAddress_leaves loc _).bind fun addr => (Leaves.warnIf _ loc _).bind fun _ => ?_
    refine (Leaves.onLibrary fun _ _ => rfl).bind fun shape => ?_
    exact (placeSymbol_leaves loc addr _ shape).bind fun _ => Leaves.pure addr
  · exact Leaves.stop _

end

theorem readSymbols_leaves (lines : List String) (index : Nat) (prev : Int) :
    Leaves frames (readSymbols index prev lines) := by
  induction lines generalizing index prev with
  | nil => exact Leaves.pure ()
  | cons line lines ih => exact (readSymbol_leaves _ prev _).bind fun addr => ih (index + 1) addr

theorem readConstants_leaves (lines : List String) (index : Nat) (prev : Int) :
    Leaves frames (readConstants index prev lines) := by
  induction lines generalizing index prev with
  | nil => exact Leaves.pure ()
  | cons line lines ih =>
    refine Leaves.bind ?_ fun addr => ih (index + 1) addr
    unfold readConstant
    split
    · exact Leaves.pure prev
    · refine (Leaves.number _ _ _).bind fun addr => (Leaves.number _ _ _).bind fun value => Leaves.check ?_
      exact (Leaves.setLabels fun _ => rfl).bind fun _ => (Leaves.warnIf _ _ _).bind fun _ => Leaves.pure addr
    · exact Leaves.stop _

/-! ### arguments and functions -/

section
variable (loc : Location) (cur : FunctionCursor)

theorem argRange_leaves (words : List String) : Leaves frames (argRange loc words) := by
  unfold argRange
  split
  · exact (Leaves.onLibrary fun _ _ => rfl).bind fun shape => Leaves.check (Leaves.check (Leaves.pure _))
  · exact Leaves.pure _
  · exact Leaves.fail _

theorem argNumber_leaves (text : List Char) : Leaves frames (argNumber loc text) := by
  unfold argNumber
  refine Leaves.check (Leaves.check ?_)
  cases Text.readInt? 10 (String.ofList text) with
  | some n => exact Leaves.pure n
  | none => exact Leaves.fail _

theorem readArg_leaves (key : String) (words : List String) : Leaves frames (readArg loc cur key words) := by
  unfold readArg
  split
  · exact Leaves.stop _
  · refine (argNumber_leaves loc _).bind fun n => (Leaves.warnIf _ loc _).bind fun _ => ?_
    refine (Leaves.setLabels fun _ => rfl).bind fun _ => Leaves.getLabels.bind fun _ => ?_
    refine (Leaves.warnIf _ loc _).bind fun _ => (argRange_leaves loc words).bind fun r => ?_
    refine Leaves.bind ?_ fun _ => Leaves.pure _
    exact (Leaves.ofExcept _).bind fun _ => Leaves.setLabels fun _ => rfl

theorem readFunction_leaves (w name : String) : Leaves frames (readFunction loc cur w name) := by
  unfold readFunction
  refine (symbolAddress_leaves loc w).bind fun addr => (Leaves.setLabels fun _ => rfl).bind fun _ => ?_
  cases cur.func with
  | some prev => exact (Leaves.warnIf _ loc _).bind fun _ => Leaves.pure _
  | none => exact Leaves.pure _

end

/-! ### other functions -/

/-- all that is kept of locals, apart from the ranges of one function -/
def framesBut (func : Int) (a : Annotations) : Std.TreeMap Int (Std.TreeMap Int String) × (Int → RangeTable) :=
  (a.labels.locals, fun f => if f = func then ∅ else a.labels.localRangesOf f)

theorem addLocalRange_leaves (func addr : Int) (r : Range) : Leaves (framesBut func) (addLocalRange func addr r) := by
  unfold addLocalRange
  refine (Leaves.ofExcept _).bind fun r => Leaves.setLabels fun a => Prod.ext rfl (funext fun f => ?_)
  show (if f = func then ∅ else (changeAt a.labels.localRanges func (·.add addr r)).getD f ∅) = _
  rw [getD_changeAt]
  by_cases hf : f = func
  · exact (if_pos hf).trans (if_pos hf).symm
  · rw [if_neg hf, if_neg (Ne.symm hf)]
    exact (if_neg hf).symm

section
variable (loc : Location) (func addr : Int) (name : String)

theorem placeLocal_leaves (shape : Shape) : Leaves (framesBut func) (placeLocal loc func addr name shape) := by
  have hmembers : ∀ ms, Leaves (framesBut func) (placeLocalMembers loc func addr name ms) := by
    intro ms
    induction ms with
    | nil => exact Leaves.pure ()
    | cons m ms ih =>
      unfold placeLocalMembers
      refine (addLocalRange_leaves func _ _).bind fun _ => ?_
      exact (hasLocal_leaves func _).bind fun _ => (Leaves.warnIf _ loc _).bind fun _ => ih
  unfold placeLocal
  split
  · next inner _ _ =>
    unfold placeLocalTemplate
    refine ⟨fun s => Yields.read ?_⟩
    cases s.state.library.templates[inner]? with
    | none => exact (Leaves.fail _).run s
    | some t =>
      refine Leaves.run ?_ s
      refine (addLocalRange_leaves func _ _).bind fun _ => ?_
      exact (hasLocal_leaves func _).bind fun _ => (Leaves.warnIf _ loc _).bind fun _ =>
        hmembers t.members
  · refine (addLocalRange_leaves func _ _).bind fun _ => ?_
    exact (hasLocal_leaves func _).bind fun _ => Leaves.warnIf _ loc _

theorem readLocalRange_leaves (cur : FunctionCursor) (w type : String) :
    Leaves (framesBut func) (readLocalRange loc cur func w type name) := by
  unfold readLocalRange
  refine (Leaves.number loc _ w).bind fun addr => Leaves.check ((Leaves.warnIf _ loc _).bind fun _ => ?_)
  refine (Leaves.onLibrary fun _ _ => rfl).bind fun shape => ?_
  exact (placeLocal_leaves loc func addr name shape).bind fun _ => Leaves.pure _

end

/-! ## lines -/

section
variable {α β : Type} {Q : β → Annotations → Prop} {s : Session Annotations}

/-- the last part of some work alone has a say in its result -/
theorem Yields.last {P : β → Prop} {a : Work α} {f : α → Work β}
    (hf : ∀ x t, Yields (f x) t (fun y _ => P y) (fun _ _ => True)) :
    Yields (a >>= f) s (fun y _ => P y) (fun _ _ => True) := by
  constructor
  rw [bind_apply]
  cases a s with
  | ok x t => exact (hf x t).run
  | error f t => trivial

/-- work that changes nothing, in front of the rest of it -/
theorem Leaves.pass {a : Work α} {f : α → Work β} (ha : Leaves id a)
    (hf : ∀ x c, Yields (f x) ⟨s.state, c⟩ Q (fun _ _ => True)) : Yields (a >>= f) s Q (fun _ _ => True) := by
  refine Yields.bind ((ha.run s).imp ?_ fun _ _ h => h)
  intro x t ht c
  rw [show t = s.state from ht]
  exact hf x c

end

/-- a plain name is put into a table that is made first -/
theorem readLocalName_yields (loc : Location) (cur : FunctionCursor) (func : Int) (w n : String)
    (s : Session Annotations) :
    Yields (readLocalName loc cur func w n) s
      (fun _ t => ∃ addr, Text.readNumber? w = some addr ∧ t.labels.localRanges = s.state.labels.localRanges ∧
        (∀ f a, (t.labels.localsOf f)[a]? = if func = f ∧ addr = a then some n else (s.state.labels.localsOf f)[a]?) ∧
        ∀ f, t.labels.locals.contains f = (decide (func = f) || s.state.labels.locals.contains f))
      (fun _ _ => True) := by
  unfold readLocalName
  refine Yields.bind (Yields.update fun c => Yields.bind ?_)
  unfold number
  cases haddr : Text.readNumber? w with
  | none => exact Yields.stop trivial
  | some addr =>
    refine Yields.pure fun c => (hasLocal_leaves func addr).pass fun _ c => ?_
    refine (Leaves.warnIf _ loc _).pass fun _ c => (Leaves.warnIf _ loc _).pass fun _ c => ?_
    refine Yields.bind (Yields.update fun c => Leaves.getLabels.pass fun _ c => ?_)
    refine (Leaves.warnIf _ loc _).pass fun _ c => Yields.pure ⟨addr, rfl, rfl, fun f a => ?_, fun f => ?_⟩
    · show ((changeAt (changeAt s.state.labels.locals func id) func fun t => t.insert addr n).getD f ∅)[a]? = _
      rw [getD_changeAt, getD_changeAt, getD_changeAt, if_pos rfl]
      by_cases hf : func = f
      · subst hf
        rw [if_pos rfl, if_congr (and_iff_right rfl) rfl rfl, Std.TreeMap.getElem?_insert]
        exact if_congr compare_eq_iff_eq rfl rfl
      · rw [if_neg hf, if_neg hf, if_neg fun h => hf h.1]
        rfl
    · show (changeAt (changeAt s.state.labels.locals func id) func fun t => t.insert addr n).contains f = _
      rw [contains_changeAt, contains_changeAt, ← Bool.or_assoc, Bool.or_self]

section
variable (loc : Location) (cur : FunctionCursor)

theorem func_readArg (key : String) (words : List String) (s : Session Annotations) :
    Yields (readArg loc cur key words) s (fun next _ => next.func = cur.func) (fun _ _ => True) := by
  unfold readArg
  split
  · exact Yields.stop trivial
  · refine Yields.last fun n _ => Yields.last fun _ _ => Yields.last fun _ _ => Yields.last fun _ _ => ?_
    exact Yields.last fun _ _ => Yields.last fun r _ => Yields.last fun _ _ => Yields.pure rfl

theorem func_readLocalName (func : Int) (w n : String) (s : Session Annotations) :
    Yields (readLocalName loc cur func w n) s (fun next _ => next.func = cur.func) (fun _ _ => True) := by
  unfold readLocalName
  refine Yields.last fun _ _ => Yields.last fun addr _ => Yields.last fun _ _ => Yields.last fun _ _ => ?_
  refine Yields.last fun _ _ => Yields.last fun _ _ => Yields.last fun _ _ => Yields.last fun _ _ => Yields.pure rfl

theorem func_readLocalRange (func : Int) (w type n : String) (s : Session Annotations) :
    Yields (readLocalRange loc cur func w type n) s (fun next _ => next.func = cur.func) (fun _ _ => True) := by
  unfold readLocalRange
  refine Yields.last fun addr _ => Yields.check (fun _ => trivial) fun _ => Yields.last fun _ _ => ?_
  exact Yields.last fun shape _ => Yields.last fun _ _ => Yields.pure rfl

theorem func_readFunction (w n : String) (s : Session Annotations) :
    Yields (readFunction loc cur w n) s (fun next _ => next.func = Text.readNumber? w) (fun _ _ => True) := by
  unfold readFunction
  refine Yields.bind (number_yields loc _ _ (fun _ _ => trivial) fun addr haddr _ c => Yields.pure fun c => ?_)
  refine Yields.last fun _ _ => ?_
  cases cur.func with
  | some prev => exact Yields.last fun _ _ => Yields.pure haddr.symm
  | none => exact Yields.pure haddr.symm

theorem readLocal_reflects (words : List String) {lib : Library} {es : List FrameEntry} {s : Session Annotations}
    (hlib : ∃ refs, s.state.library = lib.expecting refs) (h : Reflects lib es s.state.labels) :
    Yields (readLocal loc cur words) s
      (fun next t => next.func = cur.func ∧
        Reflects lib (es ++ (cur.func.bind fun func => FrameEntry.ofWords? func words).toList) t.labels)
      (fun _ _ => True) := by
  unfold readLocal
  split
  · exact Yields.stop trivial
  · next func w n hfunc =>
    refine ((func_readLocalName loc cur func w n s).both (readLocalName_yields loc cur func w n s)).imp ?_
      fun _ _ _ => trivial
    rintro next t ⟨hnext, addr, haddr, hranges, hname, hnamed⟩
    refine ⟨hnext, ?_⟩
    rw [hfunc, Option.bind_some, FrameEntry.ofWords?, haddr]
    exact h.addName hranges hname hnamed
  · next func w type n rest hfunc =>
    have hyields := (func_readLocalRange loc cur func w type n s).both
      ((readLocalRange_yields w type n loc cur func s).both ((readLocalRange_leaves loc func n cur w type).run s))
    refine hyields.imp ?_ fun _ _ _ => trivial
    rintro next t ⟨hnext, ⟨addr, shape, haccepts, hranges⟩, hothers⟩
    refine ⟨hnext, ?_⟩
    obtain ⟨refs, hrefs⟩ := hlib
    have hshape := haccepts.declared
    rw [hrefs] at hshape hranges
    rw [hfunc, Option.bind_some, FrameEntry.ofWords?, haccepts.address]
    refine h.addRange (congrArg Prod.fst hothers) hshape hranges fun f hf => ?_
    have hf' : (if f = func then ∅ else _) = if f = func then ∅ else _ := congrFun (congrArg Prod.snd hothers) f
    rwa [if_neg hf, if_neg hf] at hf'
  · exact Yields.stop trivial

/-- a line adds its entry -/
theorem readFunctionLine_reflects (words : List String) {lib : Library} {es : List FrameEntry} {s : Session Annotations}
    (hlib : ∃ refs, s.state.library = lib.expecting refs) (h : Reflects lib es s.state.labels) :
    Yields (readFunctionLine loc cur words) s
      (fun next t => next.func = functionBehind cur.func words ∧
        Reflects lib (es ++ (FrameEntry.ofLine? cur.func words).toList) t.labels)
      (fun _ _ => True) := by
  have hframes : ∀ {t : Annotations}, frames t = frames s.state → FrameEntry.ofLine? cur.func words = none →
      Reflects lib (es ++ (FrameEntry.ofLine? cur.func words).toList) t.labels := by
    intro t ht hnone
    rw [hnone, Option.toList_none, List.append_nil]
    exact h.same (congrArg Prod.fst ht) (congrArg Prod.snd ht)
  unfold readFunctionLine
  split
  · exact Yields.pure ⟨rfl, hframes rfl rfl⟩
  · exact Yields.stop trivial
  · next first second rest =>
    by_cases harg : "arg".isPrefixOf first = true
    · have hlocal : first ≠ "local" := by
        rintro rfl
        exact absurd harg (by decide +kernel)
      rw [if_pos harg]
      refine ((func_readArg loc cur first _ s).both ((readArg_leaves loc cur first _).run s)).imp ?_
        fun _ _ _ => trivial
      exact fun next t ht => ⟨ht.1.trans (if_pos (by rw [harg]; rfl)).symm, hframes ht.2 (if_neg hlocal)⟩
    rw [if_neg harg]
    by_cases hlocal : first = "local"
    · rw [if_pos (beq_iff_eq.2 hlocal)]
      refine (readLocal_reflects loc cur (second :: rest) hlib h).imp ?_ fun _ _ _ => trivial
      rintro next t ⟨hnext, ht⟩
      refine ⟨hnext.trans (if_pos (by simp [hlocal])).symm, ?_⟩
      rwa [show FrameEntry.ofLine? cur.func (first :: second :: rest) = _ from if_pos hlocal]
    · rw [if_neg fun he => hlocal (beq_iff_eq.1 he)]
      refine ((func_readFunction loc cur first second s).both ((readFunction_leaves loc cur first second).run s)).imp ?_
        fun _ _ _ => trivial
      exact fun next t ht => ⟨ht.1.trans (if_neg (by simp [harg, hlocal])).symm, hframes ht.2 (if_neg hlocal)⟩

end

theorem Leads.expecting {here : Location → Prop} {a b : Annotations} (h : Leads here a b) {lib : Library}
    {refs : List ForwardReference} (ha : a.library = lib.expecting refs) : ∃ refs, b.library = lib.expecting refs := by
  obtain ⟨built, h⟩ := h
  obtain ⟨more, hmore, -⟩ := h.library
  refine ⟨refs ++ more, ?_⟩
  rw [hmore, ha]
  unfold Library.expecting
  rw [List.append_assoc]

/-- so do many lines -/
theorem readFunctions_reflects (lines : List String) (index : Nat) (cur : FunctionCursor) {lib : Library}
    {es : List FrameEntry} {s : Session Annotations} (hregular : lib.Regular)
    (hlib : ∃ refs, s.state.library = lib.expecting refs) (h : Reflects lib es s.state.labels) :
    Yields (readFunctions index cur lines) s
      (fun _ t => (∃ refs, t.library = lib.expecting refs) ∧ Reflects lib (es ++ frameEntries cur.func lines) t.labels)
      (fun _ _ => True) := by
  induction lines generalizing index cur es s with
  | nil =>
    refine Yields.pure ⟨hlib, ?_⟩
    rw [frameEntries, List.append_nil]
    exact h
  | cons line lines ih =>
    obtain ⟨refs, hrefs⟩ := hlib
    have hstep : Proceeds (fun _ => True) s (fun _ _ => True)
        (readFunctionLine ⟨functionsFile, index, Text.uncomment line⟩ cur (Text.words (Text.uncomment line))) :=
      readFunctionLine_proceeds _ trivial cur (fun _ hw => hw) (hrefs ▸ hregular.expecting refs)
    unfold readFunctions
    refine Yields.bind ((Yields.both hstep (readFunctionLine_reflects _ cur _ ⟨refs, hrefs⟩ h)).imp ?_
      fun _ _ _ => trivial)
    rintro next t ⟨⟨hleads, -⟩, hnext, ht⟩ c
    rw [frameEntries, ← List.append_assoc, ← hnext]
    exact ih (index + 1) next (hleads.expecting hrefs) ht

/-! ## directories -/

/-- the lines of the functions file -/
def functionLines (d : Directory) : List String :=
  match d.text functionsFile with
  | .ok text => Text.lines text
  | .error _ => []

theorem functionLines_of_absent {d : Directory} (h : d.holds functionsFile = false) : functionLines d = [] := by
  unfold functionLines Directory.text Directory.bytes?
  unfold Directory.holds at h
  rw [Bool.or_eq_false_iff] at h
  rw [Std.TreeMap.getElem?_eq_none_of_contains_eq_false h.1]

section
variable {d : Directory} {file : String} {load : String → Work Unit} {s t : Session Annotations} {u : Unit}

theorem loadFile_eq_ok (h : loadFile d file load s = .ok u t) :
    d.holds file = false ∧ t = s ∨ ∃ text, d.text file = .ok text ∧ load text s = .ok () t := by
  unfold loadFile at h
  by_cases hholds : d.holds file = true
  · rw [if_pos hholds] at h
    obtain ⟨text, s', hread, hrun⟩ := bind_eq_ok h
    obtain ⟨htext, rfl⟩ := ofExcept_eq_ok hread
    exact .inr ⟨text, htext, hrun⟩
  · rw [if_neg hholds] at h
    cases h
    exact .inl ⟨by simpa using hholds, rfl⟩

theorem frames_of_loadFile (hload : ∀ text, Leaves frames (load text)) (h : loadFile d file load s = .ok u t) :
    frames t.state = frames s.state := by
  rcases loadFile_eq_ok h with ⟨-, rfl⟩ | ⟨text, -, h⟩
  · rfl
  · exact (hload text).of_ok h

theorem loadComments_leaves (text : String) : Leaves frames (loadComments text) := by
  refine ⟨fun s => ⟨?_⟩⟩
  cases h : loadComments text s with
  | error f t => trivial
  | ok u t =>
    obtain ⟨cs, -, ht⟩ := loadComments_ok h
    show frames t.state = _
    rw [ht, frames, labels_placeAll]
    rfl

end

/-- the labels of a directory reflect its functions file; type words there are read with the templates of the
directory -/
theorem load_reflects {d : Directory} {c : Console} {t : Session Annotations} (h : load d ⟨{}, c⟩ = .ok () t) :
    ∃ u, Library.loadDefaults d ⟨{}, c⟩ = .ok () u ∧ (∃ refs, t.state.library = u.state.expecting refs) ∧
      Reflects u.state (frameEntries none (functionLines d)) t.state.labels := by
  obtain ⟨_, s0, h0, h⟩ := bind_eq_ok h
  obtain ⟨u, hu, rfl⟩ := within_eq_ok h0
  have hregular : u.state.Regular := ((loadDefaults_settles d Library.Regular.empty).of_ok hu).1
  obtain ⟨_, s1, h1, h⟩ := bind_eq_ok h
  obtain ⟨_, s2, h2, h⟩ := bind_eq_ok h
  obtain ⟨_, s3, h3, h4⟩ := bind_eq_ok h
  refine ⟨u, hu, ?_⟩
  have hlib1 : ∃ refs, s1.state.library = u.state.expecting refs := by
    rcases loadFile_eq_ok h1 with ⟨-, rfl⟩ | ⟨text, -, hrun⟩
    · exact ⟨[], (Library.expecting_nil _).symm⟩
    · have hproceeds : Proceeds (fun _ => True) ⟨{ library := u.state }, u.console⟩ (fun _ _ => True)
          (loadSymbols text) := readSymbols_proceeds _ 0 (-1) (fun _ _ _ => trivial) hregular
      exact (Yields.of_ok hproceeds hrun).1.expecting (Library.expecting_nil _).symm
  have hreflects1 : Reflects u.state [] s1.state.labels := by
    have hframes := frames_of_loadFile (fun text => readSymbols_leaves (Text.lines text) 0 (-1)) h1
    exact Reflects.empty.same (congrArg Prod.fst hframes) (congrArg Prod.snd hframes)
  obtain ⟨⟨refs, hlib2⟩, hreflects2⟩ : (∃ refs, s2.state.library = u.state.expecting refs) ∧
      Reflects u.state (frameEntries none (functionLines d)) s2.state.labels := by
    rcases loadFile_eq_ok h2 with ⟨habsent, rfl⟩ | ⟨text, htext, hrun⟩
    · rw [functionLines_of_absent habsent]
      exact ⟨hlib1, hreflects1⟩
    · rw [functionLines, htext]
      exact (readFunctions_reflects (Text.lines text) 0 {} hregular hlib1 hreflects1).of_ok hrun
  -- what follows is of no concern to locals
  have hidle3 := loadFile_idle d constantsFile fun text => readConstants_idle (Text.lines text) 0 (-1)
  have hidle4 := loadFile_idle d commentsFile fun text => readComments_idle (Text.lines text) 0 {}
  have hframes := (frames_of_loadFile loadComments_leaves h4).trans
    (frames_of_loadFile (fun text => readConstants_leaves (Text.lines text) 0 (-1)) h3)
  exact ⟨⟨refs, ((hidle4.run s3).of_ok h4).library.trans (((hidle3.run s2).of_ok h3).library.trans hlib2)⟩,
    hreflects2.same (congrArg Prod.fst hframes) (congrArg Prod.snd hframes)⟩

end Disasm.Annotations
