import Mathlib
import Disasm.Annotation.Load
import Disasm.Proofs.Template
import Disasm.Proofs.Text.Numeral

/-!
# Names from annotation files are unbroken

Names are words, so that none of them runs over the end of a line.

* `Labels.Tidy`, `CommentTable.Tidy`, `Annotations.Tidy`  what is said of the tables;
* `substitute_unbroken`  a reference in a comment is replaced by such names alone;
* `readSymbols_keeps`, `readConstants_keeps`, `readFunctions_keeps`  reading the files of names.
-/

namespace Disasm

open Disasm.Action Disasm.Text

structure Range.Tidy (r : Range) : Prop where
  name : Unbroken r.name
  pointer : PointsUnbroken r.pointer

def RangeTable.Tidy (t : RangeTable) : Prop := Every (fun rs : List Range => ∀ r ∈ rs, r.Tidy) t

structure Labels.Tidy (l : Labels) : Prop where
  symbols : Every Unbroken l.symbols
  ranges : RangeTable.Tidy l.ranges
  functions : Every Unbroken l.functions
  args : Every (Every Range.Tidy) l.args
  locals : Every (Every Unbroken) l.locals
  localRanges : Every RangeTable.Tidy l.localRanges
  constants : Every (fun c : String × Int => IsWord c.1.toList) l.constants

structure CommentTable.Tidy (t : CommentTable) : Prop where
  inline : Every Unbroken t.inline
  before : Every (fun ls : List String => ∀ l ∈ ls, Unbroken l) t.before
  after : Every (fun ls : List String => ∀ l ∈ ls, Unbroken l) t.after

structure Annotations.Tidy (a : Annotations) : Prop where
  library : a.library.Tidy
  labels : a.labels.Tidy
  code : a.code.Tidy
  data : a.data.Tidy

/-! ## ranges -/

theorem Range.tidy_checked {r r' : Range} (hr : r.Tidy) (h : r.checked = .ok r') : r'.Tidy := by
  unfold Range.checked at h
  split at h
  · cases h; exact ⟨hr.name, hr.pointer⟩
  · split at h
    · cases h
    · cases h; exact hr

theorem RangeTable.Tidy.add {t : RangeTable} (ht : RangeTable.Tidy t) (start : Int) {r : Range}
    (hr : r.Tidy) : RangeTable.Tidy (t.add start r) := by
  refine Every.alter ht start fun rs hrs s hs => ?_
  cases hrs
  rcases List.mem_append.1 hs with hs | hs
  · exact Every.getD ht start (List.forall_mem_nil _) s hs
  · rw [List.mem_singleton.1 hs]; exact hr

/-- the names that a search gives -/
structure Found.Tidy (f : Found) : Prop where
  exact : ∀ n ∈ f.exact, Unbroken n
  nearest : ∀ n, f.nearest = some n → Unbroken n.name

theorem Found.tidy_visit {x start : Int} {f : Found} {r : Range} (hf : f.Tidy) (hr : r.Tidy) :
    (Found.visit x start f r).Tidy := by
  unfold Found.visit
  split
  · refine ⟨fun n hn => ?_, hf.nearest⟩
    rcases List.mem_append.1 hn with hn | hn
    · exact hf.exact n hn
    · rw [List.mem_singleton.1 hn]; exact hr.name
  · refine ⟨hf.exact, fun n hn => ?_⟩
    dsimp only at hn
    unfold Found.closer at hn
    split at hn
    · dsimp only at hn
      split at hn
      · cases hn; exact hr.name
      · next b hb =>
        split at hn
        · cases hn; exact hr.name
        · split at hn
          · cases hn; exact hr.name
          · cases hn; exact hf.nearest _ hb
    · exact hf.nearest n hn

theorem RangeTable.Tidy.find {t : RangeTable} (ht : RangeTable.Tidy t) (x : Int) : (t.find x).Tidy := by
  refine Every.foldl ht (I := Found.Tidy) ⟨List.forall_mem_nil _, fun _ h => by cases h⟩ ?_
  intro found start rs hf hrs
  induction rs generalizing found with
  | nil => exact hf
  | cons r rs ih =>
    exact ih _ (Found.tidy_visit hf (hrs r List.mem_cons_self)) fun s hs =>
      hrs s (List.mem_cons_of_mem r hs)

/-! ## references -/

namespace Reference

theorem subset_read? {cs rest : List Char} {r : Reference} (h : read? cs = some (r, rest)) :
    r.address ⊆ cs ∧ rest ⊆ cs := by
  obtain ⟨front, behind, rfl⟩ := exists_of_read? h
  refine ⟨fun c hc => ?_, fun c hc => ?_⟩ <;> simp [hc]

theorem unbroken_render {r : Reference} (h : '\n' ∉ r.address) : Unbroken r.render := by
  unfold render letter
  have ha := unbroken_ofList h
  split <;> simp +decide [ha]

end Reference

namespace Labels

theorem unbroken_dataName? {l : Labels} (hl : l.Tidy) {addr : Int} {name : String}
    (h : l.dataName? addr = some name) : Unbroken name := by
  have hf := hl.ranges.find addr
  unfold dataName? at h
  split at h
  · next hs => cases h; exact hl.symbols _ _ hs
  · dsimp only at h
    split at h
    · cases h
      exact unbroken_intercalate (by decide) hf.exact
    · obtain ⟨n, hn, rfl⟩ := Option.map_eq_some_iff.1 h
      simp +decide [hf.nearest n hn]

theorem unbroken_resolve {l : Labels} (hl : l.Tidy) {r : Reference} (hr : '\n' ∉ r.address)
    {name : String} (h : l.resolve r = .ok name) : Unbroken name := by
  unfold resolve at h
  split at h
  · cases h
  · next addr _ =>
    cases h
    cases hn : (if r.isData then l.dataName? addr else l.functions[addr]?) with
    | none => exact Reference.unbroken_render hr
    | some n =>
      split at hn
      · exact unbroken_dataName? hl hn
      · exact hl.functions _ _ hn

theorem substituteFrom_unbroken {l : Labels} (hl : l.Tidy) (done cs : List Char) {t : String}
    (hd : '\n' ∉ done) (hc : '\n' ∉ cs) (h : l.substituteFrom done cs = .ok t) : Unbroken t := by
  fun_induction substituteFrom l done cs with
  | case1 done cs r rest hr name hn ih =>
    have hs := Reference.subset_read? hr
    have hname := unbroken_resolve hl (fun hm => hc (hs.1 hm)) hn
    refine ih ?_ (fun hm => hc (hs.2 hm)) h
    rw [List.mem_append, List.mem_reverse]
    exact fun hm => hm.elim hname hd
  | case2 => cases h
  | case3 => cases h; exact unbroken_ofList fun hm => hd (List.mem_reverse.1 hm)
  | case4 done c cs hr ih =>
    rw [List.mem_cons, not_or] at hc
    refine ih ?_ hc.2 h
    rw [List.mem_cons, not_or]
    exact ⟨hc.1, hd⟩

theorem substitute_unbroken {l : Labels} (hl : l.Tidy) {s t : String} (hs : Unbroken s)
    (h : l.substitute s = .ok t) : Unbroken t :=
  substituteFrom_unbroken hl [] s.toList (List.not_mem_nil) hs h

end Labels

namespace Annotations

/-! ## changes to the tables -/

theorem onLibrary_keeps {α : Type} {P : α → Prop} {a : Action Library α} (h : Keeps Library.Tidy P a) :
    Keeps Tidy P (onLibrary a) :=
  h.within (fun _ ht => ht.library) fun _ _ hu ht => ⟨hu, ht.labels, ht.code, ht.data⟩

theorem setLabels_keeps {f : Labels → Labels} (h : ∀ l : Labels, l.Tidy → (f l).Tidy) :
    Keeps Tidy (fun _ => True) (setLabels f) :=
  Keeps.update fun _ ha => ⟨ha.library, h _ ha.labels, ha.code, ha.data⟩

theorem setComments_keeps (target : CommentTarget) {f : CommentTable → CommentTable}
    (h : ∀ t : CommentTable, t.Tidy → (f t).Tidy) : Keeps Tidy (fun _ => True) (setComments target f) := by
  unfold setComments
  cases target with
  | code => exact Keeps.update fun _ ha => ⟨ha.library, ha.labels, h _ ha.code, ha.data⟩
  | data => exact Keeps.update fun _ ha => ⟨ha.library, ha.labels, ha.code, h _ ha.data⟩

theorem getLabels_keeps : Keeps Tidy Labels.Tidy getLabels :=
  Keeps.read.bind fun _ ha => Keeps.pure ha.labels

section
variable (loc : Location)

theorem number_keeps (message word : String) : Keeps Tidy (fun _ => True) (number loc message word) := by
  unfold number
  split
  · exact Keeps.pure trivial
  · exact Keeps.stop _

theorem warnIf_keeps (cond : Bool) (message : String) :
    Keeps Tidy (fun _ => True) (warnIf cond loc message) := by
  unfold warnIf
  exact Keeps.ite (fun _ => Keeps.warn _) fun _ => Keeps.pure trivial

/-! ## symbols -/

theorem addRange_keeps (addr : Int) {r : Range} (hr : r.Tidy) :
    Keeps Tidy (fun _ => True) (addRange addr r) := by
  unfold addRange
  refine (Keeps.ofExcept fun r' h' => Range.tidy_checked hr h').bind fun r' hr' => ?_
  exact setLabels_keeps fun l hl =>
    ⟨hl.symbols, hl.ranges.add addr hr', hl.functions, hl.args, hl.locals, hl.localRanges, hl.constants⟩

theorem tidy_memberRange {name : String} (hn : Unbroken name) {m : Member} (hm : m.Tidy) :
    (memberRange name m).Tidy :=
  ⟨unbroken_append (unbroken_append hn (by decide)) hm.name, hm.pointer⟩

theorem plainSymbol_keeps (prev addr : Int) {name : String} (hn : Unbroken name) :
    Keeps Tidy (fun _ => True) (plainSymbol loc prev addr name) := by
  unfold plainSymbol
  refine getLabels_keeps.bind fun _ _ => (warnIf_keeps loc _ _).andThen ?_
  refine (warnIf_keeps loc _ _).andThen (Keeps.andThen (setLabels_keeps fun l hl => ?_) ?_)
  · exact ⟨hl.symbols.insert addr hn, hl.ranges, hl.functions, hl.args, hl.locals, hl.localRanges,
      hl.constants⟩
  · exact getLabels_keeps.bind fun _ _ => warnIf_keeps loc _ _

theorem placeMembers_keeps (addr : Int) {name : String} (hn : Unbroken name) (ms : List Member)
    (hm : ∀ m ∈ ms, m.Tidy) : Keeps Tidy (fun _ => True) (placeMembers loc addr name ms) := by
  induction ms with
  | nil => exact Keeps.pure trivial
  | cons m ms ih =>
    unfold placeMembers
    refine (addRange_keeps _ (tidy_memberRange hn (hm m List.mem_cons_self))).andThen ?_
    refine getLabels_keeps.bind fun _ _ => (warnIf_keeps loc _ _).andThen ?_
    exact ih fun m' hm' => hm m' (List.mem_cons_of_mem m hm')

theorem placeTemplate_keeps (addr : Int) (inner : String) {name : String} (hn : Unbroken name) :
    Keeps Tidy (fun _ => True) (placeTemplate loc addr inner name) := by
  unfold placeTemplate
  refine Keeps.read.bind fun a ha => ?_
  split
  · exact Keeps.fail _
  · next t ht =>
    refine (addRange_keeps _ ⟨hn, pointsUnbroken_none⟩).andThen ?_
    refine getLabels_keeps.bind fun _ _ => (warnIf_keeps loc _ _).andThen ?_
    exact placeMembers_keeps loc addr hn t.members (ha.library.members inner t ht)

theorem placeSymbol_keeps (addr : Int) {name : String} (hn : Unbroken name) {shape : Shape}
    (hs : PointsUnbroken shape.pointer) :
    Keeps Tidy (fun _ => True) (placeSymbol loc addr name shape) := by
  unfold placeSymbol
  split
  · exact placeTemplate_keeps loc addr _ hn
  · refine (addRange_keeps _ ⟨hn, hs⟩).andThen ?_
    exact getLabels_keeps.bind fun _ _ => warnIf_keeps loc _ _

theorem symbolAddress_keeps (word : String) : Keeps Tidy (fun _ => True) (symbolAddress loc word) := by
  unfold symbolAddress
  exact (number_keeps loc _ _).bind fun _ _ => Keeps.check fun _ => Keeps.pure trivial

theorem readSymbol_keeps (prev : Int) {words : List String} (h : ∀ w ∈ words, Unbroken w) :
    Keeps Tidy (fun _ => True) (readSymbol loc prev words) := by
  unfold readSymbol
  split
  · exact Keeps.pure trivial
  · exact Keeps.stop _
  · next w name =>
    refine (symbolAddress_keeps loc w).bind fun addr _ => ?_
    exact (plainSymbol_keeps loc prev addr (h name (by simp))).andThen (Keeps.pure trivial)
  · next w type name =>
    have hname := h name (by simp)
    refine (symbolAddress_keeps loc w).bind fun addr _ => (warnIf_keeps loc _ _).andThen ?_
    have hwords : ∀ v ∈ [type, name], Unbroken v := fun v hv => h v (List.mem_cons_of_mem w hv)
    refine (onLibrary_keeps (Library.declare_keeps loc none hwords)).bind fun shape hs => ?_
    exact (placeSymbol_keeps loc addr hname hs).andThen (Keeps.pure trivial)
  · exact Keeps.stop _

end

theorem readSymbols_keeps (lines : List String) (index : Nat) (prev : Int) :
    Keeps Tidy (fun _ => True) (readSymbols index prev lines) := by
  induction lines generalizing index prev with
  | nil => exact Keeps.pure trivial
  | cons line lines ih =>
    unfold readSymbols
    exact (readSymbol_keeps _ prev fun w hw => unbroken_of_mem_words hw).bind fun addr _ => ih _ addr

/-! ## constants -/

theorem readConstant_keeps (loc : Location) (prev : Int) {words : List String}
    (h : ∀ w ∈ words, IsWord w.toList) : Keeps Tidy (fun _ => True) (readConstant loc prev words) := by
  unfold readConstant
  split
  · exact Keeps.pure trivial
  · next w name v =>
    refine (number_keeps loc _ _).bind fun addr _ => (number_keeps loc _ _).bind fun value _ => ?_
    refine Keeps.check fun _ => Keeps.andThen (setLabels_keeps fun l hl => ?_) ?_
    · exact ⟨hl.symbols, hl.ranges, hl.functions, hl.args, hl.locals, hl.localRanges,
        hl.constants.insert addr (h name (by simp))⟩
    · exact (warnIf_keeps loc _ _).andThen (Keeps.pure trivial)
  · exact Keeps.stop _

theorem readConstants_keeps (lines : List String) (index : Nat) (prev : Int) :
    Keeps Tidy (fun _ => True) (readConstants index prev lines) := by
  induction lines generalizing index prev with
  | nil => exact Keeps.pure trivial
  | cons line lines ih =>
    unfold readConstants
    exact (readConstant_keeps _ prev fun w hw => isWord_of_mem_words hw).bind fun addr _ => ih _ addr

/-! ## functions -/

section
variable (loc : Location)

theorem argNumber_keeps (text : List Char) : Keeps Tidy (fun _ => True) (argNumber loc text) := by
  unfold argNumber
  refine Keeps.check fun _ => Keeps.check fun _ => ?_
  exact Keeps.ofOption fun _ _ => trivial

theorem setArg_keeps (func : Int) (key : String) {r : Range} (hr : r.Tidy) :
    Keeps Tidy (fun _ => True) (setArg func key r) := by
  unfold setArg
  refine (Keeps.ofExcept fun r' h' => Range.tidy_checked hr h').bind fun r' hr' => ?_
  refine setLabels_keeps fun l hl => ⟨hl.symbols, hl.ranges, hl.functions, ?_, hl.locals,
    hl.localRanges, hl.constants⟩
  refine hl.args.alter func fun t ht => ?_
  cases ht
  exact Every.insert (hl.args.getD func Every.empty) key hr'

theorem argRange_keeps {words : List String} (h : ∀ w ∈ words, Unbroken w) :
    Keeps Tidy Range.Tidy (argRange loc words) := by
  unfold argRange
  split
  · next type name rest =>
    have hwords : ∀ v ∈ [type, name], Unbroken v := fun v hv => by
      rcases List.mem_cons.1 hv with rfl | hv
      · exact h v (by simp)
      · rw [List.mem_singleton.1 hv]; exact h name (by simp)
    refine (onLibrary_keeps (Library.declare_keeps loc none hwords)).bind fun shape hs => ?_
    refine Keeps.check fun _ => Keeps.check fun _ => Keeps.pure ?_
    exact ⟨h name (by simp), hs⟩
  · next name rest _ => exact Keeps.pure ⟨h name (by simp), pointsUnbroken_none⟩
  · exact Keeps.fail _

theorem readArg_keeps (cur : FunctionCursor) (key : String) {words : List String}
    (h : ∀ w ∈ words, Unbroken w) : Keeps Tidy (fun _ => True) (readArg loc cur key words) := by
  unfold readArg
  split
  · exact Keeps.stop _
  · next func _ =>
    refine (argNumber_keeps loc _).bind fun n _ => (warnIf_keeps loc _ _).andThen ?_
    refine Keeps.andThen (setLabels_keeps fun l hl => ?_) ?_
    · refine ⟨hl.symbols, hl.ranges, hl.functions, ?_, hl.locals, hl.localRanges, hl.constants⟩
      refine hl.args.alter func fun t ht => ?_
      cases ht
      exact hl.args.getD func Every.empty
    refine getLabels_keeps.bind fun _ _ => (warnIf_keeps loc _ _).andThen ?_
    refine (argRange_keeps loc h).bind fun r hr => ?_
    exact (setArg_keeps func key hr).andThen (Keeps.pure trivial)

theorem hasLocal_keeps (func addr : Int) : Keeps Tidy (fun _ => True) (hasLocal func addr) :=
  getLabels_keeps.bind fun _ _ => Keeps.pure trivial

theorem addLocalRange_keeps (func addr : Int) {r : Range} (hr : r.Tidy) :
    Keeps Tidy (fun _ => True) (addLocalRange func addr r) := by
  unfold addLocalRange
  refine (Keeps.ofExcept fun r' h' => Range.tidy_checked hr h').bind fun r' hr' => ?_
  refine setLabels_keeps fun l hl => ⟨hl.symbols, hl.ranges, hl.functions, hl.args, hl.locals, ?_,
    hl.constants⟩
  refine hl.localRanges.alter func fun t ht => ?_
  cases ht
  exact RangeTable.Tidy.add (hl.localRanges.getD func Every.empty) addr hr'

theorem tidy_localMemberRange {name : String} (hn : Unbroken name) {m : Member} (hm : m.Tidy) :
    (localMemberRange name m).Tidy := by
  refine ⟨(tidy_memberRange hn hm).name, fun q hq => ?_⟩
  obtain ⟨p, hp, rfl⟩ := Option.map_eq_some_iff.1 hq
  exact hm.pointer p hp

theorem placeLocalMembers_keeps (func addr : Int) {name : String} (hn : Unbroken name)
    (ms : List Member) (hm : ∀ m ∈ ms, m.Tidy) :
    Keeps Tidy (fun _ => True) (placeLocalMembers loc func addr name ms) := by
  induction ms with
  | nil => exact Keeps.pure trivial
  | cons m ms ih =>
    unfold placeLocalMembers
    refine (addLocalRange_keeps _ _ (tidy_localMemberRange hn (hm m List.mem_cons_self))).andThen ?_
    refine (hasLocal_keeps _ _).bind fun _ _ => (warnIf_keeps loc _ _).andThen ?_
    exact ih fun m' hm' => hm m' (List.mem_cons_of_mem m hm')

theorem placeLocalTemplate_keeps (func addr : Int) (inner : String) {name : String}
    (hn : Unbroken name) : Keeps Tidy (fun _ => True) (placeLocalTemplate loc func addr inner name) := by
  unfold placeLocalTemplate
  refine Keeps.read.bind fun a ha => ?_
  split
  · exact Keeps.fail _
  · next t ht =>
    refine (addLocalRange_keeps _ _ ⟨hn, pointsUnbroken_none⟩).andThen ?_
    refine (hasLocal_keeps _ _).bind fun _ _ => (warnIf_keeps loc _ _).andThen ?_
    exact placeLocalMembers_keeps loc func addr hn t.members (ha.library.members inner t ht)

theorem placeLocal_keeps (func addr : Int) {name : String} (hn : Unbroken name) {shape : Shape}
    (hs : PointsUnbroken shape.pointer) :
    Keeps Tidy (fun _ => True) (placeLocal loc func addr name shape) := by
  unfold placeLocal
  split
  · exact placeLocalTemplate_keeps loc func addr _ hn
  · refine (addLocalRange_keeps _ _ ⟨hn, hs⟩).andThen ?_
    exact (hasLocal_keeps _ _).bind fun _ _ => warnIf_keeps loc _ _

theorem readLocalRange_keeps (cur : FunctionCursor) (func : Int) {w type name : String}
    (ht : Unbroken type) (hn : Unbroken name) :
    Keeps Tidy (fun _ => True) (readLocalRange loc cur func w type name) := by
  have hwords : ∀ v ∈ [type, name], Unbroken v := fun v hv => by
    rcases List.mem_cons.1 hv with rfl | hv
    · exact ht
    · rw [List.mem_singleton.1 hv]; exact hn
  unfold readLocalRange
  refine (number_keeps loc _ _).bind fun addr _ => Keeps.check fun _ => ?_
  refine (warnIf_keeps loc _ _).andThen ?_
  refine (onLibrary_keeps (Library.declare_keeps loc none hwords)).bind fun shape hs => ?_
  exact (placeLocal_keeps loc func addr hn hs).andThen (Keeps.pure trivial)

theorem readLocalName_keeps (cur : FunctionCursor) (func : Int) {w name : String}
    (hn : Unbroken name) : Keeps Tidy (fun _ => True) (readLocalName loc cur func w name) := by
  unfold readLocalName
  refine Keeps.andThen (setLabels_keeps fun l hl => ?_) ?_
  · refine ⟨hl.symbols, hl.ranges, hl.functions, hl.args, ?_, hl.localRanges, hl.constants⟩
    refine hl.locals.alter func fun t ht => ?_
    cases ht
    exact hl.locals.getD func Every.empty
  refine (number_keeps loc _ _).bind fun addr _ => (hasLocal_keeps _ _).bind fun _ _ => ?_
  refine (warnIf_keeps loc _ _).andThen ((warnIf_keeps loc _ _).andThen ?_)
  refine Keeps.andThen (setLabels_keeps fun l hl => ?_) ?_
  · refine ⟨hl.symbols, hl.ranges, hl.functions, hl.args, ?_, hl.localRanges, hl.constants⟩
    refine hl.locals.alter func fun t ht => ?_
    cases ht
    exact Every.insert (hl.locals.getD func Every.empty) addr hn
  refine getLabels_keeps.bind fun _ _ => (warnIf_keeps loc _ _).andThen ?_
  exact Keeps.pure trivial

theorem readLocal_keeps (cur : FunctionCursor) {words : List String} (h : ∀ w ∈ words, Unbroken w) :
    Keeps Tidy (fun _ => True) (readLocal loc cur words) := by
  unfold readLocal
  split
  · exact Keeps.stop _
  · exact readLocalName_keeps loc cur _ (h _ (by simp))
  · exact readLocalRange_keeps loc cur _ (h _ (by simp)) (h _ (by simp))
  · exact Keeps.stop _

theorem readFunction_keeps (cur : FunctionCursor) {w name : String} (hn : Unbroken name) :
    Keeps Tidy (fun _ => True) (readFunction loc cur w name) := by
  unfold readFunction
  refine (symbolAddress_keeps loc w).bind fun addr _ => Keeps.andThen (setLabels_keeps fun l hl => ?_) ?_
  · exact ⟨hl.symbols, hl.ranges, hl.functions.insert addr hn, hl.args, hl.locals, hl.localRanges,
      hl.constants⟩
  split
  · exact (warnIf_keeps loc _ _).andThen (Keeps.pure trivial)
  · exact Keeps.pure trivial

theorem readFunctionLine_keeps (cur : FunctionCursor) {words : List String}
    (h : ∀ w ∈ words, Unbroken w) : Keeps Tidy (fun _ => True) (readFunctionLine loc cur words) := by
  unfold readFunctionLine
  split
  · exact Keeps.pure trivial
  · exact Keeps.stop _
  · next first second rest =>
    have hrest : ∀ w ∈ second :: rest, Unbroken w := fun w hw => h w (List.mem_cons_of_mem first hw)
    refine Keeps.ite (fun _ => readArg_keeps loc cur first hrest) fun _ => ?_
    refine Keeps.ite (fun _ => readLocal_keeps loc cur hrest) fun _ => ?_
    exact readFunction_keeps loc cur (hrest second List.mem_cons_self)

end

theorem readFunctions_keeps (lines : List String) (index : Nat) (cur : FunctionCursor) :
    Keeps Tidy (fun _ => True) (readFunctions index cur lines) := by
  induction lines generalizing index cur with
  | nil => exact Keeps.pure trivial
  | cons line lines ih =>
    unfold readFunctions
    exact (readFunctionLine_keeps _ cur fun w hw => unbroken_of_mem_words hw).bind fun cur' _ => ih _ cur'

end Annotations
end Disasm
