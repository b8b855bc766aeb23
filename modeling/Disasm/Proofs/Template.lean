import Mathlib
import Disasm.Template.Defaults
import Disasm.Proofs.Action
import Disasm.Proofs.Table
import Disasm.Proofs.Text.Split

/-!
# Texts from template files are unbroken

A library is read line by line and word by word, so that no name in it runs over the end of a line.

* `Library.Tidy`  the names of members, the targets of their pointers and the aliases;
* `declare_keeps`  a type word that is unbroken declares a shape whose pointer is;
* `load_keeps`  reading a file of templates keeps `Library.Tidy`.
-/

namespace Disasm

open Disasm.Action Disasm.Text

/-- what a pointer points to, where there is one, has an unbroken name -/
def PointsUnbroken (p : Option Pointer) : Prop := ∀ q, p = some q → Unbroken q.target

structure Member.Tidy (m : Member) : Prop where
  name : Unbroken m.name
  pointer : PointsUnbroken m.pointer

structure Library.Tidy (lib : Library) : Prop where
  members : Every (fun t : Template => ∀ m ∈ t.members, m.Tidy) lib.templates
  aliases : Every (fun a : Alias => Unbroken a.expansion) lib.aliases

theorem pointsUnbroken_none : PointsUnbroken none := fun _ h => by cases h

theorem pointsUnbroken_some {q : Pointer} (h : Unbroken q.target) : PointsUnbroken (some q) :=
  fun _ e => by cases e; exact h

namespace Library

/-! ## type words -/

theorem unbroken_expandAlias {lib : Library} (hl : lib.Tidy) {word : String} (h : Unbroken word) :
    Unbroken (lib.expandAlias word).2 := by
  have hr : (word.toList.dropWhile (· == '*')).Sublist word.toList := List.dropWhile_sublist _
  have hstars := unbroken_of_sublist h (List.takeWhile_sublist (p := (· == '*')))
  have hname := unbroken_of_sublist h ((List.takeWhile_sublist (p := (· != '['))).trans hr)
  have hbrackets := unbroken_of_sublist h ((List.dropWhile_sublist (p := (· != '['))).trans hr)
  unfold expandAlias
  dsimp only
  split
  · next a ha =>
    exact unbroken_append (unbroken_append hstars (hl.aliases _ a ha)) hbrackets
  · exact unbroken_append (unbroken_append hstars hname) hbrackets

theorem unbroken_arrayWord {constants : Std.TreeMap String Int} {word : String} {w : ArrayWord}
    (h : Unbroken word) (hw : ArrayWord.read constants word = .ok w) : Unbroken w.name := by
  unfold ArrayWord.read at hw
  split at hw
  · cases hw; exact h
  · cases hw; exact h
  · next name brackets _ hp =>
    split at hw
    · cases hw
      refine unbroken_ofList fun hn => ?_
      have hm : name ∈ pieces (· == '[') word.toList := by rw [hp]; exact List.mem_cons_self
      rcases mem_of_mem_piecesFrom _ _ _ hm _ hn with hc | hc
      · cases hc
      · exact h hc
    · cases hw

theorem unbroken_pointerTarget {word : String} (h : Unbroken word) :
    Unbroken (pointerTarget word.toList) := by
  unfold pointerTarget
  split
  · decide
  · exact unbroken_of_sublist h (List.dropWhile_sublist _)

section
variable (loc : Location) (current : Option String)

theorem expect_keeps (name : String) :
    Keeps Library.Tidy (fun _ => True) (expect loc current name) := by
  unfold expect
  refine Keeps.read.bind fun lib _ => Keeps.ite (fun _ => Keeps.update ?_) fun _ => Keeps.pure trivial
  exact fun lib h => ⟨h.members, h.aliases⟩

theorem pointerShape_keeps {word : String} (h : Unbroken word) :
    Keeps Library.Tidy (fun s : Shape => PointsUnbroken s.pointer)
      (pointerShape loc current word.toList) := by
  have hp : ∀ kind n, PointsUnbroken
      ({ size := 4, kind, pointer := some ⟨pointerTarget word.toList, n⟩ } : Shape).pointer :=
    fun _ _ => pointsUnbroken_some (unbroken_pointerTarget h)
  unfold pointerShape
  dsimp only
  refine Keeps.ite (fun _ => Keeps.pure (hp _ _)) fun _ => ?_
  refine Keeps.ite (fun _ => Keeps.pure (hp _ _)) fun _ => ?_
  refine Keeps.check fun _ => ?_
  exact (expect_keeps loc current _).andThen (Keeps.pure (hp _ _))

theorem valueShape_keeps (name : String) :
    Keeps Library.Tidy (fun s : Shape => PointsUnbroken s.pointer) (valueShape loc name) := by
  unfold valueShape
  split
  · exact Keeps.pure pointsUnbroken_none
  · refine Keeps.check fun _ => Keeps.read.bind fun lib _ => ?_
    split
    · exact Keeps.stop _
    · exact Keeps.pure pointsUnbroken_none

theorem sizeShape_keeps (word : String) :
    Keeps Library.Tidy (fun s : Shape => PointsUnbroken s.pointer) (sizeShape loc word) := by
  unfold sizeShape
  split
  · exact Keeps.stop _
  · exact Keeps.ite (fun _ => Keeps.stop _) fun _ => Keeps.pure pointsUnbroken_none

theorem typeShape_keeps {word : String} (h : Unbroken word) :
    Keeps Library.Tidy (fun s : Shape => PointsUnbroken s.pointer) (typeShape loc current word) := by
  unfold typeShape
  refine Keeps.read.bind fun lib hlib => ?_
  have hx := unbroken_expandAlias hlib h
  generalize lib.expandAlias word = r at hx ⊢
  obtain ⟨aliased, word'⟩ := r
  dsimp only at hx ⊢
  refine (Keeps.ofExcept (P := fun w : ArrayWord => Unbroken w.name)
    fun w hw => unbroken_arrayWord hx hw).bind fun w hw => ?_
  refine Keeps.check fun _ => ?_
  have hshape : ∀ s : Shape, PointsUnbroken s.pointer →
      Keeps Library.Tidy (fun s : Shape => PointsUnbroken s.pointer) (pure
        (let s := if w.isArray then arrayShape w.levels s else s; { s with aliased })) := by
    intro s hs
    refine Keeps.pure ?_
    dsimp only
    split
    · exact hs
    · exact hs
  refine Keeps.ite (fun _ => ?_) fun _ => ?_
  · exact (pointerShape_keeps loc current hw).bind hshape
  · exact (valueShape_keeps loc w.name).bind hshape

/-- an unbroken word declares a shape with an unbroken pointer -/
theorem declare_keeps {words : List String} (h : ∀ w ∈ words, Unbroken w) :
    Keeps Library.Tidy (fun s : Shape => PointsUnbroken s.pointer) (declare loc current words) := by
  unfold declare
  split
  · exact Keeps.fail _
  · next word rest =>
    refine Keeps.ite (fun _ => Keeps.fail _) fun _ => ?_
    refine Keeps.ite (fun _ => sizeShape_keeps loc word) fun _ => ?_
    exact typeShape_keeps loc current (h word List.mem_cons_self)

end
end Library

namespace TemplateReader

/-! ## lines of template files -/

/-- the library and the template under way hold unbroken texts -/
structure Tidy (r : TemplateReader) : Prop where
  library : r.library.Tidy
  pending : ∀ t, r.pending = some t → ∀ m ∈ t.members, m.Tidy

theorem onLibrary_keeps {α : Type} {P : α → Prop} {a : Action Library α} (h : Keeps Library.Tidy P a) :
    Keeps Tidy P (onLibrary a) :=
  h.within (fun _ ht => ht.library) fun _ _ hu ht => ⟨hu, ht.pending⟩

theorem setLibrary_keeps {f : Library → Library} (h : ∀ lib : Library, lib.Tidy → (f lib).Tidy) :
    Keeps Tidy (fun _ => True) (setLibrary f) :=
  Keeps.update fun _ hr => ⟨h _ hr.library, hr.pending⟩

theorem setPending_keeps {t : Option OpenTemplate} (h : ∀ u, t = some u → ∀ m ∈ u.members, m.Tidy) :
    Keeps Tidy (fun _ => True) (setPending t) :=
  Keeps.update fun _ hr => ⟨hr.library, h⟩

section
variable (override : Bool) (loc : Location) {words : List String}

theorem readAlias_keeps (h : ∀ w ∈ words, Unbroken w) :
    Keeps Tidy (fun _ => True) (readAlias override loc words) := by
  unfold readAlias
  split
  · next first declaration name =>
    refine Keeps.check fun _ => Keeps.read.bind fun r hr => ?_
    refine Keeps.check fun _ => Keeps.check fun _ => setLibrary_keeps fun lib hlib => ?_
    have hx := Library.unbroken_expandAlias hr.library (h declaration (by simp))
    exact ⟨hlib.members, hlib.aliases.insert name hx⟩
  · exact Keeps.stop _

theorem readConstant_keeps : Keeps Tidy (fun _ => True) (readConstant override loc words) := by
  unfold readConstant
  split
  · refine Keeps.check fun _ => ?_
    split
    · exact Keeps.stop _
    · refine Keeps.read.bind fun r _ => Keeps.check fun _ => setLibrary_keeps fun lib hlib => ?_
      exact ⟨hlib.members, hlib.aliases⟩
  · exact Keeps.stop _

theorem readSize_keeps (w : Option String) : Keeps Tidy (fun _ => True) (readSize loc w) := by
  unfold readSize
  split
  · exact Keeps.pure trivial
  · split
    · exact Keeps.stop _
    · exact Keeps.ite (fun _ => Keeps.stop _) fun _ => Keeps.pure trivial

theorem readHead_keeps : Keeps Tidy (fun _ => True) (readHead override loc words) := by
  unfold readHead
  split
  · exact Keeps.stop _
  · refine Keeps.check fun _ => Keeps.read.bind fun r _ => ?_
    refine Keeps.check fun _ => Keeps.check fun _ => (readSize_keeps loc _).bind fun size _ => ?_
    exact setPending_keeps fun u hu m hm => by cases hu; cases hm

theorem readEnd_keeps {t : OpenTemplate} (ht : ∀ m ∈ t.members, m.Tidy) :
    Keeps Tidy (fun _ => True) (readEnd loc t words) := by
  unfold readEnd
  refine Keeps.check fun _ => (setLibrary_keeps fun lib hlib => ?_).andThen
    (setPending_keeps fun _ hu => by cases hu)
  refine ⟨hlib.members.insert t.name fun m hm => ?_, hlib.aliases⟩
  rw [members_close] at hm
  exact ht m (List.mem_reverse.1 hm)

theorem checkOrder_keeps (what name : String) (offset : Int) (ms : List Member) :
    Keeps Tidy (fun _ => True) (checkOrder loc what name offset ms) := by
  unfold checkOrder
  split
  · exact Keeps.pure trivial
  · exact Keeps.ite (fun _ => Keeps.warn _) fun _ =>
      Keeps.ite (fun _ => Keeps.warn _) fun _ => Keeps.pure trivial

theorem addTemplate_keeps {t : OpenTemplate} (ht : ∀ m ∈ t.members, m.Tidy) (given : Option Int)
    (shape : Shape) (inner : String) {name : String} (hn : Unbroken name) (written : String) :
    Keeps Tidy (fun _ => True) (addTemplate loc t given shape inner name written) := by
  unfold addTemplate
  refine Keeps.read.bind fun r hr => ?_
  split
  · exact Keeps.fail _
  · next u hu =>
    refine (checkOrder_keeps loc _ _ _ _).andThen (setPending_keeps fun v hv m hm => ?_)
    cases hv
    have hinner := hr.library.members inner u hu
    rcases List.mem_append.1 hm with hm | hm
    · -- a member of the inner template, under the name of the outer member
      obtain ⟨m', hm', rfl⟩ := List.mem_map.1 (List.mem_reverse.1 hm)
      have h' := hinner m' hm'
      exact ⟨unbroken_append (unbroken_append hn (by decide)) h'.name, h'.pointer⟩
    · rcases List.mem_cons.1 hm with rfl | hm
      · exact ⟨hn, pointsUnbroken_none⟩
      · exact ht m hm

theorem addPlain_keeps {t : OpenTemplate} (ht : ∀ m ∈ t.members, m.Tidy) (given : Option Int)
    {shape : Shape} (hs : PointsUnbroken shape.pointer) {name : String} (hn : Unbroken name)
    (written : String) : Keeps Tidy (fun _ => True) (addPlain loc t given shape name written) := by
  unfold addPlain
  refine Keeps.read.bind fun r _ => (checkOrder_keeps loc _ _ _ _).andThen
    (setPending_keeps fun v hv m hm => ?_)
  cases hv
  rcases List.mem_cons.1 hm with rfl | hm
  · exact ⟨hn, hs⟩
  · exact ht m hm

theorem readOffset_keeps (h : ∀ w ∈ words, Unbroken w) :
    Keeps Tidy (fun r => ∀ w ∈ r.2, Unbroken w) (readOffset loc words) := by
  unfold readOffset
  split
  · exact Keeps.pure h
  · split
    · exact Keeps.stop _
    · exact Keeps.ite (fun _ => Keeps.stop _) fun _ =>
        Keeps.pure fun w hw => h w (List.mem_of_mem_drop hw)
  · exact Keeps.stop _

theorem unbroken_getD (h : ∀ w ∈ words, Unbroken w) (i : Nat) : Unbroken (words.getD i "") := by
  rw [List.getD_eq_getElem?_getD]
  cases hi : words[i]? with
  | none => decide
  | some w => exact h w (List.mem_of_getElem? hi)

theorem readMember_keeps {t : OpenTemplate} (ht : ∀ m ∈ t.members, m.Tidy)
    (h : ∀ w ∈ words, Unbroken w) : Keeps Tidy (fun _ => True) (readMember loc t words) := by
  unfold readMember
  refine (readOffset_keeps loc h).bind fun r hr => ?_
  obtain ⟨given, rest⟩ := r
  refine (onLibrary_keeps (Library.declare_keeps loc (some t.name) hr)).bind fun shape hs => ?_
  refine Keeps.check fun _ => Keeps.check fun _ => ?_
  have hname := unbroken_getD hr 1
  dsimp only
  split
  · exact addTemplate_keeps loc ht given shape _ hname _
  · exact addPlain_keeps loc ht given hs hname _

/-! ## files -/

theorem readLine_keeps (h : ∀ w ∈ words, Unbroken w) :
    Keeps Tidy (fun _ => True) (readLine override loc words) := by
  unfold readLine
  refine Keeps.read.bind fun r hr => ?_
  split
  · exact Keeps.pure trivial
  · refine Keeps.ite (fun _ => readAlias_keeps override loc h) fun _ => ?_
    exact Keeps.ite (fun _ => readConstant_keeps override loc) fun _ => readHead_keeps override loc
  · next first rest t hp =>
    have ht := hr.pending t hp
    refine Keeps.ite (fun _ => ?_) fun _ => ?_
    · refine Keeps.ite (fun _ => setPending_keeps fun u hu => ?_) fun _ => Keeps.stop _
      cases hu
      exact ht
    · exact Keeps.ite (fun _ => readEnd_keeps loc ht) fun _ => readMember_keeps loc ht h

end

theorem readLines_keeps (override : Bool) (file : String) (lines : List String) (index : Nat) :
    Keeps Tidy (fun _ => True) (readLines override file index lines) := by
  induction lines generalizing index with
  | nil => exact Keeps.pure trivial
  | cons line lines ih =>
    unfold readLines
    exact (readLine_keeps override _ fun w hw => unbroken_of_mem_words hw).andThen (ih (index + 1))

theorem readAll_keeps (override : Bool) (file : String) (lines : List String) :
    Keeps Tidy (fun _ => True) (readAll override file lines) := by
  unfold readAll
  refine (readLines_keeps override file lines 0).andThen (Keeps.read.bind fun r _ => ?_)
  refine Keeps.check fun _ => ?_
  split
  · exact Keeps.stop _
  · exact Keeps.pure trivial

end TemplateReader

namespace Library

theorem load_keeps (override : Bool) (file text : String) :
    Keeps Library.Tidy (fun _ => True) (Library.load override file text) := by
  constructor
  intro s hs
  have h := (TemplateReader.readAll_keeps override file (Text.lines text)).run
    ⟨⟨s.state, none⟩, s.console⟩ ⟨hs, fun _ ht => by cases ht⟩
  unfold Library.load
  split at h
  · next he => rw [he]; exact ⟨h.1.library, trivial⟩
  · next he => rw [he]; exact h.library

theorem loadDefaults_keeps (d : Directory) :
    Keeps Library.Tidy (fun _ => True) (Library.loadDefaults d) := by
  have huser : Keeps Library.Tidy (fun _ => True) (if d.holds userFile then
      Action.ofExcept (d.text userFile) >>= fun text => Library.load true userFile text
      else pure ()) :=
    Keeps.ite (fun _ => (Keeps.ofExcept (P := fun _ => True) fun _ _ => trivial).bind
      fun text _ => load_keeps true userFile text) fun _ => Keeps.pure trivial
  unfold loadDefaults
  refine Keeps.ite (fun _ => ?_) fun _ => ?_
  · refine (Keeps.ofExcept (P := fun _ => True) fun _ _ => trivial).bind fun text _ => ?_
    exact (load_keeps false defaultFile text).andThen huser
  · exact (load_keeps false defaultFile _).andThen huser

end Library
end Disasm
