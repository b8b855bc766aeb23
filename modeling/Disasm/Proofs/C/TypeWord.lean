import Mathlib
import Disasm.Proofs.C.Struct
import Disasm.Proofs.Template.ArrayWord
import Disasm.Proofs.Text.Numeral

/-!
# The words of field types

* `isIdentifier`, `isLength`  how names and lengths are written;
* `FieldType.HasShape`  the shape of a type, in the terms of templates;
* `FieldType.Known`  what the word of a type asks of the library it is read with;
* `shape?_word`  the word of a known type declares the shape of the type;
* `opened_eq_nil`  and it leaves no reference open.
-/

namespace Disasm.C

open Disasm.Action Disasm.Text

/-! ## names and lengths -/

def isIdentifierChar (c : Char) : Bool := c.isAlphanum || c == '_' || c == '$'

def isIdentifier (s : String) : Bool :=
  !s.isEmpty && s.toList.all isIdentifierChar && !s.toList.head?.any Char.isDigit

def decimalDigits : List Char := ['0', '1', '2', '3', '4', '5', '6', '7', '8', '9']

/-- decimal digits, of which the first is not 0 -/
def isLength (s : String) : Bool :=
  !s.isEmpty && s.toList.all decimalDigits.contains && s.toList.head? != some '0'

/-- the number that decimal digits stand for -/
def lengthValue (s : String) : Nat := digitsValue 10 0 s.toList

theorem isGraphic_of_identifierChar {c : Char} (h : isIdentifierChar c = true) : IsGraphic c := by
  simp only [isIdentifierChar, Char.isAlphanum, Char.isAlpha, Char.isUpper, Char.isLower, Char.isDigit, Bool.or_eq_true,
    Bool.and_eq_true, decide_eq_true_eq, UInt32.le_iff_toNat_le, ge_iff_le, beq_iff_eq] at h
  change ((((65 ≤ c.toNat ∧ c.toNat ≤ 90) ∨ (97 ≤ c.toNat ∧ c.toNat ≤ 122)) ∨ (48 ≤ c.toNat ∧ c.toNat ≤ 57)) ∨
    c = '_') ∨ c = '$' at h
  unfold IsGraphic
  rcases h with (h | rfl) | rfl
  · omega
  · decide
  · decide

theorem isGraphic_of_decimal {c : Char} (h : c ∈ decimalDigits) : IsGraphic c := by
  unfold decimalDigits at h
  simp only [List.mem_cons, List.not_mem_nil, or_false] at h
  rcases h with rfl | rfl | rfl | rfl | rfl | rfl | rfl | rfl | rfl | rfl <;> decide

theorem isDigitOf_of_decimal {c : Char} (h : c ∈ decimalDigits) : IsDigitOf 10 c := by
  unfold decimalDigits at h
  simp only [List.mem_cons, List.not_mem_nil, or_false] at h
  rcases h with rfl | rfl | rfl | rfl | rfl | rfl | rfl | rfl | rfl | rfl <;> exact ⟨_, rfl⟩

/-- a character that no identifier has -/
theorem not_mem_identifier {s : String} (hs : isIdentifier s = true) {c : Char} (hc : isIdentifierChar c = false) :
    c ∉ s.toList := by
  simp only [isIdentifier, Bool.and_eq_true, List.all_eq_true] at hs
  intro h
  rw [hs.1.2 c h] at hc
  cases hc

theorem not_mem_length {s : String} (hs : isLength s = true) {c : Char} (hc : c ∉ decimalDigits) : c ∉ s.toList := by
  simp only [isLength, Bool.and_eq_true, List.all_eq_true, List.contains_iff_mem] at hs
  exact fun h => hc (hs.1.2 c h)

theorem isWord_of_identifier {s : String} (hs : isIdentifier s = true) : IsWord s.toList := by
  simp only [isIdentifier, Bool.and_eq_true, List.all_eq_true] at hs
  refine ⟨?_, fun c hc => (isGraphic_of_identifierChar (hs.1.2 c hc)).not_blank⟩
  have hne := hs.1.1
  simpa using hne

theorem readNumber?_length {s : String} (hs : isLength s = true) : readNumber? s = some (lengthValue s : Int) := by
  simp only [isLength, Bool.and_eq_true, List.all_eq_true, List.contains_iff_mem, bne_iff_ne] at hs
  obtain ⟨⟨hempty, hdigits⟩, hhead⟩ := hs
  have hne : s.toList ≠ [] := by simpa using hempty
  have hd : ∀ c ∈ s.toList, IsDigitOf 10 c := fun c hc => isDigitOf_of_decimal (hdigits c hc)
  have hmarked : Text.isMarkedHex (unsigned s.toList) = false := by
    obtain ⟨c, cs, hcs⟩ := List.exists_cons_of_ne_nil hne
    rw [hcs] at hhead hdigits ⊢
    have hc := hdigits c List.mem_cons_self
    unfold decimalDigits at hc
    simp only [List.mem_cons, List.not_mem_nil, or_false] at hc
    rcases hc with rfl | rfl | rfl | rfl | rfl | rfl | rfl | rfl | rfl | rfl
    · exact absurd rfl hhead
    all_goals rfl
  unfold readNumber?
  rw [if_neg (by rw [hmarked]; exact Bool.false_ne_true)]
  show readInt? (10 : Nat) _ = _
  rw [readInt?_eq (by decide) (by decide) (fun c hc => (hd c hc).isPlain), signed?_digits hne hd,
    magnitude?_eq (.inl rfl) hd, digits?_eq hne hd]
  rfl

/-! ## the shapes of types -/

/-- what stands at a field, or at each element of it -/
def FieldType.kind (t : FieldType) : Kind :=
  match t.depth, t.target with
  | 0, .basic b => .basic b
  | 0, .void => .raw
  | 0, .struct _ => .template
  | _ + 1, .basic _ => .pointerToBasic
  | _ + 1, .void => .pointerToVoid
  | _ + 1, .struct _ => .pointerToTemplate

/-- the struct that stands there, if it is one -/
def FieldType.struct? (t : FieldType) : Option String :=
  match t.depth, t.target with
  | 0, .struct name => some name
  | _, _ => none

def FieldType.pointer? (t : FieldType) : Option Pointer :=
  if t.depth = 0 then none else some ⟨t.target.word, t.depth⟩

def FieldType.levels? (t : FieldType) : Option (List Level) :=
  if t.lengths = [] then none else some (t.lengths.map fun l => ⟨lengthValue l, none⟩)

structure FieldType.HasShape (t : FieldType) (shape : Shape) : Prop where
  kind : shape.kind = t.kind
  template : shape.template = t.struct?
  pointer : shape.pointer = t.pointer?
  levels : shape.array.map Dimensions.levels = t.levels?

theorem FieldType.HasShape.single_iff {t : FieldType} {shape : Shape} (h : t.HasShape shape) :
    shape.array = none ↔ t.lengths = [] := by
  have hlevels := h.levels
  unfold FieldType.levels? at hlevels
  rw [← Option.map_eq_none_iff, hlevels]
  split
  · next hls => exact iff_of_true rfl hls
  · next hls => exact iff_of_false (Option.some_ne_none _) hls

/-- a struct that stands there is not pointed to -/
theorem pointer?_of_struct? {t : FieldType} {name : String} (h : t.struct? = some name) : t.pointer? = none := by
  unfold FieldType.struct? at h
  split at h
  · next hdepth htarget => exact if_pos hdepth
  · cases h

/-- the characters of a type word in front of its brackets -/
def FieldType.stem (t : FieldType) : List Char := List.replicate t.depth '*' ++ t.target.word.toList

theorem toList_copies (n : Nat) : (copies n "*").toList = List.replicate n '*' := by
  induction n with
  | zero => rfl
  | succ n ih =>
    unfold copies at ih ⊢
    rw [List.replicate_succ, String.join_cons, String.toList_append, ih, List.replicate_succ]
    rfl

theorem toList_word (t : FieldType) :
    t.word.toList = t.stem ++ (t.lengths.map fun l => l.toList ++ [']']).flatMap ('[' :: ·) := by
  unfold FieldType.word FieldType.stem brackets
  rw [ArrayWord.toList_brackets, String.toList_append, toList_copies]

/-- brackets are cut off from the word, and the dimensions in them are read one by one -/
theorem read_word_iff {constants : Std.TreeMap String Int} {t : FieldType} (hstem : '[' ∉ t.stem)
    (hclear : ∀ l ∈ t.lengths, '[' ∉ l.toList) {levels : List Level} :
    ArrayWord.read constants t.word = .ok ⟨true, String.ofList t.stem, !levels.isEmpty, levels⟩ ↔
      List.Forall₂ (fun l level => ArrayWord.level? constants (l.toList ++ [']']) = some level) t.lengths levels := by
  have hpieces : pieces (· == '[') t.word.toList = t.stem :: t.lengths.map fun l => l.toList ++ [']'] := by
    refine pieces_eq_cons_iff.2 ⟨toList_word t, hstem, fun q hq => ?_⟩
    obtain ⟨l, hl, rfl⟩ := List.mem_map.1 hq
    simpa using hclear l hl
  constructor
  · intro hread
    obtain ⟨name, levels', hspells, hw⟩ := ArrayWord.read_valid_iff.1 ⟨hread, rfl⟩
    obtain ⟨-, -, -, rfl⟩ := ArrayWord.mk.inj hw
    obtain ⟨ps, hps, hlevels⟩ := ArrayWord.spells_iff.1 hspells
    rw [hpieces] at hps
    obtain ⟨-, rfl⟩ := List.cons.inj hps
    exact List.forall₂_map_left_iff.1 hlevels
  · intro hlevels
    have hspells : ArrayWord.Spells constants t.word (String.ofList t.stem) levels := by
      refine ArrayWord.spells_iff.2 ⟨t.lengths.map fun l => l.toList ++ [']'], ?_, ?_⟩
      · rw [String.toList_ofList]
        exact hpieces
      · rw [List.forall₂_map_left_iff]
        exact hlevels
    exact (ArrayWord.read_valid_iff.2 ⟨_, levels, hspells, rfl⟩).1

theorem level?_length {l : String} (hl : isLength l = true) :
    ArrayWord.level? {} (l.toList ++ [']']) = some ⟨lengthValue l, none⟩ :=
  ArrayWord.level?_eq_some_iff.2 ⟨l, rfl, not_mem_length hl (by decide),
    .number Std.TreeMap.getElem?_emptyc (readNumber?_length hl) (Int.natCast_nonneg _)⟩

theorem isIdentifier_basic (b : BasicType) : isIdentifier b.name = true := by
  cases b <;> decide

theorem isIdentifier_word {target : Target} (h : ∀ name, target = .struct name → isIdentifier name = true) :
    isIdentifier target.word = true := by
  cases target with
  | basic b => exact isIdentifier_basic b
  | void => decide
  | struct name => exact h name rfl

/-- a library with nothing but templates, and none of them awaited -/
structure Plain (lib : Library) : Prop where
  aliases : lib.aliases = {}
  constants : lib.constants = {}
  forward : lib.forward = []

theorem expandAlias_plain {lib : Library} (h : Plain lib) (word : String) : lib.expandAlias word = (false, word) := by
  unfold Library.expandAlias
  dsimp only
  rw [h.aliases, Std.TreeMap.getElem?_emptyc]
  dsimp only
  congr 1
  apply String.toList_injective
  simp only [String.toList_append, String.toList_ofList]
  rw [List.append_assoc, List.takeWhile_append_dropWhile, List.takeWhile_append_dropWhile]

/-- a word can be made of the type -/
structure FieldType.Written (t : FieldType) : Prop where
  target : isIdentifier t.target.word = true
  lengths : ∀ l ∈ t.lengths, isLength l = true

/-- what the word of a type asks of a library, inside the template `own` -/
structure FieldType.Known (lib : Library) (own : String) (t : FieldType) : Prop where
  lengths : ∀ l ∈ t.lengths, isLength l = true
  void : t.target = .void → t.depth ≠ 0
  named : ∀ name, t.target = .struct name → isIdentifier name = true ∧ isName name = true
  found : ∀ name, t.target = .struct name → lib.templates.contains name = true ∨ (t.depth ≠ 0 ∧ name = own)

theorem ofName?_name (b : BasicType) : BasicType.ofName? b.name = some b := by
  cases b <;> rfl

theorem ofName?_of_isName {name : String} (h : isName name = true) : BasicType.ofName? name = none := by
  simp only [isName, Bool.and_eq_true, Option.isNone_iff_eq_none] at h
  exact h.2

/-- the shape of a type without its lengths -/
structure FieldType.HasElement (t : FieldType) (shape : Shape) : Prop where
  kind : shape.kind = t.kind
  template : shape.template = t.struct?
  pointer : shape.pointer = t.pointer?
  single : shape.array = none

section
variable {lib : Library} {own : String} {t : FieldType}

theorem FieldType.Known.identifier (h : t.Known lib own) : isIdentifier t.target.word = true :=
  isIdentifier_word fun name htarget => (h.named name htarget).1

theorem FieldType.Known.written (h : t.Known lib own) : t.Written := ⟨h.identifier, h.lengths⟩

theorem FieldType.Known.template (h : t.Known lib own) {name : String} (hstruct : t.struct? = some name) :
    ∃ u, lib.templates[name]? = some u := by
  unfold FieldType.struct? at hstruct
  split at hstruct
  · next hdepth htarget =>
    cases hstruct
    have hfound := (h.found name htarget).resolve_right fun hown => hown.1 hdepth
    exact Option.isSome_iff_exists.1 (Std.TreeMap.contains_eq_isSome_getElem?.symm.trans hfound)
  · cases hstruct

theorem not_mem_stem {c : Char} (h : t.Known lib own) (hstar : c ≠ '*') (hc : isIdentifierChar c = false) :
    c ∉ t.stem := by
  unfold FieldType.stem
  rw [List.mem_append, not_or]
  exact ⟨fun hmem => hstar (List.eq_of_mem_replicate hmem), not_mem_identifier h.identifier hc⟩

theorem exists_cons_word (h : t.Known lib own) : ∃ c cs, t.target.word.toList = c :: cs ∧ c ≠ '*' := by
  have hstar := not_mem_identifier h.identifier (c := '*') (by decide)
  obtain ⟨c, cs, hcs⟩ := List.exists_cons_of_ne_nil (isWord_of_identifier h.identifier).1
  rw [hcs] at hstar
  exact ⟨c, cs, hcs, fun he => hstar (he ▸ List.mem_cons_self)⟩

theorem pointerTarget_stem (h : t.Known lib own) : pointerTarget t.stem = t.target.word := by
  obtain ⟨c, cs, hcs, hc⟩ := exists_cons_word h
  unfold pointerTarget FieldType.stem
  rw [hcs, if_neg (by simp [hc]), List.dropWhile_append_of_pos (by simp),
    List.dropWhile_cons_of_neg (by simpa using hc), ← hcs, String.ofList_toList]

theorem stars_stem (h : t.Known lib own) : (t.stem.takeWhile (· == '*')).length = t.depth := by
  obtain ⟨c, cs, hcs, hc⟩ := exists_cons_word h
  unfold FieldType.stem
  rw [hcs, List.takeWhile_append_of_pos (by simp), List.takeWhile_cons_of_neg (by simpa using hc), List.append_nil,
    List.length_replicate]

theorem pointerShape?_stem (h : t.Known lib own) (hdepth : t.depth ≠ 0) :
    ∃ shape : Shape, Library.pointerShape? t.stem = some shape ∧ t.HasElement shape := by
  unfold Library.pointerShape?
  rw [pointerTarget_stem h, stars_stem h]
  obtain ⟨target, depth, lengths⟩ := t
  cases depth with
  | zero => exact absurd rfl hdepth
  | succ n =>
    dsimp only
    cases target with
    | basic b =>
      have hvoid : ¬ ((Target.basic b).word == "void") = true := by cases b <;> decide
      have hbasic : (BasicType.ofName? (Target.basic b).word).isSome = true := Option.isSome_of_eq_some (ofName?_name b)
      rw [if_neg hvoid, if_pos hbasic]
      exact ⟨_, rfl, rfl, rfl, rfl, rfl⟩
    | void => exact ⟨_, rfl, rfl, rfl, rfl, rfl⟩
    | struct name =>
      have hname : isName (Target.struct name).word = true := (h.named name rfl).2
      have hvoid : ¬ ((Target.struct name).word == "void") = true := by
        simp only [isName, Bool.and_eq_true, bne_iff_ne] at hname
        simpa using hname.1.2
      have hbasic : ¬ (BasicType.ofName? (Target.struct name).word).isSome = true := by
        rw [ofName?_of_isName hname]
        exact Bool.false_ne_true
      rw [if_neg hvoid, if_neg hbasic, if_pos hname]
      exact ⟨_, rfl, rfl, rfl, rfl, rfl⟩

theorem valueShape?_word (h : t.Known lib own) (hdepth : t.depth = 0) :
    ∃ shape : Shape, lib.valueShape? t.target.word = some shape ∧ t.HasElement shape := by
  obtain ⟨target, depth, lengths⟩ := t
  dsimp only at hdepth
  subst hdepth
  unfold Library.valueShape?
  cases target with
  | basic b =>
    unfold Target.word
    rw [ofName?_name]
    exact ⟨_, rfl, rfl, rfl, rfl, rfl⟩
  | void => exact absurd rfl (h.void rfl)
  | struct name =>
    have hname := (h.named name rfl).2
    obtain ⟨u, hu⟩ := h.template rfl
    unfold Target.word
    dsimp only
    rw [ofName?_of_isName hname]
    dsimp only
    rw [if_pos hname, hu]
    exact ⟨_, rfl, rfl, rfl, rfl, rfl⟩

theorem read_word (h : t.Known lib own) :
    ArrayWord.read {} t.word =
      .ok ⟨true, String.ofList t.stem, !t.lengths.isEmpty, t.lengths.map fun l => ⟨lengthValue l, none⟩⟩ := by
  have hclear : ∀ l ∈ t.lengths, '[' ∉ l.toList := fun l hl => not_mem_length (h.lengths l hl) (by decide)
  have hlevels : List.Forall₂ (fun l level => ArrayWord.level? {} (l.toList ++ [']']) = some level) t.lengths
      (t.lengths.map fun l => ⟨lengthValue l, none⟩) := by
    rw [List.forall₂_map_right_iff, List.forall₂_same]
    exact fun l hl => level?_length (h.lengths l hl)
  have hread := (read_word_iff (not_mem_stem h (by decide) (by decide)) hclear).2 hlevels
  rwa [List.isEmpty_map] at hread

/-- a word starts neither like a number nor, without stars, like a pointer -/
theorem head_stem (h : t.Known lib own) :
    ∃ c cs, t.stem = c :: cs ∧ startsNumber t.stem = false ∧ (c = '*' ↔ t.depth ≠ 0) := by
  obtain ⟨c, cs, hcs, hc⟩ := exists_cons_word h
  unfold FieldType.stem
  cases hdepth : t.depth with
  | zero =>
    refine ⟨c, cs, hcs, ?_, fun he => absurd he hc, fun hne => absurd rfl hne⟩
    show startsNumber t.target.word.toList = false
    cases htarget : t.target with
    | basic b => cases b <;> decide
    | void => decide
    | struct name =>
      have hname := (h.named name htarget).2
      simp only [isName, Bool.and_eq_true, Bool.not_eq_true'] at hname
      exact hname.1.1.2
  | succ n => exact ⟨'*', _, rfl, rfl, fun _ => Nat.succ_ne_zero n, fun _ => rfl⟩

/-- what stands in front of the brackets declares the shape of the elements -/
theorem exists_element (h : t.Known lib own) :
    ∃ shape, (if t.stem.head? == some '*' then Library.pointerShape? t.stem
      else lib.valueShape? (String.ofList t.stem)) = some shape ∧ t.HasElement shape := by
  obtain ⟨c, cs, hcs, -, hstar⟩ := head_stem h
  have hhead : t.stem.head? = some c := by rw [hcs]; rfl
  by_cases hdepth : t.depth = 0
  · have hstem : String.ofList t.stem = t.target.word := by
      unfold FieldType.stem
      rw [hdepth]
      exact String.ofList_toList
    have hne : ¬ (t.stem.head? == some '*') = true := by
      rw [hhead]
      simpa using fun hc => hstar.1 hc hdepth
    rw [if_neg hne, hstem]
    exact valueShape?_word h hdepth
  · have heq : (t.stem.head? == some '*') = true := by
      rw [hhead, hstar.2 hdepth]
      rfl
    rw [if_pos heq]
    exact pointerShape?_stem h hdepth

/-- the lengths make an array of the elements -/
theorem FieldType.HasElement.hasShape {element : Shape} (h : t.HasElement element) (aliased : Bool) :
    t.HasShape { (if !t.lengths.isEmpty then
      Library.arrayShape (t.lengths.map fun l => ⟨lengthValue l, none⟩) element else element) with aliased } := by
  cases hls : t.lengths with
  | nil =>
    refine ⟨h.kind, h.template, h.pointer, ?_⟩
    unfold FieldType.levels?
    rw [hls, if_pos rfl]
    show element.array.map _ = none
    rw [h.single]
    rfl
  | cons l ls =>
    refine ⟨h.kind, h.template, h.pointer, ?_⟩
    unfold FieldType.levels?
    rw [hls, if_neg (List.cons_ne_nil l ls)]
    rfl

/-- the word of a type that is known declares its shape -/
theorem shape?_word (hlib : Plain lib) (h : t.Known lib own) :
    ∃ shape, lib.shape? t.word = some shape ∧ t.HasShape shape := by
  obtain ⟨c, cs, hcs, hnumber, -⟩ := head_stem h
  obtain ⟨element, helement, hhas⟩ := exists_element h
  have hword : t.word.toList = c :: (cs ++ (t.lengths.map fun l => l.toList ++ [']']).flatMap ('[' :: ·)) := by
    rw [toList_word, hcs, List.cons_append]
  have hempty : ¬ t.word.isEmpty = true := by
    rw [String.isEmpty_iff, ← String.toList_eq_nil_iff, hword]
    exact List.cons_ne_nil _ _
  have hstarts : ¬ startsNumber t.word.toList = true := by
    rw [hword]
    rw [hcs] at hnumber
    exact ne_true_of_eq_false hnumber
  unfold Library.shape?
  rw [if_neg hempty, if_neg hstarts, expandAlias_plain hlib]
  unfold Library.typeShape?
  rw [hlib.constants, read_word h]
  dsimp only
  rw [if_pos rfl, String.toList_ofList, helement]
  exact ⟨_, rfl, hhas.hasShape false⟩

theorem exists_struct_of_kind (h : t.kind = .pointerToTemplate) : ∃ name, t.target = .struct name := by
  unfold FieldType.kind at h
  split at h
  case h_6 n name hdepth htarget => exact ⟨name, htarget⟩
  all_goals cases h

/-- no reference is left open -/
theorem opened_eq_nil (h : t.Known lib own) {shape : Shape} (hshape : t.HasShape shape) (loc : Location) :
    lib.opened loc (some own) shape = [] := by
  unfold Library.opened
  rw [hshape.kind, hshape.pointer]
  split
  · next hkind =>
    obtain ⟨name, htarget⟩ := exists_struct_of_kind hkind
    have hknown : (!lib.templates.contains name && some own != some name) = false := by
      rcases h.found name htarget with hc | ⟨-, rfl⟩
      · rw [hc]
        rfl
      · simp
    unfold FieldType.pointer?
    split
    · rfl
    · rw [htarget, Option.toList_some]
      unfold Target.word
      rw [List.filter_cons_of_neg (by simpa using hknown)]
      rfl
  · rfl

end

end Disasm.C
