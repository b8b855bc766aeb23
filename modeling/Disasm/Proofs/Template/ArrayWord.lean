import Mathlib
import Disasm.Proofs.Template.Declaration
import Disasm.Proofs.Text.Digits
import Disasm.Proofs.Text.Split

/-!
# The grammar of array declarations

A type word is cut at its opening brackets, and each piece behind the first has to be a dimension and a closing
bracket.

* `pieces_eq_cons_iff`  the pieces of a text are those that make it up and hold no separator;
* `ArrayWord.Denotes`, `Spells`  the grammar: a name and dimensions in brackets, each of them an array constant or a
  number;
* `read_valid_iff`  the words that are read as valid are those of the grammar, and what is read;
* `Sized`, `shape?_sized`  the size of what an accepted word declares;
* `arrays_parsed`  both of them.
-/

namespace Disasm

namespace Text
variable {sep : Char} {p : List Char} {ps : List (List Char)}

theorem pieces_flatMap (hp : sep ∉ p) (hps : ∀ q ∈ ps, sep ∉ q) :
    pieces (· == sep) (p ++ ps.flatMap (sep :: ·)) = p :: ps := by
  have hsep : ∀ {q : List Char}, sep ∉ q → ∀ c ∈ q, (c == sep) = false := by
    intro q hq c hc
    rw [beq_eq_false_iff_ne]
    rintro rfl
    exact hq hc
  induction ps generalizing p with
  | nil => rw [List.flatMap_nil, List.append_nil, pieces_of_forall (hsep hp)]
  | cons q ps ih =>
    obtain ⟨hq, hps⟩ := List.forall_mem_cons.1 hps
    have hcut : pieces (· == sep) (p ++ sep :: (q ++ ps.flatMap (sep :: ·))) =
        pieces (· == sep) p ++ pieces (· == sep) (q ++ ps.flatMap (sep :: ·)) := pieces_append _ _ (beq_self_eq_true sep)
    rw [List.flatMap_cons, List.cons_append, hcut, pieces_of_forall (hsep hp), ih hq hps]
    rfl

theorem exists_piecesFrom (sep : Char) (cs cur : List Char) :
    ∃ p ps, piecesFrom (· == sep) cs cur = p :: ps ∧ cur.reverse ++ cs = p ++ ps.flatMap (sep :: ·) := by
  induction cs generalizing cur with
  | nil => exact ⟨cur.reverse, [], rfl, rfl⟩
  | cons c cs ih =>
    rw [piecesFrom_cons]
    by_cases hc : (c == sep) = true
    · -- the separator ends a piece and starts the next one
      obtain ⟨p, ps, hp, hcs⟩ := ih []
      rw [List.reverse_nil, List.nil_append] at hcs
      rw [if_pos hc, hp, hcs, eq_of_beq hc]
      exact ⟨cur.reverse, p :: ps, rfl, rfl⟩
    · obtain ⟨p, ps, hp, hcs⟩ := ih (c :: cur)
      rw [List.reverse_cons, List.append_assoc] at hcs
      rw [if_neg hc, hp]
      exact ⟨p, ps, rfl, hcs⟩

theorem pieces_eq_cons_iff {cs : List Char} :
    pieces (· == sep) cs = p :: ps ↔ cs = p ++ ps.flatMap (sep :: ·) ∧ sep ∉ p ∧ ∀ q ∈ ps, sep ∉ q := by
  constructor
  · intro h
    have hnot : ∀ q ∈ p :: ps, sep ∉ q := by
      intro q hq hmem
      have := not_sep_of_mem_pieces (h ▸ hq) sep hmem
      simp at this
    obtain ⟨p', ps', hp', hcs⟩ := exists_piecesFrom sep cs []
    obtain ⟨rfl, rfl⟩ := List.cons.inj (hp'.symm.trans h)
    exact ⟨hcs, List.forall_mem_cons.1 hnot⟩
  · rintro ⟨rfl, hp, hps⟩
    exact pieces_flatMap hp hps

end Text

namespace ArrayWord
variable {constants : Std.TreeMap String Int}

/-! ## the grammar -/

/-- the text between two brackets stands for a dimension: a constant, which hides a number, or a number -/
inductive Denotes (constants : Std.TreeMap String Int) (text : String) : Level → Prop
  | constant {n : Int} (h : constants[text]? = some n) (hn : 0 ≤ n) : Denotes constants text ⟨n, some text⟩
  | number {n : Int} (hnot : constants[text]? = none) (h : Text.readNumber? text = some n) (hn : 0 ≤ n) :
    Denotes constants text ⟨n, none⟩

/-- the word is a name and the dimensions `levels` in brackets -/
def Spells (constants : Std.TreeMap String Int) (word name : String) (levels : List Level) : Prop :=
  ∃ texts : List String, word = name ++ String.join (texts.map fun text => "[" ++ text ++ "]") ∧
    '[' ∉ name.toList ∧ (∀ text ∈ texts, '[' ∉ text.toList ∧ ']' ∉ text.toList) ∧
    List.Forall₂ (Denotes constants) texts levels

/-- the piece behind a bracket is a dimension and a closing bracket -/
theorem level?_eq_some_iff {piece : List Char} {l : Level} :
    level? constants piece = some l ↔
      ∃ text : String, piece = text.toList ++ [']'] ∧ ']' ∉ text.toList ∧ Denotes constants text l := by
  unfold level?
  constructor
  · intro h
    split at h
    next => cases h
    next hlast =>
      split at h
      next => cases h
      next hinner =>
        have hlast : piece.getLast? = some ']' := by simpa using hlast
        obtain ⟨hfound, hn⟩ := Option.filter_eq_some_iff.1 h
        rw [decide_eq_true_eq] at hn
        refine ⟨String.ofList piece.dropLast, ?_, ?_, ?_⟩
        · rw [String.toList_ofList]
          exact (List.dropLast_append_getLast? _ hlast).symm
        · rw [String.toList_ofList]
          simpa using hinner
        · cases hc : constants[String.ofList piece.dropLast]? with
          | some n =>
            rw [hc] at hfound
            cases hfound
            exact .constant hc hn
          | none =>
            rw [hc] at hfound
            obtain ⟨n, hread, rfl⟩ := Option.map_eq_some_iff.1 hfound
            exact .number hc hread hn
  · rintro ⟨text, rfl, hinner, hdenotes⟩
    have hlast : ((text.toList ++ [']']).getLast? != some ']') = false := by simp
    have hdrop : (text.toList ++ [']']).dropLast = text.toList := List.dropLast_concat
    rw [hlast, hdrop, if_neg Bool.false_ne_true, if_neg (by simpa using hinner), String.ofList_toList]
    refine Option.filter_eq_some_iff.2 ?_
    cases hdenotes with
    | constant h hn =>
      rw [h]
      exact ⟨rfl, decide_eq_true hn⟩
    | number hnot h hn =>
      rw [hnot, h]
      exact ⟨rfl, decide_eq_true hn⟩

/-- all pieces -/
theorem readLevels_valid_iff {pieces : List (List Char)} {ls : List Level} :
    readLevels constants pieces = .ok (true, ls) ↔
      List.Forall₂ (fun piece l => level? constants piece = some l) pieces ls := by
  induction pieces generalizing ls with
  | nil =>
    rw [List.forall₂_nil_left_iff]
    exact ⟨fun h => by cases h; rfl, fun h => by rw [h]; rfl⟩
  | cons piece pieces ih =>
    rw [List.forall₂_cons_left_iff]
    simp only [← ih]
    rw [readLevels]
    cases piece with
    | nil =>
      -- nothing stands behind the bracket
      rw [if_pos List.isEmpty_nil]
      refine iff_of_false (fun h => by cases h) ?_
      rintro ⟨l, ls, hl, -, -⟩
      cases hl
    | cons c cs =>
      rw [if_neg (by simp)]
      cases hl : level? constants (c :: cs) with
      | none =>
        refine iff_of_false (fun h => by cases h) ?_
        rintro ⟨l, ls, hl, -, -⟩
        cases hl
      | some l =>
        cases hr : readLevels constants pieces with
        | error f =>
          refine iff_of_false (fun h => by cases h) ?_
          rintro ⟨l, ls, -, hr, -⟩
          cases hr
        | ok r =>
          obtain ⟨valid, levels⟩ := r
          dsimp only
          constructor
          · intro h
            cases h
            exact ⟨l, levels, rfl, rfl, rfl⟩
          · rintro ⟨l', levels', h, h', rfl⟩
            cases h
            cases h'
            rfl

/-- the texts in the brackets are those of the pieces -/
theorem forall₂_level?_iff {pieces : List (List Char)} {ls : List Level} :
    List.Forall₂ (fun piece l => level? constants piece = some l) pieces ls ↔
      ∃ texts : List String, pieces = texts.map (fun text => text.toList ++ [']']) ∧
        (∀ text ∈ texts, ']' ∉ text.toList) ∧ List.Forall₂ (Denotes constants) texts ls := by
  simp only [level?_eq_some_iff]
  constructor
  · intro h
    induction h with
    | nil => exact ⟨[], rfl, List.forall_mem_nil _, .nil⟩
    | cons h _ ih =>
      obtain ⟨text, rfl, hinner, hdenotes⟩ := h
      obtain ⟨texts, rfl, hinners, hrest⟩ := ih
      exact ⟨text :: texts, rfl, List.forall_mem_cons.2 ⟨hinner, hinners⟩, .cons hdenotes hrest⟩
  · rintro ⟨texts, rfl, hinners, h⟩
    rw [List.forall₂_map_left_iff]
    refine ((List.forall₂_and_left texts ls).2 ⟨hinners, h⟩).imp ?_
    rintro text l ⟨hinner, hdenotes⟩
    exact ⟨text, rfl, hinner, hdenotes⟩

theorem toList_brackets (name : String) (texts : List String) :
    (name ++ String.join (texts.map fun text => "[" ++ text ++ "]")).toList =
      name.toList ++ (texts.map fun text => text.toList ++ [']']).flatMap ('[' :: ·) := by
  rw [String.toList_append, String.toList_join, List.flatMap_map, List.flatMap_map]
  simp only [String.toList_append]
  rfl

/-- the grammar in terms of the pieces of a word -/
theorem spells_iff {word name : String} {levels : List Level} :
    Spells constants word name levels ↔ ∃ ps, Text.pieces (· == '[') word.toList = name.toList :: ps ∧
      List.Forall₂ (fun piece l => level? constants piece = some l) ps levels := by
  simp only [forall₂_level?_iff, Text.pieces_eq_cons_iff]
  constructor
  · rintro ⟨texts, rfl, hname, hinner, hdenotes⟩
    refine ⟨texts.map fun text => text.toList ++ [']'], ⟨toList_brackets name texts, hname, ?_⟩, texts, rfl,
      fun text ht => (hinner text ht).2, hdenotes⟩
    intro q hq
    obtain ⟨text, ht, rfl⟩ := List.mem_map.1 hq
    simpa using (hinner text ht).1
  · rintro ⟨ps, ⟨hword, hname, hps⟩, texts, rfl, hinner, hdenotes⟩
    refine ⟨texts, ?_, hname, fun text ht => ⟨?_, hinner text ht⟩, hdenotes⟩
    · rw [← String.toList_inj, toList_brackets, hword]
    · have := hps _ (List.mem_map_of_mem ht)
      simpa using this

/-- a valid word is one of the grammar, and what is read of it -/
theorem read_valid_iff {word : String} {w : ArrayWord} :
    read constants word = .ok w ∧ w.valid = true ↔
      ∃ name levels, Spells constants word name levels ∧ w = ⟨true, name, !levels.isEmpty, levels⟩ := by
  obtain ⟨p, ps, hpieces, hword⟩ := Text.exists_piecesFrom '[' word.toList []
  have hpieces : Text.pieces (· == '[') word.toList = p :: ps := hpieces
  simp only [spells_iff, hpieces]
  unfold read
  rw [hpieces]
  cases ps with
  | nil =>
    obtain rfl : word.toList = p := by simpa using hword
    constructor
    · rintro ⟨h, -⟩
      cases h
      exact ⟨word, [], ⟨[], rfl, .nil⟩, rfl⟩
    · rintro ⟨name, levels, ⟨ps, hps, hlevels⟩, rfl⟩
      obtain ⟨hname, rfl⟩ := List.cons.inj hps
      obtain rfl := List.forall₂_nil_left_iff.1 hlevels
      rw [String.toList_inj.1 hname]
      exact ⟨rfl, rfl⟩
  | cons q qs =>
    dsimp only
    constructor
    · rintro ⟨h, hvalid⟩
      cases hr : readLevels constants (q :: qs) with
      | error f =>
        rw [hr] at h
        cases h
      | ok r =>
        obtain ⟨valid, levels⟩ := r
        rw [hr] at h
        cases h
        obtain rfl : valid = true := hvalid
        have hlevels := readLevels_valid_iff.1 hr
        refine ⟨String.ofList p, levels, ⟨q :: qs, by rw [String.toList_ofList], hlevels⟩, ?_⟩
        obtain ⟨l, ls, -, -, rfl⟩ := List.forall₂_cons_left_iff.1 hlevels
        rfl
    · rintro ⟨name, levels, ⟨ps, hps, hlevels⟩, rfl⟩
      obtain ⟨rfl, rfl⟩ := List.cons.inj hps
      rw [readLevels_valid_iff.2 hlevels, String.ofList_toList]
      obtain ⟨l, ls, -, -, rfl⟩ := List.forall₂_cons_left_iff.1 hlevels
      exact ⟨rfl, rfl⟩

end ArrayWord

/-! ## sizes -/

namespace Shape

/-- the dimensions, none for what is no array -/
def levels (s : Shape) : List Level := (s.array.map Dimensions.levels).getD []

/-- the size of an element, 0 for what is no array -/
def elementSize (s : Shape) : Int := (s.array.map Dimensions.elementSize).getD 0

end Shape

namespace Text

/-! ### characters of numerals in any base -/

/-- a character that can stand in a numeral -/
def InNumeral (c : Char) : Prop :=
  isMargin c = true ∨ c = '+' ∨ c = '-' ∨ c = '_' ∨ (digitValue? c).isSome = true

theorem IsDigitOf.inNumeral {base : Nat} {c : Char} (h : IsDigitOf base c) : InNumeral c := by
  obtain ⟨v, hv⟩ := h
  refine .inr (.inr (.inr (.inr ?_)))
  unfold digitBelow? at hv
  cases hd : digitValue? c with
  | none =>
    rw [hd] at hv
    cases hv
  | some v => rfl

theorem inNumeral_of_digits? {base : Nat} {cs : List Char} {n : Nat} (h : digits? base cs = some n) :
    ∀ c ∈ cs, InNumeral c := by
  intro c hc
  rcases isDigitOf_or_underscore_of_digits? h c hc with hd | hu
  · exact hd.inNumeral
  · exact .inr (.inr (.inr (.inl hu)))

theorem inNumeral_of_markedDigits? {base : Nat} {cs : List Char} {n : Nat} (h : markedDigits? base cs = some n) :
    ∀ c ∈ cs, InNumeral c := by
  unfold markedDigits? at h
  split at h
  · exact List.forall_mem_cons.2 ⟨.inr (.inr (.inr (.inl rfl))), inNumeral_of_digits? h⟩
  · exact inNumeral_of_digits? h

theorem inNumeral_of_markerBase? {m : Char} {b : Nat} (h : markerBase? m = some b) : InNumeral m := by
  refine .inr (.inr (.inr (.inr ?_)))
  by_contra hnot
  unfold markerBase? at h
  simp only [Bool.or_eq_true, beq_iff_eq] at h
  split at h
  next hm => rcases hm with rfl | rfl <;> exact hnot rfl
  next =>
    split at h
    next hm => rcases hm with rfl | rfl <;> exact hnot rfl
    next =>
      split at h
      next hm => rcases hm with rfl | rfl <;> exact hnot rfl
      next => cases h

theorem inNumeral_of_magnitude? {base : Nat} {cs : List Char} {n : Nat} (h : magnitude? base cs = some n) :
    ∀ c ∈ cs, InNumeral c := by
  unfold magnitude? at h
  split at h
  next m rest =>
    cases hm : markerBase? m with
    | some b =>
      rw [hm] at h
      dsimp only at h
      split at h
      · have hzero : InNumeral '0' := IsDigitOf.inNumeral (isDigitOf_zero (show 0 < 10 by decide))
        exact List.forall_mem_cons.2 ⟨hzero, List.forall_mem_cons.2
          ⟨inNumeral_of_markerBase? hm, inNumeral_of_markedDigits? h⟩⟩
      · exact inNumeral_of_digits? h
    | none =>
      rw [hm] at h
      dsimp only at h
      split at h
      · obtain ⟨k, hk, -⟩ := Option.bind_eq_some_iff.1 h
        exact inNumeral_of_digits? hk
      · exact inNumeral_of_digits? h
  next => exact inNumeral_of_digits? h

theorem inNumeral_of_signed? {base : Nat} {cs : List Char} {n : Int} (h : signed? base cs = some n) :
    ∀ c ∈ cs, InNumeral c := by
  unfold signed? at h
  split at h
  · obtain ⟨k, hk, -⟩ := Option.map_eq_some_iff.1 h
    obtain ⟨m, hm, -⟩ := Option.bind_eq_some_iff.1 hk
    exact List.forall_mem_cons.2 ⟨.inr (.inr (.inl rfl)), inNumeral_of_magnitude? hm⟩
  · obtain ⟨m, hm, -⟩ := Option.map_eq_some_iff.1 h
    exact List.forall_mem_cons.2 ⟨.inr (.inl rfl), inNumeral_of_magnitude? hm⟩
  · obtain ⟨m, hm, -⟩ := Option.map_eq_some_iff.1 h
    exact inNumeral_of_magnitude? hm

theorem inNumeral_of_readInt? {base : Int} {s : String} {n : Int} (h : readInt? base s = some n) :
    ∀ c ∈ s.toList, InNumeral (plainChar c) := by
  intro c hc
  unfold readInt? at h
  split at h
  · rcases mem_trimMargin (List.mem_map_of_mem (f := plainChar) hc) with hmem | hmargin
    · exact inNumeral_of_signed? h _ hmem
    · exact .inl hmargin
  · cases h

theorem not_bracket_of_readNumber? {s : String} {n : Int} (h : readNumber? s = some n) : '[' ∉ s.toList := by
  intro hmem
  have hin : InNumeral (plainChar '[') := by
    unfold readNumber? at h
    split at h
    · exact inNumeral_of_readInt? h _ hmem
    · exact inNumeral_of_readInt? h _ hmem
  have hplain : plainChar '[' = '[' := rfl
  rw [hplain] at hin
  unfold InNumeral at hin
  revert hin
  decide

end Text

namespace Library

/-- the word whose dimensions are read: a number as it is, else the word behind its alias -/
def spelling (lib : Library) (word : String) : String :=
  if startsNumber word.toList then word else (lib.expandAlias word).2

theorem pointerShape?_array {word : List Char} {shape : Shape} (h : pointerShape? word = some shape) :
    shape.array = none := by
  unfold pointerShape? at h
  dsimp only at h
  split at h
  · cases h; rfl
  · split at h
    · cases h; rfl
    · split at h
      · cases h; rfl
      · cases h

theorem valueShape?_array {lib : Library} {name : String} {shape : Shape} (h : lib.valueShape? name = some shape) :
    shape.array = none := by
  unfold valueShape? at h
  split at h
  · cases h; rfl
  · split at h
    · obtain ⟨t, -, rfl⟩ := Option.map_eq_some_iff.1 h
      rfl
    · cases h

/-- how the size of a shape goes with the dimensions of its word -/
def Sized (lib : Library) (word : String) (shape : Shape) : Prop :=
  ∃ name, ArrayWord.Spells lib.constants (lib.spelling word) name shape.levels ∧
    (shape.levels ≠ [] → shape.size = shape.elementSize * Level.product shape.levels) ∧
    (shape.levels = [] → shape.elementSize = 0)

/-- a word that is no number, behind its alias -/
theorem typeShape?_sized {lib : Library} {aliased : Bool} {word : String} {shape : Shape}
    (h : lib.typeShape? aliased word = some shape) :
    ∃ name, ArrayWord.Spells lib.constants word name shape.levels ∧
      (shape.levels ≠ [] → shape.size = shape.elementSize * Level.product shape.levels) ∧
      (shape.levels = [] → shape.elementSize = 0) := by
  unfold typeShape? at h
  cases hread : ArrayWord.read lib.constants word with
  | error f =>
    rw [hread] at h
    cases h
  | ok w =>
    rw [hread] at h
    dsimp only at h
    split at h
    next hvalid =>
      obtain ⟨element, helement, rfl⟩ := Option.map_eq_some_iff.1 h
      have hnone : element.array = none := by
        split at helement
        · exact pointerShape?_array helement
        · exact valueShape?_array helement
      obtain ⟨name, levels, hspells, rfl⟩ := ArrayWord.read_valid_iff.1 ⟨hread, hvalid⟩
      refine ⟨name, ?_⟩
      cases levels with
      | nil =>
        show ArrayWord.Spells _ _ _ (Shape.levels { element with aliased }) ∧
          (Shape.levels { element with aliased } ≠ [] → _) ∧ (_ → Shape.elementSize { element with aliased } = 0)
        unfold Shape.levels Shape.elementSize
        rw [hnone]
        exact ⟨hspells, fun hne => absurd rfl hne, fun _ => rfl⟩
      | cons l ls =>
        exact ⟨hspells, fun _ => rfl, fun hnil => by cases hnil⟩
    next => cases h

theorem shape?_sized {lib : Library} {word : String} {shape : Shape} (h : lib.shape? word = some shape) :
    lib.Sized word shape := by
  unfold shape? at h
  unfold Sized spelling
  split at h
  · cases h
  · split at h
    next hnumber =>
      obtain ⟨n, hn, rfl⟩ := Option.map_eq_some_iff.1 h
      have hread := (Option.filter_eq_some_iff.1 hn).1
      rw [if_pos hnumber]
      -- a number has no dimensions
      refine ⟨word, ⟨[], ?_, Text.not_bracket_of_readNumber? hread, List.forall_mem_nil _, .nil⟩,
        fun hne => absurd rfl hne, fun _ => rfl⟩
      exact String.append_empty.symm
    next hnumber =>
      rw [if_neg hnumber]
      exact typeShape?_sized h

/-- Of all words, exactly those of the grammar are read as valid, with their name and their dimensions in order.  A
word that is accepted as a type or a size has the dimensions that are read behind its alias.  If there are some, its
size is that of an element times all of them; if there are none, no size of an element is given. -/
theorem arrays_parsed (constants : Std.TreeMap String Int) (word : String) (loc : Location) (current : Option String)
    (rest : List String) (s : Session Library) :
    (∀ w, ArrayWord.read constants word = .ok w ∧ w.valid = true ↔
      ∃ name levels, ArrayWord.Spells constants word name levels ∧ w = ⟨true, name, !levels.isEmpty, levels⟩) ∧
    ∀ shape t, declare loc current (word :: rest) s = .ok shape t → s.state.Sized word shape := by
  refine ⟨fun w => ArrayWord.read_valid_iff, fun shape t h => ?_⟩
  exact shape?_sized ((declare_shape? loc current word rest s).of_ok h)

/-- a library with one array constant -/
def withRows : Library := { constants := ({} : Std.TreeMap String Int).insert "ROWS" 2 }

theorem arrays_parsed_grid :
    ∃ shape t,
      declare ⟨"a.dat", 0, "float[ROWS][0x3] grid"⟩ none ["float[ROWS][0x3]", "grid"] ⟨withRows, {}⟩ = .ok shape t ∧
      withRows.Sized "float[ROWS][0x3]" shape ∧ shape.levels = [⟨2, some "ROWS"⟩, ⟨3, none⟩] ∧ shape.elementSize = 4 ∧
      shape.size = 24 := by
  have hrun : ∃ t, declare ⟨"a.dat", 0, "float[ROWS][0x3] grid"⟩ none ["float[ROWS][0x3]", "grid"] ⟨withRows, {}⟩ =
      .ok { size := 24, kind := .basic .float, array := some ⟨[⟨2, some "ROWS"⟩, ⟨3, none⟩], 4⟩ } t := ⟨_, rfl⟩
  obtain ⟨t, ht⟩ := hrun
  exact ⟨_, t, ht, (arrays_parsed {} "float[ROWS][0x3]" _ _ _ _).2 _ t ht, rfl, rfl, rfl⟩

/-- A word without brackets has no dimensions, and the size of an element that goes with it is not its size. -/
theorem plainWord_unsized :
    ∃ shape t, declare ⟨"a.dat", 0, "int x"⟩ none ["int", "x"] ⟨{}, {}⟩ = .ok shape t ∧
      ArrayWord.Spells {} "int" "int" shape.levels ∧ shape.size = 4 ∧
      shape.size ≠ shape.elementSize * Level.product shape.levels := by
  have hrun : ∃ t, declare ⟨"a.dat", 0, "int x"⟩ none ["int", "x"] ⟨{}, {}⟩ =
      .ok { size := 4, kind := .basic .int } t := ⟨_, rfl⟩
  obtain ⟨t, ht⟩ := hrun
  exact ⟨_, t, ht, ⟨[], rfl, by decide, List.forall_mem_nil _, .nil⟩, rfl, by decide⟩

end Library

end Disasm
