import Mathlib
import Disasm.Label.Reference

/-!
# The pattern of a reference

The parts of a pattern try all their ways.  For references the first way of each part is the one that counts: where
the parts behind the longest run of blanks or of word characters fail, they fail behind every shorter one, and so
does what follows an optional blank without it.

* `Pattern.many_eq_longest`, `Pattern.manyOne_eq_longest`  when no run but the longest has to be tried;
* `Reference.inBraces`, `Reference.scan?`  a reference read without a second way;
* `pattern_eq_inBraces`, `read?_eq_scan?`  this is the first success of the pattern.
-/

namespace Disasm

open Disasm.Text

/-! ## characters -/

/-- no run of the one list meets a run of the other -/
def Text.partedRuns (us vs : List (Nat × Nat)) : Bool :=
  us.all fun u => vs.all fun v => u.2 < v.1 || v.2 < u.1

theorem Text.not_inRuns_of_parted {us vs : List (Nat × Nat)} (h : partedRuns us vs = true) {c : Char}
    (hc : inRuns us c = true) : inRuns vs c = false := by
  obtain ⟨u, hu, hin⟩ := List.any_eq_true.1 hc
  rw [Bool.and_eq_true, decide_eq_true_eq, decide_eq_true_eq] at hin
  refine List.any_eq_false.2 fun v hv hmeets => ?_
  rw [Bool.and_eq_true, decide_eq_true_eq, decide_eq_true_eq] at hmeets
  have hparted := List.all_eq_true.1 (List.all_eq_true.1 h u hu) v hv
  rw [Bool.or_eq_true, decide_eq_true_eq, decide_eq_true_eq] at hparted
  omega

theorem Text.not_blank_of_wordChar {c : Char} (h : isWordChar c = true) : isBlank c = false :=
  not_inRuns_of_parted (by decide +kernel) h

theorem Text.isWordChar_at : isWordChar '@' = false := by decide +kernel

theorem Text.isWordChar_brace : isWordChar '\x7d' = false := by decide +kernel

/-! ## runs -/

namespace Pattern

variable {α : Type} {p : Char → Bool} {next : List Char → List Char → Option α}

/-- the empty run is tried last -/
theorem next_of_many {cs : List Char} (h : many p next cs = none) : next [] cs = none := by
  cases cs with
  | nil => exact h
  | cons c cs =>
    rw [many] at h
    split at h
    · exact (Option.or_eq_none_iff.1 h).2
    · exact h

/-- where a run that is one character longer fails, the shorter one fails too -/
def Shrinks (p : Char → Bool) (next : List Char → List Char → Option α) : Prop :=
  ∀ run c cs, p c = true → next (run ++ [c]) cs = none → next run (c :: cs) = none

theorem Shrinks.cons (h : Shrinks p next) (c : Char) : Shrinks p fun run => next (c :: run) :=
  fun run => h (c :: run)

theorem many_eq_longest (h : Shrinks p next) (cs : List Char) :
    many p next cs = next (cs.takeWhile p) (cs.dropWhile p) := by
  induction cs generalizing next with
  | nil => rfl
  | cons c cs ih =>
    rw [many]
    by_cases hc : p c = true
    · rw [if_pos hc, List.takeWhile_cons_of_pos hc, List.dropWhile_cons_of_pos hc, ← ih (h.cons c)]
      cases hlong : many p (fun run => next (c :: run)) cs with
      | some a => rfl
      | none =>
        have hone : next [c] cs = none := next_of_many hlong
        rw [h [] c cs hc hone]
        rfl
    · rw [if_neg hc, List.takeWhile_cons_of_neg hc, List.dropWhile_cons_of_neg hc]

theorem manyOne_eq_longest (h : Shrinks p next) (cs : List Char) : manyOne p next cs =
    if (cs.takeWhile p).isEmpty then none else next (cs.takeWhile p) (cs.dropWhile p) := by
  cases cs with
  | nil => rfl
  | cons c cs =>
    rw [manyOne]
    by_cases hc : p c = true
    · rw [if_pos hc, many_eq_longest (h.cons c), List.takeWhile_cons_of_pos hc, List.dropWhile_cons_of_pos hc]
      rfl
    · rw [if_neg hc, List.takeWhile_cons_of_neg hc]
      rfl

end Pattern

/-! ## references -/

namespace Reference

open Disasm.Pattern

/-- the text behind the first closing brace, if it stands on this line -/
def afterBrace : List Char → Option (List Char)
  | [] => none
  | c :: cs => if c = '\x7d' then some cs else if c = '\n' then none else afterBrace cs

def dropBlank : List Char → List Char
  | c :: cs => if isBlank c then cs else c :: cs
  | [] => []

/-- the reference whose letter and opening brace stand in front of some text, and the text behind it -/
def inBraces (isData : Bool) (cs : List Char) : Option (Reference × List Char) :=
  let body := cs.dropWhile isBlank
  let address := body.takeWhile isWordChar
  if address.isEmpty then none
  else (afterBrace (dropBlank (body.dropWhile isWordChar))).map fun rest => (⟨isData, address⟩, rest)

/-- the reference with which some text starts, and the text behind it -/
def scan? : List Char → Option (Reference × List Char)
  | '@' :: 'f' :: '\x7b' :: cs => inBraces false cs
  | '@' :: 'd' :: '\x7b' :: cs => inBraces true cs
  | _ => none

theorem afterBrace_cons_of_ne {c : Char} (hc : c ≠ '\x7d') {cs : List Char} (h : afterBrace cs = none) :
    afterBrace (c :: cs) = none := by
  rw [afterBrace, if_neg hc]
  split
  · rfl
  · exact h

/-- a blank in front of a brace does not hide it -/
theorem afterBrace_of_dropBlank {cs : List Char} (h : afterBrace (dropBlank cs) = none) : afterBrace cs = none := by
  cases cs with
  | nil => rfl
  | cons c cs =>
    rw [dropBlank] at h
    split at h
    next hblank =>
      refine afterBrace_cons_of_ne ?_ h
      rintro rfl
      exact absurd hblank (by decide)
    next => exact h

section
variable {β : Type} (f : List Char → β) (cs : List Char)

/-- the shortest text in front of a brace ends at the first one -/
theorem few_eq_afterBrace : few (· != '\n') (char '\x7d' fun rest => some (f rest)) cs = (afterBrace cs).map f := by
  induction cs with
  | nil => rfl
  | cons c cs ih =>
    rw [few, char, afterBrace]
    by_cases hbrace : c = '\x7d'
    · rw [if_pos hbrace, if_pos hbrace]
      rfl
    · rw [if_neg hbrace, if_neg hbrace, Option.none_or]
      by_cases hline : c = '\n'
      · rw [if_neg (by rw [hline]; decide), if_pos hline]
        rfl
      · rw [if_pos (bne_iff_ne.2 hline), if_neg hline, ih]

theorem atMostOne_eq_dropBlank :
    atMostOne isBlank (few (· != '\n') (char '\x7d' fun rest => some (f rest))) cs =
      (afterBrace (dropBlank cs)).map f := by
  cases cs with
  | nil => rfl
  | cons c cs =>
    rw [atMostOne]
    split
    next hblank =>
      rw [few_eq_afterBrace, few_eq_afterBrace]
      have hdrop : dropBlank (c :: cs) = cs := if_pos hblank
      rw [hdrop]
      cases hafter : afterBrace cs with
      | some rest => rfl
      | none =>
        rw [afterBrace_of_dropBlank (hdrop.symm ▸ hafter)]
        rfl
    next hblank => rw [few_eq_afterBrace, dropBlank, if_neg hblank]

end

/-- the pattern behind the address, as read without a second way -/
theorem shrinks_address (isData : Bool) : Shrinks isWordChar fun address cs =>
    (afterBrace (dropBlank cs)).map fun rest => ((⟨isData, address⟩ : Reference), rest) := by
  intro run c cs hc h
  have hblank : dropBlank (c :: cs) = c :: cs := if_neg (by rw [not_blank_of_wordChar hc]; decide)
  have hbrace : c ≠ '\x7d' := by
    rintro rfl
    rw [isWordChar_brace] at hc
    cases hc
  rw [Option.map_eq_none_iff] at h ⊢
  rw [hblank]
  exact afterBrace_cons_of_ne hbrace (afterBrace_of_dropBlank h)

theorem manyOne_eq_address (isData : Bool) (cs : List Char) :
    (manyOne isWordChar (fun address => atMostOne isBlank <| few (· != '\n') <| char '\x7d' fun rest =>
        some ((⟨isData, address⟩ : Reference), rest)) cs) =
      if (cs.takeWhile isWordChar).isEmpty then none
      else (afterBrace (dropBlank (cs.dropWhile isWordChar))).map fun rest =>
        (⟨isData, cs.takeWhile isWordChar⟩, rest) := by
  have hnext : (fun address => atMostOne isBlank <| few (· != '\n') <| char '\x7d' fun rest =>
      some ((⟨isData, address⟩ : Reference), rest)) =
      fun address cs => (afterBrace (dropBlank cs)).map fun rest => (⟨isData, address⟩, rest) := by
    funext address cs
    exact atMostOne_eq_dropBlank _ cs
  rw [hnext]
  exact manyOne_eq_longest (shrinks_address isData) cs

/-- behind the opening brace the first way of each part is the one that counts -/
theorem pattern_eq_inBraces (isData : Bool) (cs : List Char) :
    pattern isData ('\x7b' :: cs) = inBraces isData cs := by
  unfold pattern
  rw [char, if_pos rfl, many_eq_longest]
  · exact manyOne_eq_address isData (cs.dropWhile isBlank)
  · -- an address does not start with a blank
    intro _ c cs hblank _
    show manyOne isWordChar _ (c :: cs) = none
    rw [manyOne, if_neg]
    intro hword
    rw [not_blank_of_wordChar hword] at hblank
    cases hblank

/-- a reference is read as the first success of its pattern -/
theorem read?_eq_scan? (cs : List Char) : read? cs = scan? cs := by
  unfold scan?
  split
  next cs => exact Option.or_none.trans (pattern_eq_inBraces false cs)
  next cs => exact Option.none_or.trans (pattern_eq_inBraces true cs)
  next hcode hdata =>
    refine Option.eq_none_iff_forall_ne_some.2 fun found h => ?_
    obtain ⟨_, rfl, hletter⟩ := exists_of_char h
    rcases Option.or_eq_some_iff.1 hletter with hf | ⟨-, hd⟩
    · obtain ⟨_, rfl, hpattern⟩ := exists_of_char hf
      obtain ⟨_, rfl, -⟩ := exists_of_char hpattern
      exact hcode _ rfl
    · obtain ⟨_, rfl, hpattern⟩ := exists_of_char hd
      obtain ⟨_, rfl, -⟩ := exists_of_char hpattern
      exact hdata _ rfl

end Reference
end Disasm
