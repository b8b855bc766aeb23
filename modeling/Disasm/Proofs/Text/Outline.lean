import Mathlib

/-!
# Texts with matched parentheses

A text whose parentheses match is read from the left as single characters and groups in parentheses, in one way only.
Its outline keeps the characters outside of all parentheses and the groups, each of them once.

* `Outlines cs top groups`  the characters `top` of `cs` stand outside of all parentheses, and `groups` are its groups;
* `Outlines.cancel`  of two texts with matched parentheses, both closed by one parenthesis more, neither is longer;
* `Outlines.unique`  a text has one outline;
* `Outlined`, `Matched`, `enclosed`, `converted`  the same for strings, a text in parentheses, and one behind the name
  of a type.
-/

namespace Disasm.Text

/-! ## outlines of character lists -/

/-- what stands outside of all parentheses, and what stands in them; the parentheses match -/
inductive Outlines : List Char → List Char → List (List Char) → Prop where
  | nil : Outlines [] [] []
  | char {c : Char} {cs top : List Char} {groups : List (List Char)} (hopen : c ≠ '(') (hclose : c ≠ ')')
      (h : Outlines cs top groups) : Outlines (c :: cs) (c :: top) groups
  | group {inner cs top top' : List Char} {groups groups' : List (List Char)} (hinner : Outlines inner top' groups')
      (h : Outlines cs top groups) : Outlines ('(' :: (inner ++ ')' :: cs)) top (inner :: groups)

namespace Outlines

variable {cs ds top top' : List Char} {groups groups' : List (List Char)}

/-- the parenthesis that closes a text with matched parentheses is the first one that nothing in the text opens -/
theorem cancel (h : Outlines cs top groups) (h' : Outlines ds top' groups') {us vs : List Char}
    (heq : cs ++ ')' :: us = ds ++ ')' :: vs) : cs = ds ∧ us = vs := by
  induction h generalizing ds top' groups' us vs with
  | nil =>
    cases h' with
    | nil => exact ⟨rfl, (List.cons.inj heq).2⟩
    | char hopen hclose h' => exact absurd (List.cons.inj heq).1.symm hclose
    | group hinner h' => exact absurd (List.cons.inj heq).1 (by decide)
  | char hopen hclose h ih =>
    cases h' with
    | nil => exact absurd (List.cons.inj heq).1 hclose
    | char hopen' hclose' h' =>
      obtain ⟨rfl, htail⟩ := List.cons.inj heq
      obtain ⟨rfl, rfl⟩ := ih h' htail
      exact ⟨rfl, rfl⟩
    | group hinner h' => exact absurd (List.cons.inj heq).1 hopen
  | group hinner h ihinner ih =>
    cases h' with
    | nil => exact absurd (List.cons.inj heq).1 (by decide)
    | char hopen' hclose' h' => exact absurd (List.cons.inj heq).1.symm hopen'
    | group hinner' h' =>
      -- the inner texts agree, and so do the texts behind them
      simp only [List.cons_append, List.append_assoc] at heq
      obtain ⟨rfl, hrest⟩ := ihinner hinner' (List.cons.inj heq).2
      obtain ⟨rfl, rfl⟩ := ih h' hrest
      exact ⟨rfl, rfl⟩

theorem unique (h : Outlines cs top groups) (h' : Outlines cs top' groups') : top = top' ∧ groups = groups' := by
  induction h generalizing top' groups' with
  | nil =>
    cases h'
    exact ⟨rfl, rfl⟩
  | char hopen hclose h ih =>
    cases h' with
    | char _ _ h' =>
      obtain ⟨rfl, rfl⟩ := ih h'
      exact ⟨rfl, rfl⟩
    | group => exact absurd rfl hopen
  | group hinner h _ ih =>
    generalize hds : '(' :: (_ ++ ')' :: _) = ds at h'
    cases h' with
    | nil => cases hds
    | char hopen' _ h' => exact absurd (List.cons.inj hds).1.symm hopen'
    | group hinner' h' =>
      obtain ⟨rfl, rfl⟩ := hinner.cancel hinner' (List.cons.inj hds).2
      obtain ⟨rfl, rfl⟩ := ih h'
      exact ⟨rfl, rfl⟩

theorem append (h : Outlines cs top groups) (h' : Outlines ds top' groups') :
    Outlines (cs ++ ds) (top ++ top') (groups ++ groups') := by
  induction h with
  | nil => exact h'
  | char hopen hclose _ ih => exact .char hopen hclose ih
  | group hinner _ _ ih =>
    rw [List.cons_append, List.append_assoc]
    exact .group hinner ih

theorem word (h : ∀ c ∈ cs, c ≠ '(' ∧ c ≠ ')') : Outlines cs cs [] := by
  induction cs with
  | nil => exact .nil
  | cons c cs ih =>
    obtain ⟨⟨hopen, hclose⟩, hcs⟩ := List.forall_mem_cons.1 h
    exact .char hopen hclose (ih hcs)

end Outlines

/-! ## outlines of strings -/

def Outlined (t top : String) (groups : List String) : Prop :=
  Outlines t.toList top.toList (groups.map String.toList)

/-- the parentheses of a text match -/
def Matched (t : String) : Prop := ∃ top groups, Outlined t top groups

/-- no character is a parenthesis -/
def Unbracketed (t : String) : Prop := ∀ c ∈ t.toList, c ≠ '(' ∧ c ≠ ')'

instance (t : String) : Decidable (Unbracketed t) := List.decidableBAll _ _

/-- a text in parentheses -/
def enclosed (t : String) : String := "(" ++ t ++ ")"

/-- a text in parentheses behind the name of a type in parentheses -/
def converted (type t : String) : String := enclosed type ++ enclosed t

namespace Outlined

variable {t u top top' : String} {groups groups' : List String}

theorem unique (h : Outlined t top groups) (h' : Outlined t top' groups') : top = top' ∧ groups = groups' := by
  obtain ⟨htop, hgroups⟩ := Outlines.unique h h'
  exact ⟨String.toList_inj.1 htop, List.map_injective_iff.2 (fun _ _ => String.toList_injective) hgroups⟩

theorem append (h : Outlined t top groups) (h' : Outlined u top' groups') :
    Outlined (t ++ u) (top ++ top') (groups ++ groups') := by
  unfold Outlined
  rw [String.toList_append, String.toList_append, List.map_append]
  exact Outlines.append h h'

theorem word (h : Unbracketed t) : Outlined t t [] := Outlines.word h

theorem enclosed (h : Matched t) : Outlined (enclosed t) "" [t] := by
  obtain ⟨top, groups, h⟩ := h
  unfold Outlined Text.enclosed
  rw [String.toList_append, String.toList_append, List.append_assoc]
  exact .group h .nil

theorem converted {type : String} (htype : Unbracketed type) (h : Matched t) :
    Outlined (converted type t) "" [type, t] :=
  (enclosed ⟨type, [], word htype⟩).append (enclosed h)

end Outlined

/-- a conversion determines its type and its text -/
theorem converted_inj {type type' t t' : String} (htype : Unbracketed type) (htype' : Unbracketed type')
    (ht : Matched t) (ht' : Matched t') (h : converted type t = converted type' t') : type = type' ∧ t = t' := by
  have houtline := Outlined.converted htype ht
  rw [h] at houtline
  obtain ⟨-, hgroups⟩ := houtline.unique (Outlined.converted htype' ht')
  exact ⟨(List.cons.inj hgroups).1, (List.cons.inj (List.cons.inj hgroups).2).1⟩

end Disasm.Text
