import Mathlib
import Disasm.Number.Shortest
import Disasm.Proofs.Text.Digits

/-!
# The characters of floating-point texts

The text of a floating-point number is made of digits, a point, an exponent with its sign, or is one of the words for
what is no number (`plain_text`).  A point, an exponent or a word is always there (`marked_text`), so that no
such text is read as a whole number (`readNumber?_text`).
-/

namespace Disasm.Binary64

open Disasm.Text (IsDigitOf IsNumeric readNumber? plainChar isMargin)

/-- a character of a floating-point text -/
def IsTextChar (c : Char) : Prop := IsDigitOf 10 c ∨ c ∈ ['.', 'e', '+', '-', 'i', 'n', 'f', 'a']

/-- all characters of a text belong to floating-point texts -/
def Plain (s : String) : Prop := ∀ c ∈ s.toList, IsTextChar c

theorem Plain.append {s t : String} (hs : Plain s) (ht : Plain t) : Plain (s ++ t) := by
  intro c hc
  rw [String.toList_append, List.mem_append] at hc
  exact hc.elim (hs c) (ht c)

theorem plain_digits {cs : List Char} (h : ∀ c ∈ cs, IsDigitOf 10 c) : Plain (String.ofList cs) := by
  intro c hc
  rw [String.toList_ofList] at hc
  exact .inl (h c hc)

theorem plain_marks (s : String) (h : s.toList ⊆ ['.', 'e', '+', '-', 'i', 'n', 'f', 'a']) : Plain s :=
  fun _ hc => .inr (h hc)

theorem plain_zeroDigits (n : Nat) : Plain (zeroDigits n) := by
  intro c hc
  unfold zeroDigits Text.copies at hc
  rw [String.toList_join, List.mem_flatMap] at hc
  obtain ⟨s, hs, hc⟩ := hc
  rw [List.eq_of_mem_replicate hs] at hc
  rw [List.mem_singleton.1 hc]
  exact .inl (Text.isDigitOf_zero (by decide))

theorem plain_zero : Plain "0" := plain_zeroDigits 1

theorem plain_point : Plain "." := plain_marks "." (by simp)

theorem isDigitOf_decimal (n : Nat) : ∀ c ∈ Nat.toDigits 10 n, IsDigitOf 10 c :=
  Text.isDigitOf_toDigits (by decide) (by decide) n

theorem plain_signedExponent (e : Int) : Plain (signedExponent e) := by
  have hsign : Plain (if e < 0 then "-" else "+") := by
    split
    · exact plain_marks "-" (by simp)
    · exact plain_marks "+" (by simp)
  have hdigits : Plain (toString e.natAbs) := by
    intro c hc
    have hlist : (toString e.natAbs).toList = Nat.toDigits 10 e.natAbs := Nat.toList_repr
    rw [hlist] at hc
    exact .inl (isDigitOf_decimal _ c hc)
  exact (hsign.append (plain_zeroDigits _)).append hdigits

section
variable {ds : List Char} (hds : ∀ c ∈ ds, IsDigitOf 10 c)
include hds

theorem plain_take (n : Nat) : Plain (String.ofList (ds.take n)) :=
  plain_digits fun c hc => hds c (List.mem_of_mem_take hc)

theorem plain_drop (n : Nat) : Plain (String.ofList (ds.drop n)) :=
  plain_digits fun c hc => hds c (List.mem_of_mem_drop hc)

theorem plain_positional (e : Int) : Plain (positional ds e) := by
  unfold positional
  split
  · exact ((plain_zero.append plain_point).append (plain_zeroDigits _)).append (plain_digits hds)
  · dsimp only
    split
    · exact ((plain_digits hds).append (plain_zeroDigits _)).append (plain_point.append plain_zero)
    · exact ((plain_take hds _).append plain_point).append (plain_drop hds _)

theorem plain_scientific (e : Int) : Plain (scientific ds e) := by
  have hfraction : Plain (if ds.length ≤ 1 then "" else "." ++ String.ofList (ds.drop 1)) := by
    split
    · exact plain_marks "" (List.nil_subset _)
    · exact plain_point.append (plain_drop hds 1)
  exact (((plain_take hds 1).append hfraction).append (plain_marks "e" (by simp))).append (plain_signedExponent e)

end

theorem plain_decimalText (d : Decimal) : Plain (decimalText d) := by
  unfold decimalText
  dsimp only
  split
  · exact plain_positional (isDigitOf_decimal _) _
  · exact plain_scientific (isDigitOf_decimal _) _

theorem plain_text (x : Binary64) : Plain x.text := by
  have hsign : ∀ negative, Plain (sign negative) := by
    intro negative
    cases negative with
    | false => exact plain_marks "" (List.nil_subset _)
    | true => exact plain_marks "-" (by simp)
  cases x with
  | finite s u =>
    refine (hsign s).append ?_
    split
    · exact (plain_zero.append plain_point).append plain_zero
    · exact plain_decimalText _
  | infinite s => exact (hsign s).append (plain_marks "inf" (by simp))
  | undefined => exact plain_marks "nan" (by simp)

/-! ## what tells the text from that of a whole number -/

/-- a point, an exponent or a word stands in the text -/
def Marked (s : String) : Prop := ∃ c ∈ s.toList, c ∈ ['.', 'e', 'n']

theorem Marked.append_right {t : String} (h : Marked t) (s : String) : Marked (s ++ t) := by
  obtain ⟨c, hc, hm⟩ := h
  exact ⟨c, by rw [String.toList_append]; exact List.mem_append_right _ hc, hm⟩

theorem Marked.append_left {s : String} (h : Marked s) (t : String) : Marked (s ++ t) := by
  obtain ⟨c, hc, hm⟩ := h
  exact ⟨c, by rw [String.toList_append]; exact List.mem_append_left _ hc, hm⟩

theorem marked_positional (ds : List Char) (e : Int) : Marked (positional ds e) := by
  have hpoint : Marked "." := ⟨'.', by simp, by simp⟩
  unfold positional
  split
  · exact ((hpoint.append_right "0").append_left _).append_left _
  · dsimp only
    split
    · exact (hpoint.append_left "0").append_right _
    · exact (hpoint.append_right _).append_left _

theorem marked_scientific (ds : List Char) (e : Int) : Marked (scientific ds e) := by
  have hexponent : Marked "e" := ⟨'e', by simp, by simp⟩
  exact (hexponent.append_right _).append_left _

theorem marked_text (x : Binary64) : Marked x.text := by
  cases x with
  | finite s u =>
    refine Marked.append_right ?_ (sign s)
    split
    · exact ⟨'.', by simp, by simp⟩
    · unfold decimalText
      dsimp only
      split
      · exact marked_positional _ _
      · exact marked_scientific _ _
  | infinite s => exact Marked.append_right ⟨'n', by simp, by simp⟩ (sign s)
  | undefined => exact ⟨'n', by simp [text], by simp⟩

/-- a character that is none of these does not stand in the text -/
theorem not_mem_text (x : Binary64) {c : Char} (hdigit : ¬ (48 ≤ c.toNat ∧ c.toNat < 58))
    (hmark : c ∉ ['.', 'e', '+', '-', 'i', 'n', 'f', 'a']) : c ∉ x.text.toList := by
  intro hc
  rcases plain_text x c hc with hd | hm
  · exact hdigit (Text.range_of_isDigitOf_ten hd)
  · exact hmark hm

theorem not_isNumeric_mark {c : Char} (h : c ∈ ['.', 'e', 'n']) : ¬ IsNumeric (plainChar c) := by
  have hnot : plainChar c = c ∧ isMargin c = false ∧ c ≠ '+' ∧ c ≠ '-' ∧ c ≠ '_' ∧ ¬ (48 ≤ c.toNat ∧ c.toNat < 58) := by
    simp only [List.mem_cons, List.not_mem_nil, or_false] at h
    rcases h with rfl | rfl | rfl <;> decide
  obtain ⟨hplain, hmargin, hplus, hminus, hunderscore, hdigit⟩ := hnot
  rw [hplain]
  rintro (h | h | h | h | h)
  · rw [hmargin] at h
    cases h
  · exact hplus h
  · exact hminus h
  · exact hunderscore h
  · exact hdigit (Text.range_of_isDigitOf_ten h)

/-- no floating-point text is read as a whole number -/
theorem readNumber?_text (x : Binary64) : readNumber? x.text = none := by
  obtain ⟨c, hc, hm⟩ := marked_text x
  exact Text.readNumber?_eq_none (not_mem_text x (by decide) (by simp)) (not_mem_text x (by decide) (by simp)) hc
    (not_isNumeric_mark hm)

end Disasm.Binary64
