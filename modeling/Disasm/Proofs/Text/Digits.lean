import Mathlib
import Disasm.Proofs.Text.Numeral

/-!
# The digits of numerals

* `readInt?_ofDigits`, `readNumber?_decimal`, `readNumber?_hex`  digits as they are read;
* `isNumeric_of_readInt?`  a decimal numeral holds digits, underscores, signs and blanks, and nothing else, so that a
  text with another character is none (`readNumber?_eq_none`);
* `digitsValue_eight_eq_iff`  octal digits have the same value in base ten when there is no more than one of them,
  zeros in front of it not counted.
-/

namespace Disasm.Text

/-! ## digits in a base -/

theorem IsDigitOf.mono {base base' : Nat} (h : base ≤ base') {c : Char} (hc : IsDigitOf base c) :
    IsDigitOf base' c ∧ digitBelow? base' c = digitBelow? base c := by
  obtain ⟨v, hv⟩ := hc
  have hv' : digitBelow? base' c = some v := by
    unfold digitBelow? at hv ⊢
    cases hd : digitValue? c with
    | none => rw [hd] at hv; cases hv
    | some w =>
      rw [hd] at hv
      dsimp only at hv ⊢
      split at hv
      · next hw =>
        cases hv
        rw [if_pos (by omega)]
      · cases hv
  exact ⟨⟨v, hv'⟩, hv'.trans hv.symm⟩

theorem digitBelow?_lt {base : Nat} {c : Char} {v : Nat} (h : digitBelow? base c = some v) : v < base := by
  unfold digitBelow? at h
  split at h
  · split at h
    · next hv =>
      cases h
      exact hv
    · cases h
  · cases h

/-- a digit below ten is no marker -/
theorem markerBase?_of_isDigitOf {base : Nat} (h10 : base ≤ 10) {c : Char} (hc : IsDigitOf base c) :
    markerBase? c = none := by
  have hrange := range_of_isDigitOf_ten (hc.mono h10).1
  have hne : ∀ d : Char, 58 ≤ d.toNat → (c == d) = false := by
    intro d hd
    rw [beq_eq_false_iff_ne]
    rintro rfl
    omega
  unfold markerBase?
  simp [hne 'x' (by decide), hne 'X' (by decide), hne 'o' (by decide), hne 'O' (by decide), hne 'b' (by decide),
    hne 'B' (by decide)]

theorem magnitude?_of_small {base : Nat} (h0 : base ≠ 0) (h10 : base ≤ 10) {cs : List Char} (hne : cs ≠ [])
    (hd : ∀ c ∈ cs, IsDigitOf base c) : magnitude? base cs = some (digitsValue base 0 cs) := by
  rw [← digits?_eq hne hd]
  unfold magnitude?
  split
  · next m rest =>
    rw [markerBase?_of_isDigitOf h10 (hd m (List.mem_cons_of_mem _ List.mem_cons_self))]
    exact if_neg h0
  · rw [if_neg h0]

/-- only a marker letter makes a numeral hexadecimal -/
theorem isMarkedHex_of_not_mem {cs : List Char} (hx : 'x' ∉ cs) (hX : 'X' ∉ cs) :
    isMarkedHex (unsigned cs) = false := by
  have hsub : ∀ c ∈ unsigned cs, c ∈ cs := by
    unfold unsigned
    split
    · exact fun c hc => List.mem_cons_of_mem _ hc
    · exact fun c hc => List.mem_cons_of_mem _ hc
    · exact fun c hc => hc
  cases hm : isMarkedHex (unsigned cs) with
  | false => rfl
  | true =>
    unfold isMarkedHex at hm
    split at hm
    · next x d rest heq =>
      have hmem : x ∈ cs := hsub x (by rw [heq]; simp)
      rw [Bool.or_eq_true, beq_iff_eq, beq_iff_eq] at hm
      rcases hm with rfl | rfl
      · exact absurd hmem hx
      · exact absurd hmem hX
    · cases hm

section
variable {s : String} (hne : s.toList ≠ [])
include hne

/-- digits below ten, in their base -/
theorem readInt?_ofDigits {base : Nat} (h2 : 2 ≤ base) (h10 : base ≤ 10) (hd : ∀ c ∈ s.toList, IsDigitOf base c) :
    readInt? base s = some (digitsValue base 0 s.toList : Int) := by
  rw [readInt?_eq h2 (by omega) fun c hc => (hd c hc).isPlain, signed?_digits hne hd,
    magnitude?_of_small (by omega) h10 hne hd]
  rfl

theorem readNumber?_decimal (hd : ∀ c ∈ s.toList, IsDigitOf 10 c) :
    readNumber? s = some (digitsValue 10 0 s.toList : Int) := by
  have hletter : ∀ c, 58 ≤ c.toNat → c ∉ s.toList := by
    intro c hc hmem
    have := range_of_isDigitOf_ten (hd c hmem)
    omega
  have hmarked := isMarkedHex_of_not_mem (hletter 'x' (by decide)) (hletter 'X' (by decide))
  rw [readNumber?, hmarked, if_neg Bool.false_ne_true]
  exact readInt?_ofDigits hne (by decide) le_rfl hd

end

/-- hexadecimal digits behind either marker -/
theorem readNumber?_hex {s : String} {x : Char} {ds : List Char} (hs : s.toList = '0' :: x :: ds)
    (hx : markerBase? x = some 16) (hne : ds ≠ []) (hd : ∀ c ∈ ds, IsDigitOf 16 c) :
    readInt? 16 s = some (digitsValue 16 0 ds : Int) ∧ readNumber? s = some (digitsValue 16 0 ds : Int) := by
  have hletter : x = 'x' ∨ x = 'X' := by
    rcases markerBase?_cases hx with ⟨-, h⟩ | h | h
    · exact h
    · omega
    · omega
  have hplain : ∀ c ∈ s.toList, IsPlain c := by
    rw [hs, List.forall_mem_cons, List.forall_mem_cons]
    refine ⟨IsGraphic.isPlain (by decide), ?_, fun c hc => (hd c hc).isPlain⟩
    rcases hletter with rfl | rfl <;> exact IsGraphic.isPlain (by decide)
  have hmagnitude : magnitude? 16 ('0' :: x :: ds) = some (digitsValue 16 0 ds) := by
    have hmarked : magnitude? 16 ('0' :: x :: ds) = markedDigits? 16 ds := by
      unfold magnitude?
      simp [hx]
    obtain ⟨c, cs, rfl⟩ := List.exists_cons_of_ne_nil hne
    have hc : c ≠ '_' := (hd c List.mem_cons_self).ne rfl
    rw [hmarked, markedDigits?.eq_2 16 (c :: cs) (fun _ h => hc (List.cons.inj h).1), digits?_eq hne hd]
  have hread : readInt? 16 s = some (digitsValue 16 0 ds : Int) := by
    show readInt? (16 : Nat) s = _
    rw [readInt?_eq (by decide) (by decide) hplain, hs, signed?_eq (by decide) (by decide), hmagnitude]
    rfl
  refine ⟨hread, ?_⟩
  have hhex : isMarkedHex (unsigned s.toList) = true := by
    obtain ⟨c, cs, rfl⟩ := List.exists_cons_of_ne_nil hne
    rw [hs]
    rcases hletter with rfl | rfl <;> rfl
  rw [readNumber?, hhex, if_pos rfl, hread]

/-! ## characters of numerals -/

theorem isDigitOf_or_underscore_of_moreDigits? {base acc : Nat} {cs : List Char} {n : Nat}
    (h : moreDigits? base acc cs = some n) : ∀ c ∈ cs, IsDigitOf base c ∨ c = '_' := by
  fun_induction moreDigits? base acc cs with
  | case1 acc => exact List.forall_mem_nil _
  | case2 acc c cs v hv ih =>
    exact List.forall_mem_cons.2 ⟨.inr rfl, List.forall_mem_cons.2 ⟨.inl ⟨v, hv⟩, ih h⟩⟩
  | case3 => cases h
  | case4 acc c cs hother v hv ih => exact List.forall_mem_cons.2 ⟨.inl ⟨v, hv⟩, ih h⟩
  | case5 => cases h

theorem isDigitOf_or_underscore_of_digits? {base : Nat} {cs : List Char} {n : Nat} (h : digits? base cs = some n) :
    ∀ c ∈ cs, IsDigitOf base c ∨ c = '_' := by
  cases cs with
  | nil => cases h
  | cons c cs =>
    cases hv : digitBelow? base c with
    | none => rw [digits?, hv] at h; cases h
    | some v =>
      rw [digits?, hv] at h
      exact List.forall_mem_cons.2 ⟨.inl ⟨v, hv⟩, isDigitOf_or_underscore_of_moreDigits? h⟩

/-- no marker stands for base ten -/
theorem magnitude?_ten (cs : List Char) : magnitude? 10 cs = digits? 10 cs := by
  unfold magnitude?
  split
  · next m rest =>
    cases hk : markerBase? m with
    | none => exact if_neg (by decide)
    | some b =>
      have hb : b ≠ 10 := by
        rintro rfl
        rcases markerBase?_cases hk with ⟨h, -⟩ | h | h <;> omega
      exact if_neg (by simpa using hb.symm)
  · rw [if_neg (by decide)]

/-- a character that can stand in a decimal numeral -/
def IsNumeric (c : Char) : Prop := isMargin c = true ∨ c = '+' ∨ c = '-' ∨ c = '_' ∨ IsDigitOf 10 c

theorem isNumeric_of_signed? {cs : List Char} {n : Int} (h : signed? 10 cs = some n) : ∀ c ∈ cs, IsNumeric c := by
  have hdigits : ∀ {ds : List Char} {m : Nat}, magnitude? 10 ds = some m → ∀ c ∈ ds, IsNumeric c := by
    intro ds m hm c hc
    rw [magnitude?_ten] at hm
    rcases isDigitOf_or_underscore_of_digits? hm c hc with hd | hu
    · exact .inr (.inr (.inr (.inr hd)))
    · exact .inr (.inr (.inr (.inl hu)))
  unfold signed? at h
  split at h
  · obtain ⟨k, hk, -⟩ := Option.map_eq_some_iff.1 h
    obtain ⟨m, hm, -⟩ := Option.bind_eq_some_iff.1 hk
    exact List.forall_mem_cons.2 ⟨.inr (.inr (.inl rfl)), hdigits hm⟩
  · obtain ⟨m, hm, -⟩ := Option.map_eq_some_iff.1 h
    exact List.forall_mem_cons.2 ⟨.inr (.inl rfl), hdigits hm⟩
  · obtain ⟨m, hm, -⟩ := Option.map_eq_some_iff.1 h
    exact hdigits hm

theorem mem_trimMargin {cs : List Char} {c : Char} (h : c ∈ cs) : c ∈ trimMargin cs ∨ isMargin c = true := by
  have hdrop : ∀ {ds : List Char}, c ∈ ds → c ∈ ds.dropWhile isMargin ∨ isMargin c = true := by
    intro ds hds
    rw [← List.takeWhile_append_dropWhile (p := isMargin) (l := ds), List.mem_append] at hds
    exact hds.symm.imp_right List.mem_takeWhile_imp
  unfold trimMargin
  rw [List.mem_reverse]
  rcases hdrop h with h | h
  · exact hdrop (List.mem_reverse.2 h)
  · exact .inr h

/-- a decimal numeral holds nothing but digits, underscores, signs and blanks -/
theorem isNumeric_of_readInt? {s : String} {n : Int} (h : readInt? 10 s = some n) :
    ∀ c ∈ s.toList, IsNumeric (plainChar c) := by
  intro c hc
  rw [readInt?, if_pos (by decide)] at h
  rcases mem_trimMargin (List.mem_map_of_mem (f := plainChar) hc) with hmem | hmargin
  · exact isNumeric_of_signed? h _ hmem
  · exact .inl hmargin

/-- a text with another character and without the marker letters is no number -/
theorem readNumber?_eq_none {s : String} (hx : 'x' ∉ s.toList) (hX : 'X' ∉ s.toList) {c : Char} (hc : c ∈ s.toList)
    (hnot : ¬ IsNumeric (plainChar c)) : readNumber? s = none := by
  rw [readNumber?, isMarkedHex_of_not_mem hx hX, if_neg Bool.false_ne_true]
  cases h : readInt? 10 s with
  | none => rfl
  | some n => exact absurd (isNumeric_of_readInt? h c hc) hnot

/-! ## octal digits -/

theorem le_digitsValue {base : Nat} (hb : 0 < base) (cs : List Char) (acc : Nat) : acc ≤ digitsValue base acc cs := by
  induction cs generalizing acc with
  | nil => exact le_rfl
  | cons c cs ih =>
    rw [digitsValue_cons]
    calc acc ≤ acc * base := Nat.le_mul_of_pos_right acc hb
      _ ≤ acc * base + (digitBelow? base c).getD 0 := Nat.le_add_right _ _
      _ ≤ _ := ih _

/-- more in front stays more -/
theorem digitsValue_eight_lt {cs : List Char} (hd : ∀ c ∈ cs, IsDigitOf 8 c) {a b : Nat} (h : a < b) :
    digitsValue 8 a cs < digitsValue 10 b cs := by
  induction cs generalizing a b with
  | nil => exact h
  | cons c cs ih =>
    obtain ⟨hc, hcs⟩ := List.forall_mem_cons.1 hd
    rw [digitsValue_cons, digitsValue_cons, (hc.mono (show 8 ≤ 10 by decide)).2]
    exact ih hcs (by omega)

/-- octal digits behind one that is not 0 count for more in base ten -/
theorem digitsValue_eight_eq_iff {cs : List Char} (hd : ∀ c ∈ cs, IsDigitOf 8 c) {a : Nat} (ha : a < 8) :
    digitsValue 10 a cs = digitsValue 8 a cs ↔ digitsValue 8 a cs < 8 := by
  induction cs generalizing a with
  | nil => exact iff_of_true rfl ha
  | cons c cs ih =>
    obtain ⟨hc, hcs⟩ := List.forall_mem_cons.1 hd
    rw [digitsValue_cons, digitsValue_cons, (hc.mono (show 8 ≤ 10 by decide)).2]
    obtain ⟨v, hv⟩ := hc
    have hlt := digitBelow?_lt hv
    rw [hv, Option.getD_some]
    rcases Nat.eq_zero_or_pos a with rfl | hpos
    · rw [Nat.zero_mul, Nat.zero_add]
      exact ih hcs hlt
    · have hless : digitsValue 8 (a * 8 + v) cs < digitsValue 10 (a * 10 + v) cs :=
        digitsValue_eight_lt hcs (by omega)
      have hge := le_digitsValue (show 0 < 8 by decide) cs (a * 8 + v)
      exact iff_of_false (by omega) (by omega)

end Disasm.Text
