import Mathlib
import Disasm.Text.Numeral
import Disasm.Proofs.Text.Split

/-!
# Numbers that are written can be read back

* `digitsValue`  the value of a list of digits, most significant digit first;
* `digits?_eq`  reading digits gives that value;
* `digitsValue_toDigits`  the digits that are written for a number have the number as their value;
* `readInt?_toString`, `readNumber?_marked`, `readInt?_hexPad`  decimal numbers, marked hexadecimal
  numbers and padded addresses, as files and listings hold them;
* `head_of_readNumber?`  a word that is a number starts like one.
-/

namespace Disasm.Text

/-! ## digits -/

/-- a digit of a base, as it is written -/
def IsDigitOf (base : Nat) (c : Char) : Prop := ∃ v, digitBelow? base c = some v

def digitsValue (base acc : Nat) (cs : List Char) : Nat :=
  cs.foldl (fun acc c => acc * base + (digitBelow? base c).getD 0) acc

theorem digitsValue_nil (base acc : Nat) : digitsValue base acc [] = acc := rfl

theorem digitsValue_cons (base acc : Nat) (c : Char) (cs : List Char) :
    digitsValue base acc (c :: cs) =
      digitsValue base (acc * base + (digitBelow? base c).getD 0) cs := rfl

theorem digitsValue_append (base acc : Nat) (cs ds : List Char) :
    digitsValue base acc (cs ++ ds) = digitsValue base (digitsValue base acc cs) ds :=
  List.foldl_append

theorem digitBelow?_eq_none_of_digitValue? {base : Nat} {c : Char} (h : digitValue? c = none) :
    digitBelow? base c = none := by
  simp [digitBelow?, h]

theorem IsDigitOf.ne {base : Nat} {c d : Char} (hc : IsDigitOf base c) (hd : digitValue? d = none) :
    c ≠ d := by
  rintro rfl
  obtain ⟨v, hv⟩ := hc
  rw [digitBelow?_eq_none_of_digitValue? hd] at hv
  cases hv

theorem moreDigits?_cons {base acc : Nat} {c : Char} {cs : List Char} (hc : IsDigitOf base c) :
    moreDigits? base acc (c :: cs) =
      moreDigits? base (acc * base + (digitBelow? base c).getD 0) cs := by
  obtain ⟨v, hv⟩ := hc
  have hne : c ≠ '_' := IsDigitOf.ne ⟨v, hv⟩ rfl
  rw [moreDigits?.eq_3 base acc c cs (fun _ _ h _ => hne h), hv]
  rfl

theorem moreDigits?_eq {base : Nat} (cs : List Char) (h : ∀ c ∈ cs, IsDigitOf base c) (acc : Nat) :
    moreDigits? base acc cs = some (digitsValue base acc cs) := by
  induction cs generalizing acc with
  | nil => rfl
  | cons c cs ih =>
    rw [moreDigits?_cons (h c List.mem_cons_self),
      ih (fun d hd => h d (List.mem_cons_of_mem _ hd)), digitsValue_cons]

theorem digits?_eq {base : Nat} {cs : List Char} (hne : cs ≠ []) (h : ∀ c ∈ cs, IsDigitOf base c) :
    digits? base cs = some (digitsValue base 0 cs) := by
  cases cs with
  | nil => exact absurd rfl hne
  | cons c cs =>
    obtain ⟨v, hv⟩ := h c List.mem_cons_self
    rw [digits?, hv, digitsValue_cons, hv]
    show moreDigits? base v cs = _
    rw [moreDigits?_eq cs (fun d hd => h d (List.mem_cons_of_mem _ hd)), Option.getD_some,
      Nat.zero_mul, Nat.zero_add]

/-! ## the digits of a number -/

theorem digitBelow?_digitChar {base v : Nat} (hb : base ≤ 16) (h : v < base) :
    digitBelow? base v.digitChar = some v := by
  have hv : digitValue? v.digitChar = some v := by
    have h16 : v < 16 := by omega
    interval_cases v <;> decide
  simp [digitBelow?, hv, h]

section
variable {base : Nat} (h1 : 1 < base) (h16 : base ≤ 16)
include h1 h16

theorem isDigitOf_toDigits (n : Nat) : ∀ c ∈ Nat.toDigits base n, IsDigitOf base c := by
  induction n using Nat.strongRecOn with
  | ind n ih =>
    intro c hc
    rw [Nat.toDigits_eq_if h1] at hc
    split at hc
    · rw [List.mem_singleton] at hc
      exact ⟨n, by rw [hc, digitBelow?_digitChar h16 (by assumption)]⟩
    · rcases List.mem_append.mp hc with hc | hc
      · exact ih (n / base) (Nat.div_lt_self (by omega) h1) c hc
      · rw [List.mem_singleton] at hc
        exact ⟨n % base, by rw [hc, digitBelow?_digitChar h16 (Nat.mod_lt _ (by omega))]⟩

theorem digitsValue_toDigits (n : Nat) : digitsValue base 0 (Nat.toDigits base n) = n := by
  induction n using Nat.strongRecOn with
  | ind n ih =>
    rw [Nat.toDigits_eq_if h1]
    split
    · rw [digitsValue_cons, digitsValue_nil, digitBelow?_digitChar h16 (by assumption)]
      simp
    · rw [digitsValue_append, ih (n / base) (Nat.div_lt_self (by omega) h1), digitsValue_cons,
        digitsValue_nil, digitBelow?_digitChar h16 (Nat.mod_lt _ (by omega)), Option.getD_some,
        Nat.mul_comm, Nat.div_add_mod]

theorem digits?_toDigits (n : Nat) : digits? base (Nat.toDigits base n) = some n := by
  rw [digits?_eq Nat.toDigits_ne_nil (isDigitOf_toDigits h1 h16 n), digitsValue_toDigits h1 h16]

end

/-! ## numerals without blanks -/

/-- a character that a numeral holds as it is: no blank, and no digit of another script -/
def IsPlain (c : Char) : Prop := plainChar c = c ∧ isMargin c = false

theorem IsGraphic.isPlain {c : Char} (h : IsGraphic c) : IsPlain c := by
  obtain ⟨h, h'⟩ := h
  refine ⟨if_pos (by omega), ?_⟩
  have hne : c ≠ ' ' := by
    rintro rfl
    exact absurd h (by decide)
  simp only [isMargin, Bool.or_eq_false_iff, beq_eq_false_iff_ne, Bool.and_eq_false_iff,
    decide_eq_false_iff_not]
  exact ⟨hne, Or.inr (by omega)⟩

theorem digitValue?_range {c : Char} {v : Nat} (h : digitValue? c = some v) :
    48 ≤ c.toNat ∧ c.toNat ≤ 122 := by
  simp only [digitValue?, Bool.and_eq_true, decide_eq_true_eq, Char.le_def, UInt32.le_iff_toNat_le]
    at h
  have hc : c.val.toNat = c.toNat := rfl
  simp only [hc] at h
  have hd : '0'.val.toNat = 48 ∧ '9'.val.toNat = 57 ∧ 'a'.val.toNat = 97 ∧ 'z'.val.toNat = 122 ∧
      'A'.val.toNat = 65 ∧ 'Z'.val.toNat = 90 := by decide
  split at h
  · omega
  · split at h
    · omega
    · split at h
      · omega
      · cases h

theorem IsDigitOf.isGraphic {base : Nat} {c : Char} (h : IsDigitOf base c) : IsGraphic c := by
  obtain ⟨v, hv⟩ := h
  cases hd : digitValue? c with
  | none => rw [digitBelow?_eq_none_of_digitValue? hd] at hv; cases hv
  | some w =>
    have := digitValue?_range hd
    exact ⟨by omega, by omega⟩

theorem IsDigitOf.isPlain {base : Nat} {c : Char} (h : IsDigitOf base c) : IsPlain c :=
  h.isGraphic.isPlain

theorem dropWhile_isMargin {cs : List Char} (h : ∀ c ∈ cs, IsPlain c) :
    cs.dropWhile isMargin = cs := by
  cases cs with
  | nil => rfl
  | cons c cs => rw [List.dropWhile_cons_of_neg]; simp [(h c List.mem_cons_self).2]

theorem trimMargin_eq {cs : List Char} (h : ∀ c ∈ cs, IsPlain c) : trimMargin cs = cs := by
  unfold trimMargin
  rw [dropWhile_isMargin h, dropWhile_isMargin (fun c hc => h c (List.mem_reverse.mp hc)),
    List.reverse_reverse]

theorem map_plainChar {cs : List Char} (h : ∀ c ∈ cs, IsPlain c) : cs.map plainChar = cs := by
  rw [List.map_congr_left (fun c hc => (h c hc).1), List.map_id']

theorem readInt?_eq {base : Nat} (h2 : 2 ≤ base) (h36 : base ≤ 36) {s : String}
    (h : ∀ c ∈ s.toList, IsPlain c) : readInt? base s = signed? base s.toList := by
  rw [readInt?, if_pos (by omega), map_plainChar h, trimMargin_eq h]
  rfl

/-! ## numerals in base ten and sixteen -/

theorem markerBase?_cases {m : Char} {b : Nat} (h : markerBase? m = some b) :
    (b = 16 ∧ (m = 'x' ∨ m = 'X')) ∨ b = 8 ∨ b = 2 := by
  unfold markerBase? at h
  split at h
  · rename_i hm
    rw [Bool.or_eq_true, beq_iff_eq, beq_iff_eq] at hm
    exact .inl ⟨(Option.some.inj h).symm, hm⟩
  · split at h
    · exact .inr (.inl (Option.some.inj h).symm)
    · split at h
      · exact .inr (.inr (Option.some.inj h).symm)
      · cases h

section
variable {base : Nat} (hb : base = 10 ∨ base = 16)
include hb

/-- a second digit is no marker of the base -/
theorem magnitude?_eq {cs : List Char} (h : ∀ c ∈ cs, IsDigitOf base c) :
    magnitude? base cs = digits? base cs := by
  unfold magnitude?
  split
  · rename_i m rest
    have hm := h m (by simp)
    have hx : m ≠ 'x' ∧ m ≠ 'X' := by
      constructor <;> rintro rfl <;> obtain ⟨v, hv⟩ := hm <;> rcases hb with rfl | rfl <;> cases hv
    cases hk : markerBase? m with
    | none =>
      show (if base = 0 then _ else _) = _
      rw [if_neg (by omega)]
    | some b =>
      have hne : base ≠ b := by
        rintro rfl
        rcases markerBase?_cases hk with ⟨-, hm | hm⟩ | h8
        · exact hx.1 hm
        · exact hx.2 hm
        · omega
      show (if _ then _ else _) = _
      rw [if_neg (by simp only [Bool.or_eq_true, decide_eq_true_eq]; omega)]
  · rw [if_neg (by omega)]

theorem magnitude?_toDigits (n : Nat) : magnitude? base (Nat.toDigits base n) = some n := by
  rw [magnitude?_eq hb (isDigitOf_toDigits (by omega) (by omega) n),
    digits?_toDigits (by omega) (by omega)]

end

/-- a text that does not start with a sign -/
theorem signed?_eq {base : Nat} {c : Char} {cs : List Char} (hm : c ≠ '-') (hp : c ≠ '+') :
    signed? base (c :: cs) = (magnitude? base (c :: cs)).map Int.ofNat :=
  signed?.eq_3 base (c :: cs) (fun _ h => hm (List.cons.inj h).1) (fun _ h => hp (List.cons.inj h).1)

theorem signed?_neg (base : Nat) (cs : List Char) :
    signed? base ('-' :: cs) = (magnitude? base cs).map fun n => -(n : Int) := by
  rw [signed?]

theorem signed?_digits {base : Nat} {cs : List Char} (hne : cs ≠ [])
    (h : ∀ c ∈ cs, IsDigitOf base c) :
    signed? base cs = (magnitude? base cs).map Int.ofNat := by
  cases cs with
  | nil => exact absurd rfl hne
  | cons c cs =>
    have hc := h c List.mem_cons_self
    exact signed?_eq (hc.ne rfl) (hc.ne rfl)

/-! ## what is written is read -/

theorem toList_ofNat (n : Nat) : (toString (n : Int)).toList = Nat.toDigits 10 n := by
  show (Nat.repr n).toList = _
  exact Nat.toList_repr

theorem toList_negSucc (n : Nat) :
    (toString (Int.negSucc n)).toList = '-' :: Nat.toDigits 10 (n + 1) := by
  show ("-" ++ Nat.repr (n + 1)).toList = _
  rw [String.toList_append, Nat.toList_repr]
  rfl

theorem isGraphic_toString (n : Int) : ∀ c ∈ (toString n).toList, IsGraphic c := by
  cases n with
  | ofNat n =>
    show ∀ c ∈ (toString (n : Int)).toList, IsGraphic c
    rw [toList_ofNat]
    exact fun c hc => (@isDigitOf_toDigits 10 (by decide) (by decide) n c hc).isGraphic
  | negSucc n =>
    rw [toList_negSucc]
    intro c hc
    rcases List.mem_cons.mp hc with rfl | hc
    · decide
    · exact (@isDigitOf_toDigits 10 (by decide) (by decide) (n + 1) c hc).isGraphic

theorem isWord_toString (n : Int) : IsWord (toString n).toList := by
  refine ⟨?_, fun c hc => (isGraphic_toString n c hc).not_blank⟩
  cases n with
  | ofNat n =>
    show (toString (n : Int)).toList ≠ []
    rw [toList_ofNat]
    exact Nat.toDigits_ne_nil
  | negSucc n =>
    rw [toList_negSucc]
    exact List.cons_ne_nil _ _

theorem readInt?_toString (n : Int) : readInt? 10 (toString n) = some n := by
  show readInt? (10 : Nat) _ = _
  rw [readInt?_eq (by decide) (by decide) fun c hc => (isGraphic_toString n c hc).isPlain]
  cases n with
  | ofNat n =>
    show signed? 10 (toString (n : Int)).toList = _
    rw [toList_ofNat, signed?_digits Nat.toDigits_ne_nil (isDigitOf_toDigits (by decide) (by decide) n),
      magnitude?_toDigits (.inl rfl)]
    rfl
  | negSucc n =>
    rw [toList_negSucc, signed?_neg, magnitude?_toDigits (.inl rfl)]
    rfl

theorem toList_hexDigits (n : Nat) : (hexDigits n).toList = Nat.toDigits 16 n :=
  String.toList_ofList

theorem isDigitOf_hexDigits (n : Nat) : ∀ c ∈ (hexDigits n).toList, IsDigitOf 16 c := by
  rw [toList_hexDigits]
  exact isDigitOf_toDigits (by decide) (by decide) n

theorem toList_hex_ofNat (n : Nat) : (hex (n : Int)).toList = Nat.toDigits 16 n := by
  unfold hex
  rw [if_neg (by omega), Int.natAbs_natCast, toList_hexDigits]

theorem toList_hex_negSucc (n : Nat) : (hex (Int.negSucc n)).toList = '-' :: Nat.toDigits 16 (n + 1) := by
  unfold hex
  rw [if_pos (Int.negSucc_lt_zero n), Int.natAbs_negSucc, String.toList_append, toList_hexDigits]
  rfl

theorem isGraphic_hex (n : Int) : ∀ c ∈ (hex n).toList, IsGraphic c := by
  cases n with
  | ofNat n =>
    show ∀ c ∈ (hex (n : Int)).toList, IsGraphic c
    rw [toList_hex_ofNat]
    exact fun c hc => (@isDigitOf_toDigits 16 (by decide) (by decide) n c hc).isGraphic
  | negSucc n =>
    rw [toList_hex_negSucc, List.forall_mem_cons]
    exact ⟨by decide, fun c hc => (@isDigitOf_toDigits 16 (by decide) (by decide) (n + 1) c hc).isGraphic⟩

theorem isWord_hex (n : Int) : IsWord (hex n).toList := by
  refine ⟨?_, fun c hc => (isGraphic_hex n c hc).not_blank⟩
  cases n with
  | ofNat n =>
    show (hex (n : Int)).toList ≠ []
    rw [toList_hex_ofNat]
    exact Nat.toDigits_ne_nil
  | negSucc n =>
    rw [toList_hex_negSucc]
    exact List.cons_ne_nil _ _

/-- a number is read in base 16 as it is written, with its sign -/
theorem readInt?_hex (n : Int) : readInt? 16 (hex n) = some n := by
  show readInt? (16 : Nat) _ = _
  rw [readInt?_eq (by decide) (by decide) fun c hc => (isGraphic_hex n c hc).isPlain]
  cases n with
  | ofNat n =>
    show signed? 16 (hex (n : Int)).toList = _
    rw [toList_hex_ofNat, signed?_digits Nat.toDigits_ne_nil (isDigitOf_toDigits (by decide) (by decide) n),
      magnitude?_toDigits (.inr rfl)]
    rfl
  | negSucc n =>
    rw [toList_hex_negSucc, signed?_neg, magnitude?_toDigits (.inr rfl)]
    rfl

theorem isWord_markedHex (n : Int) : IsWord ("0x" ++ hex n).toList := by
  have hsplit : ("0x" ++ hex n).toList = '0' :: 'x' :: (hex n).toList := by
    rw [String.toList_append]
    rfl
  rw [hsplit]
  refine ⟨List.cons_ne_nil _ _, ?_⟩
  rw [List.forall_mem_cons, List.forall_mem_cons]
  exact ⟨IsGraphic.not_blank (by decide), IsGraphic.not_blank (by decide), (isWord_hex n).2⟩

theorem isDigitOf_zero {base : Nat} (h : 0 < base) : IsDigitOf base '0' :=
  ⟨0, by simp [digitBelow?, show digitValue? '0' = some 0 from rfl, h]⟩

theorem toList_hexPad (width n : Nat) :
    (hexPad width (n : Int)).toList =
      List.replicate (width - (hexDigits n).length) '0' ++ Nat.toDigits 16 n := by
  have hneg : ¬ ((n : Int) < 0) := by omega
  rw [hexPad, if_neg hneg, String.toList_append, String.toList_ofList, Int.natAbs_natCast,
    toList_hexDigits]

theorem isDigitOf_hexPad (width n : Nat) : ∀ c ∈ (hexPad width (n : Int)).toList, IsDigitOf 16 c := by
  rw [toList_hexPad]
  intro c hc
  rcases List.mem_append.mp hc with hc | hc
  · rw [List.eq_of_mem_replicate hc]
    exact isDigitOf_zero (by decide)
  · exact isDigitOf_toDigits (by decide) (by decide) n c hc

/-! ## written numbers are unbroken -/

theorem unbroken_of_digits {base : Nat} {s : String} (h : ∀ c ∈ s.toList, IsDigitOf base c) :
    Unbroken s :=
  unbroken_of_graphic fun c hc => (h c hc).isGraphic

@[simp]
theorem unbroken_toString (n : Int) : Unbroken (toString n) := unbroken_of_graphic (isGraphic_toString n)

@[simp]
theorem unbroken_hexDigits (n : Nat) : Unbroken (hexDigits n) := unbroken_of_digits (isDigitOf_hexDigits n)

@[simp]
theorem unbroken_hex (n : Int) : Unbroken (hex n) := by
  unfold hex
  split
  · exact unbroken_append (by decide) (unbroken_hexDigits _)
  · exact unbroken_hexDigits _

@[simp]
theorem unbroken_hexByte (b : UInt8) : Unbroken (hexByte b) := unbroken_of_digits (isDigitOf_hexPad 2 b.toNat)

/-! ## padded addresses and marked numbers -/

theorem digitsValue_zeros (base k : Nat) (h : 0 < base) (cs : List Char) :
    digitsValue base 0 (List.replicate k '0' ++ cs) = digitsValue base 0 cs := by
  induction k with
  | zero => rfl
  | succ k ih =>
    have hz : digitBelow? base '0' = some 0 := by
      simp [digitBelow?, show digitValue? '0' = some 0 from rfl, h]
    rw [List.replicate_succ, List.cons_append, digitsValue_cons, hz]
    simpa using ih

theorem hexPad_ne_nil (width n : Nat) : (hexPad width (n : Int)).toList ≠ [] := by
  rw [toList_hexPad]
  exact fun h => Nat.toDigits_ne_nil (List.append_eq_nil_iff.mp h).2

theorem digitsValue_hexPad (width n : Nat) : digitsValue 16 0 (hexPad width (n : Int)).toList = n := by
  rw [toList_hexPad, digitsValue_zeros 16 _ (by decide), digitsValue_toDigits (by decide) (by decide)]

/-- a padded address is read as the number it shows -/
theorem readInt?_hexPad (width n : Nat) : readInt? 16 (hexPad width (n : Int)) = some (n : Int) := by
  have hne := hexPad_ne_nil width n
  have hd := isDigitOf_hexPad width n
  show readInt? (16 : Nat) _ = _
  rw [readInt?_eq (by decide) (by decide) (fun c hc => (hd c hc).isPlain), signed?_digits hne hd,
    magnitude?_eq (.inr rfl) hd, digits?_eq hne hd, digitsValue_hexPad]
  rfl

section
variable {cs : List Char} (hne : cs ≠ []) (hd : ∀ c ∈ cs, IsDigitOf 16 c)
include hne hd

theorem magnitude?_marked : magnitude? 16 ('0' :: 'x' :: cs) = some (digitsValue 16 0 cs) := by
  show markedDigits? 16 cs = _
  cases cs with
  | nil => exact absurd rfl hne
  | cons c cs =>
    have hc : c ≠ '_' := (hd c List.mem_cons_self).ne rfl
    rw [markedDigits?.eq_2 16 (c :: cs) (fun _ h => hc (List.cons.inj h).1), digits?_eq hne hd]

omit hd in
theorem isMarkedHex_marked : isMarkedHex ('0' :: 'x' :: cs) = true := by
  cases cs with
  | nil => exact absurd rfl hne
  | cons c cs => rfl

omit hne in
theorem isPlain_marked : ∀ c ∈ '0' :: 'x' :: cs, IsPlain c := by
  intro c hc
  rcases List.mem_cons.mp hc with rfl | hc
  · exact IsGraphic.isPlain (by decide)
  · rcases List.mem_cons.mp hc with rfl | hc
    · exact IsGraphic.isPlain (by decide)
    · exact (hd c hc).isPlain

end

section
variable {s : String} (hne : s.toList ≠ []) (hd : ∀ c ∈ s.toList, IsDigitOf 16 c)
include hne hd

/-- hexadecimal digits behind their marker -/
theorem readInt?_digits : readInt? 16 ("0x" ++ s) = some (digitsValue 16 0 s.toList : Int) := by
  have hs : ("0x" ++ s).toList = '0' :: 'x' :: s.toList := by
    rw [String.toList_append]
    rfl
  show readInt? (16 : Nat) _ = _
  rw [readInt?_eq (by decide) (by decide) (by rw [hs]; exact isPlain_marked hd), hs,
    signed?_eq (by decide) (by decide), magnitude?_marked hne hd]
  rfl

theorem readInt?_negDigits : readInt? 16 ("-0x" ++ s) = some (-(digitsValue 16 0 s.toList : Int)) := by
  have hs : ("-0x" ++ s).toList = '-' :: '0' :: 'x' :: s.toList := by
    rw [String.toList_append]
    rfl
  show readInt? (16 : Nat) _ = _
  rw [readInt?_eq (by decide) (by decide), hs]
  · rw [signed?_neg, magnitude?_marked hne hd]
    rfl
  · rw [hs]
    intro c hc
    rcases List.mem_cons.mp hc with rfl | hc
    · exact IsGraphic.isPlain (by decide)
    · exact isPlain_marked hd c hc

/-- the marker tells the base -/
theorem readNumber?_digits : readNumber? ("0x" ++ s) = some (digitsValue 16 0 s.toList : Int) := by
  rw [← readInt?_digits hne hd, readNumber?, String.toList_append]
  exact if_pos (isMarkedHex_marked hne)

theorem readNumber?_negDigits : readNumber? ("-0x" ++ s) = some (-(digitsValue 16 0 s.toList : Int)) := by
  rw [← readInt?_negDigits hne hd, readNumber?, String.toList_append]
  exact if_pos (isMarkedHex_marked hne)

end

/-- a padded address behind its marker -/
theorem readInt?_marked (width n : Nat) : readInt? 16 ("0x" ++ hexPad width (n : Int)) = some (n : Int) := by
  rw [readInt?_digits (hexPad_ne_nil width n) (isDigitOf_hexPad width n), digitsValue_hexPad]

theorem hexDigits_ne_nil (n : Nat) : (hexDigits n).toList ≠ [] := by
  rw [toList_hexDigits]
  exact Nat.toDigits_ne_nil

theorem digitsValue_hexDigits (n : Nat) : digitsValue 16 0 (hexDigits n).toList = n := by
  rw [toList_hexDigits, digitsValue_toDigits (by decide) (by decide)]

/-- a marked hexadecimal number is read as the number it shows -/
theorem readNumber?_marked (n : Nat) : readNumber? ("0x" ++ hexDigits n) = some (n : Int) := by
  rw [readNumber?_digits (hexDigits_ne_nil n) (isDigitOf_hexDigits n), digitsValue_hexDigits]

theorem readNumber?_negMarked (n : Nat) : readNumber? ("-0x" ++ hexDigits n) = some (-(n : Int)) := by
  rw [readNumber?_negDigits (hexDigits_ne_nil n) (isDigitOf_hexDigits n), digitsValue_hexDigits]

/-- so is one that is padded -/
theorem readNumber?_hexPad (width n : Nat) : readNumber? ("0x" ++ hexPad width (n : Int)) = some (n : Int) := by
  rw [readNumber?_digits (hexPad_ne_nil width n) (isDigitOf_hexPad width n), digitsValue_hexPad]

/-! ## how a numeral starts -/

theorem range_of_isDigitOf_ten {c : Char} (h : IsDigitOf 10 c) : 48 ≤ c.toNat ∧ c.toNat < 58 := by
  obtain ⟨v, hv⟩ := h
  unfold digitBelow? at hv
  split at hv
  · next w hw =>
    split at hv
    · next hlt =>
      simp only [digitValue?, Bool.and_eq_true, decide_eq_true_eq, Char.le_def, UInt32.le_iff_toNat_le] at hw
      have hc : c.val.toNat = c.toNat := rfl
      simp only [hc] at hw
      have hd : '0'.val.toNat = 48 ∧ '9'.val.toNat = 57 := by decide
      split at hw
      · omega
      · split at hw
        · cases hw
          omega
        · split at hw
          · cases hw
            omega
          · cases hw
    · cases hv
  · cases hv

theorem isDigit_of_range {c : Char} (h : 48 ≤ c.toNat ∧ c.toNat < 58) : isDigit c = true := by
  have hrow : (digitRows.find? fun row => row ≤ c.toNat && c.toNat < row + 10) = some 48 := by
    unfold digitRows
    rw [List.find?_cons_of_pos]
    simpa using h
  unfold isDigit decimalValue?
  rw [hrow]
  rfl

/-- what is read as a decimal digit is a digit of some script -/
theorem isDigit_of_plainChar {c : Char} (h : IsDigitOf 10 (plainChar c)) : isDigit c = true := by
  unfold plainChar at h
  split at h
  · exact isDigit_of_range (range_of_isDigitOf_ten h)
  · cases hd : decimalValue? c with
    | some v =>
      unfold isDigit
      rw [hd]
      rfl
    | none =>
      simp only [hd] at h
      split at h
      · exact absurd (range_of_isDigitOf_ten h) (by decide)
      · exact absurd (range_of_isDigitOf_ten h) (by decide)

/-- only a character of ASCII is read as itself when it is no digit, no blank and no question mark -/
theorem eq_of_plainChar_eq {c d : Char} (h : plainChar c = d) (hdigit : ¬ (48 ≤ d.toNat ∧ d.toNat < 58))
    (hblank : d ≠ ' ') (hmark : d ≠ '?') : c = d := by
  unfold plainChar at h
  split at h
  · exact h
  · exfalso
    split at h
    · next v hv =>
      have hlt := decimalValue?_lt hv
      refine hdigit ?_
      rw [← h]
      interval_cases v <;> decide
    · split at h
      · exact hblank h.symm
      · exact hmark h.symm

theorem not_isMargin_plainChar {c : Char} (h : isBlank c = false) : isMargin (plainChar c) = false := by
  unfold plainChar
  split
  · refine eq_false_of_ne_true fun hm => ?_
    have hrange : (9 ≤ c.toNat ∧ c.toNat ≤ 13) ∨ c.toNat = 32 := by
      unfold isMargin at hm
      rw [Bool.or_eq_true, beq_iff_eq, Bool.and_eq_true, decide_eq_true_eq, decide_eq_true_eq] at hm
      rcases hm with rfl | hm
      · exact .inr rfl
      · exact .inl hm
    simp only [isBlank, blankRuns, inRuns_cons, Bool.or_eq_false_iff, Bool.and_eq_false_iff,
      decide_eq_false_iff_not] at h
    omega
  · split
    · next v hv =>
      have hlt := decimalValue?_lt hv
      interval_cases v <;> decide
    · rw [h]
      rfl

theorem trimMargin_cons {c : Char} (h : isMargin c = false) (cs : List Char) :
    ∃ ds, trimMargin (c :: cs) = c :: ds := by
  unfold trimMargin
  rw [List.dropWhile_cons_of_neg (by simp [h]), List.reverse_cons, List.dropWhile_append]
  split
  · rw [List.dropWhile_cons_of_neg (by simp [h])]
    exact ⟨[], rfl⟩
  · rw [List.reverse_append]
    exact ⟨_, rfl⟩

theorem isDigitOf_of_magnitude? {c : Char} {cs : List Char} {n : Nat} (h : magnitude? 10 (c :: cs) = some n) :
    IsDigitOf 10 c := by
  by_cases hc : c = '0'
  · rw [hc]
    exact isDigitOf_zero (by decide)
  · have hdigits : magnitude? 10 (c :: cs) = digits? 10 (c :: cs) :=
      magnitude?.eq_2 10 (c :: cs) fun _ _ he => hc (List.cons.inj he).1
    rw [hdigits] at h
    cases hv : digitBelow? 10 c with
    | some v => exact ⟨v, hv⟩
    | none =>
      rw [digits?, hv] at h
      cases h

/-- a word that is a number starts with a digit or a sign -/
theorem head_of_readNumber? {w : String} (hw : IsWord w.toList) {n : Int} (h : readNumber? w = some n) :
    ∃ c cs, w.toList = c :: cs ∧ (isDigit c = true ∨ c = '+' ∨ c = '-') := by
  obtain ⟨hne, hblank⟩ := hw
  cases hcs : w.toList with
  | nil => exact absurd hcs hne
  | cons c cs =>
    refine ⟨c, cs, rfl, ?_⟩
    by_contra hnot
    obtain ⟨hdigit, hplus, hminus⟩ : ¬ isDigit c = true ∧ c ≠ '+' ∧ c ≠ '-' := by
      exact ⟨fun hd => hnot (.inl hd), fun hd => hnot (.inr (.inl hd)), fun hd => hnot (.inr (.inr hd))⟩
    have hunsigned : unsigned (c :: cs) = c :: cs :=
      unsigned.eq_3 (c :: cs) (fun _ he => hplus (List.cons.inj he).1) fun _ he => hminus (List.cons.inj he).1
    have hzero : c ≠ '0' := by
      rintro rfl
      exact hdigit (by decide)
    have hmarked : isMarkedHex (c :: cs) = false :=
      isMarkedHex.eq_2 (c :: cs) fun _ _ _ he => hzero (List.cons.inj he).1
    obtain ⟨ds, hds⟩ := trimMargin_cons
      (not_isMargin_plainChar (hblank c (by rw [hcs]; exact List.mem_cons_self))) (cs.map plainChar)
    unfold readNumber? at h
    rw [hcs, hunsigned, hmarked, if_neg Bool.false_ne_true] at h
    unfold readInt? at h
    rw [if_pos (by decide), hcs, List.map_cons, hds] at h
    have hplain : ∀ s, s = '-' ∨ s = '+' → plainChar c ≠ s := by
      rintro s (rfl | rfl) he
      · exact hminus (eq_of_plainChar_eq he (by decide) (by decide) (by decide))
      · exact hplus (eq_of_plainChar_eq he (by decide) (by decide) (by decide))
    rw [signed?_eq (hplain _ (.inl rfl)) (hplain _ (.inr rfl))] at h
    obtain ⟨m, hm, -⟩ := Option.map_eq_some_iff.1 h
    exact hdigit (isDigit_of_plainChar (isDigitOf_of_magnitude? hm))
end Disasm.Text
