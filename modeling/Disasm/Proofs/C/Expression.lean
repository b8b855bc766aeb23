import Mathlib
import Disasm.C.Constant
import Disasm.Proofs.Action
import Disasm.Proofs.Text.Digits

/-!
# The values of constant expressions

* `literalValue? s`  the value that a constant of C has: hexadecimal behind `0x`, octal behind another `0`, and
  decimal otherwise;
* `valueOf? t`  the value of an expression in whole numbers, with quotients rounded towards zero;
* `evaluate_eq_whole`  an expression without a quotient is computed as its value;
* `evaluate_real`  one with a quotient is computed as a floating-point number, if at all.
-/

namespace Disasm.C

open Disasm.Text (digitBelow? digitsValue IsDigitOf readInt? readNumber? markerBase?)

/-! ## constants -/

def literalBase (cs : List Char) : Nat :=
  if isMarkedHex cs then 16 else if cs.head? = some '0' then 8 else 10

/-- the digits without the marker -/
def literalDigits (cs : List Char) : List Char := if isMarkedHex cs then cs.drop 2 else cs

/-- the value of a constant, nothing for a text that is none -/
def literalValue? (s : String) : Option Nat :=
  let digits := literalDigits s.toList
  let base := literalBase s.toList
  if digits ≠ [] ∧ digits.all fun c => (digitBelow? base c).isSome then some (digitsValue base 0 digits) else none

/-- the three ways of writing a constant, with its base and its value -/
inductive Literal (cs : List Char) : Nat → Nat → Prop
  | hex {x : Char} {ds : List Char} (hs : cs = '0' :: x :: ds) (hx : (x == 'x' || x == 'X') = true) (hne : ds ≠ [])
    (hd : ∀ c ∈ ds, IsDigitOf 16 c) : Literal cs 16 (digitsValue 16 0 ds)
  | octal {ds : List Char} (hs : cs = '0' :: ds) (hplain : isMarkedHex cs = false) (hd : ∀ c ∈ cs, IsDigitOf 8 c) :
    Literal cs 8 (digitsValue 8 0 cs)
  | decimal {c : Char} {ds : List Char} (hs : cs = c :: ds) (hc : c ≠ '0') (hd : ∀ c ∈ cs, IsDigitOf 10 c) :
    Literal cs 10 (digitsValue 10 0 cs)

theorem exists_of_isMarkedHex {cs : List Char} (h : isMarkedHex cs = true) :
    ∃ x ds, cs = '0' :: x :: ds ∧ (x == 'x' || x == 'X') = true := by
  unfold isMarkedHex at h
  split at h
  · next x ds => exact ⟨x, ds, rfl, h⟩
  · cases h

theorem literal_of_value? {s : String} {n : Nat} (h : literalValue? s = some n) :
    Literal s.toList (literalBase s.toList) n := by
  unfold literalValue? at h
  dsimp only at h
  split at h
  case isFalse => cases h
  case isTrue hdigits =>
    obtain ⟨hne, hsome⟩ := hdigits
    have hd : ∀ c ∈ literalDigits s.toList, IsDigitOf (literalBase s.toList) c := fun c hc =>
      Option.isSome_iff_exists.1 (List.all_eq_true.1 hsome c hc)
    cases h
    by_cases hhex : isMarkedHex s.toList = true
    · obtain ⟨x, ds, hs, hx⟩ := exists_of_isMarkedHex hhex
      have hdigits : literalDigits s.toList = ds := by rw [literalDigits, if_pos hhex, hs]; rfl
      have hbase : literalBase s.toList = 16 := if_pos hhex
      rw [hdigits, hbase] at hd ⊢
      exact .hex hs hx (hdigits ▸ hne) hd
    · have hdigits : literalDigits s.toList = s.toList := if_neg hhex
      rw [hdigits] at hne hd ⊢
      obtain ⟨c, ds, hs⟩ := List.exists_cons_of_ne_nil hne
      by_cases hc : c = '0'
      · have hbase : literalBase s.toList = 8 := by
          rw [literalBase, if_neg hhex, hs, hc]
          rfl
        rw [hbase] at hd ⊢
        exact .octal (hc ▸ hs) (by simpa using hhex) hd
      · have hbase : literalBase s.toList = 10 := by
          rw [literalBase, if_neg hhex, hs]
          exact if_neg fun h => hc (Option.some.inj h)
        rw [hbase] at hd ⊢
        exact .decimal hs hc hd

theorem markerBase?_of_letter {x : Char} (h : (x == 'x' || x == 'X') = true) : markerBase? x = some 16 := if_pos h

/-- a constant is computed as its value -/
theorem constantValue_literal {s : String} {n : Nat} (h : literalValue? s = some n) :
    constantValue s = .ok (.whole n) := by
  have hnumeral : ∀ {base : Int}, readInt? base s = some (n : Int) → numeral base s = .ok (.whole n) := by
    intro base hread
    rw [numeral, hread]
  have hl := literal_of_value? h
  generalize literalBase s.toList = base at hl
  unfold constantValue
  cases hl with
  | @hex x ds hs hx hne hd =>
    rw [hs]
    show numeral (if x == 'x' || x == 'X' then 16 else 8) s = _
    rw [if_pos hx]
    exact hnumeral (Text.readNumber?_hex hs (markerBase?_of_letter hx) hne hd).1
  | @octal ds hs hplain hd =>
    have hne : s.toList ≠ [] := by rw [hs]; exact List.cons_ne_nil _ _
    have hread := hnumeral (Text.readInt?_ofDigits hne (by decide) (by decide) hd)
    rw [hs] at hplain ⊢
    show numeral (if isMarkedHex ('0' :: ds) then 16 else 8) s = _
    rw [hplain, if_neg Bool.false_ne_true, ← hs]
    exact hread
  | @decimal c ds hs hc hd =>
    have hne : s.toList ≠ [] := by rw [hs]; exact List.cons_ne_nil _ _
    have hread := hnumeral (Text.readInt?_ofDigits hne (by decide) (by decide) hd)
    have hrange := Text.range_of_isDigitOf_ten (hd c (by rw [hs]; exact List.mem_cons_self))
    have hnonzero : ('1' ≤ c && c ≤ '9') = true := by
      have hne0 : c.toNat ≠ 48 := fun he => hc (Char.toNat_inj.1 he)
      rw [Bool.and_eq_true, decide_eq_true_eq, decide_eq_true_eq, Char.le_def, Char.le_def, UInt32.le_iff_toNat_le,
        UInt32.le_iff_toNat_le]
      show 49 ≤ c.toNat ∧ c.toNat ≤ 57
      omega
    rw [hs]
    show (if c == '0' then _ else if '1' ≤ c && c ≤ '9' then numeral 10 s else _) = _
    rw [if_neg (by simpa using hc), if_pos hnonzero, ← hs]
    exact hread

/-- a constant is read as a number in base sixteen behind a marker, and in base ten otherwise -/
theorem readNumber?_literal {s : String} {n : Nat} (h : literalValue? s = some n) :
    readNumber? s = some (n : Int) ↔ (literalBase s.toList = 8 → n < 8) := by
  have hl := literal_of_value? h
  generalize literalBase s.toList = base at hl
  cases hl with
  | @hex x ds hs hx hne hd =>
    exact iff_of_true (Text.readNumber?_hex hs (markerBase?_of_letter hx) hne hd).2 fun h => absurd h (by decide)
  | @octal ds hs hplain hd =>
    have hten : ∀ c ∈ s.toList, IsDigitOf 10 c := fun c hc => ((hd c hc).mono (by decide)).1
    rw [Text.readNumber?_decimal (by rw [hs]; exact List.cons_ne_nil _ _) hten, Option.some_inj, Nat.cast_inj,
      Text.digitsValue_eight_eq_iff hd (by decide)]
    exact ⟨fun h _ => h, fun h => h rfl⟩
  | @decimal c ds hs hc hd =>
    exact iff_of_true (Text.readNumber?_decimal (by rw [hs]; exact List.cons_ne_nil _ _) hd)
      fun h => absurd h (by decide)

/-! ## expressions -/

/-- an operation on whole numbers; a quotient is rounded towards zero, and there is none for a zero divisor -/
def operation? (op : String) (a b : Int) : Option Int :=
  if op = "+" then some (a + b)
  else if op = "-" then some (a - b)
  else if op = "*" then some (a * b)
  else if op = "/" then if b = 0 then none else some (a.tdiv b)
  else none

/-- the value of an expression in whole numbers -/
def valueOf? : Tree → Option Int
  | .node .constant [_, .text s] => (literalValue? s).map Int.ofNat
  | .node .unaryOp [.text op, e] =>
    if op = "+" then valueOf? e else if op = "-" then (valueOf? e).map (- ·) else none
  | .node .binaryOp [.text op, l, r] => (valueOf? l).bind fun a => (valueOf? r).bind fun b => operation? op a b
  | _ => none

/-- a quotient stands in the expression -/
def divides : Tree → Bool
  | .node .unaryOp [_, e] => divides e
  | .node .binaryOp [.text op, l, r] => op == "/" || divides l || divides r
  | _ => false

/-- the other operations are exact -/
theorem binary?_whole {op : String} {a b v : Int} (h : operation? op a b = some v) (hdiv : op ≠ "/") :
    ∃ f, binary? op = some f ∧ f (.whole a) (.whole b) = .ok (.whole v) := by
  unfold operation? at h
  by_cases hadd : op = "+"
  · rw [if_pos hadd] at h
    cases h
    exact ⟨Quantity.add, by rw [hadd]; rfl, rfl⟩
  rw [if_neg hadd] at h
  by_cases hsub : op = "-"
  · rw [if_pos hsub] at h
    cases h
    exact ⟨Quantity.sub, by rw [hsub]; rfl, rfl⟩
  rw [if_neg hsub] at h
  by_cases hmul : op = "*"
  · rw [if_pos hmul] at h
    cases h
    exact ⟨Quantity.mul, by rw [hmul]; rfl, rfl⟩
  · rw [if_neg hmul, if_neg hdiv] at h
    cases h

/-- an expression without a quotient is computed as its value -/
theorem evaluate_eq_whole {t : Tree} {v : Int} (h : valueOf? t = some v) (hdiv : divides t = false) :
    evaluate t = .ok (.whole v) := by
  fun_induction valueOf? t generalizing v with
  | case1 type s =>
    obtain ⟨n, hn, rfl⟩ := Option.map_eq_some_iff.1 h
    exact constantValue_literal hn
  | case2 e ih =>
    rw [evaluate]
    exact ih h hdiv
  | case3 e _ ih =>
    obtain ⟨w, hw, rfl⟩ := Option.map_eq_some_iff.1 h
    rw [evaluate, ih hw hdiv]
    rfl
  | case4 => cases h
  | case5 op l r ihl ihr =>
    obtain ⟨a, ha, h⟩ := Option.bind_eq_some_iff.1 h
    obtain ⟨b, hb, h⟩ := Option.bind_eq_some_iff.1 h
    rw [divides, Bool.or_eq_false_iff, Bool.or_eq_false_iff, beq_eq_false_iff_ne] at hdiv
    obtain ⟨f, hf, hwhole⟩ := binary?_whole h hdiv.1.1
    rw [evaluate, hf, ihl ha hdiv.1.2, ihr hb hdiv.2]
    show lift (f (.whole a) (.whole b)) = _
    rw [hwhole]
    rfl
  | case6 => cases h

namespace Quantity

/-- the result is a floating-point number -/
def IsReal (q : Quantity) : Prop := ∃ x, q = real x

theorem IsReal.neg {q : Quantity} (h : q.IsReal) : q.neg.IsReal := by
  obtain ⟨x, rfl⟩ := h
  exact ⟨x.neg, rfl⟩

theorem isReal_of_divReal {x y : Binary64} {q : Quantity} (h : divReal x y = .ok q) : q.IsReal := by
  unfold divReal at h
  split at h
  · cases h
  · cases h
    exact ⟨_, rfl⟩

theorem isReal_of_divWhole {a b : Int} {q : Quantity} (h : divWhole a b = .ok q) : q.IsReal := by
  unfold divWhole at h
  split at h
  · cases h
  · dsimp only at h
    split at h
    · cases h
    · cases h
      exact ⟨_, rfl⟩

theorem isReal_of_div {x y q : Quantity} (h : x.div y = .ok q) : q.IsReal := by
  unfold div at h
  split at h
  · exact isReal_of_divWhole h
  · obtain ⟨a, -, h⟩ := bind_eq_ok_iff.1 h
    obtain ⟨b, -, h⟩ := bind_eq_ok_iff.1 h
    exact isReal_of_divReal h

theorem isReal_of_combine {f : Int → Int → Int} {g : Binary64 → Binary64 → Binary64} {x y q : Quantity}
    (h : combine f g x y = .ok q) (hreal : x.IsReal ∨ y.IsReal) : q.IsReal := by
  unfold combine at h
  split at h
  · rcases hreal with ⟨z, hz⟩ | ⟨z, hz⟩ <;> cases hz
  · obtain ⟨a, -, h⟩ := bind_eq_ok_iff.1 h
    obtain ⟨b, -, h⟩ := bind_eq_ok_iff.1 h
    cases h
    exact ⟨_, rfl⟩

end Quantity

/-- a quotient is a floating-point number, and so is what is computed from one -/
theorem isReal_of_binary? {op : String} {f : Quantity → Quantity → Except Fault Quantity} (hf : binary? op = some f)
    {x y q : Quantity} (h : f x y = .ok q) (hreal : op = "/" ∨ x.IsReal ∨ y.IsReal) : q.IsReal := by
  have hothers : op ≠ "/" → x.IsReal ∨ y.IsReal := fun hop => hreal.resolve_left hop
  unfold binary? at hf
  split at hf
  · next hop =>
    cases hf
    exact Quantity.isReal_of_combine h (hothers (by rw [beq_iff_eq.1 hop]; decide))
  split at hf
  · next hop =>
    cases hf
    exact Quantity.isReal_of_combine h (hothers (by rw [beq_iff_eq.1 hop]; decide))
  split at hf
  · next hop =>
    cases hf
    exact Quantity.isReal_of_combine h (hothers (by rw [beq_iff_eq.1 hop]; decide))
  split at hf
  · cases hf
    exact Quantity.isReal_of_div h
  · cases hf

/-- an expression with a quotient is computed as a floating-point number -/
theorem evaluate_real {t : Tree} {q : Quantity} (h : evaluate t = .ok q) (hdiv : divides t = true) : q.IsReal := by
  fun_induction divides t generalizing q with
  | case1 op e ih =>
    cases op with
    | text op =>
      rw [evaluate] at h
      split at h
      · exact ih h hdiv
      split at h
      · obtain ⟨p, hp, h⟩ := bind_eq_ok_iff.1 h
        cases h
        exact (ih hp hdiv).neg
      · cases h
    | null | list _ | node _ _ => cases h
  | case2 op l r ihl ihr =>
    rw [evaluate] at h
    cases hf : binary? op with
    | none => rw [hf] at h; cases h
    | some f =>
      rw [hf] at h
      obtain ⟨x, hx, h⟩ := bind_eq_ok_iff.1 h
      obtain ⟨y, hy, h⟩ := bind_eq_ok_iff.1 h
      have hq : f x y = .ok q := by
        unfold lift at h
        split at h
        · next p hp => cases h; exact hp
        · cases h
      rw [Bool.or_eq_true, Bool.or_eq_true, beq_iff_eq] at hdiv
      refine isReal_of_binary? hf hq ?_
      rcases hdiv with (hop | hl) | hr
      · exact .inl hop
      · exact .inr (.inl (ihl hx hl))
      · exact .inr (.inr (ihr hy hr))
  | case3 => cases hdiv

end Disasm.C
