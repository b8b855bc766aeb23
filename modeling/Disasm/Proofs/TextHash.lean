import Mathlib
import Disasm.Hash

/-!
# The text hash in 32-bit words

The hash of a text is computed with unbounded integers, and only its products are brought back to 32 bits.  Here
the same computation is made in 32-bit words, where everything wraps around, and the two are compared: at
every step the integer is the signed number of the word.

* `wordStep`, `wordHash`  the computation in words;
* `xorNat_toInt`  an exclusive or below the sign bit is the same on the number and on the word;
* `foldl_hashStep`  the run over a text;
* `textHash_signed_word`  the hash of any text shorter than `2 ^ 31`.

From `2 ^ 31` characters on, the length reaches the sign bit: the word changes its sign there, and the number
leaves the 32 bits.
-/

namespace Disasm

/-! ## the computation in words -/

def wordStep (v : BitVec 32) (c : Char) : BitVec 32 := 1000003#32 * v ^^^ BitVec.ofNat 32 c.toNat

/-- the word of a text, all ones included -/
def wordHash : List Char → BitVec 32
  | [] => 0#32
  | c :: cs =>
    (c :: cs).foldl wordStep (BitVec.ofNat 32 c.toNat <<< 7) ^^^ BitVec.ofNat 32 (c :: cs).length

/-- the signed number of a word, with -2 in the place of -1 -/
def signedHash (w : BitVec 32) : Int := if w.toInt = -1 then -2 else w.toInt

theorem signedHash_ne (w : BitVec 32) : signedHash w ≠ -1 := by
  unfold signedHash
  split
  · decide
  · assumption

theorem signedHash_bounds (w : BitVec 32) : -2 ^ 31 ≤ signedHash w ∧ signedHash w < 2 ^ 31 := by
  unfold signedHash
  split
  · decide
  · exact ⟨w.le_toInt, w.toInt_lt⟩

/-! ## numbers and words -/

theorem mulWrap_eq_toInt (a b : Int) :
    mulWrap a b = (BitVec.ofInt 32 a * BitVec.ofInt 32 b).toInt := by
  rw [← BitVec.ofInt_mul, BitVec.toInt_ofInt]
  rfl

/-- a negative number is read on the complement of its word -/
theorem toInt_eq_negSucc {w : BitVec 32} (h : w.msb = true) : w.toInt = .negSucc (~~~w).toNat := by
  have hw := w.isLt
  rw [BitVec.toInt_eq_msb_cond, if_pos h, BitVec.toNat_not, Int.negSucc_eq]
  omega

theorem toNat_ofNat_of_lt {k : Nat} (hk : k < 2 ^ 31) : (BitVec.ofNat 32 k).toNat = k := by
  rw [BitVec.toNat_ofNat]
  exact Nat.mod_eq_of_lt (by omega)

theorem msb_xor_ofNat (w : BitVec 32) {k : Nat} (hk : k < 2 ^ 31) :
    (w ^^^ BitVec.ofNat 32 k).msb = w.msb := by
  have hmsb : (BitVec.ofNat 32 k).msb = false := by
    rw [BitVec.msb_eq_false_iff_two_mul_lt, toNat_ofNat_of_lt hk]
    omega
  rw [BitVec.msb_xor, hmsb, Bool.xor_false]

/-- below the sign bit, an exclusive or on the number is the one on its word -/
theorem xorNat_toInt (w : BitVec 32) {k : Nat} (hk : k < 2 ^ 31) :
    xorNat w.toInt k = (w ^^^ BitVec.ofNat 32 k).toInt := by
  have hsign := msb_xor_ofNat w hk
  cases h : w.msb with
  | false =>
    rw [BitVec.toInt_eq_toNat_of_msb h, BitVec.toInt_eq_toNat_of_msb (hsign.trans h), BitVec.toNat_xor,
      toNat_ofNat_of_lt hk]
    rfl
  | true =>
    -- both numbers are negative, so both are read on the complement, where the digits of `k` act alike
    rw [toInt_eq_negSucc h, toInt_eq_negSucc (hsign.trans h), BitVec.not_xor_left, BitVec.toNat_xor,
      toNat_ofNat_of_lt hk]
    rfl

/-! ## the run over a text -/

/-- the first character, moved by seven digits, stays below the sign bit -/
theorem start_toInt (c : Char) : (c.toNat * 128 : Int) = (BitVec.ofNat 32 c.toNat <<< 7).toInt := by
  have hc : c.toNat ≤ 0x10ffff := c.toNat_le_max
  have hnat : (BitVec.ofNat 32 c.toNat <<< 7).toNat = c.toNat * 128 := by
    rw [BitVec.toNat_shiftLeft, toNat_ofNat_of_lt (by omega), Nat.shiftLeft_eq]
    exact Nat.mod_eq_of_lt (by omega)
  rw [BitVec.toInt_eq_toNat_of_lt (by omega), hnat]
  push_cast
  rfl

theorem hashStep_toInt (w : BitVec 32) (c : Char) : hashStep w.toInt c = (wordStep w c).toInt := by
  have hc : c.toNat ≤ 0x10ffff := c.toNat_le_max
  have hmul : mulWrap 1000003 w.toInt = (1000003#32 * w).toInt := by
    rw [mulWrap_eq_toInt, BitVec.ofInt_toInt]
    rfl
  unfold hashStep wordStep
  rw [hmul, xorNat_toInt _ (by omega)]

theorem foldl_hashStep (cs : List Char) (w : BitVec 32) :
    cs.foldl hashStep w.toInt = (cs.foldl wordStep w).toInt := by
  induction cs generalizing w with
  | nil => rfl
  | cons c cs ih => rw [List.foldl_cons, List.foldl_cons, hashStep_toInt, ih]

theorem textHash_eq_signedHash {s : String} (hlen : s.length < 2 ^ 31) :
    textHash s = signedHash (wordHash s.toList) := by
  rw [← String.length_toList] at hlen
  unfold textHash
  cases hs : s.toList with
  | nil => rfl
  | cons c cs =>
    rw [hs] at hlen
    have hvalue : xorNat ((c :: cs).foldl hashStep (c.toNat * 128)) (c :: cs).length =
        (wordHash (c :: cs)).toInt := by
      rw [start_toInt, foldl_hashStep, xorNat_toInt _ hlen]
      rfl
    simp only [hvalue]
    rfl

/-- The hash of a text shorter than `2 ^ 31` is 0 if the text is empty, and otherwise the signed number of
its 32-bit word, with -2 in the place of -1.  It lies in `[-2 ^ 31, 2 ^ 31)` and is never -1. -/
theorem textHash_signed_word (s : String) (hlen : s.length < 2 ^ 31) :
    textHash s = (if s = "" then 0 else signedHash (wordHash s.toList)) ∧
      (-2 ^ 31 ≤ textHash s ∧ textHash s < 2 ^ 31) ∧ textHash s ≠ -1 := by
  rw [textHash_eq_signedHash hlen]
  refine ⟨?_, signedHash_bounds _, signedHash_ne _⟩
  by_cases hs : s = ""
  · rw [if_pos hs, hs]
    rfl
  · rw [if_neg hs]

/-- a text of digits whose word is all ones -/
theorem textHash_all_ones :
    wordHash "10611893874".toList = BitVec.allOnes 32 ∧ textHash "10611893874" = -2 := by
  have hword : wordHash "10611893874".toList = BitVec.allOnes 32 := by decide
  refine ⟨hword, ?_⟩
  rw [(textHash_signed_word "10611893874" (by decide)).1, hword]
  decide

end Disasm
