import Mathlib
import Disasm.Image
import Disasm.Proofs.Text.Numeral

/-!
# Literals are read back

A listing shows a literal as stretches in quotes and bytes that are escaped, with blanks between them.  A quotation mark
inside a stretch is not escaped, so that only literals without one can be told from their texts.

* `Image.unquote`  the bytes that the text of a literal stands for, read character by character;
* `unquote_escaped`, `unquote_quoted`  one step: an escaped byte, and a byte in quotes;
* `unquote_quoteLiteral`  a literal without quotation marks is read from its text, whatever follows;
* `quoteLiteral_inj`  two such literals have two texts.
-/

namespace Disasm.Image

open Disasm.Text

/-! ## the reader -/

/-- what a reader of a literal has in front of it -/
inductive QuoteMode where
  | outside
  | inside
  /-- the rest of an escape -/
  | escape
  /-- the two digits of a byte -/
  | high
  /-- the second digit, behind one with the value `v` -/
  | low (v : Nat)
  deriving DecidableEq, Repr

/-- behind a text that leaves a quote open, or does not -/
def QuoteMode.behind (inQuote : Bool) : QuoteMode := if inQuote then .inside else .outside

/-- the byte that a letter stands for behind a backslash -/
def letterByte? (c : Char) : Option UInt8 :=
  if c = 'a' then some 7
  else if c = 'b' then some 8
  else if c = 't' then some 9
  else if c = 'n' then some 10
  else if c = 'v' then some 11
  else if c = 'f' then some 12
  else if c = 'r' then some 13
  else none

/-- the bytes of a literal; blanks outside quotes play no part -/
def unquote : QuoteMode → List Char → Option (List UInt8)
  | .outside, [] => some []
  | _, [] => none
  | .outside, c :: cs =>
    if c = '"' then unquote .inside cs
    else if c = '\\' then unquote .escape cs
    else if isBlank c then unquote .outside cs
    else none
  | .inside, c :: cs =>
    if c = '"' then unquote .outside cs else (unquote .inside cs).map (c.toNat.toUInt8 :: ·)
  | .escape, c :: cs =>
    if c = 'x' then unquote .high cs
    else (letterByte? c).bind fun b => (unquote .outside cs).map (b :: ·)
  | .high, c :: cs => (digitBelow? 16 c).bind fun v => unquote (.low v) cs
  | .low v, c :: cs =>
    (digitBelow? 16 c).bind fun w => (unquote .outside cs).map ((16 * v + w).toUInt8 :: ·)

/-! ## steps -/

/-- the two digits of a byte -/
theorem toList_hexByte (b : UInt8) :
    (hexByte b).toList = [Nat.digitChar (b.toNat / 16), Nat.digitChar (b.toNat % 16)] := by
  have hb := b.toNat_lt
  have hlength : (hexDigits b.toNat).length = (Nat.toDigits 16 b.toNat).length := by
    rw [← String.length_toList, toList_hexDigits]
  unfold hexByte
  rw [toList_hexPad, hlength, Nat.toDigits_eq_if (by decide)]
  by_cases hsmall : b.toNat < 16
  · rw [if_pos hsmall, Nat.div_eq_of_lt hsmall, Nat.mod_eq_of_lt hsmall]
    rfl
  · rw [if_neg hsmall, Nat.toDigits_of_lt_base (show b.toNat / 16 < 16 by omega)]
    rfl

/-- an escaped byte is read back -/
theorem unquote_escaped (b : UInt8) (cs : List Char) :
    unquote .outside ((escaped b).toList ++ cs) = (unquote .outside cs).map (b :: ·) := by
  unfold escaped
  repeat (split; · next h => subst h; rfl)
  have hb := b.toNat_lt
  rw [String.toList_append, toList_hexByte]
  show (digitBelow? 16 (Nat.digitChar (b.toNat / 16))).bind (fun v => (digitBelow? 16 (Nat.digitChar (b.toNat % 16))).bind
    fun w => (unquote .outside cs).map ((16 * v + w).toUInt8 :: ·)) = _
  rw [digitBelow?_digitChar (by decide) (show b.toNat / 16 < 16 by omega), Option.bind_some,
    digitBelow?_digitChar (by decide) (show b.toNat % 16 < 16 by omega), Option.bind_some, Nat.div_add_mod]
  rw [Nat.toUInt8_eq, UInt8.ofNat_toNat]

/-- a byte that is no quotation mark is read back inside quotes -/
theorem unquote_quoted {b : UInt8} (hquote : b ≠ 0x22) (cs : List Char) :
    unquote .inside (Char.ofNat b.toNat :: cs) = (unquote .inside cs).map (b :: ·) := by
  have hvalid : b.toNat.isValidChar := .inl (by have := b.toNat_lt; omega)
  have hnat : (Char.ofNat b.toNat).toNat = b.toNat := by rw [Char.toNat_ofNat, if_pos hvalid]
  have hne : Char.ofNat b.toNat ≠ '"' := by
    intro he
    rw [he] at hnat
    exact hquote (UInt8.toNat_inj.1 hnat.symm)
  rw [unquote, if_neg hne, hnat, Nat.toUInt8_eq, UInt8.ofNat_toNat]

/-! ## literals -/

/-- blanks and a quotation mark bring the reader to the bytes of a stretch -/
theorem unquote_start (inQuote : Bool) (cs : List Char) :
    unquote (.behind inQuote) ((if inQuote then "" else " \"" : String).toList ++ cs) = unquote .inside cs := by
  cases inQuote with
  | true => rfl
  | false => rfl

/-- and from a stretch to what is escaped behind it -/
theorem unquote_stop (inQuote : Bool) (cs : List Char) :
    unquote (.behind inQuote) ((if inQuote then "\" " else "" : String).toList ++ cs) = unquote .outside cs := by
  cases inQuote with
  | true => rfl
  | false => rfl

section
variable {bytes : List UInt8} (h : 0x22 ∉ bytes)
include h

theorem unquote_quoteRest (inQuote : Bool) (cs : List Char) :
    unquote (.behind inQuote) ((quoteRest inQuote bytes).toList ++ cs) =
      (unquote .outside cs).map (bytes ++ ·) := by
  induction bytes generalizing inQuote with
  | nil =>
    cases inQuote with
    | true => exact Option.map_id'.symm
    | false => exact Option.map_id'.symm
  | cons b rest ih =>
    have hb : b ≠ 0x22 := fun he => h (he ▸ List.mem_cons_self)
    have hrest : 0x22 ∉ rest := fun hm => h (List.mem_cons_of_mem b hm)
    unfold quoteRest
    by_cases hshown : isShown b = true
    · rw [if_pos hshown, String.toList_append, String.toList_append, List.append_assoc, List.append_assoc,
        unquote_start, String.toList_singleton, List.singleton_append, unquote_quoted hb]
      exact (congrArg _ (ih hrest true)).trans (Option.map_map ..)
    · rw [if_neg hshown, String.toList_append, String.toList_append, List.append_assoc, List.append_assoc,
        unquote_stop, unquote_escaped]
      exact (congrArg _ (ih hrest false)).trans (Option.map_map ..)

/-- a literal without quotation marks is read from its text -/
theorem unquote_quoteLiteral (cs : List Char) :
    unquote .outside ((quoteLiteral bytes).toList ++ cs) = (unquote .outside cs).map (bytes ++ ·) := by
  cases bytes with
  | nil => exact Option.map_id'.symm
  | cons b rest =>
    have hb : b ≠ 0x22 := fun he => h (he ▸ List.mem_cons_self)
    have hrest : 0x22 ∉ rest := fun hm => h (List.mem_cons_of_mem b hm)
    rw [quoteLiteral]
    by_cases hshown : isShown b = true
    · rw [if_pos hshown, String.toList_append, String.toList_append, List.append_assoc, List.append_assoc]
      show unquote .inside ((String.singleton (Char.ofNat b.toNat)).toList ++ _) = _
      rw [String.toList_singleton, List.singleton_append, unquote_quoted hb]
      exact (congrArg _ (unquote_quoteRest hrest true cs)).trans (Option.map_map ..)
    · rw [if_neg hshown, String.toList_append, List.append_assoc, unquote_escaped]
      exact (congrArg _ (unquote_quoteRest hrest false cs)).trans (Option.map_map ..)

end

/-- two literals without quotation marks have two texts -/
theorem quoteLiteral_inj {s t : List UInt8} (hs : 0x22 ∉ s) (ht : 0x22 ∉ t) (h : quoteLiteral s = quoteLiteral t) :
    s = t := by
  have hread {bytes : List UInt8} (hb : 0x22 ∉ bytes) : unquote .outside (quoteLiteral bytes).toList = some bytes := by
    have hq := unquote_quoteLiteral hb []
    rw [List.append_nil] at hq
    rw [hq]
    exact congrArg some (List.append_nil bytes)
  have heq := hread hs
  rw [h, hread ht] at heq
  exact (Option.some.inj heq).symm

-- a quotation mark inside a literal looks like the end of a stretch
example : quoteLiteral [97, 0x22, 32, 92, 110, 32, 0x22, 98] = quoteLiteral [97, 10, 98] := by decide

end Disasm.Image
