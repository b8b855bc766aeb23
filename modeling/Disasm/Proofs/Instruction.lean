import Mathlib
import Disasm.Instruction

/-!
# Reading instructions undoes writing them

* `wordBytes_signedWord`  four bytes are those of the signed word in them;
* `decodeOne_eq_ok`  what was read is an instruction that fits, and its bytes stood in front;
* `decode_spec`  the same of all instructions that were read;
* `decode_fault`  what stands behind them if they are fewer than wanted;
* `decodeOne_encode`, `decode_encodeAll`  instructions that fit are read back from their bytes;
* `position is k`, `decodeOne_position`  the place of the instruction `k`, and what is read there.
-/

namespace Disasm

theorem Opcode.code_of_ofCode? {n : Nat} {op : Opcode} (h : Opcode.ofCode? n = some op) :
    op.code = n := by
  have hn : n < 60 := by
    by_contra hn
    rw [ofCode?, Array.getElem?_eq_none (by simpa [all] using Nat.le_of_not_lt hn)] at h
    cases h
  interval_cases n <;> (cases h; rfl)

/-- a byte holds the code of an opcode -/
theorem Opcode.toNat_code (op : Opcode) : op.code.toUInt8.toNat = op.code := by
  have hlt := op.code_lt
  rw [Nat.toUInt8_eq, UInt8.toNat_ofNat', Nat.mod_eq_of_lt (by omega)]

namespace Instruction

/-! ## words -/

theorem wordValue_lt (b0 b1 b2 b3 : UInt8) : wordValue b0 b1 b2 b3 < 2 ^ 32 := by
  have h0 := b0.toNat_lt
  have h1 := b1.toNat_lt
  have h2 := b2.toNat_lt
  have h3 := b3.toNat_lt
  unfold wordValue
  omega

theorem signedWord_bounds {n : Nat} (h : n < 2 ^ 32) :
    -2 ^ 31 ≤ signedWord n ∧ signedWord n < 2 ^ 31 := by
  unfold signedWord
  split <;> omega

theorem signedWord_emod {n : Nat} (h : n < 2 ^ 32) : (signedWord n % 0x100000000).toNat = n := by
  unfold signedWord
  split <;> omega

theorem toUInt8_eq {n : Nat} {b : UInt8} (h : n % 2 ^ 8 = b.toNat) : n.toUInt8 = b :=
  UInt8.toNat_inj.1 (by rw [Nat.toUInt8_eq, UInt8.toNat_ofNat', h])

/-- the bytes of the word that four bytes hold are these -/
theorem wordBytes_signedWord (b0 b1 b2 b3 : UInt8) :
    wordBytes (signedWord (wordValue b0 b1 b2 b3)) = [b0, b1, b2, b3] := by
  have h0 := b0.toNat_lt
  have h1 := b1.toNat_lt
  have h2 := b2.toNat_lt
  have h3 := b3.toNat_lt
  unfold wordBytes
  rw [signedWord_emod (wordValue_lt b0 b1 b2 b3)]
  unfold wordValue
  dsimp only
  rw [toUInt8_eq (b := b0) (by omega), toUInt8_eq (b := b1) (by omega),
    toUInt8_eq (b := b2) (by omega), toUInt8_eq (b := b3) (by omega)]

/-- the word in the bytes of a word is this one -/
theorem signedWord_wordBytes {n : Int} (h : -2 ^ 31 ≤ n ∧ n < 2 ^ 31) {b0 b1 b2 b3 : UInt8}
    (hb : wordBytes n = [b0, b1, b2, b3]) : signedWord (wordValue b0 b1 b2 b3) = n := by
  have hu : (n % 0x100000000).toNat < 0x100000000 := by omega
  unfold wordBytes at hb
  generalize hn : (n % 0x100000000).toNat = u at hb hu
  simp only [List.cons.injEq, and_true] at hb
  obtain ⟨rfl, rfl, rfl, rfl⟩ := hb
  have hvalue : wordValue u.toUInt8 (u / 0x100).toUInt8 (u / 0x10000).toUInt8 (u / 0x1000000).toUInt8 = u := by
    unfold wordValue
    simp only [Nat.toUInt8_eq, UInt8.toNat_ofNat']
    omega
  rw [hvalue]
  unfold signedWord
  split <;> omega

theorem length_wordBytes (n : Int) : (wordBytes n).length = 4 := rfl

/-! ## one instruction -/

theorem length_parmBytes (i : Instruction) : i.parmBytes.length = i.op.width := by
  obtain ⟨op, parm⟩ := i
  cases op <;> rfl

theorem length_encode (i : Instruction) : i.encode.length = 1 + i.op.width := by
  unfold encode
  rw [List.length_cons, length_parmBytes, Nat.add_comm]

theorem readParm_eq_ok {op : Opcode} {bytes rest : List UInt8} {parm : Int}
    (h : readParm op bytes = .ok (parm, rest)) :
    bytes = parmBytes ⟨op, parm⟩ ++ rest ∧ Fits ⟨op, parm⟩ := by
  unfold readParm at h
  unfold parmBytes Fits
  dsimp only
  split at h
  next =>
    cases h
    exact ⟨rfl, rfl⟩
  next =>
    split at h
    next b rest' =>
      cases h
      refine ⟨?_, by omega, by have := b.toNat_lt; omega⟩
      rw [toUInt8_eq (b := b) (by have := b.toNat_lt; omega)]
      rfl
    next => cases h
  next =>
    split at h
    next b0 b1 b2 b3 rest' =>
      cases h
      refine ⟨?_, signedWord_bounds (wordValue_lt b0 b1 b2 b3)⟩
      rw [wordBytes_signedWord]
      rfl
    next => cases h

theorem decodeOne_eq_ok {bytes rest : List UInt8} {i : Instruction}
    (h : decodeOne bytes = .ok (i, rest)) : bytes = i.encode ++ rest ∧ i.Fits := by
  cases bytes with
  | nil => cases h
  | cons b bytes =>
    unfold decodeOne at h
    cases hop : Opcode.ofCode? b.toNat with
    | none => simp only [hop] at h; cases h
    | some op =>
      cases hp : readParm op bytes with
      | error f => simp only [hop, hp] at h; cases h
      | ok r =>
        simp only [hop, hp] at h
        cases h
        obtain ⟨hb, hf⟩ := readParm_eq_ok hp
        have hc : op.code.toUInt8 = b :=
          toUInt8_eq (by rw [Opcode.code_of_ofCode? hop]; have := b.toNat_lt; omega)
        refine ⟨?_, hf⟩
        unfold encode
        rw [hc, hb]
        rfl

theorem readParm_parmBytes {i : Instruction} (h : i.Fits) (rest : List UInt8) :
    readParm i.op (i.parmBytes ++ rest) = .ok (i.parm, rest) := by
  obtain ⟨op, parm⟩ := i
  unfold Fits at h
  unfold readParm parmBytes
  dsimp only at h ⊢
  generalize op.width = n at h ⊢
  rcases n with _ | _ | n
  · rw [show parm = 0 from h]
    rfl
  · have h' : 0 ≤ parm ∧ parm < 0x100 := h
    have hparm : (parm.toNat.toUInt8.toNat : Int) = parm := by
      rw [Nat.toUInt8_eq, UInt8.toNat_ofNat']
      omega
    show Except.ok ((parm.toNat.toUInt8.toNat : Int), rest) = _
    rw [hparm]
  · have h' : -0x80000000 ≤ parm ∧ parm < 0x80000000 := h
    obtain ⟨b0, b1, b2, b3, hb⟩ : ∃ b0 b1 b2 b3, wordBytes parm = [b0, b1, b2, b3] := ⟨_, _, _, _, rfl⟩
    have hword := signedWord_wordBytes (show -2 ^ 31 ≤ parm ∧ parm < 2 ^ 31 by omega) hb
    rw [hb, ← hword]
    rfl

theorem decodeOne_encode {i : Instruction} (h : i.Fits) (rest : List UInt8) :
    decodeOne (i.encode ++ rest) = .ok (i, rest) := by
  unfold encode decodeOne
  rw [List.cons_append]
  dsimp only
  rw [Opcode.toNat_code, Opcode.ofCode?_code]
  dsimp only
  rw [readParm_parmBytes h]

/-! ## many instructions -/

theorem encodeAll_append (is js : List Instruction) :
    encodeAll (is ++ js) = encodeAll is ++ encodeAll js := List.flatMap_append

theorem encodeAll_cons (i : Instruction) (is : List Instruction) :
    encodeAll (i :: is) = i.encode ++ encodeAll is := List.flatMap_cons

theorem encodeAll_singleton (i : Instruction) : encodeAll [i] = i.encode := List.flatMap_singleton encode i

/-- an instruction has one byte or more -/
theorem length_le_encodeAll (is : List Instruction) : is.length ≤ (encodeAll is).length := by
  induction is with
  | nil => exact Nat.le_refl 0
  | cons i is ih =>
    rw [encodeAll_cons, List.length_append, List.length_cons, length_encode]
    omega

theorem decodeFrom_spec (n : Nat) (bytes : List UInt8) (done : List Instruction) :
    ∃ is, (decodeFrom n bytes done).instructions = done.reverse ++ is ∧
      bytes = encodeAll is ++ (decodeFrom n bytes done).rest ∧ (∀ i ∈ is, i.Fits) ∧
      ((decodeFrom n bytes done).fault = none → is.length = n) := by
  induction n generalizing bytes done with
  | zero =>
    exact ⟨[], (List.append_nil _).symm, rfl, (List.forall_mem_nil _), fun _ => rfl⟩
  | succ n ih =>
    unfold decodeFrom
    split
    next i rest h =>
      obtain ⟨is, hi, hb, hf, hl⟩ := ih rest (i :: done)
      obtain ⟨hone, hfit⟩ := decodeOne_eq_ok h
      refine ⟨i :: is, ?_, ?_, ?_, ?_⟩
      · rw [hi, List.reverse_cons, List.append_assoc]; rfl
      · rw [hone, encodeAll_cons, List.append_assoc]; congr 1
      · intro j hj
        cases hj with
        | head => exact hfit
        | tail _ hj => exact hf j hj
      · intro h0; rw [List.length_cons, hl h0]
    next f h =>
      exact ⟨[], (List.append_nil _).symm, rfl, (List.forall_mem_nil _), fun h0 => by cases h0⟩

theorem decodeFrom_encodeAll {is : List Instruction} (h : ∀ i ∈ is, i.Fits) (rest : List UInt8)
    (done : List Instruction) :
    decodeFrom is.length (encodeAll is ++ rest) done = ⟨done.reverse ++ is, rest, none⟩ := by
  induction is generalizing done with
  | nil =>
    rw [List.append_nil]
    rfl
  | cons i is ih =>
    have hi : i.Fits := h i List.mem_cons_self
    rw [encodeAll_cons, List.append_assoc, List.length_cons]
    unfold decodeFrom
    rw [decodeOne_encode hi]
    dsimp only
    rw [ih (fun j hj => h j (List.mem_cons_of_mem i hj)), List.reverse_cons, List.append_assoc]
    rfl

/-- instructions that fit are read back from their bytes -/
theorem decode_encodeAll {is : List Instruction} (h : ∀ i ∈ is, i.Fits) (rest : List UInt8) :
    decode is.length (encodeAll is ++ rest) = ⟨is, rest, none⟩ := decodeFrom_encodeAll h rest []

/-- all that is read fits, and its bytes stood in front -/
theorem decode_spec (n : Nat) (bytes : List UInt8) :
    bytes = encodeAll (decode n bytes).instructions ++ (decode n bytes).rest ∧
      (∀ i ∈ (decode n bytes).instructions, i.Fits) ∧
      ((decode n bytes).fault = none → (decode n bytes).instructions.length = n) := by
  obtain ⟨is, hi, hb, hf, hl⟩ := decodeFrom_spec n bytes []
  have hi' : (decode n bytes).instructions = is := hi
  rw [hi']
  exact ⟨hb, hf, hl⟩

theorem decodeFrom_fault {n : Nat} {bytes : List UInt8} {done : List Instruction} {f : Fault}
    (h : (decodeFrom n bytes done).fault = some f) :
    (decodeFrom n bytes done).instructions.length < done.length + n ∧
      decodeOne (decodeFrom n bytes done).rest = .error f := by
  induction n generalizing bytes done with
  | zero => cases h
  | succ n ih =>
    unfold decodeFrom at h ⊢
    cases hone : decodeOne bytes with
    | ok r =>
      rw [hone] at h
      obtain ⟨hlength, hrest⟩ := ih h
      rw [List.length_cons] at hlength
      exact ⟨by show (decodeFrom n r.2 (r.1 :: done)).instructions.length < _; omega, hrest⟩
    | error g =>
      rw [hone] at h
      cases h
      refine ⟨?_, hone⟩
      show done.reverse.length < _
      rw [List.length_reverse]
      omega

/-- reading that ends early has met bytes that are no instruction -/
theorem decode_fault {n : Nat} {bytes : List UInt8} {f : Fault} (h : (decode n bytes).fault = some f) :
    (decode n bytes).instructions.length < n ∧ decodeOne (decode n bytes).rest = .error f := by
  obtain ⟨hlength, hrest⟩ := decodeFrom_fault h
  rw [List.length_nil, Nat.zero_add] at hlength
  exact ⟨hlength, hrest⟩

/-! ## places -/

/-- the place at which the bytes of the instruction `k` start -/
def position (is : List Instruction) (k : Nat) : Nat := (encodeAll (is.take k)).length

section
variable {is : List Instruction} {k : Nat} {i : Instruction}

/-- an instruction takes the byte of its opcode and those of its parameter -/
theorem position_succ (hi : is[k]? = some i) : position is (k + 1) = position is k + (1 + i.op.width) := by
  unfold position
  rw [List.take_add_one, hi, Option.toList_some, encodeAll_append, List.length_append, encodeAll_singleton,
    length_encode]

theorem drop_position (is : List Instruction) (rest : List UInt8) (k : Nat) :
    (encodeAll is ++ rest).drop (position is k) = encodeAll (is.drop k) ++ rest := by
  have hsplit : encodeAll is = encodeAll (is.take k) ++ encodeAll (is.drop k) := by
    rw [← encodeAll_append, List.take_append_drop]
  unfold position
  rw [hsplit, List.append_assoc, List.drop_left]

/-- what is read at the place of an instruction is this instruction; the next one follows -/
theorem decodeOne_position (hf : ∀ i ∈ is, i.Fits) (rest : List UInt8) (hi : is[k]? = some i) :
    decodeOne ((encodeAll is ++ rest).drop (position is k)) =
      .ok (i, (encodeAll is ++ rest).drop (position is (k + 1))) := by
  have hdrop : is.drop k = i :: is.drop (k + 1) := by
    obtain ⟨hk, rfl⟩ := List.getElem?_eq_some_iff.1 hi
    exact List.drop_eq_getElem_cons hk
  rw [drop_position, drop_position, hdrop, encodeAll_cons, List.append_assoc]
  exact decodeOne_encode (hf i (List.mem_of_getElem? hi)) _

end

end Instruction
end Disasm
