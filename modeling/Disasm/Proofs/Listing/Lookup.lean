import Mathlib
import Disasm.Proofs.Analysis
import Disasm.Proofs.Listing.Run

/-!
# Look-ups that always succeed

A listing looks up functions in tables and bytes in segments without a check.  In a program that was
loaded from a file with whole segments these look-ups find something.

* `heading_ok`  the head of every function can be written;
* `nextAt_isSome`  some byte follows every constant;
* `piece`, `Header.HoldsData`, `length_data`, `length_lit`  a file that holds the whole data and all literals;
* `literalFrom_eq`  what a literal is;
* `constantText_ok`  what is known about every constant can be told.
-/

namespace Disasm

open Disasm.Walk

/-- a file of some bytes holds the whole data and all literals -/
def Header.HoldsData (h : Header) (size : Nat) : Prop :=
  (h.dataLength = 0 ∨ h.dataOffset + h.dataLength ≤ size) ∧
    (h.litLength = 0 ∨ h.litOffset + h.litLength ≤ size)

instance (h : Header) (size : Nat) : Decidable (h.HoldsData size) := inferInstanceAs (Decidable (_ ∧ _))

namespace Listing

/-! ## heads of functions -/

section
variable {p : Program} (hc : Complete p.code p.analysis)
include hc

omit hc in
theorem callerText_ok {caller : Int} (h : Filed p.analysis caller) : ∃ text, callerText p caller = .ok text := by
  obtain ⟨⟨hash, hh⟩, -⟩ := h
  unfold callerText
  split
  next => exact ⟨_, rfl⟩
  next => exact ⟨_, bind_eq_ok_iff.2 ⟨hash, get_eq_ok_iff.2 hh, rfl⟩⟩

omit hc in
theorem callersText_ok {callers : List Int} (h : ∀ f ∈ callers, Filed p.analysis f) :
    ∃ text, callersText p callers = .ok text := by
  induction callers with
  | nil => exact ⟨_, rfl⟩
  | cons c rest ih =>
    obtain ⟨first, hf⟩ := callerText_ok (h c List.mem_cons_self)
    obtain ⟨more, hm⟩ := ih fun f hf => h f (List.mem_cons_of_mem c hf)
    exact ⟨_, bind_eq_ok_iff.2 ⟨first, hf, bind_eq_ok_iff.2 ⟨more, hm, rfl⟩⟩⟩

theorem callersLine_ok (k : Nat) : ∃ text, callersLine p k = .ok text := by
  unfold callersLine
  split
  next => exact ⟨_, rfl⟩
  next callers hcall =>
    obtain ⟨more, hm⟩ := callersText_ok (hc.callers _ _ hcall)
    exact ⟨_, bind_eq_ok_iff.2 ⟨more, hm, rfl⟩⟩

/-- the head of a function can be written -/
theorem heading_ok {k : Nat} {i : Instruction} (hi : p.code[k]? = some i) (hop : i.op = .enter) :
    ∃ text, heading p k = .ok text := by
  obtain ⟨⟨hash, hh⟩, largest, hl⟩ := hc.enters k i hi hop
  obtain ⟨callers, hcall⟩ := callersLine_ok hc k
  have hname : ∃ name, nameLine p k = .ok name := by
    unfold nameLine
    split
    next => exact ⟨_, rfl⟩
    next => exact ⟨_, bind_eq_ok_iff.2 ⟨hash, get_eq_ok_iff.2 hh, rfl⟩⟩
  obtain ⟨name, hname⟩ := hname
  exact ⟨_, bind_eq_ok_iff.2 ⟨callers, hcall, bind_eq_ok_iff.2 ⟨name, hname,
    bind_eq_ok_iff.2 ⟨largest, get_eq_ok_iff.2 hl, rfl⟩⟩⟩⟩

end

/-! ## the byte behind a constant -/

/-- The bytes behind the code are zero, and no constant is made of them, so that one is left behind the last
instruction if it is a constant. -/
theorem nextAt_isSome {file : ByteArray} {p : Program} (hp : p.Loaded file) {k : Nat} {i : Instruction}
    (hi : p.code[k]? = some i) (hop : i.op = .const) : ∃ n, nextAt p k = some n := by
  unfold nextAt
  cases hnext : p.image.code[Instruction.position p.code (k + 1)]? with
  | some b => exact ⟨_, rfl⟩
  | none =>
    have hdrop := drop_position p (k + 1)
    rw [← Array.getElem?_toList, List.getElem?_eq_none_iff] at hnext
    rw [List.drop_eq_nil_of_le hnext] at hdrop
    obtain ⟨hrest, htail⟩ := List.append_eq_nil_iff.1 hdrop.symm
    have hcode := p.code_eq
    rw [htail, List.append_nil, hp.isIn.code_eq] at hcode
    have hlast : Instruction.encodeAll p.code = Instruction.encodeAll (p.code.take k) ++ i.encode := by
      have hsplit : p.code.drop k = i :: p.code.drop (k + 1) := by
        obtain ⟨hk, rfl⟩ := List.getElem?_eq_some_iff.1 hi
        exact List.drop_eq_getElem_cons hk
      rw [← List.append_nil i.encode, ← hrest, ← Instruction.encodeAll_cons, ← hsplit,
        ← Instruction.encodeAll_append, List.take_append_drop]
    rw [hlast] at hcode
    have hlen : (List.replicate 5 (0 : UInt8)).length = i.encode.length := by
      rw [Instruction.length_encode, hop]
      rfl
    have hbytes := List.append_inj_right' hcode hlen
    rw [Instruction.encode, hop] at hbytes
    cases hbytes

/-! ## data and literals -/

theorem byteAt_ok {bytes : Array UInt8} {i : Int} (h0 : 0 ≤ i) (h1 : i < bytes.size) :
    ∃ b, Image.byteAt bytes i = .ok b := by
  obtain ⟨n, rfl⟩ := Int.eq_ofNat_of_zero_le h0
  have hn : n < bytes.toList.length := by
    rw [Array.length_toList]
    omega
  exact ⟨bytes.toList[n], byteAt_eq (List.getElem?_eq_getElem hn)⟩

theorem dataText_ok {image : Image} {addr : Int} (h0 : 0 ≤ addr) (h1 : addr + 3 < image.data.size) :
    ∃ text, dataText image addr = .ok text := by
  obtain ⟨b0, hb0⟩ := byteAt_ok h0 (show addr < image.data.size by omega)
  obtain ⟨b1, hb1⟩ := byteAt_ok (show 0 ≤ addr + 1 by omega) (show addr + 1 < image.data.size by omega)
  obtain ⟨b2, hb2⟩ := byteAt_ok (show 0 ≤ addr + 2 by omega) (show addr + 2 < image.data.size by omega)
  obtain ⟨b3, hb3⟩ := byteAt_ok (show 0 ≤ addr + 3 by omega) h1
  exact ⟨_, bind_eq_ok_iff.2 ⟨b0, hb0, bind_eq_ok_iff.2 ⟨b1, hb1, bind_eq_ok_iff.2 ⟨b2, hb2,
    bind_eq_ok_iff.2 ⟨b3, hb3, rfl⟩⟩⟩⟩⟩

/-- a literal goes up to the next zero byte, or to the end of the segment -/
theorem literalFrom_eq {image : Image} {segment zeros : List UInt8} (hlit : image.lit.toList = segment ++ 0 :: zeros)
    (hlength : image.header.litLength = segment.length) {n i : Nat} (hi : i ≤ segment.length)
    (hn : segment.length - i < n) : image.literalFrom n i = .ok ((segment.drop i).takeWhile (· != 0)) := by
  induction n generalizing i with
  | zero => omega
  | succ n ih =>
    cases hdrop : segment.drop i with
    | nil =>
      have hend : segment.length ≤ i := List.drop_eq_nil_iff.1 hdrop
      have hbyte : image.lit.toList[i]? = some 0 := by
        rw [hlit, List.getElem?_append_right hend, show i - segment.length = 0 by omega]
        rfl
      refine bind_eq_ok_iff.2 ⟨0, byteAt_eq hbyte, ?_⟩
      rw [if_pos (Bool.or_eq_true_iff.2 (.inl (decide_eq_true rfl)))]
      rfl
    | cons b rest =>
      have hlt : i < segment.length := by
        by_contra hge
        rw [List.drop_eq_nil_of_le (by omega)] at hdrop
        cases hdrop
      have hparts := List.drop_eq_getElem_cons hlt
      rw [hdrop] at hparts
      obtain ⟨hb, hrest⟩ := List.cons.inj hparts
      have hbyte : image.lit.toList[i]? = some b := by
        rw [hlit, List.getElem?_append_left hlt, List.getElem?_eq_getElem hlt, hb]
      refine bind_eq_ok_iff.2 ⟨b, byteAt_eq hbyte, ?_⟩
      by_cases hzero : b = 0
      · subst hzero
        rw [if_pos (Bool.or_eq_true_iff.2 (.inl (decide_eq_true rfl)))]
        rfl
      · have hgo : ¬ (decide (b = 0) || decide ((i : Int) ≥ image.header.litLength)) = true := by
          rw [Bool.or_eq_true, decide_eq_true_eq, decide_eq_true_eq]
          exact not_or.2 ⟨hzero, by omega⟩
        rw [if_neg hgo, List.takeWhile_cons, if_pos (bne_iff_ne.2 hzero)]
        have hmore := ih (i := i + 1) (by omega) (by omega)
        rw [← hrest] at hmore
        exact bind_eq_ok_iff.2 ⟨_, hmore, rfl⟩

section
variable {image : Image} {segment zeros : List UInt8} (hlit : image.lit.toList = segment ++ 0 :: zeros)
  (hlength : image.header.litLength = segment.length)
include hlit hlength

theorem literalBytes_eq {offset : Nat} (h : offset ≤ segment.length) :
    image.literalBytes offset = .ok ((segment.drop offset).takeWhile (· != 0)) := by
  have hsize : image.lit.size = segment.length + (zeros.length + 1) := by
    rw [← Array.length_toList, hlit, List.length_append, List.length_cons]
  exact literalFrom_eq hlit hlength h (by omega)

end

/-- a piece of a file -/
def piece (file : ByteArray) (offset length : Int) : List UInt8 := (file.data.toList.drop offset.toNat).take length.toNat

theorem length_piece {file : ByteArray} {offset length : Int} (ho : 0 ≤ offset)
    (hin : length = 0 ∨ offset + length ≤ file.size) : (piece file offset length).length = length.toNat := by
  have hsize : file.data.toList.length = file.size := Array.length_toList
  unfold piece
  rw [List.length_take, List.length_drop]
  omega

section
variable {file : ByteArray} {p : Program} (hp : p.Loaded file) (hfile : p.header.HoldsData file.size)
include hp hfile

theorem length_data : (piece file p.header.dataOffset p.header.dataLength).length = p.header.dataLength.toNat := by
  obtain ⟨-, -, -, hdo, -, -, -, -⟩ := Header.fields_nonneg hp.isIn.nonneg
  exact length_piece hdo hfile.1

theorem length_lit : (piece file p.header.litOffset p.header.litLength).length = p.header.litLength.toNat := by
  obtain ⟨-, -, -, hdo, hdl, -, -, -⟩ := Header.fields_nonneg hp.isIn.nonneg
  exact length_piece (Int.add_nonneg hdo hdl) hfile.2

theorem lit_eq : p.image.lit.toList = piece file p.header.litOffset p.header.litLength ++ 0 :: List.replicate 3 0 ∧
    p.header.litLength = (piece file p.header.litOffset p.header.litLength).length := by
  have hll : 0 ≤ p.header.litLength := (Header.fields_nonneg hp.isIn.nonneg).2.2.2.2.2.1
  refine ⟨hp.isIn.lit_eq, ?_⟩
  rw [length_lit hp hfile, Int.toNat_of_nonneg hll]

theorem size_data : (p.image.data.size : Int) = p.header.dataLength + 4 := by
  have hdl := hp.dataLength_nonneg
  have hlength := length_data hp hfile
  have hbytes : p.image.data.toList = piece file p.header.dataOffset p.header.dataLength ++ List.replicate 4 0 :=
    hp.isIn.data_eq
  rw [← Array.length_toList, hbytes, List.length_append, List.length_replicate]
  omega

/-- what is known about a constant can be told -/
theorem constantText_ok (k : Nat) (value : Int) (next : Nat) : ∃ t, constantText p k value next = .ok t := by
  unfold constantText
  dsimp only
  split
  next => split <;> exact ⟨_, rfl⟩
  next =>
    split
    next hr =>
      obtain ⟨hlit, hlength⟩ := lit_eq hp hfile
      obtain ⟨i, hi⟩ := Int.eq_ofNat_of_zero_le (show 0 ≤ value - p.header.dataLength by omega)
      have hbytes := literalBytes_eq hlit hlength (show i ≤ _ by omega)
      rw [← hi] at hbytes
      exact ⟨_, bind_eq_ok_iff.2 ⟨_, lift_eq_ok_iff.2 (bind_eq_ok_iff.2 ⟨_, hbytes, rfl⟩), rfl⟩⟩
    next =>
      split
      next hr =>
        have hsize := size_data hp hfile
        obtain ⟨text, ht⟩ := dataText_ok hr.1 (show value + 3 < p.image.data.size by omega)
        exact ⟨_, bind_eq_ok_iff.2 ⟨text, lift_eq_ok_iff.2 ht, rfl⟩⟩
      next =>
        split
        · exact ⟨_, rfl⟩
        · split <;> exact ⟨_, rfl⟩

end

end Listing
end Disasm
