import Mathlib
import Disasm.Image
import Disasm.Proofs.Action
import Disasm.Proofs.Instruction

/-!
# The bytes that an image was read from

* `Cursor.Passes c ws c'`  the words that a cursor passes over;
* `Image.IsIn`  the header and the segments of an image, as pieces of the bytes of a file;
* `ofBytes_eq_ok`  an image that was read from a file is in its bytes;
* `copied_eq`  copying the code slice by slice gives the bytes of its instructions.
-/

namespace Disasm

open Disasm.Action

/-! ## words -/

namespace Cursor

/-- on its way to `c'` the cursor `c` passes over the words `ws` -/
structure Passes (c : Cursor) (ws : List Int) (c' : Cursor) : Prop where
  bytes_eq : c'.bytes = c.bytes
  isOpen_eq : c'.isOpen = c.isOpen
  pos_eq : c'.pos = c.pos + 4 * ws.length
  rest_eq : c.bytes.toList.drop c.pos =
    ws.flatMap Instruction.wordBytes ++ c'.bytes.toList.drop c'.pos
  bounds : ∀ n ∈ ws, -2 ^ 31 ≤ n ∧ n < 2 ^ 31

theorem Passes.trans {c c' c'' : Cursor} {ws ws' : List Int} (h : Passes c ws c')
    (h' : Passes c' ws' c'') : Passes c (ws ++ ws') c'' where
  bytes_eq := h'.bytes_eq.trans h.bytes_eq
  isOpen_eq := h'.isOpen_eq.trans h.isOpen_eq
  pos_eq := by rw [h'.pos_eq, h.pos_eq, List.length_append]; omega
  rest_eq := by rw [h.rest_eq, h'.rest_eq, List.flatMap_append, List.append_assoc]
  bounds := fun n hn => (List.mem_append.1 hn).elim (h.bounds n) (h'.bounds n)

theorem toList_take {c : Cursor} {n : Int} (hn : 0 ≤ n) :
    (c.take n).toList = (c.bytes.toList.drop c.pos).take n.toNat := by
  unfold take
  rw [if_neg (by omega), Array.toList_extract, List.extract_eq_take_drop, Nat.add_sub_cancel_left]

theorem read_eq_ok {c c' : Cursor} {n : Int} {bs : Array UInt8} (h : Cursor.read n c = .ok bs c') :
    bs = c.take n ∧ c' = { c with pos := c.pos + bs.size } := by
  unfold Cursor.read at h
  split at h
  · cases h; exact ⟨rfl, rfl⟩
  · cases h

theorem unsignedWord?_eq_some {bs : List UInt8} {n : Nat} (h : unsignedWord? bs = some n) :
    ∃ b0 b1 b2 b3, bs = [b0, b1, b2, b3] ∧ n = wordValue b0 b1 b2 b3 := by
  unfold unsignedWord? at h
  split at h
  next b0 b1 b2 b3 => cases h; exact ⟨b0, b1, b2, b3, rfl, rfl⟩
  next => cases h

theorem readWord_eq_ok {c c' : Cursor} {n : Int} (h : readWord c = .ok n c') : Passes c [n] c' := by
  unfold readWord at h
  obtain ⟨bs, d, hr, h⟩ := bind_eq_ok h
  obtain ⟨hbs, hd⟩ := read_eq_ok hr
  cases hu : unsignedWord? bs.toList with
  | none => rw [hu] at h; cases h
  | some u =>
    rw [hu] at h
    cases h
    obtain ⟨b0, b1, b2, b3, hb, rfl⟩ := unsignedWord?_eq_some hu
    have hsize : bs.size = 4 := by rw [← Array.length_toList, hb]; rfl
    subst hd
    refine ⟨rfl, rfl, by rw [hsize]; rfl, ?_, ?_⟩
    · have ht : (c.bytes.toList.drop c.pos).take 4 = [b0, b1, b2, b3] := by
        rw [← hb, hbs, toList_take (by decide)]; rfl
      rw [List.flatMap_singleton, Instruction.wordBytes_signedWord, ← ht, hsize, ← List.drop_drop,
        List.take_append_drop]
    · intro m hm
      rw [List.mem_singleton.1 hm]
      exact Instruction.signedWord_bounds (Instruction.wordValue_lt b0 b1 b2 b3)

end Cursor

/-! ## the header -/

namespace Header

/-- the words of a header in a file -/
def words (h : Header) : List Int :=
  [h.version.magic, h.instructionCount, h.codeOffset, h.codeLength, h.dataOffset, h.dataLength,
    h.litLength, h.bssLength] ++ (if h.version = .two then [h.jumpLength] else [])

/-- the number of bytes of a header -/
def size (h : Header) : Nat :=
  match h.version with
  | .one => 32
  | .two => 36

theorem size_eq (h : Header) : h.size = 4 * h.words.length := by
  unfold size words
  cases h.version <;> rfl

theorem length_words (h : Header) : (h.words.flatMap Instruction.wordBytes).length = h.size := by
  rw [size_eq, List.length_flatMap]
  simp [Instruction.length_wordBytes, Nat.mul_comm]

theorem magic_of_ofMagic? {n : Int} {v : Version} (h : Version.ofMagic? n = some v) : v.magic = n := by
  unfold Version.ofMagic? at h
  split at h
  · next hn => cases h; exact hn.symm
  · split at h
    · next hn => cases h; exact hn.symm
    · cases h

theorem read_eq_ok {c c' : Cursor} {h : Header} (hr : Header.read c = .ok h c') :
    Cursor.Passes c h.words c' ∧ (h.version = .one → h.jumpLength = 0) := by
  unfold Header.read at hr
  obtain ⟨magic, c0, h0, hr⟩ := bind_eq_ok hr
  have p := Cursor.readWord_eq_ok h0
  cases hv : Version.ofMagic? magic with
  | none => rw [hv] at hr; cases hr
  | some v =>
    rw [hv] at hr
    obtain ⟨n1, c1, h1, hr⟩ := bind_eq_ok hr
    obtain ⟨n2, c2, h2, hr⟩ := bind_eq_ok hr
    obtain ⟨n3, c3, h3, hr⟩ := bind_eq_ok hr
    obtain ⟨n4, c4, h4, hr⟩ := bind_eq_ok hr
    obtain ⟨n5, c5, h5, hr⟩ := bind_eq_ok hr
    obtain ⟨n6, c6, h6, hr⟩ := bind_eq_ok hr
    obtain ⟨n7, c7, h7, hr⟩ := bind_eq_ok hr
    have p := p.trans ((Cursor.readWord_eq_ok h1).trans ((Cursor.readWord_eq_ok h2).trans
      ((Cursor.readWord_eq_ok h3).trans ((Cursor.readWord_eq_ok h4).trans
      ((Cursor.readWord_eq_ok h5).trans ((Cursor.readWord_eq_ok h6).trans
      (Cursor.readWord_eq_ok h7)))))))
    rw [← magic_of_ofMagic? hv] at p
    cases v with
    | one =>
      cases hr
      exact ⟨p, fun _ => rfl⟩
    | two =>
      obtain ⟨n8, c8, h8, hr⟩ := bind_eq_ok hr
      cases hr
      exact ⟨p.trans (Cursor.readWord_eq_ok h8), fun hv => by cases hv⟩

theorem nonneg_of_check {h : Header} {u : Unit} (hc : h.check = .ok u) : ∀ f ∈ h.fields, 0 ≤ f.2 := by
  unfold check at hc
  cases hf : h.fields.find? fun f => f.2 < 0 with
  | some f => rw [hf] at hc; cases hc
  | none =>
    intro f hm
    have := List.find?_eq_none.1 hf f hm
    simpa using this

theorem fields_nonneg {h : Header} (hn : ∀ f ∈ h.fields, 0 ≤ f.2) :
    0 ≤ h.instructionCount ∧ 0 ≤ h.codeOffset ∧ 0 ≤ h.codeLength ∧ 0 ≤ h.dataOffset ∧
      0 ≤ h.dataLength ∧ 0 ≤ h.litLength ∧ 0 ≤ h.bssLength ∧ 0 ≤ h.jumpLength := by
  simpa [fields] using hn

end Header

/-! ## the segments -/

namespace Image

/-- the header and the segments of the image are the pieces of `bytes` that the header tells -/
structure IsIn (image : Image) (bytes : List UInt8) : Prop where
  header_eq : bytes = image.header.words.flatMap Instruction.wordBytes ++ bytes.drop image.header.size
  words_bounds : ∀ n ∈ image.header.words, -2 ^ 31 ≤ n ∧ n < 2 ^ 31
  nonneg : ∀ f ∈ image.header.fields, 0 ≤ f.2
  jumpLength_one : image.header.version = .one → image.header.jumpLength = 0
  code_eq : image.code.toList =
    (bytes.drop image.header.codeOffset.toNat).take image.header.codeLength.toNat ++ List.replicate 5 0
  data_eq : image.data.toList =
    (bytes.drop image.header.dataOffset.toNat).take image.header.dataLength.toNat ++ List.replicate 4 0
  lit_eq : image.lit.toList =
    (bytes.drop image.header.litOffset.toNat).take image.header.litLength.toNat ++ List.replicate 4 0
  jumps_eq : image.header.version = .two → image.jumps.toList =
    (bytes.drop (image.header.litOffset.toNat + (image.lit.size - 4))).take
      image.header.jumpLength.toNat

theorem seek_eq_ok {c c' : Cursor} {p : Int} {u : Unit} (h : Cursor.seek p c = .ok u c') :
    c' = { c with pos := p.toNat } := by
  unfold Cursor.seek at h
  split at h
  · cases h
  · split at h
    · cases h
    · cases h; rfl

/-- a piece that is read from a place -/
theorem read_at {c c' : Cursor} {p : Nat} {n : Int} {bs : Array UInt8} (hn : 0 ≤ n)
    (h : Cursor.read n { c with pos := p } = .ok bs c') :
    bs.toList = (c.bytes.toList.drop p).take n.toNat ∧ c' = { c with pos := p + bs.size } := by
  obtain ⟨hb, hc⟩ := Cursor.read_eq_ok h
  refine ⟨?_, hc⟩
  rw [hb, Cursor.toList_take hn]

theorem toList_append_zeros (bs : Array UInt8) (n : Nat) :
    (bs ++ zeros n).toList = bs.toList ++ List.replicate n 0 := by
  rw [Array.toList_append, zeros, Array.toList_replicate]

theorem readSegments_eq_ok {c c' : Cursor} {h : Header} {image : Image}
    (hn : ∀ f ∈ h.fields, 0 ≤ f.2) (hr : readSegments h c = .ok image c') :
    image.header = h ∧
      image.code.toList = (c.bytes.toList.drop h.codeOffset.toNat).take h.codeLength.toNat ++
        List.replicate 5 0 ∧
      image.data.toList = (c.bytes.toList.drop h.dataOffset.toNat).take h.dataLength.toNat ++
        List.replicate 4 0 ∧
      image.lit.toList = (c.bytes.toList.drop h.litOffset.toNat).take h.litLength.toNat ++
        List.replicate 4 0 ∧
      (h.version = .two → image.jumps.toList =
        (c.bytes.toList.drop (h.litOffset.toNat + (image.lit.size - 4))).take h.jumpLength.toNat) := by
  obtain ⟨-, -, hcode, -, hdata, hlit, -, hjump⟩ := Header.fields_nonneg hn
  unfold readSegments at hr
  obtain ⟨_, c0, h0, hr⟩ := bind_eq_ok hr
  obtain ⟨code, c1, h1, hr⟩ := bind_eq_ok hr
  obtain ⟨_, c2, h2, hr⟩ := bind_eq_ok hr
  obtain ⟨data, c3, h3, hr⟩ := bind_eq_ok hr
  obtain ⟨_, c4, h4, hr⟩ := bind_eq_ok hr
  obtain ⟨lit, c5, h5, hr⟩ := bind_eq_ok hr
  rw [seek_eq_ok h0] at h1
  obtain ⟨e1, rfl⟩ := read_at hcode h1
  rw [seek_eq_ok h2] at h3
  obtain ⟨e3, rfl⟩ := read_at hdata h3
  rw [seek_eq_ok h4] at h5
  obtain ⟨e5, rfl⟩ := read_at hlit h5
  rw [← e1, ← e3, ← e5, ← toList_append_zeros, ← toList_append_zeros, ← toList_append_zeros]
  by_cases hv : h.version = .two
  · simp only [hv, if_true] at hr
    obtain ⟨jumps, c6, h6, hr⟩ := bind_eq_ok hr
    cases hr
    refine ⟨rfl, rfl, rfl, rfl, fun _ => ?_⟩
    obtain ⟨e6, -⟩ := read_at hjump h6
    rw [e6, Array.size_append, zeros, Array.size_replicate, Nat.add_sub_cancel]
  · simp only [hv, if_false] at hr
    cases hr
    exact ⟨rfl, rfl, rfl, rfl, fun h2 => absurd h2 hv⟩

/-- an image that was read from a file is in its bytes -/
theorem ofBytes_eq_ok {file : ByteArray} {image : Image} (h : ofBytes file = .ok image) :
    image.IsIn file.data.toList := by
  unfold ofBytes at h
  cases hr : readAll.run (Cursor.ofBytes file) with
  | error f c => rw [hr] at h; cases h
  | ok x c =>
    rw [hr] at h
    cases h
    obtain ⟨hd, c0, h0, hr⟩ := bind_eq_ok (show readAll (Cursor.ofBytes file) = .ok image c from hr)
    obtain ⟨pass, hone⟩ := Header.read_eq_ok h0
    cases hc : hd.check with
    | error f => rw [hc] at hr; cases hr
    | ok u =>
      rw [hc] at hr
      have hn := Header.nonneg_of_check hc
      obtain ⟨rfl, hcode, hdata, hlit, hjumps⟩ := readSegments_eq_ok hn hr
      rw [pass.bytes_eq] at hcode hdata hlit hjumps
      refine ⟨?_, pass.bounds, hn, hone, hcode, hdata, hlit, hjumps⟩
      have hrest := pass.rest_eq
      rw [pass.bytes_eq, pass.pos_eq] at hrest
      simpa [Cursor.ofBytes, Header.size_eq] using hrest

/-! ## the bytes of the instructions -/

open Instruction

theorem toList_slice {bytes : Array UInt8} {pos n : Nat} {front back : List UInt8}
    (h : bytes.toList.drop pos = front ++ back) (hn : front.length = n) :
    (bytes.extract pos (pos + n)).toList = front := by
  rw [Array.toList_extract, List.extract_eq_take_drop, Nat.add_sub_cancel_left, h, ← hn, List.take_left]

/-- where instructions stand their bytes are copied -/
theorem copyFrom_eq {code : Array UInt8} {is : List Instruction} {pos : Nat} {rest : List UInt8}
    (h : code.toList.drop pos = encodeAll is ++ rest) (done : Array UInt8) :
    copyFrom code is.length pos done = ⟨done.toList ++ encodeAll is, none⟩ := by
  induction is generalizing pos done with
  | nil =>
    show Copied.mk done.toList none = ⟨done.toList ++ [], none⟩
    rw [List.append_nil]
  | cons i is ih =>
    have hop : code.toList.drop pos = [i.op.code.toUInt8] ++ (i.parmBytes ++ (encodeAll is ++ rest)) := by
      rw [h, encodeAll_cons, encode, List.append_assoc]
      rfl
    have hparm : code.toList.drop (pos + 1) = i.parmBytes ++ (encodeAll is ++ rest) := by
      rw [← List.drop_drop, hop]
      rfl
    have hnext : code.toList.drop (pos + 1 + i.op.width) = encodeAll is ++ rest := by
      rw [← List.drop_drop, hparm, List.drop_left' (length_parmBytes i)]
    rw [List.length_cons]
    unfold copyFrom
    rw [toList_slice hop (List.length_singleton)]
    dsimp only
    rw [Opcode.toNat_code, Opcode.ofCode?_code]
    dsimp only
    rw [ih hnext, Array.toList_append, Array.toList_push, toList_slice hparm (length_parmBytes i), encodeAll_cons, encode]
    simp only [List.append_assoc, List.cons_append, List.nil_append]

/-- all bytes of an image whose instructions can be read -/
theorem copied_eq {image : Image} (h : image.decoded.fault = none) :
    image.copied = ⟨encodeAll image.decoded.instructions, none⟩ := by
  obtain ⟨hbytes, -, hlength⟩ := decode_spec image.header.instructionCount.toNat image.code.toList
  have hstart : image.code.toList.drop 0 = _ := hbytes
  have hcopy := copyFrom_eq hstart #[]
  rw [hlength h] at hcopy
  exact hcopy

end Image
end Disasm
