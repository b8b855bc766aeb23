import Mathlib
import Disasm.Proofs.Program
import Disasm.Proofs.Switch

/-!
# Images that can be loaded

What a file has to be for a program to be loaded from it, said of its bytes alone.

* `wordIn`, `headerIn`, `segmentIn`  the words, the header and the segments of a file;
* `WellFormed v file`  the file is an image of the version `v` that can be loaded;
* `Image.ofBytes_ok`  an image can be read from a well formed file;
* `Image.jumpTargets_ok_iff`  what the jump table adds;
* `load_ok_iff`  a program is loaded from a file exactly when the file is well formed.
-/

namespace Disasm

open Disasm.Action

/-- the word number `k` of a file; bytes that are not there count as zero -/
def wordIn (file : List UInt8) (k : Nat) : Int :=
  signedWord (wordValue (file.getD (4 * k) 0) (file.getD (4 * k + 1) 0) (file.getD (4 * k + 2) 0)
    (file.getD (4 * k + 3) 0))

/-- the header at the start of a file -/
def headerIn (v : Version) (file : List UInt8) : Header where
  version := v
  instructionCount := wordIn file 1
  codeOffset := wordIn file 2
  codeLength := wordIn file 3
  dataOffset := wordIn file 4
  dataLength := wordIn file 5
  litLength := wordIn file 6
  bssLength := wordIn file 7
  jumpLength := if v = .two then wordIn file 8 else 0

/-- the bytes of a segment, as far as the file has them -/
def segmentIn (file : List UInt8) (offset length : Int) : List UInt8 :=
  (file.drop offset.toNat).take length.toNat

/-- The file is an image: the header is whole and not negative, the jump table is whole, the code with five
zero bytes behind it starts with the bytes of as many instructions as the header tells, and the tables of
their switches end where the data with four zero bytes behind them end, or before. -/
structure WellFormed (v : Version) (file : List UInt8) : Prop where
  magic : wordIn file 0 = v.magic
  size_le : (headerIn v file).size ≤ file.length
  nonneg : ∀ f ∈ (headerIn v file).fields, 0 ≤ f.2
  jumps : v = .two → (headerIn v file).jumpLength = 0 ∨
    (4 ∣ (headerIn v file).jumpLength ∧
      (headerIn v file).bssOffset + (headerIn v file).jumpLength ≤ file.length)
  code : ∃ is : List Instruction, (is.length : Int) = (headerIn v file).instructionCount ∧
    (∀ i ∈ is, i.Fits) ∧
    Instruction.encodeAll is <+:
      segmentIn file (headerIn v file).codeOffset (headerIn v file).codeLength ++ List.replicate 5 0 ∧
    ∀ k s, SwitchAt is k s →
      s.Readable ((segmentIn file (headerIn v file).dataOffset (headerIn v file).dataLength).length + 4)

/-! ## the header -/

theorem wordIn_zero {n : Int} (h : -2 ^ 31 ≤ n ∧ n < 2 ^ 31) (file : List UInt8) :
    wordIn (Instruction.wordBytes n ++ file) 0 = n := by
  obtain ⟨b0, b1, b2, b3, hb⟩ : ∃ b0 b1 b2 b3, Instruction.wordBytes n = [b0, b1, b2, b3] :=
    ⟨_, _, _, _, rfl⟩
  rw [hb]
  exact Instruction.signedWord_wordBytes h hb

theorem wordIn_succ (n : Int) (file : List UInt8) (k : Nat) :
    wordIn (Instruction.wordBytes n ++ file) (k + 1) = wordIn file k := by
  have hbyte : ∀ j, (Instruction.wordBytes n ++ file).getD (4 * (k + 1) + j) 0 = file.getD (4 * k + j) 0 := by
    intro j
    rw [List.getD_append_right _ _ _ _ (by rw [Instruction.length_wordBytes]; omega),
      Instruction.length_wordBytes]
    congr 1
    omega
  have hfirst : (Instruction.wordBytes n ++ file).getD (4 * (k + 1)) 0 = file.getD (4 * k) 0 := hbyte 0
  unfold wordIn
  rw [hfirst, hbyte 1, hbyte 2, hbyte 3]

theorem wordIn_flatMap {ws : List Int} (h : ∀ n ∈ ws, -2 ^ 31 ≤ n ∧ n < 2 ^ 31) (rest : List UInt8) {k : Nat}
    {n : Int} (hk : ws[k]? = some n) : wordIn (ws.flatMap Instruction.wordBytes ++ rest) k = n := by
  induction ws generalizing k with
  | nil => cases hk
  | cons w ws ih =>
    rw [List.flatMap_cons, List.append_assoc]
    cases k with
    | zero =>
      rw [wordIn_zero (h w List.mem_cons_self)]
      exact Option.some.inj hk
    | succ k =>
      rw [wordIn_succ]
      exact ih (fun m hm => h m (List.mem_cons_of_mem w hm)) hk

/-- a header that stands at the start of a file is the one that is read off it -/
theorem eq_headerIn {h : Header} (hw : ∀ n ∈ h.words, -2 ^ 31 ≤ n ∧ n < 2 ^ 31)
    (hone : h.version = .one → h.jumpLength = 0) (rest : List UInt8) :
    wordIn (h.words.flatMap Instruction.wordBytes ++ rest) 0 = h.version.magic ∧
      headerIn h.version (h.words.flatMap Instruction.wordBytes ++ rest) = h := by
  have hword : ∀ k n, h.words[k]? = some n →
      wordIn (h.words.flatMap Instruction.wordBytes ++ rest) k = n := fun k n hk => wordIn_flatMap hw rest hk
  generalize h.words.flatMap Instruction.wordBytes ++ rest = file at hword
  obtain ⟨v, n1, n2, n3, n4, n5, n6, n7, n8⟩ := h
  refine ⟨hword 0 _ rfl, ?_⟩
  unfold headerIn
  rw [hword 1 n1 rfl, hword 2 n2 rfl, hword 3 n3 rfl, hword 4 n4 rfl, hword 5 n5 rfl, hword 6 n6 rfl,
    hword 7 n7 rfl]
  cases v with
  | one =>
    rw [show n8 = 0 from hone rfl]
    rfl
  | two =>
    rw [hword 8 n8 rfl]
    rfl

theorem Header.check_of_nonneg {h : Header} (hn : ∀ f ∈ h.fields, 0 ≤ f.2) : h.check = .ok () := by
  have hnone : h.fields.find? (fun f => f.2 < 0) = none := by
    rw [List.find?_eq_none]
    intro f hf
    have := hn f hf
    simp only [decide_eq_true_eq]
    omega
  unfold Header.check
  rw [hnone]

namespace Cursor

theorem readWord_ok {c : Cursor} {k : Nat} (ho : c.isOpen = true) (hpos : c.pos = 4 * k)
    (hk : 4 * k + 4 ≤ c.bytes.size) :
    readWord c = .ok (wordIn c.bytes.toList k) { c with pos := 4 * (k + 1) } := by
  have htake : (c.take 4).toList = [c.bytes.toList.getD (4 * k) 0, c.bytes.toList.getD (4 * k + 1) 0,
      c.bytes.toList.getD (4 * k + 2) 0, c.bytes.toList.getD (4 * k + 3) 0] := by
    have hlen : 4 * k + 4 ≤ c.bytes.toList.length := by rwa [Array.length_toList]
    rw [toList_take (by decide), hpos]
    generalize c.bytes.toList = bs at hlen
    rw [List.drop_eq_getElem_cons (by omega), List.drop_eq_getElem_cons (by omega),
      List.drop_eq_getElem_cons (by omega), List.drop_eq_getElem_cons (by omega)]
    show [_, _, _, _] = _
    rw [List.getD_eq_getElem _ _ (by omega), List.getD_eq_getElem _ _ (by omega),
      List.getD_eq_getElem _ _ (by omega), List.getD_eq_getElem _ _ (by omega)]
  have hsize : (c.take 4).size = 4 := by
    rw [← Array.length_toList, htake]
    rfl
  have hread : Cursor.read 4 c = .ok (c.take 4) { c with pos := 4 * (k + 1) } := by
    unfold Cursor.read
    rw [if_pos ho, hsize, hpos]
    rfl
  unfold readWord
  rw [bind_of_ok hread, htake]
  rfl

end Cursor

theorem Version.ofMagic?_magic (v : Version) : Version.ofMagic? v.magic = some v := by cases v <;> rfl

theorem Header.read_ok {c : Cursor} {v : Version} (ho : c.isOpen = true) (hpos : c.pos = 0)
    (hmagic : wordIn c.bytes.toList 0 = v.magic) (hsize : (headerIn v c.bytes.toList).size ≤ c.bytes.size) :
    ∃ pos, Header.read c = .ok (headerIn v c.bytes.toList) { c with pos } := by
  have hword : ∀ k, 4 * k + 4 ≤ (headerIn v c.bytes.toList).size → Cursor.readWord { c with pos := 4 * k } =
      .ok (wordIn c.bytes.toList k) { c with pos := 4 * (k + 1) } := by
    intro k hk
    exact Cursor.readWord_ok (c := { c with pos := 4 * k }) ho rfl (hk.trans hsize)
  have hmin : 32 ≤ (headerIn v c.bytes.toList).size := by cases v <;> simp [Header.size, headerIn]
  have hstart : c = { c with pos := 4 * 0 } := by
    obtain ⟨bytes, pos, isOpen⟩ := c
    cases hpos
    rfl
  unfold Header.read
  rw [hstart, bind_of_ok (hword 0 (by omega)), hmagic, Version.ofMagic?_magic]
  dsimp only
  rw [bind_of_ok (hword 1 (by omega)), bind_of_ok (hword 2 (by omega)), bind_of_ok (hword 3 (by omega)),
    bind_of_ok (hword 4 (by omega)), bind_of_ok (hword 5 (by omega)), bind_of_ok (hword 6 (by omega)),
    bind_of_ok (hword 7 (by omega))]
  cases v with
  | one => exact ⟨_, rfl⟩
  | two =>
    rw [if_pos rfl, bind_of_ok (hword 8 (by simp [Header.size, headerIn]))]
    exact ⟨_, rfl⟩

/-! ## the segments -/

namespace Image

theorem seek_ok {c : Cursor} {p : Int} (ho : c.isOpen = true) (hp : 0 ≤ p) :
    Cursor.seek p c = .ok () { c with pos := p.toNat } := by
  unfold Cursor.seek
  rw [ho, if_neg (by decide), if_neg (by omega)]

theorem read_ok {c : Cursor} (ho : c.isOpen = true) (n : Int) :
    Cursor.read n c = .ok (c.take n) { c with pos := c.pos + (c.take n).size } := by
  unfold Cursor.read
  rw [if_pos ho]

theorem readSegments_ok {c : Cursor} {h : Header} (ho : c.isOpen = true) (hn : ∀ f ∈ h.fields, 0 ≤ f.2) :
    ∃ image c', readSegments h c = .ok image c' := by
  obtain ⟨-, hcode, -, hdata, hlength, -, -, -⟩ := Header.fields_nonneg hn
  have hlit : 0 ≤ h.litOffset := by
    unfold Header.litOffset
    omega
  unfold readSegments
  rw [bind_of_ok (seek_ok ho hcode), bind_of_ok (read_ok (by exact ho) _), bind_of_ok (seek_ok (by exact ho) hdata),
    bind_of_ok (read_ok (by exact ho) _), bind_of_ok (seek_ok (by exact ho) hlit),
    bind_of_ok (read_ok (by exact ho) _)]
  by_cases hv : h.version = .two
  · rw [if_pos hv, bind_of_ok (read_ok (by exact ho) _)]
    exact ⟨_, _, rfl⟩
  · rw [if_neg hv]
    exact ⟨_, _, rfl⟩

/-- the header of an image is the one at the start of its file -/
theorem IsIn.header_read {image : Image} {bytes : List UInt8} (h : image.IsIn bytes) :
    wordIn bytes 0 = image.header.version.magic ∧ headerIn image.header.version bytes = image.header ∧
      image.header.size ≤ bytes.length := by
  obtain ⟨hmagic, hheader⟩ := eq_headerIn h.words_bounds h.jumpLength_one
    (bytes.drop image.header.size)
  rw [← h.header_eq] at hmagic hheader
  refine ⟨hmagic, hheader, ?_⟩
  have hlen := congrArg List.length h.header_eq
  rw [List.length_append, Header.length_words] at hlen
  omega

/-- a file that starts with a whole header is read as an image with this header -/
theorem ofBytes_ok {file : ByteArray} {v : Version} (hmagic : wordIn file.data.toList 0 = v.magic)
    (hsize : (headerIn v file.data.toList).size ≤ file.data.toList.length)
    (hn : ∀ f ∈ (headerIn v file.data.toList).fields, 0 ≤ f.2) :
    ∃ image, ofBytes file = .ok image ∧ image.header = headerIn v file.data.toList := by
  obtain ⟨pos, hread⟩ := Header.read_ok (c := Cursor.ofBytes file) rfl rfl hmagic
    (by rwa [Array.length_toList] at hsize)
  obtain ⟨image, c', hseg⟩ := readSegments_ok (c := { Cursor.ofBytes file with pos }) rfl hn
  replace hread : Header.read (Cursor.ofBytes file) =
    .ok (headerIn v file.data.toList) { Cursor.ofBytes file with pos } := hread
  have hall : readAll.run (Cursor.ofBytes file) = .ok image c' := by
    show readAll (Cursor.ofBytes file) = _
    unfold readAll
    rw [bind_of_ok hread, Header.check_of_nonneg hn]
    exact hseg
  refine ⟨image, ?_, (readSegments_eq_ok hn hseg).1⟩
  unfold ofBytes
  rw [hall]

/-! ## the jump table -/

theorem targetsFrom_ok_iff (image : Image) (n i : Nat) :
    (∃ targets, image.targetsFrom n i = .ok targets) ↔ n = 0 ∨ i + 4 * n ≤ image.jumps.size := by
  induction n generalizing i with
  | zero => exact ⟨fun _ => .inl rfl, fun _ => ⟨[], rfl⟩⟩
  | succ n ih =>
    have hword := wordAt_ok_iff image.jumps i
    have hrest := ih (i + 4)
    have hsplit : (∃ targets, image.targetsFrom (n + 1) i = .ok targets) ↔
        (∃ word, wordAt image.jumps i = .ok word) ∧ ∃ targets, image.targetsFrom n (i + 4) = .ok targets := by
      have heq : image.targetsFrom (n + 1) i = (do
          let target ← wordAt image.jumps i
          return target :: (← image.targetsFrom n (i + 4))) := rfl
      rw [heq]
      cases hw : wordAt image.jumps i with
      | error f => exact ⟨fun ⟨_, h⟩ => (by cases h), fun ⟨⟨_, h⟩, _⟩ => (by cases h)⟩
      | ok word =>
        cases ht : image.targetsFrom n (i + 4) with
        | error f => exact ⟨fun ⟨_, h⟩ => (by cases h), fun ⟨_, _, h⟩ => (by cases h)⟩
        | ok targets => exact ⟨fun _ => ⟨⟨word, rfl⟩, targets, rfl⟩, fun _ => ⟨word :: targets, rfl⟩⟩
    rw [hsplit, hword, hrest]
    omega

/-- the words of the jump table are whole, and the file has all of them -/
theorem jumpTargets_ok_iff {image : Image} {bytes : List UInt8} (h : image.IsIn bytes) :
    (∃ targets, image.jumpTargets = .ok targets) ↔
      (image.header.version = .two → image.header.jumpLength = 0 ∨
        (4 ∣ image.header.jumpLength ∧ image.header.bssOffset + image.header.jumpLength ≤ bytes.length)) := by
  obtain ⟨-, -, -, hdata, hdlen, hlit, -, hjump⟩ := Header.fields_nonneg h.nonneg
  unfold jumpTargets
  rw [targetsFrom_ok_iff]
  by_cases hv : image.header.version = .two
  · have hsize := congrArg List.length (h.jumps_eq hv)
    have hlsize := congrArg List.length h.lit_eq
    rw [Array.length_toList, List.length_take, List.length_drop] at hsize
    rw [Array.length_toList, List.length_append, List.length_take, List.length_drop,
      List.length_replicate] at hlsize
    simp only [hv, true_implies]
    unfold Header.bssOffset
    unfold Header.litOffset at hsize hlsize
    omega
  · have hzero : image.header.jumpLength = 0 := by
      apply h.jumpLength_one
      cases hver : image.header.version with
      | one => rfl
      | two => exact absurd hver hv
    rw [hzero]
    exact ⟨fun _ h2 => absurd h2 hv, fun _ => .inl rfl⟩

end Image

/-! ## the code -/

theorem Image.IsIn.size_data {image : Image} {bytes : List UInt8} (h : image.IsIn bytes) :
    image.data.size = (segmentIn bytes image.header.dataOffset image.header.dataLength).length + 4 := by
  rw [← Array.length_toList, h.data_eq, List.length_append, List.length_replicate]
  rfl

namespace Program

theorem analyse_ok {s : Session Program} (hf : s.state.image.decoded.fault = none)
    (hr : (Walk.run s.state.image s.state.image.decoded.instructions { tables := s.state.analysis }).2 = none) :
    ∃ t, analyse s = .ok () t :=
  ⟨_, analyse_of_ok hf (Prod.ext rfl hr)⟩

theorem readJumpTable_ok {s : Session Program} {targets : List Nat}
    (h : s.state.image.jumpTargets = .ok targets) :
    readJumpTable s = .ok () ⟨{ s.state with jumpTargets := targets }, s.console⟩ := by
  unfold readJumpTable
  rw [bind_of_ok (show Action.read s = .ok s.state s from rfl), h]
  rfl

end Program

/-! ## directories without annotations -/

/-- the only annotation file of the directory is an empty file of default templates -/
structure Directory.Unannotated (d : Directory) : Prop where
  defaults : d.bytes? Library.defaultFile = some ByteArray.empty
  others : ∀ name ∈ [Library.userFile, Annotations.symbolsFile, Annotations.functionsFile,
    Annotations.constantsFile, Annotations.commentsFile], d.holds name = false

namespace Directory.Unannotated

variable {d : Directory}

theorem loadDefaults_ok (h : d.Unannotated) (c : Console) : Library.loadDefaults d ⟨{}, c⟩ = .ok () ⟨{}, c⟩ := by
  have hdefaults : d.holds Library.defaultFile = true := by
    have hfile : d.files.contains (Directory.path Library.defaultFile) = true := by
      rw [Std.TreeMap.contains_eq_isSome_getElem?]
      exact congrArg Option.isSome h.defaults
    unfold Directory.holds
    rw [hfile, Bool.true_or]
  have htext : d.text Library.defaultFile = .ok "" := by
    unfold Directory.text
    rw [h.defaults]
    rfl
  have huser : d.holds Library.userFile = false := h.others _ (by simp)
  unfold Library.loadDefaults
  rw [hdefaults, huser, htext]
  rfl

theorem loadFile_absent {file : String} (hf : d.holds file = false) (load : String → Annotations.Work Unit) :
    Annotations.loadFile d file load = pure () := by
  unfold Annotations.loadFile
  rw [hf]
  rfl

/-- nothing is added to a program -/
theorem annotate_ok (h : d.Unannotated) (image : Image) (c : Console) :
    Program.annotate d ⟨{ image }, c⟩ = .ok () ⟨{ image }, c⟩ := by
  have hload : Annotations.load d ⟨{}, c⟩ = .ok () ⟨{}, c⟩ := by
    have hlib : Annotations.onLibrary (Library.loadDefaults d) ⟨{}, c⟩ = .ok () ⟨{}, c⟩ := by
      unfold Annotations.onLibrary within
      rw [h.loadDefaults_ok c]
    unfold Annotations.load
    rw [bind_of_ok hlib, loadFile_absent (h.others Annotations.symbolsFile (by simp)),
      loadFile_absent (h.others Annotations.functionsFile (by simp)),
      loadFile_absent (h.others Annotations.constantsFile (by simp)),
      loadFile_absent (h.others Annotations.commentsFile (by simp))]
    rfl
  unfold Program.annotate within
  rw [hload]

end Directory.Unannotated

/-! ## programs -/

namespace Program

/-- what loading adds to reading the image -/
theorem prepare_ok {d : Directory} (hd : d.Unannotated) {image : Image} {targets : List Nat}
    (ht : image.jumpTargets = .ok targets) (hf : image.decoded.fault = none)
    (hr : (Walk.run image image.decoded.instructions { tables := {} }).2 = none) (c : Console) :
    ∃ s, prepare d none ⟨{ image }, c⟩ = .ok () s := by
  obtain ⟨s, hs⟩ := analyse_ok (s := ⟨{ image, jumpTargets := targets }, c⟩) hf hr
  refine ⟨s, ?_⟩
  unfold prepare
  rw [bind_of_ok (show setType d none ⟨{ image }, c⟩ = .ok () ⟨{ image }, c⟩ from rfl),
    bind_of_ok (hd.annotate_ok image c), bind_of_ok (readJumpTable_ok (s := ⟨{ image }, c⟩) ht)]
  exact hs

theorem wellFormed_of_loaded {file : ByteArray} {p : Program} (h : Loaded file p) :
    WellFormed p.header.version file.data.toList := by
  have hin := h.isIn
  obtain ⟨hmagic, hheader, hsize⟩ := hin.header_read
  replace hheader : headerIn p.header.version file.data.toList = p.header := hheader
  have hwalk : (Walk.run p.image p.code { tables := {} }).2 = none := by
    obtain ⟨w, hw, -⟩ := h.walk_ok
    rw [hw]
  refine ⟨hmagic, ?_, ?_, ?_, p.code, ?_, h.fits, ?_, ?_⟩
  · rw [hheader]
    exact hsize
  · rw [hheader]
    exact hin.nonneg
  · rw [hheader]
    exact (Image.jumpTargets_ok_iff hin).1 ⟨_, h.targets_ok⟩
  · rw [hheader, h.length_instructions]
    exact Int.toNat_of_nonneg (Header.fields_nonneg hin.nonneg).1
  · refine ⟨p.image.decoded.rest, ?_⟩
    rw [hheader]
    exact p.code_eq.symm.trans hin.code_eq
  · rw [hheader]
    intro k s hs
    have hread := (Walk.run_fault_iff p.image p.code {}).1 hwalk k s hs
    rw [hin.size_data] at hread
    exact hread

theorem load_of_wellFormed {d : Directory} (hd : d.Unannotated) {v : Version} {file : ByteArray}
    (h : WellFormed v file.data.toList) (c : Console) : ∃ p c', load d none file c = (.ok p, c') := by
  obtain ⟨image, himage, hheader⟩ := Image.ofBytes_ok h.magic h.size_le h.nonneg
  have hin := Image.ofBytes_eq_ok himage
  obtain ⟨is, hlen, hfits, ⟨rest, hcode⟩, hswitch⟩ := h.code
  -- the code is read as these instructions
  have hdecoded : image.decoded = ⟨is, rest, none⟩ := by
    have hbytes : image.code.toList = Instruction.encodeAll is ++ rest := by
      rw [hin.code_eq, hcode, hheader]
      rfl
    have hcount : image.header.instructionCount.toNat = is.length := by
      rw [hheader, ← hlen, Int.toNat_natCast]
    unfold Image.decoded
    rw [hcount, hbytes, Instruction.decode_encodeAll hfits]
  obtain ⟨targets, htargets⟩ : ∃ targets, image.jumpTargets = .ok targets := by
    rw [Image.jumpTargets_ok_iff hin, hheader]
    exact h.jumps
  have hwalk : (Walk.run image image.decoded.instructions { tables := {} }).2 = none := by
    rw [hdecoded, Walk.run_fault_iff]
    intro k s hs
    rw [hin.size_data, hheader]
    exact hswitch k s hs
  obtain ⟨s, hs⟩ := prepare_ok hd htargets (by rw [hdecoded]) hwalk c
  refine ⟨s.state, s.console, ?_⟩
  unfold load
  rw [himage]
  dsimp only
  rw [hs]

/-- In a directory without annotations, a program is loaded from a file exactly when the file is a
well-formed image of one of the two versions. -/
theorem load_ok_iff {d : Directory} (hd : d.Unannotated) (file : ByteArray) (c : Console) :
    (∃ p c', load d none file c = (.ok p, c')) ↔ ∃ v, WellFormed v file.data.toList := by
  constructor
  · rintro ⟨p, c', h⟩
    exact ⟨_, wellFormed_of_loaded (load_eq_ok h)⟩
  · rintro ⟨v, h⟩
    exact load_of_wellFormed hd h c

/-- a function with a switch over two cases -/
def switchingCode : List Instruction :=
  [⟨.enter, 24⟩, ⟨.localAddr, 16⟩, ⟨.load4, 0⟩, ⟨.const, 0⟩, ⟨.lti, 17⟩, ⟨.localAddr, 16⟩, ⟨.load4, 0⟩, ⟨.const, 1⟩,
    ⟨.gti, 17⟩, ⟨.localAddr, 16⟩, ⟨.load4, 0⟩, ⟨.const, 2⟩, ⟨.lsh, 0⟩, ⟨.const, 0⟩, ⟨.add, 0⟩, ⟨.load4, 0⟩,
    ⟨.jump, 0⟩, ⟨.leave, 24⟩]

/-- the table of the switch needs eight bytes; four zero bytes follow the data -/
theorem load_ok_switching :
    bare.Unannotated ∧ (∃ v, WellFormed v (fileOf switchingCode [17, 0, 0, 0] []).data.toList) ∧
      ¬ ∃ v, WellFormed v (fileOf switchingCode [17, 0] []).data.toList := by
  have hbare : bare.Unannotated := ⟨by decide +kernel, by decide +kernel⟩
  refine ⟨hbare, ?_, ?_⟩
  · rw [← load_ok_iff hbare _ {}]
    obtain ⟨p, c, hl, -⟩ := exists_of_loadsWith bare (fileOf switchingCode [17, 0, 0, 0] []) (fun _ => true)
      (by decide +kernel)
    exact ⟨p, c, hl⟩
  · rw [← load_ok_iff hbare _ {}]
    rintro ⟨p, c, hl⟩
    have hload : loadsWith bare (fileOf switchingCode [17, 0] []) (fun _ => true) = false := by decide +kernel
    unfold loadsWith at hload
    rw [hl] at hload
    cases hload

end Program
end Disasm
