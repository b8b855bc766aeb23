import Mathlib
import Disasm.Command.Join
import Disasm.Proofs.Directory
import Disasm.Proofs.Program
import Disasm.Proofs.Text.Numeral

/-!
# Putting together what was taken apart

The two commands meet at `HoldsParts`, a directory with the parts of an image.

* `writeParts_ok`  taking an image apart makes such a directory;
* `countTo_encodeAll`  counting instructions ends at the end of their bytes;
* `join_ok`  from such a directory an image is put together, `joined` says which;
* `joined_eq`  it is the image that was taken apart, if nothing but zero bytes stands between its parts.
-/

namespace Disasm.Command

open Disasm.Action Disasm.Directory

/-- the directory holds the parts of an image: its header and the bytes of its segments -/
structure HoldsParts (d : Directory) (h : Header) (code data lit jumps : List UInt8) : Prop where
  header : d.contents? headerFile = some (headerFileText h).toUTF8.toList
  code : d.contents? codeFile = some code
  data : d.contents? dataFile = some data
  lit : d.contents? litFile = some lit
  jumps : h.version = .two → d.contents? jumpFile = some jumps

/-- the files that an image is put together from -/
def partFiles (v : Version) : List String :=
  [headerFile, codeFile, dataFile, litFile] ++ if v = .two then [jumpFile] else []

theorem HoldsParts.of_same {d e : Directory} {h : Header} {code data lit jumps : List UInt8}
    (hd : HoldsParts d h code data lit jumps)
    (same : ∀ f ∈ partFiles h.version, e.bytes? f = d.bytes? f) :
    HoldsParts e h code data lit jumps := by
  have hc : ∀ f ∈ partFiles h.version, e.contents? f = d.contents? f := fun f hf => by
    unfold contents?
    rw [same f hf]
  constructor
  · rw [hc _ (by simp [partFiles]), hd.header]
  · rw [hc _ (by simp [partFiles]), hd.code]
  · rw [hc _ (by simp [partFiles]), hd.data]
  · rw [hc _ (by simp [partFiles]), hd.lit]
  · intro hv
    rw [hc _ (by simp [partFiles, hv]), hd.jumps hv]

/-! ## taking apart -/

/-- a file name that leads through no directory -/
def IsPlainName (name : String) : Prop :=
  lastPart name ≠ "" ∧ (Text.splitOn '/' name).length = 1

instance (name : String) : Decidable (IsPlainName name) := inferInstanceAs (Decidable (_ ∧ _))

theorem IsPlainName.create {name : String} (h : IsPlainName name) (d : Directory) :
    d.create name = .ok (d.write name ByteArray.empty) := by
  unfold Directory.create
  rw [if_neg (by simpa using h.1), if_pos (by simp [h.2])]

/-- writes several files, one after the other -/
def writeFiles : List (String × List UInt8) → Work Unit
  | [] => pure ()
  | f :: fs => do
    writeFile f.1 f.2
    writeFiles fs

/-- files of different names hold what was written to them -/
theorem writeFiles_ok (c : Console) (fs : List (String × List UInt8))
    (hp : ∀ f ∈ fs, IsPlainName f.1) (hn : (fs.map fun f => path f.1).Nodup) (d : Directory) :
    ∃ e, writeFiles fs ⟨d, c⟩ = .ok () ⟨e, c⟩ ∧ (∀ f ∈ fs, e.contents? f.1 = some f.2) ∧
      ∀ other, path other ∉ fs.map (fun f => path f.1) → e.contents? other = d.contents? other := by
  induction fs generalizing d with
  | nil => exact ⟨d, rfl, List.forall_mem_nil _, fun _ _ => rfl⟩
  | cons f fs ih =>
    rw [List.map_cons, List.nodup_cons] at hn
    have hc := (hp f List.mem_cons_self).create d
    obtain ⟨e, hw, hin, hout⟩ :=
      ih (fun g hg => hp g (List.mem_cons_of_mem f hg)) hn.2
        ((d.write f.1 ByteArray.empty).append f.1 f.2)
    refine ⟨e, ?_, ?_, ?_⟩
    · rw [writeFiles, bind_of_ok (writeFile_ok f.2 c hc), hw]
    · intro g hg
      rcases List.mem_cons.1 hg with rfl | hg
      · rw [hout g.1 hn.1, contents?_written hc, if_pos rfl]
      · exact hin g hg
    · intro other ho
      rw [List.map_cons, List.mem_cons, not_or] at ho
      rw [hout other ho.2, contents?_written hc, if_neg ho.1]

/-- the parts of a program's image with the names of their files -/
def parts (p : Program) : List (String × List UInt8) :=
  [(headerFile, (headerFileText p.header).toUTF8.toList), (codeFile, p.codeBytes),
    (paddedCodeFile, segmentBytes p.image.code p.header.codeLength),
    (dataFile, segmentBytes p.image.data p.header.dataLength),
    (litFile, segmentBytes p.image.lit p.header.litLength)] ++
  if p.header.version = .two then [(jumpFile, segmentBytes p.image.jumps p.header.jumpLength)] else []

theorem writeParts_eq {p : Program} (hp : p.image.copied.fault = none) : writeParts p = writeFiles (parts p) := by
  unfold writeParts writeCode parts
  rw [hp]
  cases p.header.version with
  | one => rfl
  | two => simp [writeFiles]

/-- the names of all parts, with and without a jump table -/
theorem names_parts (p : Program) :
    (parts p).map Prod.fst = [headerFile, codeFile, paddedCodeFile, dataFile, litFile] ++
      if p.header.version = .two then [jumpFile] else [] := by
  unfold parts
  cases p.header.version <;> rfl

theorem writeParts_ok {p : Program} (hcopied : p.image.copied.fault = none) (d : Directory) (c : Console) :
    ∃ e, writeParts p ⟨d, c⟩ = .ok () ⟨e, c⟩ ∧
      HoldsParts e p.header p.codeBytes (segmentBytes p.image.data p.header.dataLength)
        (segmentBytes p.image.lit p.header.litLength)
        (segmentBytes p.image.jumps p.header.jumpLength) := by
  have hp : ∀ f ∈ parts p, IsPlainName f.1 := by
    have hall : ∀ n ∈ (parts p).map Prod.fst, IsPlainName n := by
      rw [names_parts]
      cases p.header.version <;> decide
    exact fun f hf => hall f.1 (List.mem_map_of_mem hf)
  have hn : ((parts p).map fun f => path f.1).Nodup := by
    have hall : (((parts p).map Prod.fst).map path).Nodup := by
      rw [names_parts]
      cases p.header.version <;> decide
    rwa [List.map_map] at hall
  obtain ⟨e, hw, hin, -⟩ := writeFiles_ok c (parts p) hp hn d
  refine ⟨e, by rw [writeParts_eq hcopied, hw], ?_, ?_, ?_, ?_, fun hv => ?_⟩
  · exact hin (headerFile, _) (.head _)
  · exact hin (codeFile, _) (.tail _ (.head _))
  · exact hin (dataFile, _) (.tail _ (.tail _ (.tail _ (.head _))))
  · exact hin (litFile, _) (.tail _ (.tail _ (.tail _ (.tail _ (.head _)))))
  · exact hin (jumpFile, _) (List.mem_append_right _ (by rw [if_pos hv]; exact .head _))

/-- a file with a program that can be loaded is taken apart -/
theorem split_ok {d : Directory} {file : String} {img : ByteArray} {c c' : Console} {p : Program}
    (hf : d.bytes file = .ok img) (hl : Program.load d none img c = (.ok p, c'))
    (name : String) (args : List String) :
    ∃ s, split name (file :: args) ⟨d, c⟩ = .ok () s ∧
      HoldsParts s.state p.header p.codeBytes (segmentBytes p.image.data p.header.dataLength)
        (segmentBytes p.image.lit p.header.litLength)
        (segmentBytes p.image.jumps p.header.jumpLength) := by
  have ho : openProgram file none ⟨d, c⟩ = .ok p ⟨d, c'⟩ := by
    unfold openProgram
    simp only [hf, hl]
  have hcopied : p.image.copied.fault = none := by rw [Image.copied_eq (Program.load_eq_ok hl).decoded_ok]
  obtain ⟨e, hw, hh⟩ := writeParts_ok hcopied d (c'.print (Listing.headerText p.header))
  refine ⟨⟨e, c'.print (Listing.headerText p.header)⟩, ?_, hh⟩
  have hprint : Action.print (Listing.headerText p.header) (⟨d, c'⟩ : Session Directory) =
      .ok () ⟨d, c'.print (Listing.headerText p.header)⟩ := rfl
  show (openProgram file none >>= _) (⟨d, c⟩ : Session Directory) = _
  rw [bind_of_ok ho, bind_of_ok hprint, hw]

/-! ## the text of the header -/

theorem getLast?_words_line (name : String) (n : Int) :
    (Text.words (name ++ ": " ++ toString n ++ "\n")).getLast? = some (toString n) := by
  have hl : (name ++ ": " ++ toString n ++ "\n").toList =
      (name.toList ++ [':']) ++ ' ' :: ((toString n).toList ++ '\n' :: []) := by
    simp [String.toList_append]
  unfold Text.words
  rw [hl, Text.wordsOf_append _ _ (by decide),
    Text.wordsOf_word_append (Text.isWord_toString n) (by decide), Text.wordsOf_nil,
    List.getLast?_map, List.getLast?_concat, Option.map_some, String.ofList_toList]

/-- a field that stands on a line is read from it -/
theorem lineNumber_ok {lines : List String} {i : Nat} {name : String} {n : Int}
    (h : lines[i]? = some (name ++ ": " ++ toString n ++ "\n")) (s : Session Directory) :
    lineNumber lines i s = .ok n s := by
  unfold lineNumber
  rw [h, bind_of_ok (show Action.ofOption Fault.outOfBounds (some _) s = .ok _ s from rfl),
    getLast?_words_line, bind_of_ok (show Action.ofOption Fault.outOfBounds (some _) s = .ok _ s from rfl),
    Text.readInt?_toString]
  rfl

theorem names_headerFields (h : Header) :
    (headerFields h).map Prod.fst = ["magic", "instruction count", "code segment offset",
      "code segment length", "data segment offset", "data segment length", "lit segment length",
      "bss segment length"] ++ if h.version = .two then ["jump table length"] else [] := by
  unfold headerFields
  cases h.version <;> rfl

theorem lines_headerFileText (h : Header) :
    Text.lines (headerFileText h) =
      (headerFields h).map fun f => f.1 ++ ": " ++ toString f.2 ++ "\n" := by
  have hu : ∀ n ∈ (headerFields h).map Prod.fst, Text.Unbroken (n ++ ": ") := by
    rw [names_headerFields]
    cases h.version <;> decide
  have hl := Text.lines_join ((headerFields h).map fun f => f.1 ++ ": " ++ toString f.2) (by
    intro l hl
    obtain ⟨f, hf, rfl⟩ := List.mem_map.1 hl
    exact Text.unbroken_append (hu _ (List.mem_map_of_mem hf)) (Text.isWord_toString f.2).unbroken)
  rwa [List.map_map] at hl

theorem return_not_mem_headerFileText (h : Header) : '\r' ∉ (headerFileText h).toList := by
  have hu : ∀ n ∈ (headerFields h).map Prod.fst, '\r' ∉ (n ++ ": ").toList := by
    rw [names_headerFields]
    cases h.version <;> decide
  unfold headerFileText
  rw [String.toList_join, List.mem_flatMap]
  rintro ⟨l, hl, hr⟩
  obtain ⟨f, hf, rfl⟩ := List.mem_map.1 hl
  rw [String.toList_append, String.toList_append, List.mem_append, List.mem_append] at hr
  rcases hr with (hr | hr) | hr
  · exact hu _ (List.mem_map_of_mem hf) hr
  · exact absurd (Text.isGraphic_toString f.2 _ hr) (by decide)
  · exact absurd hr (by decide)

/-- the header as it is put together, but for the number of instructions -/
def JoinHeader.of (h : Header) : JoinHeader where
  magic := h.version.magic
  codeOffset := h.codeOffset
  codeLength := h.codeLength
  dataOffset := h.dataOffset
  dataLength := h.dataLength
  litLength := h.litLength
  bssLength := h.bssLength
  jumpLength := if h.version = .two then some h.jumpLength else none

theorem JoinHeader.words_of {h : Header} {n : Nat} (hn : (n : Int) = h.instructionCount) :
    (JoinHeader.of h).words n = h.words := by
  unfold JoinHeader.words Header.words JoinHeader.of
  rw [hn]
  cases h.version <;> rfl

theorem JoinHeader.read_ok (h : Header) (s : Session Directory) :
    JoinHeader.read (Text.lines (headerFileText h)) s = .ok (JoinHeader.of h) s := by
  rw [lines_headerFileText]
  unfold JoinHeader.read
  rw [bind_of_ok (lineNumber_ok (i := 0) (n := h.version.magic) rfl s),
    bind_of_ok (lineNumber_ok (i := 2) (n := h.codeOffset) rfl s),
    bind_of_ok (lineNumber_ok (i := 3) (n := h.codeLength) rfl s),
    bind_of_ok (lineNumber_ok (i := 4) (n := h.dataOffset) rfl s),
    bind_of_ok (lineNumber_ok (i := 5) (n := h.dataLength) rfl s),
    bind_of_ok (lineNumber_ok (i := 6) (n := h.litLength) rfl s),
    bind_of_ok (lineNumber_ok (i := 7) (n := h.bssLength) rfl s)]
  cases hv : h.version with
  | one =>
    unfold JoinHeader.of
    rw [hv]
    rfl
  | two =>
    have hl : ((headerFields h).map fun f => f.1 ++ ": " ++ toString f.2 ++ "\n")[8]? =
        some ("jump table length" ++ ": " ++ toString h.jumpLength ++ "\n") := by
      unfold headerFields
      rw [hv]
      rfl
    show ((some <$> lineNumber _ 8) >>= _) s = _
    rw [bind_of_ok (show (some <$> lineNumber _ 8) s = .ok (some h.jumpLength) s from by
      show EStateM.map some (lineNumber _ 8) s = _
      unfold EStateM.map
      rw [lineNumber_ok hl s])]
    unfold JoinHeader.of
    rw [hv]
    rfl

/-! ## putting together -/

/-- the number of instructions in some bytes, and the place at which counting them ends; a parameter that lacks bytes
leads beyond the last one -/
def countTo : List UInt8 → Except Fault (Nat × Nat)
  | [] => .ok (0, 0)
  | b :: rest =>
    match Opcode.ofCode? b.toNat with
    | none => .error .outOfBounds
    | some op => (countTo (rest.drop op.width)).map fun r => (r.1 + 1, 1 + op.width + r.2)
termination_by bytes => bytes.length
decreasing_by rw [List.length_drop, List.length_cons]; omega

/-- the number is the one that is counted without the place -/
theorem countTo_count (bytes : List UInt8) : (countTo bytes).map Prod.fst = countInstructions bytes := by
  induction bytes using countTo.induct with
  | case1 =>
    rw [countTo, countInstructions]
    rfl
  | case2 b rest hop =>
    rw [countTo, countInstructions, hop]
    rfl
  | case3 b rest op hop ih =>
    rw [countTo, countInstructions, hop]
    dsimp only
    rw [← ih]
    cases countTo (rest.drop op.width) with
    | ok r => rfl
    | error f => rfl

/-- instructions are counted up to the end of their bytes -/
theorem countTo_encodeAll (is : List Instruction) :
    countTo (Instruction.encodeAll is) = .ok (is.length, (Instruction.encodeAll is).length) := by
  induction is with
  | nil =>
    rw [show Instruction.encodeAll [] = [] from rfl, countTo]
    rfl
  | cons i is ih =>
    have hdrop : (i.parmBytes ++ Instruction.encodeAll is).drop i.op.width = Instruction.encodeAll is := by
      rw [← Instruction.length_parmBytes, List.drop_left]
    rw [Instruction.encodeAll_cons]
    unfold Instruction.encode
    rw [List.cons_append, countTo, Opcode.toNat_code, Opcode.ofCode?_code]
    dsimp only
    rw [hdrop, ih, List.length_cons, List.length_cons, List.length_append, Instruction.length_parmBytes]
    show Except.ok (is.length + 1, 1 + i.op.width + (Instruction.encodeAll is).length) = _
    rw [show 1 + i.op.width + (Instruction.encodeAll is).length = i.op.width + (Instruction.encodeAll is).length + 1 by omega]

/-- the instructions of some code are counted anew -/
theorem countInstructions_encodeAll (is : List Instruction) :
    countInstructions (Instruction.encodeAll is) = .ok is.length := by
  rw [← countTo_count, countTo_encodeAll]
  rfl

theorem appendWords_ok (c : Console) (name : String) (ws : List Int)
    (hw : ∀ n ∈ ws, -2 ^ 31 ≤ n ∧ n < 2 ^ 31) {d : Directory} {old : List UInt8}
    (ho : d.contents? name = some old) :
    ∃ e, appendWords name ws ⟨d, c⟩ = .ok () ⟨e, c⟩ ∧
      e.contents? name = some (old ++ ws.flatMap Instruction.wordBytes) := by
  induction ws generalizing d old with
  | nil => exact ⟨d, rfl, by rw [ho, List.flatMap_nil, List.append_nil]⟩
  | cons n ws ih =>
    have hn := hw n List.mem_cons_self
    have ho' : (d.append name (Instruction.wordBytes n)).contents? name =
        some (old ++ Instruction.wordBytes n) := by
      rw [contents?_append, if_pos rfl, ho]
      rfl
    obtain ⟨e, he, hc⟩ := ih (fun m hm => hw m (List.mem_cons_of_mem n hm)) ho'
    refine ⟨e, ?_, by rw [hc, List.flatMap_cons, List.append_assoc]⟩
    unfold appendWords
    rw [if_neg (by simp; omega)]
    exact he

theorem appendAt_ok (c : Console) (name field : String) (offset : Int) (bs : List UInt8)
    {d : Directory} {old : List UInt8} (ho : d.contents? name = some old)
    (hl : (old.length : Int) ≤ offset) :
    ∃ e, appendAt name field offset bs ⟨d, c⟩ = .ok () ⟨e, c⟩ ∧
      e.contents? name = some (old ++ (List.replicate (offset.toNat - old.length) 0 ++ bs)) := by
  obtain ⟨data, hd, rfl⟩ := Option.map_eq_some_iff.1 ho
  rw [length_toList_byteArray] at hl ⊢
  refine ⟨_, ?_, by rw [contents?_append, if_pos rfl, ho, Option.getD_some]⟩
  unfold appendAt
  rw [bind_of_ok (show Action.read (⟨d, c⟩ : Session Directory) = .ok d ⟨d, c⟩ from rfl), hd]
  dsimp only [Option.map_some, Option.getD_some]
  rw [if_neg (by omega)]
  rfl

/-- the bytes that are put together from the parts of an image -/
def joined (h : Header) (code data lit jumps : List UInt8) : List UInt8 :=
  let head := h.words.flatMap Instruction.wordBytes
  let front := head ++ (List.replicate (h.codeOffset.toNat - head.length) 0 ++ code)
  front ++ (List.replicate (h.dataOffset.toNat - front.length) 0 ++ data) ++
    (lit ++ if h.version = .two then jumps else [])

/-- the files are read before any is written, so that even one of the parts may be written over -/
theorem join_ok {d e : Directory} {h : Header} {code data lit jumps : List UInt8} {n : Nat}
    {out : String} (hp : HoldsParts d h code data lit jumps) (hc : countInstructions code = .ok n)
    (hn : (n : Int) = h.instructionCount) (hb : ∀ m ∈ h.words, -2 ^ 31 ≤ m ∧ m < 2 ^ 31)
    (hcode : (h.size : Int) ≤ h.codeOffset)
    (hdata : h.codeOffset + code.length ≤ h.dataOffset) (ho : d.create out = .ok e) (c : Console)
    (name : String) (args : List String) :
    ∃ t, join name (out :: args) ⟨d, c⟩ = .ok () t ∧
      t.state.contents? out = some (joined h code data lit jumps) := by
  have hjumps : ∀ f : List UInt8 → Work Unit,
      (if (JoinHeader.of h).jumpLength.isSome then fileBytes jumpFile >>= f else pure [] >>= f) ⟨d, c⟩ =
        f (if h.version = .two then jumps else []) ⟨d, c⟩ := by
    intro f
    unfold JoinHeader.of
    cases hv : h.version with
    | one => rfl
    | two => exact bind_of_ok (fileBytes_ok c (hp.jumps hv))
  obtain ⟨d1, r1, k1⟩ := appendWords_ok c out ((JoinHeader.of h).words n)
    (by rwa [JoinHeader.words_of hn])
    (show (e.append out []).contents? out = some [] by rw [contents?_written ho, if_pos rfl])
  rw [JoinHeader.words_of hn, List.nil_append] at k1
  obtain ⟨d2, r2, k2⟩ := appendAt_ok c out "codeSegOffset" h.codeOffset code k1
    (by rw [Header.length_words]; exact hcode)
  obtain ⟨d3, r3, k3⟩ := appendAt_ok c out "dataSegOffset" h.dataOffset data k2 (by
      rw [List.length_append, List.length_append, List.length_replicate, Header.length_words]
      omega)
  refine ⟨⟨d3.append out (lit ++ if h.version = .two then jumps else []), c⟩, ?_, ?_⟩
  · show (fileLines headerFile >>= _) (⟨d, c⟩ : Session Directory) = _
    rw [bind_of_ok (fileLines_ok c hp.header (return_not_mem_headerFileText h)),
      bind_of_ok (JoinHeader.read_ok h _), bind_of_ok (fileBytes_ok c hp.code), hc,
      bind_of_ok (show Action.ofExcept (Except.ok n) (⟨d, c⟩ : Session Directory) = .ok n _ from rfl),
      bind_of_ok (fileBytes_ok c hp.data), bind_of_ok (fileBytes_ok c hp.lit)]
    refine (hjumps _).trans ?_
    refine (bind_of_ok (writeFile_ok [] c ho)).trans ?_
    refine (bind_of_ok r1).trans ?_
    refine (bind_of_ok r2).trans ?_
    exact bind_of_ok r3
  · show (d3.append out _).contents? out = _
    rw [contents?_append, if_pos rfl, k3]
    rfl

/-! ## the bytes of the image -/

/-- all bytes of `bs` from `i` on and before `j` are zero -/
def ZeroBetween (bs : List UInt8) (i j : Int) : Prop := ∀ b ∈ (bs.take j.toNat).drop i.toNat, b = 0

instance (bs : List UInt8) (i j : Int) : Decidable (ZeroBetween bs i j) :=
  inferInstanceAs (Decidable (∀ b ∈ _, _))

theorem drop_eq_cut (bs : List UInt8) {i j : Nat} (h : i ≤ j) :
    bs.drop i = (bs.drop i).take (j - i) ++ bs.drop j := by
  have hd : (bs.drop i).drop (j - i) = bs.drop j := by rw [List.drop_drop]; congr 1; omega
  rw [← hd, List.take_append_drop]

theorem cut_eq_zeros {bs : List UInt8} {i j : Nat} (hj : j ≤ bs.length) (h : ZeroBetween bs i j) :
    (bs.drop i).take (j - i) = List.replicate (j - i) 0 := by
  unfold ZeroBetween at h
  rw [Int.toNat_natCast, Int.toNat_natCast, List.drop_take] at h
  exact List.eq_replicate_iff.2 ⟨by rw [List.length_take, List.length_drop]; omega, h⟩

/-- a segment that is in the file is given back without the zero bytes behind it -/
theorem segmentBytes_eq {seg : Array UInt8} {bs : List UInt8} {offset : Nat} {length : Int} {k : Nat}
    (h : seg.toList = (bs.drop offset).take length.toNat ++ List.replicate k 0)
    (hl : offset + length.toNat ≤ bs.length) :
    segmentBytes seg length = (bs.drop offset).take length.toNat := by
  unfold segmentBytes
  rw [h, List.take_left' (by rw [List.length_take, List.length_drop]; omega)]

/-- the bytes of the instructions stand where the code starts -/
theorem codeBytes_eq {p : Program} {img : ByteArray} (hp : p.Loaded img)
    (hcode : (p.codeBytes.length : Int) ≤ p.header.codeLength)
    (hl : p.header.codeOffset.toNat + p.codeBytes.length ≤ img.data.toList.length) :
    p.codeBytes = (img.data.toList.drop p.header.codeOffset.toNat).take p.codeBytes.length := by
  have hc := hp.isIn.code_eq
  rw [p.code_eq, ← hp.codeBytes_eq] at hc
  have ht := congrArg (List.take p.codeBytes.length) hc
  rw [List.take_left, List.take_append_of_le_length, List.take_take, Nat.min_eq_left] at ht
  · exact ht
  · show _ ≤ p.header.codeLength.toNat
    omega
  · rw [List.length_take, List.length_drop]
    show _ ≤ min p.header.codeLength.toNat (_ - p.header.codeOffset.toNat)
    omega

/-- in a file that is no longer than its header says, the segments stand one behind the other -/
theorem drop_dataOffset {p : Program} {img : ByteArray} (hp : p.Loaded img)
    (hsize : (img.size : Int) = p.header.dataOffset + p.header.dataLength + p.header.litLength +
      p.header.jumpLength) :
    img.data.toList.drop p.header.dataOffset.toNat =
      segmentBytes p.image.data p.header.dataLength ++
        (segmentBytes p.image.lit p.header.litLength ++
          if p.header.version = .two then segmentBytes p.image.jumps p.header.jumpLength else []) := by
  have hin := hp.isIn
  obtain ⟨-, -, -, hdo, hdl, hll, -, hjl⟩ := Header.fields_nonneg hin.nonneg
  have hlen : img.data.toList.length = img.size := rfl
  have hlo : p.image.header.litOffset.toNat =
      p.image.header.dataOffset.toNat + p.image.header.dataLength.toNat := by
    unfold Header.litOffset
    omega
  have hlit : p.image.lit.size - 4 = p.image.header.litLength.toNat := by
    rw [← Array.length_toList, hin.lit_eq, List.length_append, List.length_take, List.length_drop,
      List.length_replicate, hlo]
    unfold Program.header at hsize
    omega
  unfold Program.header at *
  have hd := drop_eq_cut img.data.toList
    (Nat.le_add_right p.image.header.dataOffset.toNat p.image.header.dataLength.toNat)
  have hl := drop_eq_cut img.data.toList
    (Nat.le_add_right p.image.header.litOffset.toNat p.image.header.litLength.toNat)
  have hj : img.data.toList.drop (p.image.header.litOffset.toNat + p.image.header.litLength.toNat) =
      if p.image.header.version = .two then segmentBytes p.image.jumps p.image.header.jumpLength
      else [] := by
    cases hv : p.image.header.version with
    | one =>
      have := hin.jumpLength_one hv
      rw [if_neg (by decide), List.drop_eq_nil_of_le (by omega)]
    | two =>
      unfold segmentBytes
      rw [if_pos rfl, hin.jumps_eq hv, hlit, List.take_take, Nat.min_self,
        List.take_of_length_le (by rw [List.length_drop]; omega)]
  rw [Nat.add_sub_cancel_left, ← hlo] at hd
  rw [Nat.add_sub_cancel_left, hj] at hl
  rw [segmentBytes_eq hin.data_eq (by omega), segmentBytes_eq hin.lit_eq (by omega), ← hl, ← hd]

/-- the parts of the image of `p` stand one behind the other in the file `img`, with nothing but zero
bytes between them, and nothing follows them -/
structure Packed (img : ByteArray) (p : Program) : Prop where
  header_le : (p.header.size : Int) ≤ p.header.codeOffset
  code_le : (p.codeBytes.length : Int) ≤ p.header.codeLength
  code_le_data : p.header.codeOffset + p.codeBytes.length ≤ p.header.dataOffset
  front_zero : ZeroBetween img.data.toList p.header.size p.header.codeOffset
  gap_zero : ZeroBetween img.data.toList (p.header.codeOffset + p.codeBytes.length) p.header.dataOffset
  size_eq : (img.size : Int) =
    p.header.dataOffset + p.header.dataLength + p.header.litLength + p.header.jumpLength

instance (img : ByteArray) (p : Program) : Decidable (Packed img p) :=
  decidable_of_iff
    ((p.header.size : Int) ≤ p.header.codeOffset ∧
      (p.codeBytes.length : Int) ≤ p.header.codeLength ∧
      p.header.codeOffset + p.codeBytes.length ≤ p.header.dataOffset ∧
      ZeroBetween img.data.toList p.header.size p.header.codeOffset ∧
      ZeroBetween img.data.toList (p.header.codeOffset + p.codeBytes.length) p.header.dataOffset ∧
      (img.size : Int) =
        p.header.dataOffset + p.header.dataLength + p.header.litLength + p.header.jumpLength)
    ⟨fun ⟨h1, h2, h3, h4, h5, h6⟩ => ⟨h1, h2, h3, h4, h5, h6⟩,
      fun ⟨h1, h2, h3, h4, h5, h6⟩ => ⟨h1, h2, h3, h4, h5, h6⟩⟩

/-- the parts of a packed image are put together to the image -/
theorem joined_eq {p : Program} {img : ByteArray} (hp : p.Loaded img) (hpack : Packed img p) :
    joined p.header p.codeBytes (segmentBytes p.image.data p.header.dataLength)
      (segmentBytes p.image.lit p.header.litLength)
      (segmentBytes p.image.jumps p.header.jumpLength) = img.data.toList := by
  obtain ⟨hhead, hcode, hfit, hfront, hgap, hsize⟩ := hpack
  have hin := hp.isIn
  obtain ⟨-, hco, -, hdo, hdl, hll, -, hjl⟩ := Header.fields_nonneg hin.nonneg
  have hlen : img.data.toList.length = img.size := rfl
  unfold Program.header at *
  have hc := codeBytes_eq hp hcode (by unfold Program.header; omega)
  unfold Program.header at hc
  have hhead' : p.image.header.size ≤ p.image.header.codeOffset.toNat := by omega
  have hfit' : p.image.header.codeOffset.toNat + p.codeBytes.length ≤
      p.image.header.dataOffset.toNat := by omega
  have hz : (img.data.toList.drop p.image.header.size).take
      (p.image.header.codeOffset.toNat - p.image.header.size) = List.replicate _ 0 :=
    cut_eq_zeros (by omega) (by rwa [Int.toNat_of_nonneg hco])
  have hz' : (img.data.toList.drop (p.image.header.codeOffset.toNat + p.codeBytes.length)).take
      (p.image.header.dataOffset.toNat - (p.image.header.codeOffset.toNat + p.codeBytes.length)) =
      List.replicate _ 0 :=
    cut_eq_zeros (by omega) (by rwa [Int.toNat_of_nonneg hdo, Nat.cast_add, Int.toNat_of_nonneg hco])
  have hl : (p.image.header.words.flatMap Instruction.wordBytes ++ (List.replicate
      (p.image.header.codeOffset.toNat - p.image.header.size) 0 ++ p.codeBytes)).length =
      p.image.header.codeOffset.toNat + p.codeBytes.length := by
    rw [List.length_append, List.length_append, List.length_replicate, Header.length_words]
    omega
  have hd := drop_dataOffset hp hsize
  unfold Program.header at hd
  symm
  calc img.data.toList
      = p.image.header.words.flatMap Instruction.wordBytes ++
          img.data.toList.drop p.image.header.size := hin.header_eq
    _ = p.image.header.words.flatMap Instruction.wordBytes ++
          (List.replicate (p.image.header.codeOffset.toNat - p.image.header.size) 0 ++
            (p.codeBytes ++
              img.data.toList.drop (p.image.header.codeOffset.toNat + p.codeBytes.length))) := by
        rw [drop_eq_cut _ hhead', hz]
        congr 2
        rw [drop_eq_cut _ (Nat.le_add_right p.image.header.codeOffset.toNat p.codeBytes.length),
          Nat.add_sub_cancel_left, ← hc]
    _ = _ := by
        rw [drop_eq_cut _ hfit', hz', hd]
        unfold joined
        dsimp only
        rw [Header.length_words, hl]
        simp only [List.append_assoc]

/-- Taking a packed image apart and putting it together again gives the same bytes, in whatever
directory the parts are; and the instructions are counted anew to the number in the header. -/
theorem join_split {d : Directory} {file : String} {img : ByteArray} {c c' : Console} {p : Program}
    (hf : d.bytes file = .ok img) (hl : Program.load d none img c = (.ok p, c'))
    (hpack : Packed img p) (name : String) (args : List String) :
    ∃ s, split name (file :: args) ⟨d, c⟩ = .ok () s ∧
      (∃ code n, s.state.bytes codeFile = .ok code ∧ countInstructions code.toList = .ok n ∧
        (n : Int) = p.header.instructionCount) ∧
      ∀ (d' e : Directory) (c' : Console) (name' out : String) (args' : List String),
        (∀ part ∈ partFiles p.header.version, d'.bytes? part = s.state.bytes? part) →
        d'.create out = .ok e →
        ∃ t, join name' (out :: args') ⟨d', c'⟩ = .ok () t ∧ t.state.bytes out = .ok img := by
  have hp := Program.load_eq_ok hl
  obtain ⟨s, hs, hparts⟩ := split_ok hf hl name args
  have hcount : countInstructions p.codeBytes = .ok p.header.instructionCount.toNat := by
    rw [← hp.length_instructions, hp.codeBytes_eq]
    exact countInstructions_encodeAll _
  have hn : (p.header.instructionCount.toNat : Int) = p.header.instructionCount :=
    Int.toNat_of_nonneg (Header.fields_nonneg hp.isIn.nonneg).1
  refine ⟨s, hs, ?_, ?_⟩
  · obtain ⟨code, hb, ht⟩ := bytes_of_contents hparts.code
    exact ⟨code, _, hb, by rw [ht, hcount], hn⟩
  · intro d' e c' name' out args' same ho
    obtain ⟨t, ht, hout⟩ := join_ok (hparts.of_same same) hcount hn hp.isIn.words_bounds
      hpack.header_le hpack.code_le_data ho c' name' args'
    rw [joined_eq hp hpack] at hout
    obtain ⟨data, hb, hd⟩ := bytes_of_contents hout
    rw [← toList_byteArray] at hd
    exact ⟨t, ht, by rw [hb, toList_injective hd]⟩

/-- a function that stores a byte -/
def storeFile : ByteArray :=
  Program.fileOf [⟨.enter, 24⟩, ⟨.localAddr, 8⟩, ⟨.const, -7⟩, ⟨.store1, 0⟩, ⟨.leave, 24⟩]
    [1, 2, 3, 4] [72, 105, 0]

def storeDirectory : Directory := Program.bare.write "a.qvm" storeFile

theorem join_split_store :
    ∃ p c, Program.load storeDirectory none storeFile {} = (.ok p, c) ∧ Packed storeFile p ∧
      ∃ s t, split "split" ["a.qvm"] ⟨storeDirectory, {}⟩ = .ok () s ∧
        join "join" ["b.qvm"] ⟨s.state, {}⟩ = .ok () t ∧ t.state.bytes "b.qvm" = .ok storeFile := by
  obtain ⟨p, c, hl, hp⟩ := Program.exists_of_loadsWith storeDirectory storeFile
    (fun p => decide (Packed storeFile p)) (by decide +kernel)
  have hpack := of_decide_eq_true hp
  have hf : storeDirectory.bytes "a.qvm" = .ok storeFile := by decide +kernel
  obtain ⟨s, hs, -, hj⟩ := join_split hf hl hpack "split" []
  have hplain : IsPlainName "b.qvm" := by decide +kernel
  obtain ⟨t, ht, hb⟩ := hj s.state _ {} "join" "b.qvm" [] (fun _ _ => rfl) (hplain.create s.state)
  exact ⟨p, c, hl, hpack, s, t, hs, ht, hb⟩

end Disasm.Command
