import Mathlib
import Disasm.Listing.Segments
import Disasm.Proofs.Listing.Literal
import Disasm.Proofs.Listing.Lookup
import Disasm.Proofs.Listing.Parts

/-!
# The listings of data and literals

Without comments of the user, the listings of a file that holds its whole data and literals show these byte by byte.

* `DataRow`, `readDataRow?`  what a line of the data listing says, and reading it;
* `printDataRows_prints`  one row after the other shows four bytes after the other;
* `LitRow`, `Consecutive`, `readLitRow?`  the lines of the listing of literals, where they start, and reading them;
* `printLitRows_prints`  one row after the other shows what lies between two zero bytes;
* `segments_lossless`  both listings are printed to their ends, and the segments can be told from them.
-/

namespace Disasm

open Disasm.Action Disasm.Text

/-! ## comments -/

namespace CommentTable

/-- there is no comment -/
def Silent (t : CommentTable) : Prop := t.inline.isEmpty = true ∧ t.before.isEmpty = true ∧ t.after.isEmpty = true

instance (t : CommentTable) : Decidable t.Silent := inferInstanceAs (Decidable (_ ∧ _ ∧ _))

theorem Silent.blockText {t : CommentTable} (h : t.Silent) (addr : Int) (side : Side) : t.blockText addr side = "" := by
  obtain ⟨-, hbefore, hafter⟩ := h
  unfold CommentTable.blockText CommentTable.block?
  cases side with
  | before =>
    dsimp only
    rw [Std.TreeMap.getElem?_of_isEmpty hbefore]
    rfl
  | after =>
    dsimp only
    rw [Std.TreeMap.getElem?_of_isEmpty hafter]
    rfl

end CommentTable

namespace Listing

theorem inlineText_silent {p : Program} (h : p.annotations.data.Silent) (addr : Int) : inlineText p addr = "" := by
  unfold inlineText
  rw [Std.TreeMap.getElem?_of_isEmpty h.1]
  rfl

/-! ## addresses -/

/-- an address at the start of a line -/
theorem toList_addressText (n : Nat) : (addressText (n : Int)).toList = ("0x" ++ hex8 n).toList ++ [' ', ' '] := by
  unfold addressText
  rw [String.toList_append]
  rfl

theorem isWord_marked {s : String} (hd : ∀ c ∈ s.toList, IsDigitOf 16 c) : IsWord ("0x" ++ s).toList := by
  have hsplit : ("0x" ++ s).toList = '0' :: 'x' :: s.toList := by
    rw [String.toList_append]
    rfl
  rw [hsplit]
  refine ⟨List.cons_ne_nil _ _, ?_⟩
  rw [List.forall_mem_cons, List.forall_mem_cons]
  exact ⟨IsGraphic.not_blank (by decide), IsGraphic.not_blank (by decide), fun c hc => (hd c hc).isGraphic.not_blank⟩

theorem isWord_hex8 (n : Nat) : IsWord ("0x" ++ hex8 n).toList := isWord_marked (isDigitOf_hexPad 8 n)

theorem isWord_hexByte (b : UInt8) : IsWord (hexByte b).toList :=
  ⟨hexPad_ne_nil 2 b.toNat, fun c hc => (isDigitOf_hexPad 2 b.toNat c hc).isGraphic.not_blank⟩

/-! ## rows of data -/

/-- an address, the bytes from there on, and a number -/
structure DataRow where
  address : Nat
  bytes : List UInt8
  value : Nat
  deriving DecidableEq, Repr

namespace DataRow

/-- the number is the word that the bytes make, least significant byte first -/
def IsWord (row : DataRow) : Prop :=
  ∃ b0 b1 b2 b3, row.bytes = [b0, b1, b2, b3] ∧ row.value = wordValue b0 b1 b2 b3

/-- a row as the listing shows it -/
def line (p : Program) (row : DataRow) : String :=
  addressText row.address ++ (String.join (row.bytes.map fun b => " " ++ hexByte b) ++ "    0x" ++ hexDigits row.value) ++
    switchText p row.address

end DataRow

def readByte? (w : String) : Option UInt8 := (readInt? 16 w).map fun n => n.toNat.toUInt8

theorem readByte?_hexByte (b : UInt8) : readByte? (hexByte b) = some b := by
  unfold readByte? hexByte
  rw [readInt?_hexPad, Option.map_some, Int.toNat_natCast, Nat.toUInt8_eq, UInt8.ofNat_toNat]

/-- the row that a line shows; what follows the number plays no part -/
def readDataRow? (line : String) : Option DataRow :=
  match words line with
  | address :: b0 :: b1 :: b2 :: b3 :: value :: _ => do
    let bytes := [← readByte? b0, ← readByte? b1, ← readByte? b2, ← readByte? b3]
    return { address := (← readNumber? address).toNat, bytes, value := (← readNumber? value).toNat }
  | _ => none

theorem unbroken_switchText (p : Program) (addr : Int) : Unbroken (switchText p addr) := by
  unfold switchText
  split
  next sources _ =>
    refine unbroken_append (by decide) (unbroken_join fun s hs => ?_)
    obtain ⟨n, -, rfl⟩ := List.mem_map.1 hs
    exact unbroken_append (by decide) (unbroken_hex n)
  next => decide

/-- a blank follows the number -/
theorem switchText_blank (p : Program) (addr : Int) :
    ∃ c cs, (switchText p addr ++ "\n").toList = c :: cs ∧ isBlank c = true := by
  unfold switchText
  split
  next sources _ => exact ⟨' ', _, by rw [String.toList_append, String.toList_append]; rfl, by decide⟩
  next => exact ⟨'\n', [], rfl, by decide⟩

/-- the words of a line -/
theorem words_line (p : Program) (address value : Nat) (b0 b1 b2 b3 : UInt8) :
    ∃ more, words ((⟨address, [b0, b1, b2, b3], value⟩ : DataRow).line p ++ "\n") =
      ("0x" ++ hex8 address) :: hexByte b0 :: hexByte b1 :: hexByte b2 :: hexByte b3 :: ("0x" ++ hexDigits value) ::
        more := by
  obtain ⟨c, cs, htail, hc⟩ := switchText_blank p address
  have hblank : isBlank ' ' = true := by decide
  have hsplit : ((⟨address, [b0, b1, b2, b3], value⟩ : DataRow).line p ++ "\n").toList =
      ("0x" ++ hex8 address).toList ++ ' ' :: ' ' :: ' ' :: ((hexByte b0).toList ++ ' ' :: ((hexByte b1).toList ++
        ' ' :: ((hexByte b2).toList ++ ' ' :: ((hexByte b3).toList ++ ' ' :: ' ' :: ' ' :: ' ' ::
          (("0x" ++ hexDigits value).toList ++ c :: cs))))) := by
    rw [← htail]
    simp [DataRow.line, toList_addressText]
  refine ⟨(wordsOf cs).map String.ofList, ?_⟩
  unfold words
  rw [hsplit, wordsOf_word_append (isWord_hex8 address) hblank, wordsOf_cons_blank hblank,
    wordsOf_cons_blank hblank, wordsOf_word_append (isWord_hexByte b0) hblank, wordsOf_word_append (isWord_hexByte b1) hblank,
    wordsOf_word_append (isWord_hexByte b2) hblank, wordsOf_word_append (isWord_hexByte b3) hblank,
    wordsOf_cons_blank hblank, wordsOf_cons_blank hblank, wordsOf_cons_blank hblank,
    wordsOf_word_append (isWord_marked (isDigitOf_hexDigits value)) hc]
  simp only [List.map_cons, String.ofList_toList]

/-- a row is read from its line -/
theorem readDataRow?_line (p : Program) {row : DataRow} (hrow : row.IsWord) :
    readDataRow? (row.line p ++ "\n") = some row := by
  obtain ⟨address, bytes, value⟩ := row
  obtain ⟨b0, b1, b2, b3, hbytes, -⟩ := hrow
  dsimp only at hbytes
  subst hbytes
  obtain ⟨more, hwords⟩ := words_line p address value b0 b1 b2 b3
  unfold readDataRow?
  rw [hwords]
  dsimp only
  unfold hex8
  rw [readByte?_hexByte, readByte?_hexByte, readByte?_hexByte, readByte?_hexByte, readNumber?_hexPad, readNumber?_marked]
  rfl

theorem unbroken_addressText (n : Nat) : Unbroken (addressText (n : Int)) :=
  unbroken_append (isWord_hex8 n).unbroken (by decide)

theorem DataRow.unbroken_line (p : Program) (row : DataRow) : Unbroken (row.line p) := by
  have hbytes : Unbroken (String.join (row.bytes.map fun b => " " ++ hexByte b)) := by
    refine unbroken_join fun s hs => ?_
    obtain ⟨b, -, rfl⟩ := List.mem_map.1 hs
    exact unbroken_append (by decide) (unbroken_hexByte b)
  have hword := unbroken_append (unbroken_append hbytes (show Unbroken "    0x" by decide)) (unbroken_hexDigits row.value)
  exact unbroken_append (unbroken_append (unbroken_addressText _) hword) (unbroken_switchText p _)

/-! ## the data -/

theorem drop_four {bytes : List UInt8} {i : Nat} (h : i + 4 ≤ bytes.length) :
    ∃ b0 b1 b2 b3, bytes.drop i = b0 :: b1 :: b2 :: b3 :: bytes.drop (i + 4) := by
  refine ⟨bytes[i], bytes[i + 1], bytes[i + 2], bytes[i + 3], ?_⟩
  rw [List.drop_eq_getElem_cons (show i < _ by omega), List.drop_eq_getElem_cons (show i + 1 < _ by omega),
    List.drop_eq_getElem_cons (show i + 1 + 1 < _ by omega), List.drop_eq_getElem_cons (show i + 1 + 1 + 1 < _ by omega)]

/-- the four bytes at an address, as a row -/
def wordAt (addr : Nat) (b0 b1 b2 b3 : UInt8) : DataRow := ⟨addr, [b0, b1, b2, b3], wordValue b0 b1 b2 b3⟩

theorem isWord_wordAt (addr : Nat) (b0 b1 b2 b3 : UInt8) : (wordAt addr b0 b1 b2 b3).IsWord :=
  ⟨b0, b1, b2, b3, rfl, rfl⟩

theorem wordRow_eq {bytes : Array UInt8} {i : Nat} {b0 b1 b2 b3 : UInt8} {rest : List UInt8}
    (h : bytes.toList.drop i = b0 :: b1 :: b2 :: b3 :: rest) :
    wordRow bytes i = .ok (String.join ([b0, b1, b2, b3].map fun b => " " ++ hexByte b) ++ "    0x" ++
      hexDigits (wordValue b0 b1 b2 b3)) := by
  have hget (j : Nat) : bytes.toList[i + j]? = (b0 :: b1 :: b2 :: b3 :: rest)[j]? := by
    rw [← h, List.getElem?_drop]
  unfold wordRow
  rw [byteAt_eq (show bytes.toList[i]? = some b0 from hget 0), byteAt_eq (hget 1), byteAt_eq (hget 2), byteAt_eq (hget 3)]
  refine congrArg Except.ok ?_
  simp only [List.map_cons, List.map_nil, String.join_cons, String.join_nil, String.append_empty, String.append_assoc]

section
variable {σ : Type} {p : Program} (hsilent : p.annotations.data.Silent)
include hsilent

theorem printDataRows_step {n addr : Nat} {word text : String} (hword : wordRow p.image.data addr = .ok word)
    (hmore : Prints (printDataRows p n (addr + 4) : Action σ Unit) text) :
    Prints (printDataRows p (n + 1) addr : Action σ Unit) (addressText addr ++ word ++ switchText p addr ++ "\n" ++ text) := by
  have hprints : Prints (printDataRows p (n + 1) addr : Action σ Unit) (p.annotations.data.blockText addr .before ++
      (addressText addr ++ (word ++ inlineText p addr ++ switchText p addr ++ "\n" ++
        (p.annotations.data.blockText addr .after ++ text)))) :=
    (Prints.print _).seq ((Prints.print _).seq (Prints.ofExcept hword ((Prints.print _).seq ((Prints.print _).seq hmore))))
  rw [hsilent.blockText, hsilent.blockText, inlineText_silent hsilent] at hprints
  simpa only [String.empty_append, String.append_empty, String.append_assoc] using hprints

variable (σ) in
/-- the rows show one word after the other -/
theorem printDataRows_prints (n addr : Nat) (hroom : addr + 4 * n ≤ p.image.data.toList.length) :
    ∃ rows : List DataRow, rows.length = n ∧
      (∀ (k : Nat) (row : DataRow), rows[k]? = some row → row.address = addr + 4 * k ∧ row.IsWord) ∧
      rows.flatMap DataRow.bytes = (p.image.data.toList.drop addr).take (4 * n) ∧
      Prints (printDataRows p n addr : Action σ Unit) (String.join (rows.map fun row => row.line p ++ "\n")) := by
  induction n generalizing addr with
  | zero =>
    refine ⟨[], rfl, fun k row h => ?_, ?_, Prints.nothing⟩
    · cases h
    · rw [Nat.mul_zero, List.take_zero]
      rfl
  | succ n ih =>
    obtain ⟨rows, hlength, hrows, hbytes, hprints⟩ := ih (addr + 4) (by omega)
    obtain ⟨b0, b1, b2, b3, hdrop⟩ := drop_four (show addr + 4 ≤ p.image.data.toList.length by omega)
    refine ⟨wordAt addr b0 b1 b2 b3 :: rows, by rw [List.length_cons, hlength], fun k row hrow => ?_, ?_, ?_⟩
    · cases k with
      | zero =>
        cases hrow
        exact ⟨rfl, isWord_wordAt ..⟩
      | succ k =>
        obtain ⟨haddr, hword⟩ := hrows k row hrow
        exact ⟨by omega, hword⟩
    · rw [List.flatMap_cons, hbytes, hdrop]
      rfl
    · rw [List.map_cons, String.join_cons]
      exact printDataRows_step hsilent (wordRow_eq hdrop) hprints

end

/-! ## rows of literals -/

/-- the bytes of a literal, and where in the segment they start -/
structure LitRow where
  offset : Nat
  bytes : List UInt8
  deriving DecidableEq, Repr

/-- a row as the listing shows it, when the literals start at the address `base` -/
def LitRow.line (base : Int) (row : LitRow) : String := addressText (base + row.offset) ++ Image.quoteLiteral row.bytes

/-- Rows from `start` on: each row starts one byte behind the end of the one before it and inside the segment, which has
the given length; its bytes are not zero. -/
inductive Consecutive (length : Nat) : Nat → List LitRow → Prop
  | done {start : Nat} : length ≤ start → Consecutive length start []
  | row {start : Nat} {bytes : List UInt8} {rows : List LitRow} : start < length → 0 ∉ bytes →
      Consecutive length (start + bytes.length + 1) rows → Consecutive length start (⟨start, bytes⟩ :: rows)

/-- the address and the bytes that a line shows -/
def readLitRow? (line : String) : Option (Int × List UInt8) :=
  let cs := line.toList
  match readNumber? (String.ofList (cs.takeWhile fun c => !isBlank c)),
    Image.unquote .outside (cs.dropWhile fun c => !isBlank c) with
  | some address, some bytes => some (address, bytes)
  | _, _ => none

/-- a row without quotation marks is read from its line -/
theorem readLitRow?_line {base : Int} (hbase : 0 ≤ base) {row : LitRow} (hquote : 0x22 ∉ row.bytes) :
    readLitRow? (row.line base ++ "\n") = some (base + row.offset, row.bytes) := by
  obtain ⟨n, hn⟩ := Int.eq_ofNat_of_zero_le (show 0 ≤ base + row.offset by omega)
  obtain ⟨-, hword⟩ := isWord_hex8 n
  have hsplit : (row.line base ++ "\n").toList =
      ("0x" ++ hex8 n).toList ++ ' ' :: ' ' :: ((Image.quoteLiteral row.bytes).toList ++ ['\n']) := by
    unfold LitRow.line
    rw [hn, String.toList_append, String.toList_append, toList_addressText, List.append_assoc, List.append_assoc]
    rfl
  have hgraphic : ∀ c ∈ ("0x" ++ hex8 n).toList, (!isBlank c) = true := fun c hc => by rw [hword c hc]; rfl
  have htake : (row.line base ++ "\n").toList.takeWhile (fun c => !isBlank c) = ("0x" ++ hex8 n).toList := by
    rw [hsplit, List.takeWhile_append_of_pos hgraphic]
    exact List.append_nil _
  have hdrop : (row.line base ++ "\n").toList.dropWhile (fun c => !isBlank c) =
      ' ' :: ' ' :: ((Image.quoteLiteral row.bytes).toList ++ ['\n']) := by
    rw [hsplit, List.dropWhile_append_of_pos hgraphic]
    rfl
  have hread : Image.unquote .outside (' ' :: ' ' :: ((Image.quoteLiteral row.bytes).toList ++ ['\n'])) =
      some row.bytes := by
    show Image.unquote .outside ((Image.quoteLiteral row.bytes).toList ++ ['\n']) = _
    rw [Image.unquote_quoteLiteral hquote]
    exact congrArg some (List.append_nil row.bytes)
  unfold readLitRow?
  dsimp only
  rw [htake, hdrop, String.ofList_toList, hread, hn]
  unfold hex8
  rw [readNumber?_hexPad]

theorem LitRow.unbroken_line {base : Int} (hbase : 0 ≤ base) (row : LitRow) : Unbroken (row.line base) := by
  obtain ⟨n, hn⟩ := Int.eq_ofNat_of_zero_le (show 0 ≤ base + row.offset by omega)
  unfold LitRow.line
  rw [hn]
  exact unbroken_append (unbroken_addressText n) (unbroken_quoteLiteral row.bytes)

/-! ## the literals -/

/-- the bytes up to a zero byte and what follows that one, put together and cut to length -/
theorem take_cut {bytes more : List UInt8}
    (h : more.take (bytes.length - ((bytes.takeWhile (· != 0)).length + 1)) =
      bytes.drop ((bytes.takeWhile (· != 0)).length + 1)) :
    (bytes.takeWhile (· != 0) ++ [0] ++ more).take bytes.length = bytes := by
  generalize hs : bytes.takeWhile (· != 0) = s at h ⊢
  have hsplit : bytes = s ++ bytes.dropWhile (· != 0) := by rw [← hs, List.takeWhile_append_dropWhile]
  cases hd : bytes.dropWhile (· != 0) with
  | nil =>
    -- the zero byte that was added is cut off again
    rw [hd, List.append_nil] at hsplit
    rw [hsplit, List.append_assoc, List.take_left]
  | cons b rest =>
    have hb : b = 0 := by
      have hhead := List.head?_dropWhile_not (· != (0 : UInt8)) bytes
      rw [hd] at hhead
      simpa using hhead
    subst hb
    rw [hd] at hsplit
    have hrest : bytes.drop (s.length + 1) = rest := by
      rw [hsplit, List.drop_append]
      simp
    have hlength : bytes.length = s.length + 1 + rest.length := by
      rw [hsplit, List.length_append, List.length_cons]
      omega
    rw [hrest, hlength, Nat.add_sub_cancel_left] at h
    rw [hlength, List.take_append, List.take_of_length_le (by simp), List.length_append, List.length_singleton,
      Nat.add_sub_cancel_left, h, hsplit, List.append_assoc]
    rfl

/-- the rows show the literals of a segment from the offset `start` on -/
structure ShowsLiterals (image : Image) (segment : List UInt8) (start : Nat) (rows : List LitRow) : Prop where
  consecutive : Consecutive segment.length start rows
  /-- each row is the literal at its offset -/
  literal : ∀ row ∈ rows, image.literalBytes row.offset = .ok row.bytes
  subset : ∀ row ∈ rows, row.bytes ⊆ segment
  /-- with a zero byte behind each row they make the segment -/
  joined : (rows.flatMap fun row => row.bytes ++ [0]).take (segment.length - start) = segment.drop start

section
variable {image : Image} {segment zeros : List UInt8} (hlit : image.lit.toList = segment ++ 0 :: zeros)
  (hlength : image.header.litLength = segment.length)
include hlit hlength

omit hlit hlength in
theorem ShowsLiterals.done {start : Nat} (h : segment.length ≤ start) : ShowsLiterals image segment start [] where
  consecutive := .done h
  literal := fun row hrow => by cases hrow
  subset := fun row hrow => by cases hrow
  joined := by
    rw [List.drop_eq_nil_of_le h]
    exact List.take_nil

theorem ShowsLiterals.cons {start : Nat} {bytes : List UInt8} {rows : List LitRow} (hstart : start < segment.length)
    (hbytes : bytes = (segment.drop start).takeWhile (· != 0))
    (h : ShowsLiterals image segment (start + bytes.length + 1) rows) :
    ShowsLiterals image segment start (⟨start, bytes⟩ :: rows) where
  consecutive := by
    refine .row hstart (fun hmem => ?_) h.consecutive
    rw [hbytes] at hmem
    exact absurd (List.mem_takeWhile_imp hmem) (by decide)
  literal := by
    rw [List.forall_mem_cons]
    exact ⟨by rw [literalBytes_eq hlit hlength hstart.le, hbytes], h.literal⟩
  subset := by
    rw [List.forall_mem_cons]
    refine ⟨fun b hb => ?_, h.subset⟩
    rw [hbytes] at hb
    exact List.mem_of_mem_drop ((List.takeWhile_sublist _).subset hb)
  joined := by
    have hcut := h.joined
    rw [hbytes, Nat.add_assoc, ← List.drop_drop, Nat.sub_add_eq, ← List.length_drop] at hcut
    rw [List.flatMap_cons, hbytes, ← List.length_drop]
    exact take_cut hcut

end

section
variable {σ : Type} {p : Program} (hsilent : p.annotations.data.Silent)
include hsilent

theorem printLitRows_step {n offset : Nat} {bytes : List UInt8} {text : String} (hin : (offset : Int) < p.header.litLength)
    (hbytes : p.image.literalBytes offset = .ok bytes)
    (hmore : Prints (printLitRows p n (offset + bytes.length + 1) : Action σ Unit) text) :
    Prints (printLitRows p (n + 1) offset : Action σ Unit)
      ((LitRow.mk offset bytes).line p.header.dataLength ++ "\n" ++ text) := by
  have hprints : Prints (printLitRows p (n + 1) offset : Action σ Unit)
      (p.annotations.data.blockText (p.header.dataLength + offset) .before ++
        (addressText (p.header.dataLength + offset) ++ (Image.quoteLiteral bytes ++
          inlineText p (p.header.dataLength + offset) ++ "\n" ++
            (p.annotations.data.blockText (p.header.dataLength + offset) .after ++ text)))) := by
    rw [printLitRows, if_pos hin]
    exact (Prints.print _).seq ((Prints.print _).seq (Prints.ofExcept hbytes
      ((Prints.print _).seq ((Prints.print _).seq hmore))))
  rw [hsilent.blockText, hsilent.blockText, inlineText_silent hsilent] at hprints
  unfold LitRow.line
  simpa only [String.empty_append, String.append_empty, String.append_assoc] using hprints

omit hsilent in
theorem printLitRows_end (n : Nat) {offset : Nat} (hend : p.header.litLength ≤ offset) :
    Prints (printLitRows p n offset : Action σ Unit) "" := by
  cases n with
  | zero => exact Prints.nothing
  | succ n =>
    rw [printLitRows, if_neg (by omega)]
    exact Prints.nothing

variable {segment zeros : List UInt8} (hlit : p.image.lit.toList = segment ++ 0 :: zeros)
  (hlength : p.header.litLength = segment.length)
include hlit hlength

variable (σ) in
/-- the rows show one literal after the other -/
theorem printLitRows_prints (n offset : Nat) (hn : segment.length ≤ n + offset) :
    ∃ rows : List LitRow, ShowsLiterals p.image segment offset rows ∧
      Prints (printLitRows p n offset : Action σ Unit)
        (String.join (rows.map fun row => row.line p.header.dataLength ++ "\n")) := by
  induction n generalizing offset with
  | zero => exact ⟨[], .done (by omega), printLitRows_end 0 (by omega)⟩
  | succ n ih =>
    by_cases hend : segment.length ≤ offset
    · exact ⟨[], .done hend, printLitRows_end (n + 1) (by omega)⟩
    · have hbytes := literalBytes_eq hlit hlength (show offset ≤ segment.length by omega)
      obtain ⟨rows, hshows, hprints⟩ := ih (offset + ((segment.drop offset).takeWhile (· != 0)).length + 1) (by omega)
      refine ⟨_, hshows.cons hlit hlength (by omega) rfl, ?_⟩
      rw [List.map_cons, String.join_cons]
      exact printLitRows_step hsilent (by omega) hbytes hprints

end

/-! ## both listings -/

/-- rows that can be read from their lines can be read from the lines of the whole text -/
theorem lines_map_read {α β : Type} {read? : String → Option β} {line : α → String} {rows : List α} (value : α → β)
    (hline : ∀ row ∈ rows, Unbroken (line row)) (hread : ∀ row ∈ rows, read? (line row ++ "\n") = some (value row)) :
    (lines (String.join (rows.map fun row => line row ++ "\n"))).map read? = rows.map fun row => some (value row) := by
  have hjoin := lines_join (rows.map line) (by
    intro l hl
    obtain ⟨row, hrow, rfl⟩ := List.mem_map.1 hl
    exact hline row hrow)
  rw [List.map_map] at hjoin
  show (lines (String.join (rows.map ((fun l => l ++ "\n") ∘ line)))).map read? = _
  rw [hjoin, List.map_map]
  exact List.map_congr_left hread

section
variable (σ : Type) {file : ByteArray} {p : Program} (hp : p.Loaded file) (hfile : p.header.HoldsData file.size)
  (hsilent : p.annotations.data.Silent)
include hp hfile hsilent

theorem printData_prints :
    ∃ rows : List DataRow, rows.length = wordCount p.header.dataLength ∧
      (∀ (k : Nat) (row : DataRow), rows[k]? = some row → row.address = 4 * k ∧ row.IsWord) ∧
      (rows.flatMap DataRow.bytes).take p.header.dataLength.toNat =
        piece file p.header.dataOffset p.header.dataLength ∧
      Prints (printData p : Action σ Unit) (String.join (rows.map fun row => row.line p ++ "\n")) := by
  have hlength := length_data hp hfile
  have hbytes : p.image.data.toList = piece file p.header.dataOffset p.header.dataLength ++ List.replicate 4 0 :=
    hp.isIn.data_eq
  have hroom : 0 + 4 * wordCount p.header.dataLength ≤ p.image.data.toList.length := by
    rw [hbytes, List.length_append, List.length_replicate]
    unfold wordCount
    omega
  obtain ⟨rows, hcount, hrows, hall, hprints⟩ := printDataRows_prints σ hsilent _ 0 hroom
  refine ⟨rows, hcount, fun k row hrow => ?_, ?_, hprints⟩
  · have haddr := hrows k row hrow
    rwa [Nat.zero_add] at haddr
  · have hcover : p.header.dataLength.toNat ≤ 4 * wordCount p.header.dataLength := by
      unfold wordCount
      omega
    rw [hall, List.take_take, Nat.min_eq_left hcover, List.drop_zero, hbytes]
    exact List.take_left' (by omega)

theorem printLit_prints :
    ∃ rows : List LitRow, ShowsLiterals p.image (piece file p.header.litOffset p.header.litLength) 0 rows ∧
      Prints (printLit p : Action σ Unit) (String.join (rows.map fun row => row.line p.header.dataLength ++ "\n")) := by
  obtain ⟨hbytes, hlength⟩ := lit_eq hp hfile
  exact printLitRows_prints σ hsilent hbytes hlength _ 0 (by omega)

end

/-- Without comments the data and the literals of a program, of which the file holds all bytes, are listed to the end.

The lines of the data are read as rows of four bytes; these make the data, when what stands behind it is cut off, and the
number of each row is the word that its bytes make.  The lines of the literals show what lies between zero bytes, and
with zero bytes between them the literals make their segment.  Where that holds no quotation mark the lines can be read;
no two texts without one are shown alike. -/
theorem segments_lossless (σ : Type) {d : Directory} {type : Option String} {file : ByteArray} {c c' : Console}
    {p : Program} (hload : Program.load d type file c = (.ok p, c')) (hfile : p.header.HoldsData file.size)
    (hsilent : p.annotations.data.Silent) :
    (∃ (text : String) (rows : List DataRow), Prints (printData p : Action σ Unit) text ∧
      text = String.join (rows.map fun row => row.line p ++ "\n") ∧
      (lines text).map readDataRow? = rows.map some ∧ rows.length = wordCount p.header.dataLength ∧
      (∀ (k : Nat) (row : DataRow), rows[k]? = some row → row.address = 4 * k ∧ row.IsWord) ∧
      (rows.flatMap DataRow.bytes).take p.header.dataLength.toNat =
        piece file p.header.dataOffset p.header.dataLength) ∧
    (∃ (text : String) (rows : List LitRow), Prints (printLit p : Action σ Unit) text ∧
      text = String.join (rows.map fun row => row.line p.header.dataLength ++ "\n") ∧
      ShowsLiterals p.image (piece file p.header.litOffset p.header.litLength) 0 rows ∧
      (rows.flatMap fun row => row.bytes ++ [0]).take p.header.litLength.toNat =
        piece file p.header.litOffset p.header.litLength ∧
      (0x22 ∉ piece file p.header.litOffset p.header.litLength →
        (lines text).map readLitRow? = rows.map fun row => some (p.header.dataLength + row.offset, row.bytes))) ∧
    ∀ s t : List UInt8, 0x22 ∉ s → 0x22 ∉ t → Image.quoteLiteral s = Image.quoteLiteral t → s = t := by
  have hp := Program.load_eq_ok hload
  obtain ⟨rows, hcount, hrows, hdata, hprints⟩ := printData_prints σ hp hfile hsilent
  obtain ⟨lits, hshows, hlits⟩ := printLit_prints σ hp hfile hsilent
  refine ⟨⟨_, rows, hprints, rfl, ?_, hcount, hrows, hdata⟩, ⟨_, lits, hlits, rfl, hshows, ?_, fun hquote => ?_⟩,
    fun s t hs ht => Image.quoteLiteral_inj hs ht⟩
  · refine lines_map_read id (fun row _ => row.unbroken_line p) fun row hrow => ?_
    obtain ⟨k, hk⟩ := List.getElem?_of_mem hrow
    exact readDataRow?_line p (hrows k row hk).2
  · have hjoined := hshows.joined
    rwa [Nat.sub_zero, List.drop_zero, length_lit hp hfile] at hjoined
  · refine lines_map_read _ (fun row _ => row.unbroken_line hp.dataLength_nonneg) fun row hrow => ?_
    exact readLitRow?_line hp.dataLength_nonneg fun hmem => hquote (hshows.subset row hrow hmem)

/-- five bytes of data, and two literals of which no zero byte ends the second -/
def segmentsFile : ByteArray :=
  Program.fileOf [⟨.enter, 8⟩, ⟨.leave, 8⟩] [1, 2, 3, 4, 250] [104, 105, 10, 0, 120]

theorem segments_lossless_unended :
    ∃ p c, Program.load Program.bare none segmentsFile {} = (.ok p, c) ∧ p.header.HoldsData segmentsFile.size ∧
      p.annotations.data.Silent ∧
      (∃ (text : String) (rows : List DataRow), Prints (printData p : Action Unit Unit) text ∧
        (lines text).map readDataRow? = rows.map some ∧ rows.length = 2 ∧
        (rows.flatMap DataRow.bytes).take 5 = [1, 2, 3, 4, 250]) ∧
      ∃ (text : String) (rows : List LitRow), Prints (printLit p : Action Unit Unit) text ∧
        (lines text).map readLitRow? = rows.map (fun row => some ((5 : Int) + row.offset, row.bytes)) ∧
        (rows.flatMap fun row => row.bytes ++ [0]).take 5 = [104, 105, 10, 0, 120] := by
  obtain ⟨p, c, hload, htest⟩ := Program.exists_of_loadsWith Program.bare segmentsFile
    (fun p => decide (p.header.HoldsData segmentsFile.size ∧ p.annotations.data.Silent ∧ p.header.dataLength = 5 ∧
      p.header.litLength = 5 ∧ piece segmentsFile p.header.dataOffset p.header.dataLength = [1, 2, 3, 4, 250] ∧
      piece segmentsFile p.header.litOffset p.header.litLength = [104, 105, 10, 0, 120])) (by decide +kernel)
  obtain ⟨hfile, hsilent, hdl, hll, hdata, hlit⟩ := of_decide_eq_true htest
  obtain ⟨⟨text, rows, hprints, -, hread, hcount, -, hbytes⟩, ⟨shown, lits, hlits, -, -, hjoined, hall⟩, -⟩ :=
    segments_lossless Unit hload hfile hsilent
  rw [hdata, hdl] at hbytes
  rw [hdl] at hcount
  rw [hlit, hll] at hjoined
  rw [hlit, hdl] at hall
  exact ⟨p, c, hload, hfile, hsilent, ⟨text, rows, hprints, hread, hcount, hbytes⟩,
    shown, lits, hlits, hall (by decide), hjoined⟩

end Listing
end Disasm
