import Mathlib
import Disasm.CodeLine
import Disasm.Listing.Entry
import Disasm.Proofs.Instruction
import Disasm.Proofs.Text.Numeral
import Disasm.Proofs.Text.Search

/-!
# Reading the lines of a listing

A listing can be read back line by line: a line of an instruction says that instruction, all other lines
are comments or empty and say nothing.

* `CodeLine.instruction?`, `assembleLines?`, `assemble?`  from lines of code to instructions and bytes;
* `Says text is`  the lines of a text, whatever follows it, say the instructions `is`;
* `Lines P text`  the text is made of whole lines that satisfy `P`;
* `Quiet`, `says_of_quiet`  comments and empty lines say nothing;
* `Remarks`, `isRemark_append`  comments and empty lines among which there is no label;
* `read_of_address`  what a line that starts with an address is read as;
* `says_line`  the line of an entry says its instruction.
-/

namespace Disasm

open Disasm.Text

/-! ## from lines to bytes -/

/-- the instruction that a line of code says; the parameter of an opcode that has one is a number -/
def CodeLine.instruction? (l : CodeLine) : Option Instruction :=
  match Opcode.ofName? l.word with
  | none => none
  | some op =>
    if op.width = 0 then some ⟨op, 0⟩ else (l.parm.bind readNumber?).map fun n => ⟨op, n⟩

/-- the instructions that some lines say; a line that cannot be read ends the work -/
def assembleLines? : List String → Option (List Instruction)
  | [] => some []
  | line :: rest =>
    match CodeLine.read line with
    | .error _ => none
    | .ok none => assembleLines? rest
    | .ok (some l) =>
      match l.instruction?, assembleLines? rest with
      | some i, some is => some (i :: is)
      | _, _ => none

/-- the bytes of the code that a text lists -/
def assemble? (text : String) : Option (List UInt8) :=
  (assembleLines? (splitOn '\n' text)).map Instruction.encodeAll

namespace Listing

/-- the lines of `text` say the instructions `is`, whatever follows -/
def Says (text : String) (is : List Instruction) : Prop :=
  ∀ rest, assembleLines? (splitOn '\n' (text ++ rest)) =
    (assembleLines? (splitOn '\n' rest)).map (is ++ ·)

theorem Says.append {t u : String} {is js : List Instruction} (ht : Says t is) (hu : Says u js) :
    Says (t ++ u) (is ++ js) := by
  intro rest
  rw [String.append_assoc, ht, hu, Option.map_map]
  congr 1
  funext ks
  exact (List.append_assoc is js ks).symm

theorem says_empty : Says "" [] := by
  intro rest
  rw [String.empty_append]
  exact Option.map_id'.symm

theorem Says.assemble {t : String} {is : List Instruction} (h : Says t is) :
    assembleLines? (splitOn '\n' t) = some is := by
  have := h ""
  rw [String.append_empty] at this
  rw [this, show assembleLines? (splitOn '\n' "") = some [] from by decide, Option.map_some,
    List.append_nil]

theorem splitOn_line {l : String} (h : Unbroken l) (rest : String) :
    splitOn '\n' (l ++ "\n" ++ rest) = l :: splitOn '\n' rest := by
  have he : (l ++ "\n" ++ rest).toList = l.toList ++ '\n' :: rest.toList := by
    rw [String.toList_append, String.toList_append, List.append_assoc]
    rfl
  have hn : ∀ c ∈ l.toList, (c == '\n') = false := fun c hc => by
    rw [beq_eq_false_iff_ne]
    rintro rfl
    exact h hc
  unfold splitOn
  rw [he, pieces_append _ _ (by decide), pieces_of_forall hn, List.map_append, List.map_singleton,
    String.ofList_toList]
  rfl

theorem says_read {l : String} (h : Unbroken l) {c : CodeLine} (hr : CodeLine.read l = .ok (some c))
    {i : Instruction} (hi : c.instruction? = some i) : Says (l ++ "\n") [i] := by
  intro rest
  rw [splitOn_line h, assembleLines?]
  simp only [hr, hi]
  cases assembleLines? (splitOn '\n' rest) with
  | none => rfl
  | some is => rfl

/-! ## texts of whole lines -/

/-- the text is made of whole lines, and all of them satisfy `P` -/
def Lines (P : String → Prop) (text : String) : Prop :=
  ∃ ls : List String, text = String.join (ls.map (· ++ "\n")) ∧ ∀ l ∈ ls, Unbroken l ∧ P l

namespace Lines
variable {P Q : String → Prop} {t u l : String}

theorem empty : Lines P "" := ⟨[], rfl, List.forall_mem_nil _⟩

theorem line (h : Unbroken l) (hl : P l) : Lines P (l ++ "\n") := by
  refine ⟨[l], ?_, List.forall_mem_singleton.2 ⟨h, hl⟩⟩
  rw [List.map_singleton, String.join_cons]
  exact String.append_empty.symm

theorem append (ht : Lines P t) (hu : Lines P u) : Lines P (t ++ u) := by
  obtain ⟨ls, rfl, hls⟩ := ht
  obtain ⟨ms, rfl, hms⟩ := hu
  refine ⟨ls ++ ms, ?_, List.forall_mem_append.2 ⟨hls, hms⟩⟩
  rw [List.map_append, String.join_append]

theorem mono (h : ∀ l, P l → Q l) (ht : Lines P t) : Lines Q t := by
  obtain ⟨ls, ht, hls⟩ := ht
  exact ⟨ls, ht, fun l hl => ⟨(hls l hl).1, h l (hls l hl).2⟩⟩

theorem join {ts : List String} (h : ∀ t ∈ ts, Lines P t) : Lines P (String.join ts) := by
  induction ts with
  | nil => exact empty
  | cons t ts ih =>
    rw [String.join_cons]
    exact (h t List.mem_cons_self).append (ih fun u hu => h u (List.mem_cons_of_mem t hu))

theorem newlines (h : P "") (n : Nat) : Lines P (copies n "\n") := by
  refine join fun t ht => ?_
  rw [List.eq_of_mem_replicate ht]
  exact line (l := "") (by decide) h

end Lines

/-! ## lines that say nothing -/

/-- a line that is read as nothing -/
def isSilent (l : String) : Bool := l = "" || CodeLine.isComment l

/-- the lines of a text are empty or comments -/
def Quiet (text : String) : Prop := Lines (isSilent · = true) text

theorem Quiet.append {t u : String} (ht : Quiet t) (hu : Quiet u) : Quiet (t ++ u) := Lines.append ht hu

theorem says_silent {l : String} (h : Unbroken l) (hl : isSilent l = true) : Says (l ++ "\n") [] := by
  have hr : CodeLine.read l = .ok none := by
    unfold isSilent at hl
    rw [Bool.or_eq_true, decide_eq_true_eq] at hl
    rcases hl with rfl | hc
    · decide
    · unfold CodeLine.read
      rw [if_pos hc]
  intro rest
  rw [splitOn_line h, assembleLines?]
  simp only [hr]
  exact Option.map_id'.symm

theorem says_of_quiet {t : String} (h : Quiet t) : Says t [] := by
  obtain ⟨ls, rfl, hls⟩ := h
  induction ls with
  | nil => exact says_empty
  | cons l ls ih =>
    obtain ⟨⟨hu, hl⟩, hrest⟩ := List.forall_mem_cons.1 hls
    rw [List.map_cons, String.join_cons]
    exact (says_silent hu hl).append (ih hrest)

/-! ## remarks -/

/-- how the line of a label starts -/
def labelMark : String := ";----------------------------------- "

def isLabel (l : String) : Bool := labelMark.toList.isPrefixOf l.toList

/-- a line that is read as nothing and is no label -/
def isRemark (l : String) : Bool := isSilent l && !isLabel l

/-- the lines of a text are empty or comments, and none of them is a label -/
def Remarks (text : String) : Prop := Lines (isRemark · = true) text

theorem Remarks.append {t u : String} (ht : Remarks t) (hu : Remarks u) : Remarks (t ++ u) :=
  Lines.append ht hu

theorem Remarks.quiet {t : String} (h : Remarks t) : Quiet t :=
  Lines.mono (fun l hl => by rw [isRemark, Bool.and_eq_true] at hl; exact hl.1) h

theorem remarks_empty : Remarks "" := Lines.empty

theorem remarks_line {l : String} (hl : isRemark l = true) (h : Unbroken l) : Remarks (l ++ "\n") :=
  Lines.line h hl

theorem remarks_join {ts : List String} (h : ∀ t ∈ ts, Remarks t) : Remarks (String.join ts) := Lines.join h

theorem remarks_newline : Remarks "\n" := remarks_line (l := "") (by decide) (by decide)

/-- what starts so is a comment and no label, whatever follows -/
def opensRemark (s : String) : Bool :=
  CodeLine.isComment s && !labelMark.toList.isPrefixOf s.toList && !s.toList.isPrefixOf labelMark.toList

theorem isComment_append {s : String} (h : CodeLine.isComment s = true) (t : String) :
    CodeLine.isComment (s ++ t) = true := by
  unfold CodeLine.isComment trimStart at *
  rw [String.toList_append, List.dropWhile_append]
  cases hd : s.toList.dropWhile isBlank with
  | nil => rw [hd] at h; cases h
  | cons c cs => rw [hd] at h; exact h

theorem opensRemark_append {s : String} (h : opensRemark s = true) (t : String) :
    opensRemark (s ++ t) = true := by
  unfold opensRemark at h ⊢
  simp only [Bool.and_eq_true, Bool.not_eq_true', Bool.eq_false_iff, Ne, List.isPrefixOf_iff_prefix] at h ⊢
  obtain ⟨⟨hc, hm⟩, hs⟩ := h
  rw [String.toList_append]
  refine ⟨⟨isComment_append hc t, fun hl => ?_⟩, fun hl => hs ((List.prefix_append _ _).trans hl)⟩
  -- of two starts of one text one is a start of the other
  rcases List.prefix_or_prefix_of_prefix hl (List.prefix_append s.toList t.toList) with h | h
  · exact hm h
  · exact hs h

theorem isRemark_append {s : String} (h : opensRemark s = true) (t : String) : isRemark (s ++ t) = true := by
  have ht := opensRemark_append h t
  unfold opensRemark at ht
  rw [Bool.and_eq_true, Bool.and_eq_true] at ht
  unfold isRemark isSilent isLabel
  rw [ht.1.1, ht.1.2, Bool.or_true]
  rfl

/-! ## comment blocks -/

theorem remarks_comment {line : String} (h : Unbroken line) : Remarks (CommentBlock.comment line) :=
  remarks_line (isRemark_append (by decide) line) (unbroken_append (by decide) h)

theorem remarks_newlines (n : Nat) : Remarks (copies n "\n") := Lines.newlines (by decide) n

theorem remarks_block {b : Option CommentBlock} (h : ∀ c, b = some c → ∀ l ∈ c.lines, Unbroken l) :
    Remarks (Entry.blockText b) := by
  cases b with
  | none => exact remarks_empty
  | some c =>
    refine ((remarks_newlines _).append (remarks_join fun t ht => ?_)).append (remarks_newlines _)
    obtain ⟨l, hl, rfl⟩ := List.mem_map.1 ht
    exact remarks_comment (h c rfl l hl)

/-! ## the line of an instruction -/

/-- the text is empty or starts with a blank, so that it ends a word in front of it -/
def Apart (cs : List Char) : Prop := cs = [] ∨ ∃ c ds, cs = c :: ds ∧ isBlank c = true

theorem wordsOf_apart {w cs : List Char} (hw : IsWord w) (hc : Apart cs) :
    wordsOf (w ++ cs) = w :: wordsOf cs := by
  rcases hc with rfl | ⟨c, ds, rfl, hb⟩
  · rw [List.append_nil, wordsOf_word hw, wordsOf_nil]
  · rw [wordsOf_word_append hw hb, wordsOf_cons_blank hb]

theorem Apart.append {cs ds : List Char} (hc : Apart cs) (hd : Apart ds) : Apart (cs ++ ds) := by
  rcases hc with rfl | ⟨c, es, rfl, hb⟩
  · exact hd
  · exact .inr ⟨c, es ++ ds, rfl, hb⟩

theorem apart_blank (cs : List Char) : Apart (' ' :: cs) := .inr ⟨' ', cs, rfl, by decide⟩

theorem isWord_name (op : Opcode) : IsWord op.name.toList := by
  have h : op.name.toList ≠ [] ∧ (op.name.toList.all fun c => !isBlank c) = true := by
    cases op <;> decide
  exact ⟨h.1, fun c hc => by simpa using List.all_eq_true.1 h.2 c hc⟩

theorem ofName?_name (op : Opcode) : Opcode.ofName? op.name = some op := by
  cases op <;> decide

theorem isWord_address (e : Entry) : IsWord e.address.toList := by
  refine ⟨?_, fun c hc => (isDigitOf_hexPad 8 e.index c hc).isGraphic.not_blank⟩
  show (hexPad 8 (e.index : Int)).toList ≠ []
  rw [toList_hexPad]
  exact List.append_ne_nil_of_right_ne_nil _ Nat.toDigits_ne_nil

/-! ### the parts of the line and their words -/

theorem toList_opcodeText (i : Instruction) :
    ∃ k, (Entry.opcodeText i).toList = i.op.name.toList ++ List.replicate k ' ' := by
  unfold Entry.opcodeText
  split
  · refine ⟨13 - i.op.name.length, ?_⟩
    unfold padEnd copies
    rw [String.toList_append, String.toList_join]
    congr 1
    induction 13 - i.op.name.length with
    | zero => rfl
    | succ k ih => rw [List.replicate_succ, List.flatMap_cons, ih]; rfl
  · exact ⟨0, (List.append_nil _).symm⟩

/-- the words of the change in the depth of the stack -/
def changeWords (i : Instruction) : List (List Char) :=
  if i.op.stackChange = 0 then [] else [(toString i.op.stackChange).toList]

theorem wordsOf_changeText (e : Entry) {rest : List Char} (hr : Apart rest) :
    wordsOf (e.changeText.toList ++ rest) = changeWords e.instruction ++ wordsOf rest := by
  have hw := isWord_toString e.instruction.op.stackChange
  unfold Entry.changeText changeWords
  dsimp only
  split
  · next h =>
    rw [if_neg (by omega), String.toList_append, List.append_assoc,
      wordsOf_blanks (by decide), wordsOf_apart hw hr]
    rfl
  · next h =>
    split
    · next h' =>
      rw [if_neg (by omega), String.toList_append, List.append_assoc,
        wordsOf_blanks (by decide), wordsOf_apart hw hr]
      rfl
    · next h' =>
      rw [if_pos (show e.instruction.op.stackChange = 0 by omega)]
      split
      · exact wordsOf_blanks (by decide) rest
      · rfl

theorem isWord_magnitude (n : Int) : IsWord (Entry.magnitude n).toList := by
  have hd : ∀ c ∈ (hexDigits n.natAbs).toList, isBlank c = false := fun c hc =>
    (isDigitOf_hexDigits _ c hc).isGraphic.not_blank
  have hmark : ∀ mark : String, (mark.toList.all fun c => !isBlank c) = true →
      ∀ c ∈ mark.toList ++ (hexDigits n.natAbs).toList, isBlank c = false := fun mark hm c hc =>
    (List.mem_append.1 hc).elim (fun hc => by simpa using List.all_eq_true.1 hm c hc) (hd c)
  unfold Entry.magnitude
  split
  · rw [String.toList_append]
    exact ⟨by simp, hmark "-0x" (by decide)⟩
  · rw [String.toList_append]
    exact ⟨by simp, hmark "0x" (by decide)⟩

theorem readNumber?_magnitude (n : Int) : readNumber? (Entry.magnitude n) = some n := by
  unfold Entry.magnitude
  split
  · rw [readNumber?_negMarked]; congr 1; omega
  · rw [readNumber?_marked]; congr 1; omega

/-- the words of the parameter -/
def parmWords (i : Instruction) : List (List Char) :=
  if i.hasParm then [(Entry.magnitude i.parm).toList] else []

theorem wordsOf_parmText (i : Instruction) {rest : List Char} (hr : Apart rest) :
    wordsOf ((Entry.parmText i).toList ++ rest) = parmWords i ++ wordsOf rest := by
  unfold Entry.parmText parmWords
  by_cases h : i.hasParm = true
  · have hblank : (if i.parm < 0 then "  " else "   ").toList.all isBlank = true := by
      split <;> decide
    rw [if_pos h, if_pos h, String.toList_append, List.append_assoc, wordsOf_blanks hblank,
      wordsOf_apart (isWord_magnitude i.parm) hr]
    rfl
  · rw [if_neg h, if_neg h]
    rfl

theorem apart_changeText (e : Entry) : Apart e.changeText.toList := by
  unfold Entry.changeText
  dsimp only
  split
  · rw [String.toList_append]; exact apart_blank _
  · split
    · rw [String.toList_append]; exact apart_blank _
    · split
      · exact apart_blank _
      · exact .inl rfl

theorem apart_parmText (i : Instruction) : Apart (Entry.parmText i).toList := by
  unfold Entry.parmText
  split
  · rw [String.toList_append]
    split <;> exact apart_blank _
  · exact .inl rfl

theorem apart_remarkText (e : Entry) : Apart (e.remarkText "  ").toList := by
  unfold Entry.remarkText
  rw [String.toList_append]
  refine Apart.append ?_ ?_
  · split
    · exact .inl rfl
    · rw [String.toList_append, String.toList_append]; exact apart_blank _
  · cases e.inline with
    | none => exact .inl rfl
    | some c =>
      show Apart ("  " ++ "; " ++ c).toList
      rw [String.toList_append, String.toList_append]
      exact apart_blank _

/-- the line of an entry without its line end -/
def lineBody (e : Entry) : String :=
  e.address ++ "  " ++ Entry.opcodeText e.instruction ++ e.changeText ++ Entry.parmText e.instruction ++
    e.remarkText "  "

theorem wordsOf_line (e : Entry) :
    ∃ ws, wordsOf (lineBody e).toList = e.address.toList :: e.instruction.op.name.toList ::
      (changeWords e.instruction ++ (parmWords e.instruction ++ ws)) := by
  obtain ⟨k, hk⟩ := toList_opcodeText e.instruction
  have hblank : (List.replicate k ' ').all isBlank = true := List.all_eq_true.2 fun c hc => by
    rw [List.eq_of_mem_replicate hc]; decide
  have hremark := apart_remarkText e
  have hparm := (apart_parmText e.instruction).append hremark
  have hpad : Apart (List.replicate k ' ') := by
    cases k with
    | zero => exact .inl rfl
    | succ k => exact apart_blank _
  refine ⟨wordsOf (e.remarkText "  ").toList, ?_⟩
  have hl : (lineBody e).toList = e.address.toList ++ ("  ".toList ++ (e.instruction.op.name.toList ++
      (List.replicate k ' ' ++ (e.changeText.toList ++ ((Entry.parmText e.instruction).toList ++
        (e.remarkText "  ").toList))))) := by
    unfold lineBody
    simp only [String.toList_append, hk, List.append_assoc]
  rw [hl, wordsOf_apart (isWord_address e) (show Apart ("  ".toList ++ _) from apart_blank _),
    wordsOf_blanks (by decide),
    wordsOf_apart (isWord_name _) (hpad.append ((apart_changeText e).append hparm)),
    wordsOf_blanks hblank, wordsOf_changeText e hparm, wordsOf_parmText _ hremark]

theorem words_lineBody (e : Entry) :
    ∃ ws, words (lineBody e) = e.address :: e.instruction.op.name ::
      (changeWords e.instruction ++ (parmWords e.instruction ++ ws)).map String.ofList := by
  obtain ⟨ws, hws⟩ := wordsOf_line e
  refine ⟨ws, ?_⟩
  unfold words
  rw [hws, List.map_cons, List.map_cons, String.ofList_toList, String.ofList_toList]

/-- a line is a comment if its first word starts one -/
theorem isComment_of_words {line w : String} {ws : List String} (h : words line = w :: ws) :
    CodeLine.isComment line = (w.toList.head? == some ';') := by
  obtain ⟨u, us, hu, rfl, -⟩ := List.map_eq_cons_iff.1 h
  obtain ⟨-, -, -, htrim, -⟩ := exists_first_word hu
  obtain ⟨c, cs, rfl⟩ := List.exists_cons_of_ne_nil (isWord_of_mem_wordsOf (hu ▸ List.mem_cons_self)).1
  unfold CodeLine.isComment
  rw [htrim, String.toList_ofList]
  rfl

/-- a line that starts with an address is no comment -/
theorem isComment_of_address {line : String} {index : Nat} {ws : List String} (h : words line = hex8 index :: ws) :
    CodeLine.isComment line = false := by
  rw [isComment_of_words h, beq_eq_false_iff_ne]
  intro hsemi
  exact (isDigitOf_hexPad 8 index ';' (List.mem_of_mem_head? hsemi)).ne (d := ';') rfl rfl

/-- behind an address stand the opcode, the change in the depth of the stack unless it is 0, and the parameter -/
theorem read_of_address {line : String} {index : Nat} {op : Opcode} {rest : List String}
    (h : words line = hex8 index :: op.name :: rest) :
    CodeLine.read line = .ok (some ⟨op.name, if op.stackChange = 0 then rest[0]? else rest[1]?⟩) := by
  have haddress : CodeLine.isAddress (hex8 index) = true := by
    unfold CodeLine.isAddress hex8
    rw [readInt?_hexPad]
    rfl
  unfold CodeLine.read
  rw [isComment_of_address h, if_neg Bool.false_ne_true, h, CodeLine.readWords, if_pos haddress, CodeLine.readListed,
    ofName?_name]
  rfl

theorem isComment_line (e : Entry) : CodeLine.isComment (lineBody e) = false := by
  obtain ⟨ws, hws⟩ := words_lineBody e
  exact isComment_of_address hws

/-- the line of an entry is read as its opcode with the text of its parameter -/
theorem read_line (e : Entry) :
    ∃ parm, CodeLine.read (lineBody e) = .ok (some ⟨e.instruction.op.name, parm⟩) ∧
      (e.instruction.hasParm → parm = some (Entry.magnitude e.instruction.parm)) := by
  obtain ⟨ws, hws⟩ := words_lineBody e
  refine ⟨_, read_of_address hws, fun hp => ?_⟩
  unfold changeWords parmWords
  rw [if_pos hp]
  split <;> simp

/-- the line of an entry says its instruction -/
theorem says_line {e : Entry} (hf : e.instruction.Fits) (hr : Unbroken (lineBody e)) :
    Says e.line [e.instruction] := by
  obtain ⟨parm, hread, hparm⟩ := read_line e
  refine says_read hr hread ?_
  unfold CodeLine.instruction?
  rw [ofName?_name]
  dsimp only
  by_cases hw : e.instruction.op.width = 0
  · have h0 : e.instruction.parm = 0 := by
      unfold Instruction.Fits at hf
      rw [hw] at hf
      exact hf
    rw [if_pos hw, ← h0]
  · have hp : e.instruction.hasParm = true := by simp [Instruction.hasParm, hw]
    rw [if_neg hw, hparm hp, Option.bind_some, readNumber?_magnitude]
    rfl

/-! ### the line is one line -/

theorem unbroken_magnitude (n : Int) : Unbroken (Entry.magnitude n) := (isWord_magnitude n).unbroken

theorem unbroken_opcodeText (i : Instruction) : Unbroken (Entry.opcodeText i) := by
  obtain ⟨k, hk⟩ := toList_opcodeText i
  show '\n' ∉ (Entry.opcodeText i).toList
  rw [hk, List.mem_append]
  rintro (h | h)
  · exact (isWord_name i.op).unbroken h
  · exact absurd (List.eq_of_mem_replicate h) (by decide)

theorem unbroken_changeText (e : Entry) : Unbroken e.changeText := by
  unfold Entry.changeText
  dsimp only
  split
  · exact unbroken_append (by decide) (unbroken_toString _)
  · split
    · exact unbroken_append (by decide) (unbroken_toString _)
    · split <;> decide

theorem unbroken_parmText (i : Instruction) : Unbroken (Entry.parmText i) := by
  unfold Entry.parmText
  split
  · exact unbroken_append (by split <;> decide) (unbroken_magnitude _)
  · decide

theorem unbroken_remarkText {e : Entry} (hr : Unbroken e.remark)
    (hi : ∀ c, e.inline = some c → Unbroken c) {gap : String} (hg : Unbroken gap) :
    Unbroken (e.remarkText gap) := by
  have hmark : Unbroken (gap ++ "; ") := unbroken_append hg (by decide)
  unfold Entry.remarkText
  refine unbroken_append ?_ ?_
  · split
    · decide
    · exact unbroken_append hmark hr
  · cases hc : e.inline with
    | none => exact show Unbroken "" by decide
    | some c => exact unbroken_append hmark (hi c hc)

theorem unbroken_lineBody {e : Entry} (hr : Unbroken e.remark)
    (hi : ∀ c, e.inline = some c → Unbroken c) : Unbroken (lineBody e) := by
  unfold lineBody
  simp only [unbroken_append_iff]
  exact ⟨⟨⟨⟨⟨(isWord_address e).unbroken, by decide⟩, unbroken_opcodeText _⟩, unbroken_changeText e⟩,
    unbroken_parmText _⟩, unbroken_remarkText hr hi (by decide)⟩

end Listing
end Disasm
