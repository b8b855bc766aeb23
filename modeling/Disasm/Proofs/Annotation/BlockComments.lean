import Mathlib
import Disasm.Proofs.Annotation.CommentFile

/-!
# Comments in blocks

A line of a block is kept without its last character (`body`), which is its line end, except on a last line of the
file that has none.

* `withoutEnd line`  the line without its line end, complete when it has none;
* `FileLines ls`  no line is empty, and all but the last have their line end, as in every file;
* `WellEnded rest`  no line of the block at the start of `rest`, nor the one that closes it, lacks its end;
* `blockOf_body_fst_iff`  for these blocks, and for no others, dropping the last character is dropping line ends;
* `blocks_stored`  what a file leaves in the tables for the last block at a place, and where the next entry is read.
-/

namespace Disasm.Annotations

/-! ## line ends -/

/-- the line has its line end -/
def Ended (line : String) : Prop := line.toList.getLast? = some '\n'

instance (line : String) : Decidable (Ended line) := inferInstanceAs (Decidable (_ = _))

/-- the line without its line end -/
def withoutEnd (line : String) : String := if Ended line then body line else line

theorem withoutEnd_of_ended {line : String} (h : Ended line) : withoutEnd line = body line := if_pos h

theorem withoutEnd_of_not_ended {line : String} (h : ¬ Ended line) : withoutEnd line = line := if_neg h

theorem eq_of_ended {line : String} (h : Ended line) : line = body line ++ "\n" := by
  obtain ⟨cs, hcs⟩ := List.getLast?_eq_some_iff.1 h
  apply String.toList_inj.1
  rw [String.toList_append, body, String.toList_ofList, hcs, List.dropLast_concat]
  rfl

theorem length_body (line : String) : (body line).length = line.length - 1 := by
  rw [body, String.length_ofList, List.length_dropLast, String.length_toList]

theorem body_ne_self {line : String} (h : line ≠ "") : body line ≠ line := by
  intro he
  have hlen := length_body line
  rw [he] at hlen
  have hpos : line.length ≠ 0 := fun hz => h (String.length_eq_zero_iff.1 hz)
  omega

/-! ## lines of files -/

/-- no line is empty, and all but the last have their line end -/
structure FileLines (ls : List String) : Prop where
  ended : ∀ line ∈ ls.dropLast, Ended line
  nonempty : ∀ line ∈ ls, line ≠ ""

theorem FileLines.suffix {ls ls' : List String} (h : FileLines ls) (hs : ls' <:+ ls) : FileLines ls' := by
  obtain ⟨front, rfl⟩ := hs
  refine ⟨fun line hline => h.ended line ?_, fun line hline => h.nonempty line (List.mem_append_right front hline)⟩
  have hne : ls' ≠ [] := by rintro rfl; cases hline
  rw [List.dropLast_append_of_ne_nil hne]
  exact List.mem_append_right front hline

/-- a line without its end is the last one -/
theorem FileLines.eq_nil {line : String} {rest : List String} (h : FileLines (line :: rest)) (hline : ¬ Ended line) :
    rest = [] := by
  cases rest with
  | nil => rfl
  | cons line' rest => exact absurd (h.ended line List.mem_cons_self) hline

theorem FileLines.cons {line : String} {rest : List String} (hline : Ended line) (h : FileLines rest) :
    FileLines (line :: rest) := by
  refine ⟨fun x hx => ?_, List.forall_mem_cons.2 ⟨?_, h.nonempty⟩⟩
  · cases rest with
    | nil => cases hx
    | cons line' rest =>
      rw [List.dropLast_cons_cons] at hx
      exact (List.mem_cons.1 hx).elim (fun he => he ▸ hline) (h.ended x)
  · rintro rfl
    cases hline

theorem fileLines_linesFrom (cs cur : List Char) : FileLines ((Text.linesFrom cs cur).map String.ofList) := by
  induction cs generalizing cur with
  | nil =>
    rw [Text.linesFrom]
    cases cur with
    | nil => exact ⟨List.forall_mem_nil _, List.forall_mem_nil _⟩
    | cons c cur =>
      refine ⟨List.forall_mem_nil _, fun line hline he => ?_⟩
      rw [List.mem_singleton.1 hline, String.ofList_eq_empty_iff] at he
      exact absurd (List.reverse_eq_nil_iff.1 he) (List.cons_ne_nil c cur)
  | cons c cs ih =>
    rw [Text.linesFrom_cons]
    by_cases hc : (c == '\n') = true
    · rw [if_pos hc, List.map_cons]
      refine (ih []).cons ?_
      rw [Ended, String.toList_ofList, List.reverse_cons, List.getLast?_concat, beq_iff_eq.1 hc]
    · rw [if_neg hc]
      exact ih (c :: cur)

theorem fileLines_lines (text : String) : FileLines (Text.lines text) := fileLines_linesFrom text.toList []

/-! ## blocks -/

/-- the block is closed on a line with its end, or all lines have theirs -/
def WellEnded (rest : List String) : Prop := "<<<\n" ∈ rest ∨ ∀ line ∈ rest, Ended line

instance (rest : List String) : Decidable (WellEnded rest) := inferInstanceAs (Decidable (_ ∨ _))

theorem body_eq_mark_iff {line : String} (h : Ended line) : body line = "<<<" ↔ line = "<<<\n" := by
  constructor
  · intro hb
    rw [eq_of_ended h, hb]
    rfl
  · rintro rfl
    rfl

theorem wellEnded_cons {line : String} (h : Ended line) (rest : List String) :
    WellEnded (line :: rest) ↔ body line = "<<<" ∨ WellEnded rest := by
  unfold WellEnded
  rw [body_eq_mark_iff h, List.mem_cons, List.forall_mem_cons, eq_comm (a := line)]
  tauto

theorem not_wellEnded_singleton {line : String} (h : ¬ Ended line) : ¬ WellEnded [line] := by
  rintro (hm | hall)
  · rw [List.mem_singleton] at hm
    exact h (hm ▸ rfl)
  · exact h (hall line (List.mem_singleton_self line))

/-- a last line without its end is not kept as it stands -/
theorem blockOf_ne_of_not_ended {line : String} (h : ¬ Ended line) (hne : line ≠ "") :
    (blockOf body [line]).1 ≠ (blockOf withoutEnd [line]).1 := by
  rw [blockOf_cons, blockOf_cons, withoutEnd_of_not_ended h]
  by_cases hb : body line = "<<<"
  · rw [if_pos hb, if_neg (fun he => body_ne_self hne (hb.trans he.symm))]
    exact (List.cons_ne_nil _ _).symm
  · rw [if_neg hb]
    by_cases hl : line = "<<<"
    · rw [if_pos hl]
      exact List.cons_ne_nil _ _
    · rw [if_neg hl]
      exact fun he => body_ne_self hne (List.cons.inj he).1

/-- the two cuts agree on where a block ends -/
theorem blockOf_body_snd {rest : List String} (h : FileLines rest) :
    (blockOf body rest).2 = (blockOf withoutEnd rest).2 := by
  induction rest with
  | nil => rfl
  | cons line rest ih =>
    have hrest := ih (h.suffix (List.suffix_cons line rest))
    by_cases hline : Ended line
    · rw [blockOf_cons, blockOf_cons, withoutEnd_of_ended hline]
      split
      · rfl
      · exact hrest
    · obtain rfl := h.eq_nil hline
      rw [blockOf_cons, blockOf_cons]
      split <;> split <;> rfl

/-- they agree on its lines unless one of them lacks its end -/
theorem blockOf_body_fst_iff {rest : List String} (h : FileLines rest) :
    (blockOf body rest).1 = (blockOf withoutEnd rest).1 ↔ WellEnded rest := by
  induction rest with
  | nil => exact iff_of_true rfl (.inr (List.forall_mem_nil _))
  | cons line rest ih =>
    by_cases hline : Ended line
    · rw [wellEnded_cons hline, ← ih (h.suffix (List.suffix_cons line rest)), blockOf_cons, blockOf_cons,
        withoutEnd_of_ended hline]
      by_cases hb : body line = "<<<"
      · rw [if_pos hb, if_pos hb]
        exact iff_of_true rfl (.inl hb)
      · rw [if_neg hb, if_neg hb, List.cons_inj_right]
        exact ⟨.inr, fun hor => hor.resolve_left hb⟩
    · obtain rfl := h.eq_nil hline
      exact iff_of_false (blockOf_ne_of_not_ended hline (h.nonempty line List.mem_cons_self))
        (not_wellEnded_singleton hline)

/-! ## blocks of files -/

/-- the entry is a block on one side of an address -/
def EntryLine.IsBlockAt (target : CommentTarget) (addr : Int) (side : Side) (e : EntryLine) : Prop :=
  ∃ b spacing, Heading.ofLine? e.line = some (.block b spacing) ∧ b.target = target ∧ b.addr = addr ∧ b.side = side

theorem isBlockAt_of_linesAt? {l : Labels} {e : EntryLine} {c : CommentEntry} {target : CommentTarget} {addr : Int}
    {side : Side} {ls : List String} (he : e.comment? l = some (some c)) (hc : c.linesAt? target addr side = some ls) :
    e.IsBlockAt target addr side := by
  obtain ⟨_, _, _, _, _, -, rfl⟩ | ⟨b, spacing, ls, hh, rfl⟩ := EntryLine.comment?_cases he
  · cases hc
  · rw [CommentEntry.linesAt?] at hc
    split at hc
    · next hat => exact ⟨b, spacing, hh, hat⟩
    · cases hc

theorem mapM_replaced?_false (l : Labels) (ls : List String) : ls.mapM (replaced? l false) = some ls := by
  induction ls with
  | nil => rfl
  | cons line ls ih => rw [List.mapM_cons, ih]; rfl

/-- the last block on one side of an address is found there -/
theorem lines?_of_last {text : String} {s t : Session Annotations} (ht : loadComments text s = .ok () t)
    {front back : List EntryLine} {e : EntryLine} (he : entryLines (Text.lines text) = front ++ e :: back)
    {b : OpenBlock} {spacing : Spacing} (hb : Heading.ofLine? e.line = some (.block b spacing))
    (hplain : b.replaced = false) (hlast : ∀ e' ∈ back, ¬ e'.IsBlockAt b.target b.addr b.side) :
    (t.state.comments b.target).lines? b.addr b.side = some (blockOf body e.rest).1 := by
  have hentry : e.comment? s.state.labels =
      some (some (.block b.target b.side b.addr spacing (blockOf body e.rest).1)) := by
    rw [EntryLine.comment?, hb, Option.bind_some, Heading.comment?, hplain, mapM_replaced?_false]
    rfl
  obtain ⟨cs, hstate, hfound⟩ := findSome?_of_last ht he hentry (if_pos ⟨rfl, rfl, rfl⟩) fun e' he' c hc =>
    Option.eq_none_iff_forall_ne_some.2 fun ls hls => hlast e' he' (isBlockAt_of_linesAt? hc hls)
  rw [hstate, lines?_placeAll, hfound, Option.some_or]

theorem next_of_block {e : EntryLine} {b : OpenBlock} {spacing : Spacing}
    (hb : Heading.ofLine? e.line = some (.block b spacing)) : e.next = (blockOf body e.rest).2 := by
  rw [EntryLine.next_eq hb]
  rfl

/-- a file is loaded when its entries can be read.  The last block for a place is kept there, its lines without their
last characters, which are its lines without their ends exactly when no line of it lacks its own; the entries behind it
are those of the lines behind its end -/
theorem blocks_stored (text : String) (s : Session Annotations) {front back : List EntryLine} {e : EntryLine}
    (he : entryLines (Text.lines text) = front ++ e :: back) {b : OpenBlock} {spacing : Spacing}
    (hb : Heading.ofLine? e.line = some (.block b spacing)) (hplain : b.replaced = false)
    (hlast : ∀ e' ∈ back, ¬ e'.IsBlockAt b.target b.addr b.side) :
    ((∃ t, loadComments text s = .ok () t) ↔
      ∀ e ∈ entryLines (Text.lines text), ∃ c, e.comment? s.state.labels = some c) ∧
    (∀ t, loadComments text s = .ok () t →
      (t.state.comments b.target).lines? b.addr b.side = some (blockOf body e.rest).1) ∧
    ((blockOf body e.rest).1 = (blockOf withoutEnd e.rest).1 ↔ WellEnded e.rest) ∧
    back = entryLines (blockOf withoutEnd e.rest).2 := by
  obtain ⟨hback, hsuffix⟩ := entryLines_split he
  have hfile : FileLines e.rest :=
    (fileLines_lines text).suffix ((List.suffix_cons e.line e.rest).trans hsuffix)
  refine ⟨loadComments_ok_iff text s, fun t ht => lines?_of_last ht he hb hplain hlast,
    blockOf_body_fst_iff hfile, ?_⟩
  rw [← blockOf_body_snd hfile, ← next_of_block hb]
  exact hback

/-! ### a block that is closed, and one that is not -/

/-- a block and an entry behind it; the file ends without a line end -/
def closedBlock : String := "0x2 before 1\nstores\n<<<\nd 0x4 inline a number"

theorem entryLines_closedBlock : entryLines (Text.lines closedBlock) =
    [⟨"0x2 before 1\n", ["stores\n", "<<<\n", "d 0x4 inline a number"]⟩, ⟨"d 0x4 inline a number", []⟩] := by
  have hlines : Text.lines closedBlock = ["0x2 before 1\n", "stores\n", "<<<\n", "d 0x4 inline a number"] := by
    decide +kernel
  have hnext : (EntryLine.mk "0x2 before 1\n" ["stores\n", "<<<\n", "d 0x4 inline a number"]).next =
      ["d 0x4 inline a number"] := by decide +kernel
  have hend : (EntryLine.mk "d 0x4 inline a number" []).next = [] := by decide +kernel
  rw [hlines, entryLines_cons, hnext, entryLines_cons, hend, entryLines]

theorem blocks_stored_closed :
    ∃ t, loadComments closedBlock ⟨{}, {}⟩ = .ok () t ∧
      (t.state.comments .code).lines? 2 .before = some ["stores"] ∧
      (blockOf withoutEnd ["stores\n", "<<<\n", "d 0x4 inline a number"]).1 = ["stores"] ∧
      entryLines (blockOf withoutEnd ["stores\n", "<<<\n", "d 0x4 inline a number"]).2 =
        [⟨"d 0x4 inline a number", []⟩] := by
  have hb : Heading.ofLine? "0x2 before 1\n" = some (.block ⟨.code, .before, 2, false⟩ ⟨1, 0⟩) := by decide +kernel
  have hlast : ∀ e' ∈ [EntryLine.mk "d 0x4 inline a number" []], ¬ e'.IsBlockAt .code 2 .before := by
    rintro e' he' ⟨b, spacing, hb, -⟩
    rw [List.mem_singleton.1 he', show Heading.ofLine? "d 0x4 inline a number" =
      some (.inline .data 4 false (some "a")) by decide +kernel] at hb
    cases hb
  obtain ⟨-, hlines, hcut, hback⟩ := blocks_stored closedBlock ⟨{}, {}⟩
    (entryLines_closedBlock.trans (List.nil_append _).symm) hb rfl hlast
  obtain ⟨t, ht, -⟩ := Action.exists_of_endsWith
    (show Action.endsWith (loadComments closedBlock) ⟨{}, {}⟩ (fun _ => true) = true by decide +kernel)
  have hkept : (blockOf body ["stores\n", "<<<\n", "d 0x4 inline a number"]).1 = ["stores"] := by decide +kernel
  refine ⟨t, ht, ?_, ?_, hback.symm⟩
  · rw [hlines t ht, hkept]
  · rw [← hcut.2 (.inl (by decide)), hkept]

/-- a block whose last line, the one that closes it, has no line end -/
def unendedBlock : String := "0x2 before\nstores\na number\n<<<"

/-- the line that closes the block is kept as one of its lines, cut short -/
theorem unendedBlock_keeps_mark :
    ∃ t, loadComments unendedBlock ⟨{}, {}⟩ = .ok () t ∧
      (t.state.comments .code).lines? 2 .before = some ["stores", "a number", "<<"] ∧
      (blockOf withoutEnd ["stores\n", "a number\n", "<<<"]).1 = ["stores", "a number"] := by
  obtain ⟨t, ht, hkept⟩ := Action.exists_of_endsWith
    (show Action.endsWith (loadComments unendedBlock) ⟨{}, {}⟩ (fun a =>
      decide ((a.comments .code).lines? 2 .before = some ["stores", "a number", "<<"])) = true by decide +kernel)
  exact ⟨t, ht, of_decide_eq_true hkept, by decide +kernel⟩

end Disasm.Annotations
