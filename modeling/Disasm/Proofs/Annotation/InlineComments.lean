import Mathlib
import Disasm.Proofs.Annotation.CommentFile
import Disasm.Proofs.Text.Search

/-!
# Comments beside addresses

The text of a comment beside an address is looked for in its line: it is taken from the first place at which its
first word stands (`inlineText`).

* `marks target w`  the words in front of such a comment;
* `writtenText n line`  the line from the word at place `n` on, up to its last character that is no blank;
* `inlineText_eq_iff`  the two are the same unless the first word of the comment stands in a word in front of it;
* `inline_stored`  what a file leaves in the tables for the last comment beside an address.
-/

namespace Disasm.Annotations

/-! ## the text of a comment -/

/-- the words in front of a comment beside an address, which the word `w` gives -/
def marks (w : String) : CommentTarget → List String
  | .code => [w, "inline"]
  | .data => ["d", w, "inline"]

/-- the line from the word at a place on -/
def writtenText (n : Nat) (line : String) : String :=
  Text.stripEnd (String.ofList (Text.afterWords n (Text.uncomment line).toList))

theorem inlineText_eq_iff {line first : String} {front more : List String}
    (h : Text.words (Text.uncomment line) = front ++ first :: more) :
    inlineText line first = writtenText front.length line ↔ ∀ w ∈ front, ¬ first.toList <:+: w.toList := by
  have hword : Text.IsWord first.toList :=
    Text.isWord_of_mem_words (h ▸ List.mem_append_right front List.mem_cons_self)
  have hwords : Text.wordsOf (Text.uncomment line).toList =
      front.map String.toList ++ first.toList :: more.map String.toList := by
    have hmap := congrArg (List.map String.toList) h
    simpa [Text.words, Function.comp_def] using hmap
  have hat : (Text.wordsOf (Text.uncomment line).toList)[front.length]? = some first.toList := by
    rw [hwords, List.getElem?_append_right (by rw [List.length_map])]
    simp
  obtain ⟨x, hline, hfront, hend, hfirst⟩ := Text.exists_front hat
  obtain ⟨y, hy, hiff⟩ := Text.fromFirst_append hword hfirst hend
  have hseen : ∃ c ∈ Text.afterWords front.length (Text.uncomment line).toList, Text.isBlank c = false := by
    obtain ⟨c, cs, hcs⟩ := List.exists_cons_of_ne_nil hword.1
    exact ⟨c, hfirst.subset (hcs ▸ List.mem_cons_self), hword.2 c (hcs ▸ List.mem_cons_self)⟩
  rw [← hline] at hy
  have htext : inlineText line first = writtenText front.length line ↔ y = [] := by
    unfold inlineText writtenText Text.stripEnd
    rw [hy, String.toList_ofList, String.toList_ofList, Text.trimEnd_append hseen, String.ofList_inj,
      List.append_left_eq_self]
  rw [htext, hiff, Text.infix_iff_exists_word hword, hfront, hwords]
  simp

/-! ## comments of files -/

/-- the entry is a comment beside an address -/
def EntryLine.IsInlineAt (target : CommentTarget) (addr : Int) (e : EntryLine) : Prop :=
  ∃ replaced first, Heading.ofLine? e.line = some (.inline target addr replaced (some first))

theorem isInlineAt_of_textAt? {l : Labels} {e : EntryLine} {c : CommentEntry} {target : CommentTarget} {addr : Int}
    {text : String} (he : e.comment? l = some (some c)) (hc : c.textAt? target addr = some text) :
    e.IsInlineAt target addr := by
  obtain ⟨_, _, replaced, first, _, hh, rfl⟩ | ⟨_, _, _, -, rfl⟩ := EntryLine.comment?_cases he
  · rw [CommentEntry.textAt?] at hc
    split at hc
    · next hat =>
      obtain ⟨rfl, rfl⟩ := hat
      exact ⟨replaced, first, hh⟩
    · cases hc
  · cases hc

theorem ofRest?_inline {w : String} {addr : Int} (haddr : Text.readNumber? w = some addr) (hpos : 0 ≤ addr)
    (target : CommentTarget) (rest : List String) :
    Heading.ofRest? target (w :: "inline" :: rest) = some (.inline target addr false rest.head?) := by
  rw [Heading.ofRest?, haddr, Option.filter_some_pos (by simpa using hpos)]
  rfl

/-- the heading of a line whose words are those of a comment beside an address -/
theorem ofLine?_inline {line w first : String} {target : CommentTarget} {more : List String} {addr : Int}
    (hwords : Text.words (Text.uncomment line) = marks w target ++ first :: more)
    (haddr : Text.readNumber? w = some addr) (hpos : 0 ≤ addr) :
    Heading.ofLine? line = some (.inline target addr false (some first)) := by
  rw [Heading.ofLine?, hwords]
  cases target with
  | code =>
    have hd : ¬ (w == "d") = true := by
      rw [beq_iff_eq]
      rintro rfl
      cases haddr
    show (if w == "d" then _ else _) = _
    rw [if_neg hd]
    exact ofRest?_inline haddr hpos .code (first :: more)
  | data => exact ofRest?_inline haddr hpos .data (first :: more)

/-- a file is loaded when its entries can be read.  The last comment beside an address is kept there, from the first
place at which its first word stands; that is the comment as it is written exactly when this word stands in no word in
front of it -/
theorem inline_stored (text : String) (s : Session Annotations) {front back : List EntryLine} {e : EntryLine}
    (he : entryLines (Text.lines text) = front ++ e :: back) {w first : String} {target : CommentTarget}
    {more : List String} {addr : Int}
    (hwords : Text.words (Text.uncomment e.line) = marks w target ++ first :: more)
    (haddr : Text.readNumber? w = some addr) (hpos : 0 ≤ addr)
    (hlast : ∀ e' ∈ back, ¬ e'.IsInlineAt target addr) :
    ((∃ t, loadComments text s = .ok () t) ↔
      ∀ e ∈ entryLines (Text.lines text), ∃ c, e.comment? s.state.labels = some c) ∧
    (∃ c, e.comment? s.state.labels = some c) ∧
    (∀ t, loadComments text s = .ok () t →
      (t.state.comments target).inline[addr]? = some (inlineText e.line first)) ∧
    (inlineText e.line first = writtenText (marks w target).length e.line ↔
      ∀ u ∈ marks w target, ¬ first.toList <:+: u.toList) := by
  have hentry : e.comment? s.state.labels = some (some (.inline target addr (inlineText e.line first))) := by
    rw [EntryLine.comment?, ofLine?_inline hwords haddr hpos]
    rfl
  refine ⟨loadComments_ok_iff text s, ⟨_, hentry⟩, fun t ht => ?_, inlineText_eq_iff hwords⟩
  obtain ⟨cs, hstate, hfound⟩ := findSome?_of_last ht he hentry (if_pos ⟨rfl, rfl⟩) fun e' he' c hc =>
    Option.eq_none_iff_forall_ne_some.2 fun x hx => hlast e' he' (isInlineAt_of_textAt? hc hx)
  rw [hstate, inline_placeAll, hfound, Option.some_or]

/-! ### two comments -/

/-- a comment beside a place in the data, with blanks of several kinds -/
def plainInline : String := "d  0x10\tinline a  note \n"

theorem entryLines_plainInline : entryLines (Text.lines plainInline) = [⟨plainInline, []⟩] := by
  have hlines : Text.lines plainInline = [plainInline] := by decide +kernel
  have hnext : (EntryLine.mk plainInline []).next = [] := by decide +kernel
  rw [hlines, entryLines_cons, hnext, entryLines]

theorem inline_stored_plain :
    ∃ t, loadComments plainInline ⟨{}, {}⟩ = .ok () t ∧
      (t.state.comments .data).inline[(16 : Int)]? = some "a  note" ∧ writtenText 3 plainInline = "a  note" := by
  obtain ⟨-, -, hkept, hwritten⟩ := inline_stored plainInline ⟨{}, {}⟩
    (entryLines_plainInline.trans (List.nil_append _).symm)
    (show Text.words (Text.uncomment plainInline) = marks "0x10" .data ++ "a" :: ["note"] by decide +kernel)
    (show Text.readNumber? "0x10" = some 16 by decide +kernel) (by decide) (List.forall_mem_nil _)
  obtain ⟨t, ht, -⟩ := Action.exists_of_endsWith
    (show Action.endsWith (loadComments plainInline) ⟨{}, {}⟩ (fun _ => true) = true by decide +kernel)
  have htext : inlineText plainInline "a" = "a  note" := by decide +kernel
  exact ⟨t, ht, by rw [hkept t ht, htext], by rw [← htext]; exact (hwritten.2 (by decide)).symm⟩

/-- a comment whose first word stands in the word `inline` -/
def earlyInline : String := "0x2 inline in the loop\n"

/-- the comment is kept with the word in front of it -/
theorem earlyInline_keeps_mark :
    ∃ t, loadComments earlyInline ⟨{}, {}⟩ = .ok () t ∧
      (t.state.comments .code).inline[(2 : Int)]? = some "inline in the loop" ∧
      writtenText 2 earlyInline = "in the loop" := by
  obtain ⟨t, ht, hkept⟩ := Action.exists_of_endsWith
    (show Action.endsWith (loadComments earlyInline) ⟨{}, {}⟩ (fun a =>
      decide ((a.comments .code).inline[(2 : Int)]? = some "inline in the loop")) = true by decide +kernel)
  exact ⟨t, ht, of_decide_eq_true hkept, by decide +kernel⟩

end Disasm.Annotations
