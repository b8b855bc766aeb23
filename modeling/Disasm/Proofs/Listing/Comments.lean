import Mathlib
import Disasm.Proofs.Listing.Passages

/-!
# The comments of the user in a listing

A comment stands in the full form of an entry and in its brief form, of which only one is shown.  That it is
shown once and where it is shown does not depend on what it says: the listing is a form with blanks, and the
comments fill the blanks in the order of their addresses.

* `Form`, `Form.fill`  a text with blanks, and the text in which they are filled;
* `CommentTable.Alike`  tables with comments at the same places;
* `InForm`  a text that depends on comments is a form that they fill;
* `entries_recommented`  the entries of a program with other comments;
* `formed_full`, `formed_brief`  both forms of an entry have one blank for each of its comments;
* `comments_shown`  a listing has one blank for each comment, in both ways to show it.
-/

namespace Disasm

/-! ## forms -/

/-- a text with blanks to be filled -/
inductive Form where
  | done (text : String)
  /-- a text in front of a blank, and what follows the blank -/
  | blank (text : String) (rest : Form)
  deriving DecidableEq, Repr

namespace Form

/-- the number of blanks -/
def blanks : Form → Nat
  | done _ => 0
  | blank _ rest => rest.blanks + 1

/-- the text with the blanks filled in order; a blank for which nothing is left stays empty -/
def fill : Form → List String → String
  | done text, _ => text
  | blank text rest, [] => text ++ rest.fill []
  | blank text rest, c :: cs => text ++ c ++ rest.fill cs

/-- a text in front of a form -/
def before (text : String) : Form → Form
  | done t => done (text ++ t)
  | blank t rest => blank (text ++ t) rest

def append : Form → Form → Form
  | done text, G => G.before text
  | blank text rest, G => blank text (rest.append G)

theorem blanks_before (text : String) (F : Form) : (F.before text).blanks = F.blanks := by
  cases F with
  | done t => rfl
  | blank t rest => rfl

theorem fill_before (text : String) (F : Form) (cs : List String) :
    (F.before text).fill cs = text ++ F.fill cs := by
  cases F with
  | done t => rfl
  | blank t rest => cases cs <;> simp [before, fill, String.append_assoc]

theorem blanks_append (F G : Form) : (F.append G).blanks = F.blanks + G.blanks := by
  induction F with
  | done text => rw [append, blanks_before, blanks, Nat.zero_add]
  | blank text rest ih =>
    rw [append, blanks, blanks, ih]
    omega

theorem fill_append (F G : Form) {cs : List String} (h : cs.length = F.blanks) (ds : List String) :
    (F.append G).fill (cs ++ ds) = F.fill cs ++ G.fill ds := by
  induction F generalizing cs with
  | done text =>
    have hcs : cs = [] := List.length_eq_zero_iff.1 h
    rw [hcs, append, fill_before, fill, List.nil_append]
  | blank text rest ih =>
    cases cs with
    | nil => cases h
    | cons c cs =>
      have hlen : cs.length = rest.blanks := Nat.succ.inj h
      rw [append, List.cons_append, fill, fill, ih hlen]
      simp only [String.append_assoc]

/-- `n` blanks, each between the same two texts -/
def copies (front back : String) : Nat → Form
  | 0 => done ""
  | n + 1 => blank front ((copies front back n).before back)

theorem blanks_copies (front back : String) (n : Nat) : (copies front back n).blanks = n := by
  induction n with
  | zero => rfl
  | succ n ih => rw [copies, blanks, blanks_before, ih]

theorem fill_copies (front back : String) (cs : List String) :
    (copies front back cs.length).fill cs = String.join (cs.map fun c => front ++ c ++ back) := by
  induction cs with
  | nil => rfl
  | cons c cs ih =>
    rw [List.length_cons, copies, fill, fill_before, ih, List.map_cons, String.join_cons]
    simp only [String.append_assoc]

end Form

/-! ## tables of comments -/

/-- the number of lines of a block, and its spacing -/
def CommentBlock.shape (b : CommentBlock) : Nat × Option Spacing := (b.lines.length, b.spacing)

/-- two tables have comments at the same places, in blocks of the same shapes -/
structure CommentTable.Alike (t u : CommentTable) : Prop where
  inline : ∀ a : Int, (u.inline[a]?).isSome = (t.inline[a]?).isSome
  blocks : ∀ (a : Int) (side : Side),
    (u.block? a side).map CommentBlock.shape = (t.block? a side).map CommentBlock.shape

theorem CommentTable.Alike.refl (t : CommentTable) : t.Alike t := ⟨fun _ => rfl, fun _ _ => rfl⟩

/-- a comment beside an instruction, as a listing shows it -/
def inlineComment (text : String) : String := "; " ++ text

/-- the comments at an address as a listing shows them: lines before, beside, lines after -/
def CommentTable.shownAt (t : CommentTable) (addr : Int) : List String :=
  (t.linesOf addr .before).map CommentBlock.comment ++ (t.inline[addr]?).toList.map inlineComment ++
    (t.linesOf addr .after).map CommentBlock.comment

/-- the comments at the first `n` addresses -/
def CommentTable.shown (t : CommentTable) (n : Nat) : List String :=
  (List.range n).flatMap fun k : Nat => t.shownAt k

/-- a text that depends on comments is a form that the comments fill, the same one for all tables with
comments at the same places -/
def InForm (t₀ : CommentTable) (text : CommentTable → String) (cs : CommentTable → List String) : Prop :=
  ∃ F : Form, ∀ t, t₀.Alike t → (cs t).length = F.blanks ∧ text t = F.fill (cs t)

namespace InForm
variable {t₀ : CommentTable} {text more : CommentTable → String} {cs ds : CommentTable → List String}

theorem const (text : String) : InForm t₀ (fun _ => text) (fun _ => []) := ⟨.done text, fun _ _ => ⟨rfl, rfl⟩⟩

theorem congr (h : InForm t₀ text cs) (ht : ∀ t, t₀.Alike t → more t = text t)
    (hc : ∀ t, t₀.Alike t → ds t = cs t) : InForm t₀ more ds := by
  obtain ⟨F, hF⟩ := h
  refine ⟨F, fun t ha => ?_⟩
  rw [ht t ha, hc t ha]
  exact hF t ha

theorem append (ht : InForm t₀ text cs) (hm : InForm t₀ more ds) :
    InForm t₀ (fun t => text t ++ more t) (fun t => cs t ++ ds t) := by
  obtain ⟨F, hF⟩ := ht
  obtain ⟨G, hG⟩ := hm
  refine ⟨F.append G, fun t ha => ?_⟩
  obtain ⟨hlen, htext⟩ := hF t ha
  obtain ⟨hlen', htext'⟩ := hG t ha
  refine ⟨?_, ?_⟩
  · rw [List.length_append, hlen, hlen', Form.blanks_append]
  · rw [Form.fill_append F G hlen, ← htext, ← htext']

/-- fixed texts around a text with comments -/
theorem around (ht : InForm t₀ text cs) (front back : String) :
    InForm t₀ (fun t => front ++ text t ++ back) cs := by
  refine (((const front).append ht).append (const back)).congr (fun _ _ => rfl) fun t _ => ?_
  rw [List.nil_append, List.append_nil]

theorem join {α : Type} {f : α → CommentTable → String} {g : α → CommentTable → List String} {xs : List α}
    (h : ∀ x ∈ xs, InForm t₀ (f x) (g x)) :
    InForm t₀ (fun t => String.join (xs.map fun x => f x t)) (fun t => xs.flatMap fun x => g x t) := by
  induction xs with
  | nil => exact const ""
  | cons x xs ih =>
    obtain ⟨hx, hxs⟩ := List.forall_mem_cons.1 h
    refine (hx.append (ih hxs)).congr (fun t _ => ?_) fun t _ => ?_
    · rw [List.map_cons, String.join_cons]
    · rw [List.flatMap_cons]

/-- comments of which the number is known, each between the same two texts -/
theorem copies (front back : String) {n : Nat} (h : ∀ t, t₀.Alike t → (cs t).length = n) :
    InForm t₀ (fun t => String.join ((cs t).map fun c => front ++ c ++ back)) cs := by
  refine ⟨Form.copies front back n, fun t ha => ?_⟩
  rw [Form.blanks_copies, h t ha]
  refine ⟨rfl, ?_⟩
  rw [← h t ha, Form.fill_copies]

end InForm

/-! ## comment blocks -/

/-- the lines of a block in a listing, each with the same texts around it -/
def CommentBlock.textWith (front back : String) (b : CommentBlock) : String :=
  b.above ++ String.join ((b.lines.map CommentBlock.comment).map fun c => front ++ c ++ back) ++ b.below

theorem CommentTable.linesOf_eq (t : CommentTable) (addr : Int) (side : Side) :
    t.linesOf addr side = ((t.block? addr side).map CommentBlock.lines).getD [] := by
  cases side with
  | before =>
    show t.before.getD addr [] = (((t.before[addr]?).map _).map _).getD []
    rw [Std.TreeMap.getD_eq_getD_getElem?]
    cases t.before[addr]? <;> rfl
  | after =>
    show t.after.getD addr [] = (((t.after[addr]?).map _).map _).getD []
    rw [Std.TreeMap.getD_eq_getD_getElem?]
    cases t.after[addr]? <;> rfl

/-- in all tables that are alike a block has as many lines, and the same spacing -/
theorem CommentTable.Alike.block {t₀ t : CommentTable} (h : t₀.Alike t) {addr : Int} {side : Side}
    {b : CommentBlock} (hb : t₀.block? addr side = some b) :
    ∃ lines, t.block? addr side = some ⟨lines, b.spacing⟩ ∧ lines.length = b.lines.length := by
  have hshape := h.blocks addr side
  rw [hb] at hshape
  obtain ⟨b', hb', heq⟩ := Option.map_eq_some_iff.1 hshape
  obtain ⟨hlen, hspacing⟩ := Prod.mk.inj heq
  exact ⟨b'.lines, by rw [hb', ← hspacing], hlen⟩

theorem formed_block (t₀ : CommentTable) (addr : Int) (side : Side) (front back : String) :
    InForm t₀ (fun t => ((t.block? addr side).map (CommentBlock.textWith front back)).getD "")
      (fun t => (t.linesOf addr side).map CommentBlock.comment) := by
  cases h₀ : t₀.block? addr side with
  | none =>
    have hnone : ∀ t, t₀.Alike t → t.block? addr side = none := fun t ha => by
      simpa [h₀] using ha.blocks addr side
    refine (InForm.const "").congr (fun t ha => ?_) fun t ha => ?_
    · rw [hnone t ha]
      rfl
    · rw [CommentTable.linesOf_eq, hnone t ha]
      rfl
  | some b =>
    have hlines : InForm t₀ _ (fun t => (t.linesOf addr side).map CommentBlock.comment) :=
      InForm.copies front back (n := b.lines.length) fun t ha => by
        obtain ⟨lines, h, hlen⟩ := ha.block h₀
        rw [CommentTable.linesOf_eq, h, List.length_map]
        exact hlen
    refine (hlines.around b.above b.below).congr (fun t ha => ?_) fun _ _ => rfl
    obtain ⟨lines, h, -⟩ := ha.block h₀
    rw [CommentTable.linesOf_eq, h]
    rfl

/-! ## entries with other comments -/

/-- the program with other comments on its code -/
def Program.recommented (p : Program) (t : CommentTable) : Program :=
  { p with annotations := { p.annotations with code := t } }

/-- the entry with the comments of a table -/
def Entry.recommented (t : CommentTable) (e : Entry) : Entry :=
  { e with
    before := t.block? e.index .before
    after := t.block? e.index .after
    inline := t.inline[(e.index : Int)]? }

namespace Entry
variable {t₀ t : CommentTable} {e : Entry}

theorem hasComment_eq (h : t₀.Alike t) : (e.recommented t).hasComment = (e.recommented t₀).hasComment :=
  congrArg (e.remark != "" || ·) (h.inline e.index)

theorem changeText_eq (h : t₀.Alike t) : (e.recommented t).changeText = (e.recommented t₀).changeText := by
  unfold changeText
  rw [hasComment_eq h]
  rfl

variable (t₀ e)

/-- the comment beside an instruction fills a blank, if there is one -/
theorem formed_remarkText (gap : String) : InForm t₀ (fun t => (e.recommented t).remarkText gap)
    (fun t => (t.inline[(e.index : Int)]?).toList.map inlineComment) := by
  let remark := if e.remark = "" then "" else gap ++ "; " ++ e.remark
  cases h₀ : t₀.inline[(e.index : Int)]? with
  | none =>
    have hnone : ∀ t, t₀.Alike t → t.inline[(e.index : Int)]? = none := fun t ha => by
      have h := ha.inline e.index
      rw [h₀] at h
      exact Option.not_isSome_iff_eq_none.1 (Bool.eq_false_iff.1 h)
    refine (InForm.const (remark ++ "")).congr (fun t ha => ?_) fun t ha => ?_
    · show remark ++ (((t.inline[(e.index : Int)]?).map fun c => gap ++ "; " ++ c).getD "") = _
      rw [hnone t ha]
      rfl
    · rw [hnone t ha]
      rfl
  | some c₀ =>
    have hsome : ∀ t, t₀.Alike t → ∃ c, t.inline[(e.index : Int)]? = some c := fun t ha => by
      have h := ha.inline e.index
      rw [h₀] at h
      exact Option.isSome_iff_exists.1 h
    have hone : InForm t₀ _ (fun t => (t.inline[(e.index : Int)]?).toList.map inlineComment) :=
      InForm.copies "" "" (n := 1) fun t ha => by
        obtain ⟨c, hc⟩ := hsome t ha
        rw [hc]
        rfl
    refine (hone.around (remark ++ gap) "").congr (fun t ha => ?_) fun _ _ => rfl
    obtain ⟨c, hc⟩ := hsome t ha
    show remark ++ (((t.inline[(e.index : Int)]?).map fun c => gap ++ "; " ++ c).getD "") = _
    rw [hc]
    simp [inlineComment, String.append_assoc]

theorem formed_line : InForm t₀ (fun t => (e.recommented t).line)
    (fun t => (t.inline[(e.index : Int)]?).toList.map inlineComment) := by
  let front := e.address ++ "  " ++ opcodeText e.instruction ++ (e.recommented t₀).changeText ++ parmText e.instruction
  refine ((formed_remarkText t₀ e "  ").around front "\n").congr (fun t ha => ?_) fun _ _ => rfl
  unfold line
  rw [changeText_eq ha]
  rfl

theorem formed_briefLine : InForm t₀ (fun t => (e.recommented t).briefLine)
    (fun t => (t.inline[(e.index : Int)]?).toList.map inlineComment) := by
  by_cases h₀ : (e.recommented t₀).hasComment = true
  · let front := "    ; " ++ e.address ++ " " ++ e.instruction.op.name ++ " " ++
      (if e.instruction.hasParm then " " ++ magnitude e.instruction.parm else "")
    refine ((formed_remarkText t₀ e " ").around front "\n").congr (fun t ha => ?_) fun _ _ => rfl
    unfold briefLine
    rw [hasComment_eq ha, if_pos h₀]
    rfl
  · refine (InForm.const "").congr (fun t ha => ?_) fun t ha => ?_
    · unfold briefLine
      rw [hasComment_eq ha, if_neg h₀]
    · -- without a remark there is no line only when there is no comment either
      rw [← hasComment_eq ha] at h₀
      have hnone : ¬ (t.inline[(e.index : Int)]?).isSome = true := fun h => h₀ (by
        unfold hasComment
        rw [show (e.recommented t).inline = t.inline[(e.index : Int)]? from rfl, h, Bool.or_true])
      rw [Option.not_isSome_iff_eq_none.1 hnone]
      rfl

/-- the full form of an entry has one blank for each of its comments -/
theorem formed_full : InForm t₀ (fun t => (e.recommented t).full) (fun t => t.shownAt e.index) := by
  have hblock : ∀ side : Side, InForm t₀ (fun t => blockText (t.block? e.index side))
      (fun t => (t.linesOf e.index side).map CommentBlock.comment) := fun side =>
    (formed_block t₀ e.index side "" "").congr (fun t _ => by
      unfold blockText
      congr 2
      funext b
      simp [CommentBlock.textWith, CommentBlock.text, Function.comp_def]) fun _ _ => rfl
  by_cases he : e.isEnter = true
  · have h := ((InForm.const (e.jumpLabel ++ e.caseLabel ++ e.heading)).append (hblock .before)).append
      (formed_line t₀ e) |>.append (hblock .after)
    refine h.congr (fun t _ => ?_) fun t _ => ?_
    · unfold full
      exact if_pos he
    · rfl
  · have h := (((hblock .before).append (InForm.const (e.jumpLabel ++ e.caseLabel ++ e.note.full))).append
      (formed_line t₀ e)).append (hblock .after)
    refine h.congr (fun t _ => ?_) fun t _ => ?_
    · unfold full
      rw [if_neg (show ¬ (e.recommented t).isEnter = true from he)]
      simp only [String.append_assoc]
      rfl
    · rw [List.append_nil]
      rfl

/-- the brief form as well, but for the start of a function -/
theorem formed_brief (he : e.isEnter = false) :
    InForm t₀ (fun t => (e.recommented t).brief) (fun t => t.shownAt e.index) := by
  have hbefore : InForm t₀ (fun t => (e.recommented t).briefBefore)
      (fun t => (t.linesOf e.index .before).map CommentBlock.comment) := by
    refine (formed_block t₀ e.index .before "" ("; " ++ e.address ++ " [\n")).congr (fun t _ => ?_) fun _ _ => rfl
    unfold briefBefore
    rw [show (e.recommented t).before = t.block? e.index .before from rfl]
    cases t.block? e.index .before with
    | none => rfl
    | some b => simp [CommentBlock.textWith, Function.comp_def, String.append_assoc, address, recommented]
  have hafter : InForm t₀ (fun t => (e.recommented t).briefAfter)
      (fun t => (t.linesOf e.index .after).map CommentBlock.comment) := by
    refine (formed_block t₀ e.index .after ("; " ++ e.address ++ " ]\n") "").congr (fun t _ => ?_) fun _ _ => rfl
    unfold briefAfter
    rw [show (e.recommented t).after = t.block? e.index .after from rfl]
    cases t.block? e.index .after with
    | none => rfl
    | some b => simp [CommentBlock.textWith, Function.comp_def, String.append_assoc, address, recommented]
  have h := ((hbefore.append (InForm.const e.note.brief)).append (formed_briefLine t₀ e)).append hafter
  refine h.congr (fun t _ => ?_) fun t _ => ?_
  · unfold brief
    rw [if_neg (show ¬ (e.recommented t).isEnter = true from Bool.eq_false_iff.1 he)]
    rfl
  · rw [List.append_nil]
    rfl

end Entry

/-! ## listings with other comments -/

namespace Listing

section
variable (p : Program) (table : CommentTable)

theorem callersText_recommented (callers : List Int) :
    callersText (p.recommented table) callers = callersText p callers := by
  induction callers with
  | nil => rfl
  | cons c callers ih =>
    rw [callersText, callersText, ih]
    rfl

theorem heading_recommented (k : Nat) : heading (p.recommented table) k = heading p k := by
  have hcallers : callersLine (p.recommented table) k = callersLine p k := by
    unfold callersLine
    simp only [callersText_recommented]
    rfl
  unfold heading
  rw [hcallers]
  rfl

/-- comments change what an entry shows beside the instruction and nothing else -/
theorem entry_recommented (k : Nat) (i : Instruction) (next : Option Nat) (s : State) :
    entry (p.recommented table) k i next s = (entry p k i next s).map fun r => (r.1.recommented table, r.2) := by
  by_cases he : i.op = .enter
  · rw [entry_enter he, entry_enter he, heading_recommented]
    cases heading p k <;> rfl
  by_cases hl : i.op = .localAddr
  · rw [entry_local hl, entry_local hl, show arriving (p.recommented table) k s = arriving p k s from rfl]
    cases (arriving p k s).frame <;> rfl
  by_cases hc : i.op = .const
  · rw [entry_const hc, entry_const hc]
    cases next with
    | none => rfl
    | some n =>
      dsimp only
      rw [show constantText (p.recommented table) k i.parm n = constantText p k i.parm n from rfl]
      cases constantText p k i.parm n <;> rfl
  cases ho : i.op.operation? with
  | none =>
    rw [entry_other ho he hl hc, entry_other ho he hl hc]
    by_cases hj : i.op = .jump
    · rw [if_pos hj, if_pos hj]
      rfl
    · rw [if_neg hj, if_neg hj]
      rfl
  | some o =>
    have hnote : loadNote (p.recommented table) (arriving (p.recommented table) k s)
        (bareEntry (p.recommented table) k i).index (bareEntry (p.recommented table) k i).instruction.op =
        loadNote p (arriving p k s) (bareEntry p k i).index (bareEntry p k i).instruction.op := rfl
    have hwork : operate (arriving (p.recommented table) k s).stack
        (OperandStack.perform (parmOperand (bareEntry (p.recommented table) k i).instruction) o) =
        operate (arriving p k s).stack (OperandStack.perform (parmOperand (bareEntry p k i).instruction) o) := rfl
    rw [entry_operation ho, entry_operation ho, operationEntry_eq, operationEntry_eq, hnote, hwork]
    cases loadNote p (arriving p k s) (bareEntry p k i).index (bareEntry p k i).instruction.op with
    | error why => rfl
    | ok note =>
      cases operate (arriving p k s).stack (OperandStack.perform (parmOperand (bareEntry p k i).instruction) o) with
      | error why => rfl
      | ok stack =>
        dsimp only
        by_cases hend : (bareEntry p k i).instruction.op.endsStatement = true
        · rw [if_pos hend, if_pos (show (bareEntry (p.recommented table) k i).instruction.op.endsStatement = true from hend)]
          rfl
        · rw [if_neg hend, if_neg (show ¬ (bareEntry (p.recommented table) k i).instruction.op.endsStatement = true from hend)]
          rfl

theorem entriesFrom_recommented (n k pos : Nat) (s : State) (done : List Entry) :
    entriesFrom (p.recommented table) n k pos s (done.map (Entry.recommented table)) =
      ((entriesFrom p n k pos s done).1.map (Entry.recommented table), (entriesFrom p n k pos s done).2) := by
  induction n generalizing k pos s done with
  | zero =>
    rw [entriesFrom, entriesFrom]
    dsimp only
    rw [List.map_reverse]
  | succ n ih =>
    rw [entriesFrom, entriesFrom, show (p.recommented table).image = p.image from rfl]
    cases instructionAt p.image.code pos with
    | error f =>
      dsimp only
      rw [List.map_reverse]
    | ok found =>
      dsimp only
      rw [entry_recommented]
      cases entry p k found.1 (p.image.code[found.2]?.map UInt8.toNat) s with
      | error why =>
        dsimp only [Except.map]
        rw [List.map_reverse]
      | ok r => exact ih (k + 1) found.2 r.2 (r.1 :: done)

/-- the entries of a program with other comments -/
theorem entries_recommented : entries (p.recommented table) =
    ((entries p).1.map (Entry.recommented table), (entries p).2) :=
  entriesFrom_recommented p table p.header.instructionCount.toNat 0 0 {} []

end

/-- the passage with other comments -/
def Passage.recommented (table : CommentTable) (g : Passage) : Passage where
  body := g.body.map (Entry.recommented table)
  last := g.last.recommented table
  body_open := List.forall_mem_map.2 g.body_open
  last_closes := g.last_closes

theorem passagesFrom_recommented (table : CommentTable) (es done : List Entry) (hd : ∀ e ∈ done, ¬ Closes e)
    (hd' : ∀ e ∈ done.map (Entry.recommented table), ¬ Closes e) :
    passagesFrom (done.map (Entry.recommented table)) hd' (es.map (Entry.recommented table)) =
      (passagesFrom done hd es).map (Passage.recommented table) := by
  induction es generalizing done with
  | nil => rfl
  | cons e es ih =>
    rw [List.map_cons]
    by_cases he : Closes e
    · rw [passagesFrom_closing he, passagesFrom_closing (show Closes (e.recommented table) from he), List.map_cons]
      exact congrArg _ (ih [] _ _)
    · rw [passagesFrom_open he, passagesFrom_open (show ¬ Closes (e.recommented table) from he)]
      have hdone : done.map (Entry.recommented table) ++ [e.recommented table] =
          (done ++ [e]).map (Entry.recommented table) := by simp
      simp only [hdone]
      exact ih _ _ _

theorem passages_recommented (table : CommentTable) (es : List Entry) :
    passages (es.map (Entry.recommented table)) = (passages es).map (Passage.recommented table) :=
  passagesFrom_recommented table es [] _ _

theorem Passage.entries_recommented (table : CommentTable) (g : Passage) :
    (g.recommented table).entries = g.entries.map (Entry.recommented table) := by
  simp [Passage.entries, Passage.recommented]

section
variable (t₀ : CommentTable)

theorem formed_written (e : Entry) :
    InForm t₀ (fun t => (e.recommented t).written) (fun t => t.shownAt e.index) := by
  let statement := (e.statement.map fun s => "    ;; dec: " ++ s ++ "\n\n").getD ""
  exact ((e.formed_full t₀).append (InForm.const statement)).congr (fun _ _ => rfl) fun _ _ =>
    (List.append_nil _).symm

/-- a passage has one blank for each comment of its entries, in both ways to show it -/
theorem formed_passage (replace : Bool) {g : Passage} (hg : ∀ s, g.last.statement = some s → g.last.isEnter = false) :
    InForm t₀ (fun t => (g.recommented t).text replace)
      (fun t => g.entries.flatMap fun e => t.shownAt e.index) := by
  cases hr : (if replace then g.replacement? else none) with
  | none =>
    refine (InForm.join fun (e : Entry) (_ : e ∈ g.entries) => formed_written t₀ e).congr (fun t _ => ?_) fun _ _ => rfl
    have hr' : (if replace then (g.recommented t).replacement? else none) = none := hr
    unfold Passage.text
    rw [hr', Passage.entries_recommented]
    dsimp only [written]
    rw [List.map_map]
    rfl
  | some s =>
    have hrep : g.replacement? = some s := by
      split at hr
      · exact hr
      · cases hr
    -- an entry that starts a function closes, so it could only be the last one
    have henter : ∀ e ∈ g.entries, e.isEnter = false := by
      intro e he
      rcases List.mem_append.1 he with he | he
      · have hopen := g.body_open e he
        rw [Bool.eq_false_iff]
        intro hen
        refine hopen (.inr ?_)
        unfold Entry.isBoundary
        unfold Entry.isEnter at hen
        rw [hen, Bool.true_or]
      · rw [List.mem_singleton.1 he]
        exact hg s (Passage.replacement?_eq_some_iff.1 hrep).1
    have hbriefs := InForm.join fun (e : Entry) (he : e ∈ g.entries) => e.formed_brief t₀ (henter e he)
    refine (hbriefs.append (InForm.const ("    " ++ s ++ ";\n"))).congr (fun t _ => ?_) fun t _ =>
      (List.append_nil _).symm
    have hr' : (if replace then (g.recommented t).replacement? else none) = some s := hr
    unfold Passage.text
    rw [hr', Passage.entries_recommented]
    dsimp only [briefs]
    rw [List.map_map]
    rfl

end

theorem Reaches.map_index {p : Program} {k : Nat} {s : State} {es : List Entry} (h : Reaches p k s es) :
    es.map Entry.index = List.range k := by
  induction h with
  | start => rfl
  | step _ _ he ih => rw [List.map_append, ih, List.map_singleton, (shows_of_entry he).index_eq, List.range_succ]

/-- A listing of code that ends with a closing opcode has one blank for each comment on the code, and the comments
fill the blanks in the order of their addresses, at each address those before, beside and after the instruction.
So each comment is shown once.  This holds whether statements replace instructions or not, and what else is shown
does not depend on what the comments say. -/
theorem comments_shown {σ : Type} {d : Directory} {type : Option String} {file : ByteArray} {c c' : Console}
    {p : Program} (hload : Program.load d type file c = (.ok p, c')) {replace : Bool} {s t : Session σ}
    (hprint : printCode p replace s = .ok () t) (hlast : ∀ i, p.code.getLast? = some i → i.op ∈ closing) :
    ∃ F : Form,
      t.console.out = s.console.out ++ F.fill (p.annotations.code.shown p.header.instructionCount.toNat) ∧
      ∀ table, p.annotations.code.Alike table →
        (table.shown p.header.instructionCount.toNat).length = F.blanks ∧
        ∃ u, printCode (p.recommented table) replace s = .ok () u ∧
          u.console.out = s.console.out ++ F.fill (table.shown p.header.instructionCount.toNat) := by
  have hp := Program.tidy_of_load hload
  obtain ⟨v, hr, hout⟩ := printCode_eq_ok hprint
  have hw := (printCode_ok_iff p replace s).1 ⟨t, hprint⟩
  have hcount : p.code.length = p.header.instructionCount.toNat := (Program.load_eq_ok hload).length_instructions
  have hall : (passages (entries p).1).flatMap Passage.entries = (entries p).1 := by
    refine flatMap_passages_of_last fun e he => (hr.closes_iff hp (List.mem_of_getLast? he)).2 (hlast _ ?_)
    have hmap := congrArg List.getLast? hr.map_instruction
    rw [List.getLast?_map, he, List.take_length] at hmap
    exact hmap.symm
  have hshown : ∀ table : CommentTable,
      (passages (entries p).1).flatMap (fun g => g.entries.flatMap fun e => table.shownAt e.index) =
        table.shown p.header.instructionCount.toNat := by
    intro table
    rw [← List.flatMap_assoc, hall, CommentTable.shown, ← hcount, ← hr.map_index, List.flatMap_map]
  have henter : ∀ g ∈ passages (entries p).1, ∀ s, g.last.statement = some s → g.last.isEnter = false := by
    intro g hg s hs
    obtain ⟨first, last, hspan⟩ := exists_spans hg
    obtain ⟨_, _, i, _, -, -, hsh⟩ := hr.entry_at hspan.last_eq
    have hends := endsStatement_of_statement hsh hs
    unfold Entry.isEnter
    rw [hsh.instruction_eq]
    exact decide_eq_false fun h => by rw [h] at hends; cases hends
  obtain ⟨F, hF⟩ := InForm.join fun g hg => formed_passage p.annotations.code replace (henter g hg)
  have hfill : ∀ table, p.annotations.code.Alike table →
      layOut replace (entries (p.recommented table)).1 = F.fill (table.shown p.header.instructionCount.toNat) := by
    intro table ha
    rw [entries_recommented, layOut_eq, passages_recommented, List.map_map, ← hshown table]
    exact (hF table ha).2
  refine ⟨F, ?_, fun table ha => ⟨?_, ?_⟩⟩
  · rw [hout]
    exact congrArg _ (hfill _ (.refl _))
  · rw [← hshown table]
    exact (hF table ha).1
  · obtain ⟨u, hu⟩ := (printCode_ok_iff (p.recommented table) replace s).2 (by rw [entries_recommented]; exact hw)
    obtain ⟨-, -, hout'⟩ := printCode_eq_ok hu
    exact ⟨u, hu, by rw [hout', hfill table ha]⟩

/-- comments on the start of a function, inside the code of a statement and behind it -/
def commentedDirectory : Directory :=
  Program.bare.write "comments.dat"
    "0x0 before\nstores\na number\n<<<\n0x2 inline seven\n0x3 after\nstored\n<<<\n".toUTF8

theorem comments_shown_replaced :
    ∃ p c t, Program.load commentedDirectory none endedFile {} = (.ok p, c) ∧
      printCode p true (⟨(), {}⟩ : Session Unit) = .ok () t ∧
      p.annotations.code.shown 6 = ["; stores\n", "; a number\n", "; seven", "; stored\n"] ∧
      ∃ F : Form, F.blanks = 4 ∧ t.console.out = "" ++ F.fill (p.annotations.code.shown 6) := by
  obtain ⟨p, c, hl, ht⟩ := Program.exists_of_loadsWith commentedDirectory endedFile
    (fun p => (entries p).2 = none && p.header.instructionCount.toNat = 6 &&
      p.code.getLast? = some ⟨.leave, 16⟩ &&
      p.annotations.code.shown 6 = ["; stores\n", "; a number\n", "; seven", "; stored\n"]) (by decide +kernel)
  simp only [Bool.and_eq_true, decide_eq_true_eq] at ht
  obtain ⟨⟨⟨hw, hcount⟩, hlast⟩, hshown⟩ := ht
  obtain ⟨t, hp⟩ := (printCode_ok_iff p true (⟨(), {}⟩ : Session Unit)).2 hw
  obtain ⟨F, hout, hF⟩ := comments_shown hl hp fun i hi => by
    rw [hlast] at hi
    cases hi
    decide
  rw [hcount] at hout hF
  have hblanks := (hF _ (.refl _)).1
  rw [hshown] at hblanks
  exact ⟨p, c, t, hl, hp, hshown, F, hblanks.symm, hout⟩

end Listing
end Disasm
