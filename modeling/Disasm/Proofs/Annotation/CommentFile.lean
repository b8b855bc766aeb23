import Mathlib
import Disasm.Annotation.Comments
import Disasm.Proofs.Annotation.Placement
import Disasm.Proofs.Text.Split

/-!
# What the comments file says

A comments file is a list of entries, and a block takes the lines behind the line of its entry.

* `Heading.ofLine? line`  what the line of an entry asks for, nothing when it is refused;
* `blockOf cut rest`  the lines of a block, cut by `cut`, and the lines behind the one that closes it;
* `entryLines lines`  the lines at which an entry is read, each with the lines of the file behind it;
* `entries? l lines`  the comments that the entries are kept as;
* `placeAll a es`  the annotations with these comments.

`loadComments_ok` says that loading a file is reading its entries and placing them.  The last entry for an address
is the one that stays (`lines?_placeAll`, `inline_placeAll`).
-/

namespace Disasm

/-! ## comment tables -/

namespace CommentTable

/-- the lines on one side of an address -/
def lines? (t : CommentTable) (addr : Int) : Side → Option (List String)
  | .before => t.before[addr]?
  | .after => t.after[addr]?

theorem linesOf_eq_getD (t : CommentTable) (addr : Int) (side : Side) :
    t.linesOf addr side = (t.lines? addr side).getD [] := by
  cases side <;> exact Std.TreeMap.getD_eq_getD_getElem?

theorem lines?_setLines (t : CommentTable) (addr a : Int) (ls : List String) (side sd : Side) :
    (t.setLines addr ls side).lines? a sd = if addr = a ∧ side = sd then some ls else t.lines? a sd := by
  cases side <;> cases sd <;> simp [setLines, lines?, Std.TreeMap.getElem?_insert]

theorem lines?_setSpacing (t : CommentTable) (addr a : Int) (s : Spacing) (side sd : Side) :
    (t.setSpacing addr s side).lines? a sd = t.lines? a sd := by
  cases side <;> cases sd <;> rfl

theorem lines?_setInline (t : CommentTable) (addr a : Int) (text : String) (sd : Side) :
    (t.setInline addr text).lines? a sd = t.lines? a sd := by
  cases sd <;> rfl

/-- lines that are put behind those that are there, one by one -/
def addLines (t : CommentTable) (addr : Int) (ls : List String) (side : Side) : CommentTable :=
  ls.foldl (fun t line => t.addLine addr line side) t

/-- an empty block, with the empty lines that are to stand around it -/
def openBlock (t : CommentTable) (addr : Int) (spacing : Spacing) (side : Side) : CommentTable :=
  (if spacing.above > 0 || spacing.below > 0 then t.setSpacing addr spacing side else t).setLines addr [] side

theorem lines?_openBlock (t : CommentTable) (addr a : Int) (spacing : Spacing) (side sd : Side) :
    (t.openBlock addr spacing side).lines? a sd = if addr = a ∧ side = sd then some [] else t.lines? a sd := by
  unfold openBlock
  rw [lines?_setLines]
  by_cases hs : (spacing.above > 0 || spacing.below > 0) = true
  · rw [if_pos hs, lines?_setSpacing]
  · rw [if_neg hs]

theorem lines?_addLines {t : CommentTable} {addr : Int} {side : Side} {old : List String}
    (h : t.lines? addr side = some old) (ls : List String) (a : Int) (sd : Side) :
    (t.addLines addr ls side).lines? a sd = if addr = a ∧ side = sd then some (old ++ ls) else t.lines? a sd := by
  induction ls generalizing t old with
  | nil =>
    rw [List.append_nil]
    split
    · next he => rw [← he.1, ← he.2]; exact h
    · rfl
  | cons line ls ih =>
    have hstep : ∀ a sd, (t.addLine addr line side).lines? a sd =
        if addr = a ∧ side = sd then some (old ++ [line]) else t.lines? a sd := by
      intro a sd
      rw [addLine, lines?_setLines, linesOf_eq_getD, h, Option.getD_some]
    have hhere : (t.addLine addr line side).lines? addr side = some (old ++ [line]) := by
      rw [hstep, if_pos ⟨rfl, rfl⟩]
    rw [addLines, List.foldl_cons, ← addLines, ih hhere, List.append_assoc, List.singleton_append, hstep]
    split <;> rfl

theorem inline_setLines (t : CommentTable) (addr : Int) (ls : List String) (side : Side) :
    (t.setLines addr ls side).inline = t.inline := by
  cases side <;> rfl

theorem inline_openBlock (t : CommentTable) (addr : Int) (spacing : Spacing) (side : Side) :
    (t.openBlock addr spacing side).inline = t.inline := by
  unfold openBlock
  rw [inline_setLines]
  split
  · cases side <;> rfl
  · rfl

theorem inline_addLines (t : CommentTable) (addr : Int) (ls : List String) (side : Side) :
    (t.addLines addr ls side).inline = t.inline := by
  induction ls generalizing t with
  | nil => rfl
  | cons line ls ih => rw [addLines, List.foldl_cons, ← addLines, ih, addLine, inline_setLines]

end CommentTable

namespace Annotations

open Disasm.Action

/-! ## the tables of the two segments -/

/-- the comments of one segment -/
def comments (a : Annotations) : CommentTarget → CommentTable
  | .code => a.code
  | .data => a.data

def onComments (target : CommentTarget) (f : CommentTable → CommentTable) (a : Annotations) : Annotations :=
  match target with
  | .code => { a with code := f a.code }
  | .data => { a with data := f a.data }

theorem setComments_eq (target : CommentTarget) (f : CommentTable → CommentTable) :
    setComments target f = update (onComments target f) := by
  cases target <;> rfl

@[simp]
theorem labels_onComments (target : CommentTarget) (f : CommentTable → CommentTable) (a : Annotations) :
    (a.onComments target f).labels = a.labels := by
  cases target <;> rfl

theorem comments_onComments (target tg : CommentTarget) (f : CommentTable → CommentTable) (a : Annotations) :
    (a.onComments target f).comments tg = if target = tg then f (a.comments tg) else a.comments tg := by
  cases target <;> cases tg <;> rfl

theorem onComments_onComments (target : CommentTarget) (f g : CommentTable → CommentTable) (a : Annotations) :
    (a.onComments target f).onComments target g = a.onComments target fun t => g (f t) := by
  cases target <;> rfl

theorem onComments_id (target : CommentTarget) (a : Annotations) : a.onComments target (fun t => t) = a := by
  cases target <;> rfl

/-! ## the lines of entries -/

deriving instance DecidableEq for OpenBlock

/-- what the line of an entry asks for -/
inductive Heading where
  | nothing
  /-- a comment beside an address, which starts with a word -/
  | inline (target : CommentTarget) (addr : Int) (replaced : Bool) (first : Option String)
  | block (b : OpenBlock) (spacing : Spacing)
  deriving DecidableEq

/-- the numbers of empty lines in words -/
def askedSpacing? : List String → Option Spacing
  | [] => some ⟨0, 0⟩
  | [w] => (Text.readNumber? w).map (⟨·, 0⟩)
  | w :: v :: _ => (Text.readNumber? w).bind fun above => (Text.readNumber? v).map (⟨above, ·⟩)

/-- the empty lines that words ask for -/
def spacing? (words : List String) : Option Spacing :=
  (askedSpacing? words).filter fun p => 0 ≤ p.above && 0 ≤ p.below

namespace Heading

/-- an entry for one segment -/
def ofRest? (target : CommentTarget) : List String → Option Heading
  | w :: type :: rest =>
    ((Text.readNumber? w).filter (0 ≤ ·)).bind fun addr =>
      let replaced := (commentKind type).1
      let kind := (commentKind type).2
      if kind == "inline" then some (.inline target addr replaced rest.head?)
      else if kind == "before" then (spacing? rest).map (.block ⟨target, .before, addr, replaced⟩)
      else if kind == "after" then (spacing? rest).map (.block ⟨target, .after, addr, replaced⟩)
      else none
  | _ => some .nothing

def ofWords? : List String → Option Heading
  | [] => some .nothing
  | [_] => none
  | first :: rest => if first == "d" then ofRest? .data rest else ofRest? .code (first :: rest)

def ofLine? (line : String) : Option Heading := ofWords? (Text.words (Text.uncomment line))

def opensBlock : Heading → Bool
  | block _ _ => true
  | _ => false

end Heading

/-! ## entries -/

/-- the lines of a block, and the lines behind the one that closes it -/
def blockOf (cut : String → String) (rest : List String) : List String × List String :=
  ((rest.takeWhile (cut · != "<<<")).map cut, (rest.dropWhile (cut · != "<<<")).tail)

theorem blockOf_cons (cut : String → String) (line : String) (rest : List String) :
    blockOf cut (line :: rest) =
      if cut line = "<<<" then ([], rest) else (cut line :: (blockOf cut rest).1, (blockOf cut rest).2) := by
  unfold blockOf
  by_cases h : cut line = "<<<" <;> simp [h]

theorem blockOf_suffix (cut : String → String) (rest : List String) : (blockOf cut rest).2 <:+ rest :=
  (List.tail_suffix _).trans (List.dropWhile_suffix _)

/-- a line at which an entry is read, and the lines of the file behind it -/
structure EntryLine where
  line : String
  rest : List String

/-- the lines behind an entry -/
def EntryLine.next (e : EntryLine) : List String :=
  if (Heading.ofLine? e.line).any Heading.opensBlock then (blockOf body e.rest).2 else e.rest

theorem EntryLine.next_suffix (e : EntryLine) : e.next <:+ e.rest := by
  unfold next
  split
  · exact blockOf_suffix body e.rest
  · exact List.suffix_rfl

/-- the entries of a file: a block takes its lines with it -/
def entryLines : List String → List EntryLine
  | [] => []
  | line :: rest => ⟨line, rest⟩ :: entryLines (EntryLine.mk line rest).next
termination_by lines => lines.length
decreasing_by exact Nat.lt_succ_of_le (EntryLine.next_suffix ⟨line, rest⟩).length_le

theorem entryLines_cons (line : String) (rest : List String) :
    entryLines (line :: rest) = ⟨line, rest⟩ :: entryLines (EntryLine.mk line rest).next := by
  rw [entryLines]

/-- behind an entry the next ones are read -/
theorem entryLines_split {lines : List String} {front back : List EntryLine} {e : EntryLine}
    (h : entryLines lines = front ++ e :: back) : back = entryLines e.next ∧ e.line :: e.rest <:+ lines := by
  induction front generalizing lines with
  | nil =>
    cases lines with
    | nil => rw [entryLines] at h; cases h
    | cons line rest =>
      rw [entryLines_cons] at h
      cases h
      exact ⟨rfl, List.suffix_rfl⟩
  | cons e' front ih =>
    cases lines with
    | nil => rw [entryLines] at h; cases h
    | cons line rest =>
      rw [entryLines_cons] at h
      obtain ⟨hback, hsuffix⟩ := ih (List.cons.inj h).2
      exact ⟨hback, hsuffix.trans ((EntryLine.next_suffix ⟨line, rest⟩).trans (List.suffix_cons line rest))⟩

/-- a comment as it is kept -/
inductive CommentEntry where
  | inline (target : CommentTarget) (addr : Int) (text : String)
  | block (target : CommentTarget) (side : Side) (addr : Int) (spacing : Spacing) (lines : List String)

/-- a comment with its references replaced, if that is asked for and can be done -/
def replaced? (l : Labels) (replaced : Bool) (text : String) : Option String :=
  if replaced then (l.substitute text).toOption else some text

/-- the line from the first place at which a word stands -/
def inlineText (line first : String) : String :=
  Text.stripEnd (String.ofList (Text.fromFirst first.toList (Text.uncomment line).toList))

/-- the comment beside an address, if there is a word in it; nothing when a reference in it cannot be replaced -/
def inlineComment? (l : Labels) (line : String) (target : CommentTarget) (addr : Int) (replaced : Bool) :
    Option String → Option (Option CommentEntry)
  | none => some none
  | some first => (replaced? l replaced (inlineText line first)).map fun text => some (.inline target addr text)

/-- the comment of an entry -/
def Heading.comment? (l : Labels) (e : EntryLine) : Heading → Option (Option CommentEntry)
  | nothing => some none
  | inline target addr replaced first => inlineComment? l e.line target addr replaced first
  | block b spacing =>
    ((blockOf body e.rest).1.mapM (replaced? l b.replaced)).map fun lines =>
      some (.block b.target b.side b.addr spacing lines)

def EntryLine.comment? (l : Labels) (e : EntryLine) : Option (Option CommentEntry) :=
  (Heading.ofLine? e.line).bind (Heading.comment? l e)

/-- a comment is of the kind and for the place that its heading says -/
theorem EntryLine.comment?_cases {l : Labels} {e : EntryLine} {c : CommentEntry} (h : e.comment? l = some (some c)) :
    (∃ target addr replaced first text, Heading.ofLine? e.line = some (.inline target addr replaced (some first)) ∧
      c = .inline target addr text) ∨
    ∃ b spacing ls, Heading.ofLine? e.line = some (.block b spacing) ∧ c = .block b.target b.side b.addr spacing ls := by
  obtain ⟨heading, hheading, hentry⟩ := Option.bind_eq_some_iff.1 h
  cases heading with
  | nothing => cases hentry
  | inline target addr replaced first =>
    cases first with
    | none => cases hentry
    | some first =>
      obtain ⟨text, -, hc⟩ := Option.map_eq_some_iff.1 hentry
      exact .inl ⟨target, addr, replaced, first, text, hheading, (Option.some.inj hc).symm⟩
  | block b spacing =>
    obtain ⟨ls, -, hc⟩ := Option.map_eq_some_iff.1 hentry
    exact .inr ⟨b, spacing, ls, hheading, (Option.some.inj hc).symm⟩

/-- the comments of some entries, in their order -/
def comments? (l : Labels) (es : List EntryLine) : Option (List CommentEntry) :=
  (es.mapM (EntryLine.comment? l)).map List.reduceOption

theorem comments?_cons (l : Labels) (e : EntryLine) (es : List EntryLine) :
    comments? l (e :: es) = (e.comment? l).bind fun c => (comments? l es).map (c.toList ++ ·) := by
  unfold comments?
  rw [List.mapM_cons]
  cases e.comment? l with
  | none => rfl
  | some c =>
    cases es.mapM (EntryLine.comment? l) with
    | none => rfl
    | some cs => cases c <;> rfl

theorem comments?_append (l : Labels) (es es' : List EntryLine) :
    comments? l (es ++ es') = (comments? l es).bind fun cs => (comments? l es').map (cs ++ ·) := by
  induction es with
  | nil => exact (Option.map_id' ..).symm
  | cons e es ih =>
    rw [List.cons_append, comments?_cons, comments?_cons, ih]
    cases e.comment? l with
    | none => rfl
    | some c =>
      cases comments? l es with
      | none => rfl
      | some cs =>
        simp only [Option.bind_some, Option.map_map, Option.map_some]
        congr 1
        funext cs'
        exact (List.append_assoc ..).symm

theorem exists_comments?_iff {l : Labels} {es : List EntryLine} :
    (∃ cs, comments? l es = some cs) ↔ ∀ e ∈ es, ∃ c, e.comment? l = some c := by
  induction es with
  | nil => exact ⟨fun _ => List.forall_mem_nil _, fun _ => ⟨[], rfl⟩⟩
  | cons e es ih =>
    rw [List.forall_mem_cons, ← ih, comments?_cons]
    cases e.comment? l with
    | none => simp
    | some c => cases comments? l es <;> simp

/-- every comment comes from an entry -/
theorem exists_of_mem_comments? {l : Labels} {es : List EntryLine} {cs : List CommentEntry} {c : CommentEntry}
    (h : comments? l es = some cs) (hc : c ∈ cs) : ∃ e ∈ es, e.comment? l = some (some c) := by
  induction es generalizing cs with
  | nil => cases h; cases hc
  | cons e es ih =>
    rw [comments?_cons] at h
    obtain ⟨c', hc', h⟩ := Option.bind_eq_some_iff.1 h
    obtain ⟨cs', hcs', rfl⟩ := Option.map_eq_some_iff.1 h
    rcases List.mem_append.1 hc with hc | hc
    · rw [Option.mem_toList] at hc
      exact ⟨e, List.mem_cons_self, by rw [hc', hc]⟩
    · obtain ⟨e', he', hentry⟩ := ih hcs' hc
      exact ⟨e', List.mem_cons_of_mem e he', hentry⟩

/-- the comments of a file, in its order -/
def entries? (l : Labels) (lines : List String) : Option (List CommentEntry) := comments? l (entryLines lines)

theorem entries?_nil (l : Labels) : entries? l [] = some [] := by
  rw [entries?, entryLines]
  rfl

theorem entries?_cons (l : Labels) (line : String) (rest : List String) :
    entries? l (line :: rest) = (EntryLine.comment? l ⟨line, rest⟩).bind fun c =>
      (entries? l (EntryLine.mk line rest).next).map (c.toList ++ ·) := by
  rw [entries?, entryLines_cons, comments?_cons]
  rfl

/-- the annotations with one comment more -/
def CommentEntry.place (a : Annotations) : CommentEntry → Annotations
  | inline target addr text => a.onComments target (·.setInline addr text)
  | block target side addr spacing lines =>
    a.onComments target fun t => (t.openBlock addr spacing side).addLines addr lines side

def placeAll (a : Annotations) (es : List CommentEntry) : Annotations := es.foldl CommentEntry.place a

/-! ## reading -/

section
variable {α β γ δ : Type}

/-- the action ends with the result and the state that `o` has, and with a fault where it has none; `view` is the
part of the result that is looked at -/
def Gives (view : α → β) (a : Work α) (s : Session Annotations) (o : Option (β × Annotations)) : Prop :=
  Yields a s (fun x t => o = some (view x, t)) (fun _ _ => o = none)

namespace Gives

variable {view : α → β} {look : γ → δ} {s : Session Annotations} {o : Option (β × Annotations)}

theorem pure (x : α) : Gives view (Pure.pure x : Work α) s (some (view x, s.state)) := Yields.pure rfl

theorem bind {a : Work α} {f : α → Work γ} {o' : Option (δ × Annotations)} (ha : Gives view a s o)
    (hf : ∀ x t c, o = some (view x, t) → Gives look (f x) ⟨t, c⟩ o') (hn : o = none → o' = none) :
    Gives look (a >>= f) s o' :=
  Yields.bind (ha.imp (fun x t hx c => hf x t c hx) fun _ _ he => hn he)

/-- work that ends in one way only -/
theorem andThen {a : Work α} {f : α → Work γ} {o' : Option (δ × Annotations)} {y : β} {u : Annotations}
    (ha : Gives view a s (some (y, u))) (hf : ∀ x c, view x = y → Gives look (f x) ⟨u, c⟩ o') :
    Gives look (a >>= f) s o' :=
  ha.bind (fun x t c hx => by cases hx; exact hf x c rfl) fun hn => by cases hn

/-- a number in front of the rest of the work -/
theorem number {f : Int → Work α} (loc : Location) (message w : String)
    (hf : ∀ n, Text.readNumber? w = some n → Gives view (f n) s o) (hn : Text.readNumber? w = none → o = none) :
    Gives view (number loc message w >>= f) s o := by
  unfold Annotations.number
  cases hw : Text.readNumber? w with
  | none => exact Yields.bind (Yields.stop (hn hw))
  | some n => exact (hf n hw)

theorem setComments (target : CommentTarget) (f : CommentTable → CommentTable) :
    Gives id (setComments target f) s (some ((), s.state.onComments target f)) := by
  rw [setComments_eq]
  exact Yields.update rfl

end Gives
end

section
variable {s : Session Annotations} {loc : Location}

theorem commentText_gives (loc : Location) (replaced : Bool) (text : String) :
    Gives id (commentText loc replaced text) s
      ((replaced? s.state.labels replaced text).map fun t => (t, s.state)) := by
  unfold commentText replaced? substitute
  cases replaced with
  | false => exact Gives.pure text
  | true =>
    refine Yields.orStop ?_ _
    refine Yields.bind (Yields.read (Yields.pure fun c => ?_))
    cases s.state.labels.substitute text with
    | ok t => exact Yields.pure rfl
    | error address => exact Yields.bind ⟨fun c => Yields.fail rfl⟩

theorem checkAddress_gives (cur : CommentCursor) (target : CommentTarget) (addr : Int) :
    Gives CommentCursor.block (checkAddress loc cur target addr) s (some (cur.block, s.state)) := by
  unfold checkAddress warnIf
  cases target <;>
    exact Yields.bind (Yields.ite (fun _ => Yields.warn fun c => Yields.pure rfl) fun _ => Yields.pure fun c =>
      Yields.pure rfl)

theorem readInline_gives (target : CommentTarget) (addr : Int) (replaced : Bool) (words : List String)
    {line : String} (hline : loc.line = Text.uncomment line) :
    Gives id (readInline loc target addr replaced words) s
      ((inlineComment? s.state.labels line target addr replaced words.head?).map fun e =>
        ((), placeAll s.state e.toList)) := by
  cases words with
  | nil => exact Gives.pure ()
  | cons first more =>
    have htext := commentText_gives (s := s) loc replaced (inlineText line first)
    unfold readInline
    rw [hline]
    show Gives id _ s (((replaced? s.state.labels replaced (inlineText line first)).map _).map _)
    cases hr : replaced? s.state.labels replaced (inlineText line first) with
    | none =>
      rw [hr] at htext
      exact htext.bind (fun _ _ _ h => by cases h) fun _ => rfl
    | some text =>
      rw [hr] at htext
      refine htext.andThen fun x c hx => ?_
      cases hx
      exact Gives.setComments target _

/-- the last step of reading empty lines -/
theorem checkSpacing_gives (loc : Location) (p : Spacing) :
    Gives id (do
      if p.above < 0 || p.below < 0 then stop (loc.say "invalid space before or after")
      return p : Work Spacing) s
      (((some p).filter fun p => 0 ≤ p.above && 0 ≤ p.below).map fun p => (p, s.state)) := by
  by_cases h : (p.above < 0 || p.below < 0) = true
  · rw [if_pos h, Option.filter_some_neg]
    · exact Yields.bind (Yields.stop rfl)
    · rw [Bool.or_eq_true, decide_eq_true_eq, decide_eq_true_eq] at h
      rw [Bool.and_eq_false_iff, decide_eq_false_iff_not, decide_eq_false_iff_not]
      omega
  · rw [if_neg h, Option.filter_some_pos]
    · exact Gives.pure p
    · simp only [Bool.or_eq_true, Bool.and_eq_true, decide_eq_true_eq] at h ⊢
      omega

theorem readSpacing_gives (words : List String) :
    Gives id (readSpacing loc words) s ((spacing? words).map fun p => (p, s.state)) := by
  unfold readSpacing spacing?
  rcases words with _ | ⟨w, _ | ⟨v, rest⟩⟩
  · exact checkSpacing_gives loc ⟨0, 0⟩
  · rw [askedSpacing?]
    refine Gives.number loc _ w (fun n hn => ?_) fun hn => ?_
    · rw [hn]
      exact checkSpacing_gives loc ⟨n, 0⟩
    · rw [hn]; rfl
  · rw [askedSpacing?]
    refine Gives.number loc _ w (fun n hn => ?_) fun hn => ?_
    · rw [hn]
      refine Gives.number loc _ v (fun m hm => ?_) fun hm => ?_
      · rw [hm]
        exact checkSpacing_gives loc ⟨n, m⟩
      · rw [hm]; rfl
    · rw [hn]; rfl

/-- the state and the open block behind the line of an entry -/
def Heading.start? (line : String) (a : Annotations) : Heading → Option (Option OpenBlock × Annotations)
  | nothing => some (none, a)
  | inline target addr replaced first =>
    (inlineComment? a.labels line target addr replaced first).map fun e => (none, placeAll a e.toList)
  | block b spacing => some (some b, a.onComments b.target (·.openBlock b.addr spacing b.side))

theorem openBlock_gives (cur : CommentCursor) (b : OpenBlock) (words : List String) (line : String) :
    Gives CommentCursor.block (openBlock loc cur b words) s
      (((spacing? words).map (Heading.block b)).bind (Heading.start? line s.state)) := by
  unfold openBlock
  refine (readSpacing_gives words).bind (fun p t c hp => ?_) fun hn => ?_
  · obtain ⟨q, hq, heq⟩ := Option.map_eq_some_iff.1 hp
    cases heq
    have hstart : ((spacing? words).map (Heading.block b)).bind (Heading.start? line s.state) =
        some (some b, s.state.onComments b.target (·.openBlock b.addr p b.side)) := by rw [hq]; rfl
    rw [hstart]
    unfold CommentTable.openBlock
    refine Yields.ite (fun h => ?_) fun h => ?_
    · refine (Gives.setComments (s := ⟨s.state, c⟩) b.target _).andThen fun _ c _ =>
        (Gives.setComments b.target _).andThen fun _ c _ => ?_
      rw [onComments_onComments]
      simp only [if_pos h]
      exact Gives.pure { cur with block := some b }
    · refine (Gives.setComments (s := ⟨s.state, c⟩) b.target _).andThen fun _ c _ => ?_
      simp only [if_neg h]
      exact Gives.pure { cur with block := some b }
  · rw [Option.map_eq_none_iff.1 hn]; rfl

variable {cur : CommentCursor} {line : String}

theorem readEntry_gives (hcur : cur.block = none) (hline : loc.line = Text.uncomment line) (target : CommentTarget)
    (words : List String) :
    Gives CommentCursor.block (readEntry loc cur target words) s
      ((Heading.ofRest? target words).bind (Heading.start? line s.state)) := by
  rcases words with _ | ⟨w, _ | ⟨type, rest⟩⟩
  · exact Yields.pure (by rw [hcur]; rfl)
  · exact Yields.pure (by rw [hcur]; rfl)
  · rw [Heading.ofRest?]
    refine number_yields loc _ _ (fun hbad f => ?_) fun addr hw haddr c => ?_
    · cases hn : Text.readNumber? w with
      | none => rfl
      | some addr =>
        rw [Option.filter_some_neg (by simpa using hbad addr hn)]
        rfl
    · rw [hw, Option.filter_some_pos (by simpa using haddr), Option.bind_some]
      refine (checkAddress_gives cur target addr).andThen fun cur' c hcur' => ?_
      by_cases hinline : ((commentKind type).2 == "inline") = true
      · simp only [if_pos hinline]
        refine (readInline_gives target addr (commentKind type).1 rest hline).bind (fun _ t c ht => ?_) fun hn => ?_
        · obtain ⟨e, he, heq⟩ := Option.map_eq_some_iff.1 ht
          cases heq
          exact Yields.pure (by rw [hcur', hcur, Option.bind_some, Heading.start?, he]; rfl)
        · rw [Option.bind_some, Heading.start?, Option.map_eq_none_iff.1 hn]; rfl
      simp only [if_neg hinline]
      by_cases hbefore : ((commentKind type).2 == "before") = true
      · simp only [if_pos hbefore]
        exact openBlock_gives cur' ⟨target, .before, addr, (commentKind type).1⟩ rest line
      simp only [if_neg hbefore]
      by_cases hafter : ((commentKind type).2 == "after") = true
      · simp only [if_pos hafter]
        exact openBlock_gives cur' ⟨target, .after, addr, (commentKind type).1⟩ rest line
      · simp only [if_neg hafter]
        exact Yields.stop rfl

theorem readHeader_gives (hcur : cur.block = none) (hline : loc.line = Text.uncomment line) (words : List String) :
    Gives CommentCursor.block (readHeader loc cur words) s
      ((Heading.ofWords? words).bind (Heading.start? line s.state)) := by
  rcases words with _ | ⟨w, _ | ⟨v, rest⟩⟩
  · exact Yields.pure (by rw [hcur]; rfl)
  · exact Yields.stop rfl
  · unfold readHeader Heading.ofWords?
    by_cases h : (w == "d") = true
    · simp only [if_pos h]
      exact readEntry_gives hcur hline .data (v :: rest)
    · simp only [if_neg h]
      exact readEntry_gives hcur hline .code (w :: v :: rest)

/-! ## the run over the lines -/

@[simp]
theorem labels_place (a : Annotations) (e : CommentEntry) : (e.place a).labels = a.labels := by
  cases e <;> exact labels_onComments _ _ a

@[simp]
theorem labels_placeAll (a : Annotations) (es : List CommentEntry) : (placeAll a es).labels = a.labels := by
  induction es generalizing a with
  | nil => rfl
  | cons e es ih => rw [placeAll, List.foldl_cons, ← placeAll, ih, labels_place]

/-- what becomes of the annotations while a block is open, or when none is -/
def follow? (a : Annotations) (lines : List String) : Option OpenBlock → Option Annotations
  | none => (entries? a.labels lines).map (placeAll a)
  | some b =>
    ((blockOf body lines).1.mapM (replaced? a.labels b.replaced)).bind fun ls =>
      (entries? a.labels (blockOf body lines).2).map
        (placeAll (a.onComments b.target (·.addLines b.addr ls b.side)))

theorem EntryLine.next_eq {e : EntryLine} {h : Heading} (hh : Heading.ofLine? e.line = some h) :
    e.next = if h.opensBlock then (blockOf body e.rest).2 else e.rest := by
  unfold next
  rw [hh, Option.any_some]

/-- the line of an entry, and then what follows it -/
theorem follow?_cons_none (a : Annotations) (line : String) (rest : List String) :
    follow? a (line :: rest) none =
      ((Heading.ofLine? line).bind (Heading.start? line a)).bind fun r => follow? r.2 rest r.1 := by
  rw [follow?, entries?_cons, EntryLine.comment?]
  cases hh : Heading.ofLine? line with
  | none => rfl
  | some h =>
    rw [EntryLine.next_eq (e := ⟨line, rest⟩) hh, Option.bind_some, Option.bind_some]
    cases h with
    | nothing =>
      show ((entries? a.labels rest).map _).map _ = (entries? a.labels rest).map _
      rw [Option.map_map]
      rfl
    | inline target addr replaced first =>
      rw [Heading.comment?, Heading.start?]
      cases inlineComment? a.labels line target addr replaced first with
      | none => rfl
      | some e =>
        show ((entries? a.labels rest).map _).map _ = (entries? (placeAll a e.toList).labels rest).map _
        rw [Option.map_map, labels_placeAll]
        congr 1
        funext es
        exact List.foldl_append
    | block b spacing =>
      rw [Heading.comment?, Heading.start?, Option.bind_some, follow?, labels_onComments]
      show Option.map _ (Option.bind (Option.map _ ((blockOf body rest).1.mapM _)) _) = _
      cases (blockOf body rest).1.mapM (replaced? a.labels b.replaced) with
      | none => rfl
      | some ls =>
        show ((entries? a.labels (blockOf body rest).2).map _).map _ = _
        rw [Option.map_map, Option.bind_some, onComments_onComments]
        rfl

/-- a line of a block, and then what follows it -/
theorem follow?_cons_some (a : Annotations) (line : String) (rest : List String) (b : OpenBlock) :
    follow? a (line :: rest) (some b) =
      (if body line = "<<<" then some (none, a)
       else (replaced? a.labels b.replaced (body line)).map fun text =>
        (some b, a.onComments b.target (·.addLine b.addr text b.side))).bind fun r => follow? r.2 rest r.1 := by
  rw [follow?, blockOf_cons]
  by_cases h : body line = "<<<"
  · rw [if_pos h, if_pos h, Option.bind_some, follow?, List.mapM_nil]
    show (entries? a.labels rest).map (placeAll (a.onComments b.target fun t => t)) = _
    rw [onComments_id]
  · rw [if_neg h, if_neg h, List.mapM_cons]
    cases replaced? a.labels b.replaced (body line) with
    | none => rfl
    | some text =>
      rw [Option.map_some, Option.bind_some, follow?, labels_onComments]
      show Option.bind (Option.bind ((blockOf body rest).1.mapM _) _) _ = _
      cases (blockOf body rest).1.mapM (replaced? a.labels b.replaced) with
      | none => rfl
      | some ls =>
        show (entries? a.labels (blockOf body rest).2).map _ = (entries? a.labels (blockOf body rest).2).map _
        rw [onComments_onComments]
        rfl

theorem readBlockLine_gives {b : OpenBlock} (hcur : cur.block = some b) :
    Gives CommentCursor.block (readBlockLine loc cur b) s
      (if body loc.line = "<<<" then some (none, s.state)
       else (replaced? s.state.labels b.replaced (body loc.line)).map fun text =>
        (some b, s.state.onComments b.target (·.addLine b.addr text b.side))) := by
  unfold readBlockLine
  by_cases h : body loc.line = "<<<"
  · rw [if_pos (beq_iff_eq.2 h), if_pos h]
    exact Gives.pure { cur with block := none }
  · rw [if_neg (fun he => h (beq_iff_eq.1 he)), if_neg h]
    refine (commentText_gives loc b.replaced (body loc.line)).bind (fun text t c ht => ?_) fun hn => ?_
    · obtain ⟨x, hx, heq⟩ := Option.map_eq_some_iff.1 ht
      cases heq
      rw [hx, Option.map_some, ← hcur]
      exact (Gives.setComments (s := ⟨s.state, c⟩) b.target _).andThen fun _ c _ => Gives.pure cur
    · rw [Option.map_eq_none_iff.1 hn]
      rfl

theorem readComments_gives (lines : List String) (index : Nat) (cur : CommentCursor) (s : Session Annotations) :
    Gives id (readComments index cur lines) s ((follow? s.state lines cur.block).map fun a => ((), a)) := by
  induction lines generalizing index cur s with
  | nil =>
    refine Yields.pure ?_
    cases cur.block with
    | none =>
      rw [follow?, entries?_nil]
      rfl
    | some b =>
      rw [follow?]
      show Option.map _ (Option.map (placeAll (s.state.onComments b.target fun t => t)) (entries? _ [])) = _
      rw [entries?_nil, onComments_id]
      rfl
  | cons line rest ih =>
    -- either step gives the block and the state with which the rest of the lines is read
    have hnext : ∀ {a : Work CommentCursor} {o : Option (Option OpenBlock × Annotations)},
        Gives CommentCursor.block a s o →
        Gives id (a >>= fun next => readComments (index + 1) next rest) s
          ((o.bind fun r => follow? r.2 rest r.1).map fun a => ((), a)) := by
      intro a o ha
      refine ha.bind (fun next t c hx => ?_) fun hn => ?_
      · rw [hx]
        exact ih (index + 1) next ⟨t, c⟩
      · rw [hn]; rfl
    unfold readComments
    cases hb : cur.block with
    | none =>
      rw [follow?_cons_none]
      exact hnext (readHeader_gives hb rfl _)
    | some b =>
      rw [follow?_cons_some]
      exact hnext (readBlockLine_gives hb)

theorem loadComments_gives (text : String) (s : Session Annotations) :
    Gives id (loadComments text) s
      ((entries? s.state.labels (Text.lines text)).map fun es => ((), placeAll s.state es)) := by
  have h := readComments_gives (Text.lines text) 0 {} s
  rwa [show follow? s.state (Text.lines text) (CommentCursor.block {}) = _ from rfl, follow?, Option.map_map] at h

/-- loading a file is reading its entries and placing them -/
theorem loadComments_ok {text : String} {s t : Session Annotations} (h : loadComments text s = .ok () t) :
    ∃ cs, entries? s.state.labels (Text.lines text) = some cs ∧ t.state = placeAll s.state cs := by
  obtain ⟨cs, hcs, heq⟩ := Option.map_eq_some_iff.1 ((loadComments_gives text s).of_ok h)
  exact ⟨cs, hcs, (congrArg Prod.snd heq).symm⟩

/-- a file is loaded when each of its entries can be read -/
theorem loadComments_ok_iff (text : String) (s : Session Annotations) :
    (∃ t, loadComments text s = .ok () t) ↔
      ∀ e ∈ entryLines (Text.lines text), ∃ c, e.comment? s.state.labels = some c := by
  rw [← exists_comments?_iff]
  refine ⟨fun ⟨t, ht⟩ => ?_, fun ⟨cs, hcs⟩ => ?_⟩
  · obtain ⟨cs, hcs, -⟩ := loadComments_ok ht
    exact ⟨cs, hcs⟩
  · cases hr : loadComments text s with
    | ok x t => exact ⟨t, rfl⟩
    | error f t =>
      have hnone := (loadComments_gives text s).of_error hr
      rw [entries?, hcs] at hnone
      cases hnone

/-- what the comment of an entry has, and no comment behind it, is found first from the end -/
theorem findSome?_of_last {α : Type} {f : CommentEntry → Option α} {x : α} {text : String} {s t : Session Annotations}
    (ht : loadComments text s = .ok () t) {front back : List EntryLine} {e : EntryLine} {c : CommentEntry}
    (he : entryLines (Text.lines text) = front ++ e :: back) (hc : e.comment? s.state.labels = some (some c))
    (hx : f c = some x) (hlast : ∀ e' ∈ back, ∀ c', e'.comment? s.state.labels = some (some c') → f c' = none) :
    ∃ cs, t.state = placeAll s.state cs ∧ cs.reverse.findSome? f = some x := by
  obtain ⟨cs, hcs, hstate⟩ := loadComments_ok ht
  refine ⟨cs, hstate, ?_⟩
  rw [entries?, he, comments?_append] at hcs
  obtain ⟨xs, -, hcs⟩ := Option.bind_eq_some_iff.1 hcs
  obtain ⟨ys, hys, rfl⟩ := Option.map_eq_some_iff.1 hcs
  rw [comments?_cons, hc] at hys
  obtain ⟨zs, hzs, rfl⟩ := Option.map_eq_some_iff.1 hys
  have hnone : zs.reverse.findSome? f = none := by
    rw [List.findSome?_eq_none_iff]
    intro c' hc'
    obtain ⟨e', he', hentry⟩ := exists_of_mem_comments? hzs (List.mem_reverse.1 hc')
    exact hlast e' he' c' hentry
  rw [List.reverse_append, Option.toList_some, List.singleton_append, List.reverse_cons, List.findSome?_append,
    List.findSome?_append, hnone, List.findSome?_singleton, hx]
  rfl

end

/-! ## what is found in the tables -/

/-- the lines that a comment puts on one side of an address -/
def CommentEntry.linesAt? (target : CommentTarget) (addr : Int) (side : Side) : CommentEntry → Option (List String)
  | inline _ _ _ => none
  | block tg sd a _ ls => if tg = target ∧ a = addr ∧ sd = side then some ls else none

/-- the text that a comment puts beside an address -/
def CommentEntry.textAt? (target : CommentTarget) (addr : Int) : CommentEntry → Option String
  | inline tg a text => if tg = target ∧ a = addr then some text else none
  | block _ _ _ _ _ => none

section
variable (a : Annotations) (target : CommentTarget) (addr : Int) (side : Side)

theorem lines?_place (c : CommentEntry) :
    ((c.place a).comments target).lines? addr side =
      (c.linesAt? target addr side).or ((a.comments target).lines? addr side) := by
  cases c with
  | inline tg ad text =>
    rw [CommentEntry.place, comments_onComments, CommentEntry.linesAt?, Option.none_or]
    split
    · rw [CommentTable.lines?_setInline]
    · rfl
  | block tg sd ad spacing ls =>
    have hopen := CommentTable.lines?_openBlock (a.comments target) ad ad spacing sd sd
    rw [if_pos ⟨rfl, rfl⟩] at hopen
    rw [CommentEntry.place, comments_onComments, CommentEntry.linesAt?]
    by_cases htg : tg = target
    · rw [if_pos htg, CommentTable.lines?_addLines hopen, CommentTable.lines?_openBlock]
      by_cases hat : ad = addr ∧ sd = side
      · rw [if_pos hat, if_pos ⟨htg, hat⟩]
        rfl
      · rw [if_neg hat, if_neg hat, if_neg (fun h => hat h.2)]
        rfl
    · rw [if_neg htg, if_neg (fun h => htg h.1)]
      rfl

theorem inline_place (c : CommentEntry) :
    ((c.place a).comments target).inline[addr]? =
      (c.textAt? target addr).or (a.comments target).inline[addr]? := by
  cases c with
  | inline tg ad text =>
    rw [CommentEntry.place, comments_onComments, CommentEntry.textAt?]
    by_cases htg : tg = target
    · rw [if_pos htg, CommentTable.setInline, Std.TreeMap.getElem?_insert]
      by_cases had : ad = addr
      · rw [if_pos (compare_eq_iff_eq.2 had), if_pos ⟨htg, had⟩]
        rfl
      · rw [if_neg (fun h => had (compare_eq_iff_eq.1 h)), if_neg (fun h => had h.2)]
        rfl
    · rw [if_neg htg, if_neg (fun h => htg h.1)]
      rfl
  | block tg sd ad spacing ls =>
    rw [CommentEntry.place, comments_onComments, CommentEntry.textAt?, Option.none_or]
    split
    · rw [CommentTable.inline_addLines, CommentTable.inline_openBlock]
    · rfl

/-- the last comment for a place stays -/
theorem lines?_placeAll (cs : List CommentEntry) :
    ((placeAll a cs).comments target).lines? addr side =
      (cs.reverse.findSome? (CommentEntry.linesAt? target addr side)).or ((a.comments target).lines? addr side) := by
  induction cs generalizing a with
  | nil => rfl
  | cons c cs ih =>
    rw [placeAll, List.foldl_cons, ← placeAll, ih, lines?_place, List.reverse_cons, List.findSome?_append,
      Option.or_assoc]
    simp

theorem inline_placeAll (cs : List CommentEntry) :
    ((placeAll a cs).comments target).inline[addr]? =
      (cs.reverse.findSome? (CommentEntry.textAt? target addr)).or (a.comments target).inline[addr]? := by
  induction cs generalizing a with
  | nil => rfl
  | cons c cs ih =>
    rw [placeAll, List.foldl_cons, ← placeAll, ih, inline_place, List.reverse_cons, List.findSome?_append,
      Option.or_assoc]
    simp

end

end Annotations
end Disasm
