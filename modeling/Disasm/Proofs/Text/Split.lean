import Mathlib
import Disasm.Text.Split

/-!
# Pieces, words and lines

* `pieces_append`  a separator cuts a text in two whose pieces are independent;
* `wordsOf_append`, `wordsOf_cons_blank`, `wordsOf_word`  the same for words;
* `linesFrom_append`  a line end closes a line, whatever follows;
* `Unbroken`  a text that holds no line end, which words and the bodies of lines are.
-/

namespace Disasm.Text

/-! ## pieces -/

section
variable {sep : Char → Bool}

theorem piecesFrom_cons (a : Char) (cs cur : List Char) :
    piecesFrom sep (a :: cs) cur =
      if sep a then cur.reverse :: piecesFrom sep cs [] else piecesFrom sep cs (a :: cur) := rfl

theorem piecesFrom_append (x y : List Char) (c : Char) (hc : sep c = true) (cur : List Char) :
    piecesFrom sep (x ++ c :: y) cur = piecesFrom sep x cur ++ pieces sep y := by
  induction x generalizing cur with
  | nil =>
    rw [List.nil_append, piecesFrom_cons, if_pos hc]
    rfl
  | cons a x ih =>
    rw [List.cons_append, piecesFrom_cons, piecesFrom_cons]
    by_cases ha : sep a = true
    · rw [if_pos ha, if_pos ha, ih]
      rfl
    · rw [if_neg ha, if_neg ha, ih]

theorem pieces_append (x y : List Char) {c : Char} (hc : sep c = true) :
    pieces sep (x ++ c :: y) = pieces sep x ++ pieces sep y :=
  piecesFrom_append x y c hc []

theorem piecesFrom_of_forall (w : List Char) (h : ∀ c ∈ w, sep c = false) (cur : List Char) :
    piecesFrom sep w cur = [cur.reverse ++ w] := by
  induction w generalizing cur with
  | nil => rw [List.append_nil]; rfl
  | cons a w ih =>
    rw [piecesFrom_cons, if_neg (by simp [h a List.mem_cons_self]),
      ih (fun c hc => h c (List.mem_cons_of_mem _ hc))]
    simp

theorem pieces_of_forall {w : List Char} (h : ∀ c ∈ w, sep c = false) : pieces sep w = [w] :=
  piecesFrom_of_forall w h []

theorem not_sep_of_mem_piecesFrom (cs cur : List Char) (hcur : ∀ c ∈ cur, sep c = false)
    (w : List Char) (hw : w ∈ piecesFrom sep cs cur) : ∀ c ∈ w, sep c = false := by
  induction cs generalizing cur with
  | nil =>
    rw [piecesFrom, List.mem_singleton] at hw
    rw [hw]
    exact fun c hc => hcur c (List.mem_reverse.mp hc)
  | cons a cs ih =>
    rw [piecesFrom] at hw
    split at hw
    · rcases List.mem_cons.mp hw with rfl | hw
      · exact fun c hc => hcur c (List.mem_reverse.mp hc)
      · exact ih [] (by simp) hw
    · rename_i ha
      refine ih (a :: cur) ?_ hw
      intro c hc
      rcases List.mem_cons.mp hc with rfl | hc
      · simpa using ha
      · exact hcur c hc

theorem not_sep_of_mem_pieces {cs w : List Char} (hw : w ∈ pieces sep cs) :
    ∀ c ∈ w, sep c = false :=
  not_sep_of_mem_piecesFrom cs [] (by simp) w hw

/-- the characters of a piece stand in the text -/
theorem mem_of_mem_piecesFrom (cs cur : List Char) (w : List Char)
    (hw : w ∈ piecesFrom sep cs cur) : ∀ c ∈ w, c ∈ cur ∨ c ∈ cs := by
  induction cs generalizing cur with
  | nil =>
    rw [piecesFrom, List.mem_singleton] at hw
    rw [hw]
    exact fun c hc => .inl (List.mem_reverse.mp hc)
  | cons a cs ih =>
    intro c hc
    rw [piecesFrom] at hw
    split at hw
    · rcases List.mem_cons.mp hw with rfl | hw
      · exact .inl (List.mem_reverse.mp hc)
      · rcases ih [] hw c hc with h | h
        · cases h
        · exact .inr (List.mem_cons_of_mem _ h)
    · rcases ih (a :: cur) hw c hc with h | h
      · rcases List.mem_cons.mp h with rfl | h
        · exact .inr List.mem_cons_self
        · exact .inl h
      · exact .inr (List.mem_cons_of_mem _ h)

end

/-! ## words -/

theorem wordsOf_append (x y : List Char) {c : Char} (hc : isBlank c = true) :
    wordsOf (x ++ c :: y) = wordsOf x ++ wordsOf y := by
  unfold wordsOf
  rw [pieces_append x y hc, List.filter_append]

theorem wordsOf_nil : wordsOf [] = [] := rfl

theorem wordsOf_cons_blank {c : Char} (hc : isBlank c = true) (y : List Char) :
    wordsOf (c :: y) = wordsOf y :=
  wordsOf_append [] y hc

theorem wordsOf_blanks {bs : List Char} (h : bs.all isBlank = true) (y : List Char) :
    wordsOf (bs ++ y) = wordsOf y := by
  induction bs with
  | nil => rfl
  | cons b bs ih =>
    rw [List.all_cons, Bool.and_eq_true] at h
    rw [List.cons_append, wordsOf_cons_blank h.1, ih h.2]

/-- a character of ASCII that is seen -/
def IsGraphic (c : Char) : Prop := 32 < c.toNat ∧ c.toNat < 127

instance (c : Char) : Decidable (IsGraphic c) := inferInstanceAs (Decidable (_ ∧ _))

theorem IsGraphic.not_blank {c : Char} (h : IsGraphic c) : isBlank c = false := by
  have h1 := h.1
  have h2 := h.2
  simp only [isBlank, blankRuns, inRuns_cons, inRuns_nil, Bool.or_false, Bool.or_eq_false_iff,
    Bool.and_eq_false_iff, decide_eq_false_iff_not]
  omega

/-- a text without blanks that is not empty is one word -/
def IsWord (w : List Char) : Prop := w ≠ [] ∧ ∀ c ∈ w, isBlank c = false

theorem wordsOf_word {w : List Char} (h : IsWord w) : wordsOf w = [w] := by
  unfold wordsOf
  rw [pieces_of_forall h.2, List.filter_cons_of_pos (by simpa using h.1), List.filter_nil]

theorem wordsOf_word_append {w : List Char} (h : IsWord w) {c : Char} (hc : isBlank c = true)
    (y : List Char) : wordsOf (w ++ c :: y) = w :: wordsOf y := by
  rw [wordsOf_append w y hc, wordsOf_word h]
  rfl

theorem isWord_of_mem_wordsOf {cs w : List Char} (hw : w ∈ wordsOf cs) : IsWord w := by
  obtain ⟨hw, hne⟩ := List.mem_filter.mp hw
  exact ⟨by simpa using hne, not_sep_of_mem_pieces hw⟩

theorem isWord_of_mem_words {s w : String} (hw : w ∈ words s) : IsWord w.toList := by
  obtain ⟨cs, hcs, rfl⟩ := List.mem_map.mp hw
  rw [String.toList_ofList]
  exact isWord_of_mem_wordsOf hcs

/-! ## words and blanks -/

def StartsBlank (s : String) : Prop := ∃ c ∈ s.toList.head?, isBlank c = true

theorem StartsBlank.append {s : String} (h : StartsBlank s) (t : String) : StartsBlank (s ++ t) := by
  obtain ⟨c, hc, hb⟩ := h
  refine ⟨c, ?_, hb⟩
  rw [String.toList_append, List.head?_append, Option.mem_def.1 hc]
  rfl

theorem words_word_append {w rest : String} (hw : IsWord w.toList) (h : StartsBlank rest) :
    words (w ++ rest) = w :: words rest := by
  obtain ⟨c, hc, hb⟩ := h
  obtain ⟨cs, hcs⟩ := List.head?_eq_some_iff.1 hc
  unfold words
  rw [String.toList_append, hcs, wordsOf_word_append hw hb, wordsOf_cons_blank hb, List.map_cons, String.ofList_toList]

theorem words_blanks_append {gap : String} (h : gap.toList.all isBlank = true) (rest : String) :
    words (gap ++ rest) = words rest := by
  unfold words
  rw [String.toList_append, wordsOf_blanks h]

theorem wordsOf_append_blanks {bs : List Char} (h : bs.all isBlank = true) (y : List Char) :
    wordsOf (y ++ bs) = wordsOf y := by
  cases bs with
  | nil => rw [List.append_nil]
  | cons b bs =>
    rw [List.all_cons, Bool.and_eq_true] at h
    have hblanks := wordsOf_blanks h.2 []
    rw [List.append_nil, wordsOf_nil] at hblanks
    rw [wordsOf_append y bs h.1, hblanks, List.append_nil]

/-- the blanks around a text are between no words -/
theorem words_strip (s : String) : words (strip s) = words s := by
  obtain ⟨front, hfront, hstart⟩ : ∃ bs, bs.all isBlank = true ∧ bs ++ trimStart s.toList = s.toList :=
    ⟨_, List.all_takeWhile, List.takeWhile_append_dropWhile⟩
  obtain ⟨back, hback, hend⟩ : ∃ bs, bs.all isBlank = true ∧
      trimEnd (trimStart s.toList) ++ bs = trimStart s.toList := by
    refine ⟨((trimStart s.toList).reverse.takeWhile isBlank).reverse, ?_, ?_⟩
    · rw [List.all_reverse, List.all_takeWhile]
    · unfold trimEnd
      rw [← List.reverse_append, List.takeWhile_append_dropWhile, List.reverse_reverse]
  unfold words strip
  rw [String.toList_ofList, ← wordsOf_append_blanks hback, hend, ← wordsOf_blanks hfront, hstart]

theorem uncomment_eq_self {line : String} (h : ';' ∉ line.toList) : uncomment line = line := by
  have hall : ∀ c ∈ line.toList, (c != ';') = true := fun c hc => bne_iff_ne.2 fun he => h (he ▸ hc)
  unfold uncomment upTo
  rw [List.takeWhile_eq_self_iff.2 hall, String.ofList_toList]

/-- three words at the start of a line, with blanks between them -/
theorem words_three {u v w gap rest : String} (hu : IsWord u.toList) (hv : IsWord v.toList) (hw : IsWord w.toList)
    (hgap : StartsBlank gap) (hblank : gap.toList.all isBlank = true) (hrest : StartsBlank rest) :
    words (u ++ gap ++ v ++ gap ++ w ++ rest) = u :: v :: w :: words rest := by
  simp only [String.append_assoc]
  rw [words_word_append hu (hgap.append _), words_blanks_append hblank, words_word_append hv (hgap.append _),
    words_blanks_append hblank, words_word_append hw hrest]

/-! ## texts without line ends -/

/-- the text stands on one line -/
def Unbroken (s : String) : Prop := '\n' ∉ s.toList

instance (s : String) : Decidable (Unbroken s) := inferInstanceAs (Decidable (_ ∉ _))

theorem unbroken_append {s t : String} (hs : Unbroken s) (ht : Unbroken t) : Unbroken (s ++ t) := by
  unfold Unbroken
  rw [String.toList_append, List.mem_append]
  exact fun h => h.elim hs ht

@[simp]
theorem unbroken_append_iff {s t : String} : Unbroken (s ++ t) ↔ Unbroken s ∧ Unbroken t := by
  unfold Unbroken
  rw [String.toList_append, List.mem_append, not_or]

theorem unbroken_ofList {cs : List Char} (h : '\n' ∉ cs) : Unbroken (String.ofList cs) := by
  unfold Unbroken
  rwa [String.toList_ofList]

theorem unbroken_join {ss : List String} (h : ∀ s ∈ ss, Unbroken s) : Unbroken (String.join ss) := by
  unfold Unbroken
  rw [String.toList_join, List.mem_flatMap]
  rintro ⟨s, hs, hn⟩
  exact h s hs hn

theorem IsWord.unbroken {w : String} (h : IsWord w.toList) : Unbroken w := by
  intro hn
  have := h.2 '\n' hn
  exact absurd this (by decide)

theorem unbroken_of_mem_words {s w : String} (hw : w ∈ words s) : Unbroken w :=
  (isWord_of_mem_words hw).unbroken

theorem unbroken_of_graphic {s : String} (h : ∀ c ∈ s.toList, IsGraphic c) : Unbroken s :=
  fun hn => absurd (h _ hn) (by decide)

/-- a part of an unbroken text is unbroken -/
theorem unbroken_of_sublist {cs : List Char} {s : String} (h : Unbroken s)
    (hc : cs.Sublist s.toList) : Unbroken (String.ofList cs) :=
  unbroken_ofList fun hn => h (hc.subset hn)

theorem mem_intersperse {α : Type} {a sep : α} {xs : List α} (h : a ∈ xs.intersperse sep) :
    a = sep ∨ a ∈ xs := by
  induction xs with
  | nil => cases h
  | cons b xs ih =>
    cases xs with
    | nil => exact .inr h
    | cons c xs =>
      rw [List.intersperse_cons_cons, List.mem_cons, List.mem_cons] at h
      rcases h with h | h | h
      · exact .inr (h ▸ List.mem_cons_self)
      · exact .inl h
      · exact (ih h).imp id (List.mem_cons_of_mem b)

theorem unbroken_intercalate {sep : String} {ss : List String} (hsep : Unbroken sep)
    (h : ∀ s ∈ ss, Unbroken s) : Unbroken (sep.intercalate ss) := by
  unfold Unbroken
  rw [String.toList_intercalate, List.intercalate, List.mem_flatten]
  rintro ⟨l, hl, hn⟩
  rcases mem_intersperse hl with rfl | hl
  · exact hsep hn
  · obtain ⟨s, hs, rfl⟩ := List.mem_map.1 hl
    exact h s hs hn

/-! ## lines -/

theorem linesFrom_cons (a : Char) (cs cur : List Char) :
    linesFrom (a :: cs) cur =
      if a == '\n' then (a :: cur).reverse :: linesFrom cs [] else linesFrom cs (a :: cur) := rfl

theorem linesFrom_append (l cs : List Char) (h : '\n' ∉ l) (cur : List Char) :
    linesFrom (l ++ '\n' :: cs) cur = (cur.reverse ++ l ++ ['\n']) :: linesFrom cs [] := by
  induction l generalizing cur with
  | nil =>
    rw [List.nil_append, linesFrom_cons, if_pos (by decide)]
    simp
  | cons a l ih =>
    have ha : a ≠ '\n' := fun e => h (e ▸ List.mem_cons_self)
    rw [List.cons_append, linesFrom_cons, if_neg (by simpa using ha),
      ih (fun hm => h (List.mem_cons_of_mem _ hm))]
    simp

/-- the lines of a text that is put together from lines with their ends -/
theorem lines_join (ls : List String) (h : ∀ l ∈ ls, Unbroken l) :
    lines (String.join (ls.map fun l => l ++ "\n")) = ls.map fun l => l ++ "\n" := by
  suffices hs : linesFrom (String.join (ls.map fun l => l ++ "\n")).toList [] =
      ls.map fun l => l.toList ++ ['\n'] by
    unfold lines
    rw [hs, List.map_map]
    refine List.map_congr_left (fun l _ => ?_)
    apply String.toList_inj.mp
    rw [String.toList_append]
    exact String.toList_ofList
  induction ls with
  | nil => rfl
  | cons l ls ih =>
    have hl : (String.join ((l :: ls).map fun l => l ++ "\n")).toList =
        l.toList ++ '\n' :: (String.join (ls.map fun l => l ++ "\n")).toList := by
      rw [List.map_cons, String.join_cons, String.toList_append, String.toList_append,
        List.append_assoc]
      rfl
    rw [hl, linesFrom_append _ _ (h l List.mem_cons_self),
      ih (fun m hm => h m (List.mem_cons_of_mem _ hm))]
    rfl

/-- lines are told apart in the text that they make together -/
theorem lines_join_rows {rows : List String} (h : ∀ row ∈ rows, ∃ l, Unbroken l ∧ row = l ++ "\n") :
    lines (String.join rows) = rows := by
  have hls : ∃ ls : List String, (∀ l ∈ ls, Unbroken l) ∧ rows = ls.map (· ++ "\n") := by
    induction rows with
    | nil => exact ⟨[], List.forall_mem_nil _, rfl⟩
    | cons row rows ih =>
      obtain ⟨hrow, hrows⟩ := List.forall_mem_cons.1 h
      obtain ⟨l, hl, rfl⟩ := hrow
      obtain ⟨ls, hls, rfl⟩ := ih hrows
      exact ⟨l :: ls, List.forall_mem_cons.2 ⟨hl, hls⟩, rfl⟩
  obtain ⟨ls, hls, rfl⟩ := hls
  exact lines_join ls hls

/-- a line holds a line end at its end only -/
theorem not_mem_dropLast_of_mem_linesFrom (cs cur : List Char) (hcur : '\n' ∉ cur) (l : List Char)
    (hl : l ∈ linesFrom cs cur) : '\n' ∉ l.dropLast := by
  induction cs generalizing cur with
  | nil =>
    rw [linesFrom] at hl
    split at hl
    · cases hl
    · rw [List.mem_singleton] at hl
      rw [hl]
      exact fun h => hcur (List.mem_reverse.mp (List.mem_of_mem_dropLast h))
  | cons a cs ih =>
    rw [linesFrom] at hl
    split at hl
    · rcases List.mem_cons.mp hl with rfl | hl
      · rw [List.reverse_cons, List.dropLast_concat]
        exact fun h => hcur (List.mem_reverse.mp h)
      · exact ih [] (by simp) hl
    · rename_i ha
      refine ih (a :: cur) ?_ hl
      intro h
      rcases List.mem_cons.mp h with h | h
      · exact ha (by rw [← h]; rfl)
      · exact hcur h

theorem not_mem_dropLast_of_mem_lines {s l : String} (hl : l ∈ lines s) :
    '\n' ∉ l.toList.dropLast := by
  obtain ⟨cs, hcs, rfl⟩ := List.mem_map.mp hl
  rw [String.toList_ofList]
  exact not_mem_dropLast_of_mem_linesFrom _ [] (by simp) cs hcs

/-! ## texts with at most one line end, the last character -/

/-- no line end stands in front of the last character -/
def EndsOnce (cs : List Char) : Prop := '\n' ∉ cs.dropLast

theorem EndsOnce.isPrefix {cs ds : List Char} (h : EndsOnce cs) (hp : ds <+: cs) : EndsOnce ds := by
  obtain ⟨es, rfl⟩ := hp
  intro hn
  refine h ?_
  cases es with
  | nil => rwa [List.append_nil]
  | cons e es =>
    rw [List.dropLast_append_of_ne_nil (List.cons_ne_nil e es)]
    exact List.mem_append_left _ (List.mem_of_mem_dropLast hn)

theorem EndsOnce.isSuffix {cs ds : List Char} (h : EndsOnce cs) (hs : ds <:+ cs) : EndsOnce ds := by
  obtain ⟨es, rfl⟩ := hs
  intro hn
  refine h ?_
  have hne : ds ≠ [] := by rintro rfl; cases hn
  rw [List.dropLast_append_of_ne_nil hne]
  exact List.mem_append_right _ hn

/-- without the blanks behind it, such a text is unbroken -/
theorem unbroken_trimEnd {cs : List Char} (h : EndsOnce cs) : '\n' ∉ trimEnd cs := by
  have hp : trimEnd cs <+: cs := by
    have := List.dropWhile_suffix isBlank (l := cs.reverse)
    unfold trimEnd
    rwa [← List.reverse_suffix, List.reverse_reverse]
  have ht := h.isPrefix hp
  intro hn
  cases hr : cs.reverse.dropWhile isBlank with
  | nil => rw [trimEnd, hr] at hn; cases hn
  | cons c ds =>
    have hc : isBlank c = false := by
      have := List.head_dropWhile_not isBlank (l := cs.reverse) (by rw [hr]; exact List.cons_ne_nil _ _)
      simpa [hr] using this
    have he : trimEnd cs = ds.reverse ++ [c] := by rw [trimEnd, hr, List.reverse_cons]
    rw [he] at hn
    unfold EndsOnce at ht
    rw [he, List.dropLast_concat] at ht
    rcases List.mem_append.1 hn with hn | hn
    · exact ht hn
    · rw [← List.mem_singleton.1 hn] at hc
      exact absurd hc (by decide)

end Disasm.Text
