import Mathlib
import Disasm.Proofs.Text.Split

/-!
# Words in texts

* `infix_iff_exists_word`  a word stands in a text when it stands in one of its words;
* `afterWords n cs`  the text from the word at place `n` on, and `exists_front` what stands in front of it;
* `fromFirst_append`  where the search for a word ends that stands at a known place.
-/

namespace Disasm.Text

/-! ## parts of texts -/

section
variable {α : Type} {w x y : List α} {c : α}

theorem isPrefix_append_cons_iff (hc : c ∉ w) : w <+: x ++ c :: y ↔ w <+: x := by
  refine ⟨fun h => ?_, fun h => h.trans (List.prefix_append x (c :: y))⟩
  induction x generalizing w with
  | nil =>
    cases w with
    | nil => exact List.nil_prefix
    | cons a w => exact absurd ((List.cons_prefix_cons.1 h).1 ▸ List.mem_cons_self) hc
  | cons d x ih =>
    cases w with
    | nil => exact List.nil_prefix
    | cons a w =>
      obtain ⟨rfl, htail⟩ := List.cons_prefix_cons.1 h
      exact List.cons_prefix_cons.2 ⟨rfl, ih (fun hm => hc (List.mem_cons_of_mem a hm)) htail⟩

/-- a part without some item stands on one side of it -/
theorem isInfix_append_cons_iff (hc : c ∉ w) : w <:+: x ++ c :: y ↔ w <:+: x ∨ w <:+: y := by
  induction x with
  | nil =>
    have hstart : w <+: c :: y ↔ w <+: [] := isPrefix_append_cons_iff (x := []) hc
    rw [List.nil_append, List.infix_cons_iff, hstart, List.prefix_nil, List.infix_nil]
  | cons d x ih =>
    rw [List.cons_append, List.infix_cons_iff, ih, List.infix_cons_iff, or_assoc, ← List.cons_append,
      isPrefix_append_cons_iff hc]

end

/-! ## words -/

theorem infix_iff_exists_piece {sep : Char → Bool} {w : List Char} (hw : ∀ c ∈ w, sep c = false) (cs cur : List Char) :
    w <:+: cur.reverse ++ cs ↔ ∃ u ∈ piecesFrom sep cs cur, w <:+: u := by
  induction cs generalizing cur with
  | nil => simp [piecesFrom]
  | cons c cs ih =>
    rw [piecesFrom_cons]
    by_cases hc : sep c = true
    · have hcw : c ∉ w := fun h => by rw [hw c h] at hc; cases hc
      rw [if_pos hc, isInfix_append_cons_iff hcw, List.exists_mem_cons_iff, ← ih []]
      rfl
    · rw [if_neg hc, ← ih (c :: cur), List.reverse_cons, List.append_assoc]
      rfl

theorem infix_iff_exists_word {w : List Char} (hw : IsWord w) (cs : List Char) :
    w <:+: cs ↔ ∃ u ∈ wordsOf cs, w <:+: u := by
  rw [show w <:+: cs ↔ _ from infix_iff_exists_piece hw.2 cs []]
  constructor
  · rintro ⟨u, hu, hwu⟩
    refine ⟨u, List.mem_filter.2 ⟨hu, ?_⟩, hwu⟩
    cases u with
    | nil => exact absurd (List.infix_nil.1 hwu) hw.1
    | cons c u => rfl
  · rintro ⟨u, hu, hwu⟩
    exact ⟨u, (List.mem_filter.1 hu).1, hwu⟩

/-- the text ends in a blank -/
def EndsBlank (cs : List Char) : Prop := ∃ x b, isBlank b = true ∧ cs = x ++ [b]

/-- the text that is left behind the first word -/
def afterWord (cs : List Char) : List Char := (trimStart cs).dropWhile fun c => !isBlank c

theorem afterWord_eq (cs : List Char) :
    ∃ w, trimStart cs = w ++ afterWord cs ∧ (∀ c ∈ w, isBlank c = false) ∧ (w = [] → trimStart cs = []) ∧
      (afterWord cs = [] ∨ ∃ b y, isBlank b = true ∧ afterWord cs = b :: y) := by
  refine ⟨(trimStart cs).takeWhile fun c => !isBlank c, List.takeWhile_append_dropWhile.symm, fun c hc => ?_,
    fun hw => ?_, ?_⟩
  · simpa using List.mem_takeWhile_imp hc
  · cases ht : trimStart cs with
    | nil => rfl
    | cons c t =>
      have hc := List.head?_dropWhile_not isBlank cs
      rw [← trimStart, ht] at hc
      rw [ht, List.takeWhile_cons_of_pos (by simpa using hc)] at hw
      cases hw
  · cases ha : afterWord cs with
    | nil => exact .inl rfl
    | cons b y =>
      have hb := List.head?_dropWhile_not (fun c => !isBlank c) (trimStart cs)
      rw [← afterWord, ha] at hb
      exact .inr ⟨b, y, by simpa using hb, rfl⟩

/-- the first word of a text, with what stands around it -/
theorem exists_first_word {cs w : List Char} {ws : List (List Char)} (h : wordsOf cs = w :: ws) :
    ∃ bs, bs.all isBlank = true ∧ cs = bs ++ trimStart cs ∧ trimStart cs = w ++ afterWord cs ∧
      wordsOf (afterWord cs) = ws := by
  have hbs : (cs.takeWhile isBlank).all isBlank = true := List.all_takeWhile
  have hcs : cs = cs.takeWhile isBlank ++ trimStart cs := List.takeWhile_append_dropWhile.symm
  refine ⟨_, hbs, hcs, ?_⟩
  rw [hcs, wordsOf_blanks hbs] at h
  obtain ⟨u, hu, hblank, hempty, hafter⟩ := afterWord_eq cs
  have hword : IsWord u := by
    refine ⟨fun he => ?_, hblank⟩
    rw [hempty he] at h
    cases h
  rw [hu] at h
  rcases hafter with hafter | ⟨b, y, hb, hafter⟩
  · rw [hafter, List.append_nil, wordsOf_word hword] at h
    obtain ⟨rfl, rfl⟩ := List.cons.inj h
    exact ⟨hu, by rw [hafter, wordsOf_nil]⟩
  · rw [hafter, wordsOf_word_append hword hb] at h
    obtain ⟨rfl, rfl⟩ := List.cons.inj h
    exact ⟨hu, by rw [hafter, wordsOf_cons_blank hb]⟩

/-- the text from the word at a place on -/
def afterWords : Nat → List Char → List Char
  | 0, cs => trimStart cs
  | n + 1, cs => afterWords n (afterWord cs)

theorem endsBlank_of_blanks {bs : List Char} (h : bs.all isBlank = true) : bs = [] ∨ EndsBlank bs := by
  rcases List.eq_nil_or_concat' bs with hnil | ⟨x, b, rfl⟩
  · exact .inl hnil
  · refine .inr ⟨x, b, ?_, rfl⟩
    exact List.all_eq_true.1 h b (List.mem_append_right x (List.mem_singleton_self b))

/-- what stands in front of a word: the words before it, and a blank at the end if there is anything -/
theorem exists_front {n : Nat} {cs w : List Char} (h : (wordsOf cs)[n]? = some w) :
    ∃ front, cs = front ++ afterWords n cs ∧ wordsOf front = (wordsOf cs).take n ∧
      (front = [] ∨ EndsBlank front) ∧ w <+: afterWords n cs := by
  induction n generalizing cs with
  | zero =>
    obtain ⟨ws, hws⟩ := List.head?_eq_some_iff.1 (List.head?_eq_getElem?.trans h)
    obtain ⟨bs, hbs, hcs, hw, -⟩ := exists_first_word hws
    refine ⟨bs, hcs, ?_, endsBlank_of_blanks hbs, ?_⟩
    · rw [← List.append_nil bs, wordsOf_blanks hbs]
      rfl
    · rw [afterWords, hw]
      exact List.prefix_append w (afterWord cs)
  | succ n ih =>
    cases hws : wordsOf cs with
    | nil => rw [hws] at h; cases h
    | cons u ws =>
      obtain ⟨bs, hbs, hcs, hu, hafter⟩ := exists_first_word hws
      rw [hws, List.getElem?_cons_succ, ← hafter] at h
      obtain ⟨front, hfront, hwords, hend, hw⟩ := ih h
      have hword : IsWord w := isWord_of_mem_wordsOf (List.mem_of_getElem? h)
      -- the text behind a word starts with a blank, so something stands in front of the next one
      obtain ⟨b, y, hb, rfl⟩ : ∃ b y, isBlank b = true ∧ front = b :: y := by
        obtain ⟨-, -, -, -, hnil | ⟨b, y, hb, hby⟩⟩ := afterWord_eq cs
        · rw [hnil] at h
          cases h
        · rw [hby] at hfront
          cases front with
          | nil =>
            rw [List.nil_append] at hfront
            rw [hby, ← hfront] at hw
            obtain ⟨c, w, rfl⟩ := List.exists_cons_of_ne_nil hword.1
            have hc := hword.2 c List.mem_cons_self
            rw [(List.cons_prefix_cons.1 hw).1, hb] at hc
            cases hc
          | cons c front =>
            obtain ⟨rfl, -⟩ := List.cons.inj hfront
            exact ⟨b, front, hb, rfl⟩
      obtain ⟨x, d, hd, hx⟩ := hend.resolve_left (List.cons_ne_nil b y)
      refine ⟨bs ++ (u ++ b :: y), ?_, ?_, .inr ⟨bs ++ (u ++ x), d, hd, ?_⟩, hw⟩
      · rw [List.append_assoc, List.append_assoc, afterWords, ← hfront, ← hu, ← hcs]
      · have huword : IsWord u := isWord_of_mem_wordsOf (hws ▸ List.mem_cons_self)
        rw [wordsOf_blanks hbs, wordsOf_word_append huword hb, ← wordsOf_cons_blank hb, hwords, hafter,
          List.take_succ_cons]
      · rw [hx, List.append_assoc, List.append_assoc]

/-! ## searching -/

theorem fromFirst_append {part tail : List Char} (hpart : IsWord part) (h : part <+: tail) {front : List Char}
    (hfront : front = [] ∨ EndsBlank front) :
    ∃ x, fromFirst part (front ++ tail) = x ++ tail ∧ (x = [] ↔ ¬ part <:+: front) := by
  induction front with
  | nil =>
    have hnil : ¬ part <:+: [] := fun h => hpart.1 (List.infix_nil.1 h)
    refine ⟨[], ?_, iff_of_true rfl hnil⟩
    cases tail with
    | nil => rfl
    | cons c tail => rw [List.nil_append, fromFirst, if_pos (List.isPrefixOf_iff_prefix.2 h)]
  | cons c front ih =>
    obtain ⟨x, b, hb, hx⟩ := hfront.resolve_left (List.cons_ne_nil c front)
    -- the blank at the end keeps a word in front of it from reaching into the tail
    have hstart : part <+: c :: (front ++ tail) ↔ part <+: c :: front := by
      have hbpart : b ∉ part := fun hm => by rw [hpart.2 b hm] at hb; cases hb
      rw [← List.cons_append, hx, List.append_assoc, List.singleton_append, isPrefix_append_cons_iff hbpart,
        isPrefix_append_cons_iff hbpart]
    rw [List.cons_append, fromFirst]
    by_cases hp : part <+: c :: front
    · refine ⟨c :: front, ?_, iff_of_false (List.cons_ne_nil c front) fun hn => hn hp.isInfix⟩
      rw [if_pos (List.isPrefixOf_iff_prefix.2 (hstart.2 hp)), List.cons_append]
    · rw [if_neg (fun hpre => hp (hstart.1 (List.isPrefixOf_iff_prefix.1 hpre))), List.infix_cons_iff, or_iff_right hp]
      refine ih ?_
      cases x with
      | nil => exact .inl (List.cons.inj hx).2
      | cons d x => exact .inr ⟨x, b, hb, (List.cons.inj hx).2⟩

theorem trimEnd_append {x y : List Char} (h : ∃ c ∈ y, isBlank c = false) : trimEnd (x ++ y) = x ++ trimEnd y := by
  have hne : (y.reverse.dropWhile isBlank).isEmpty = false := by
    obtain ⟨c, hc, hblank⟩ := h
    rw [List.isEmpty_eq_false_iff, ne_eq, List.dropWhile_eq_nil_iff]
    intro hall
    rw [hall c (List.mem_reverse.2 hc)] at hblank
    cases hblank
  unfold trimEnd
  rw [List.reverse_append, List.dropWhile_append, hne]
  simp

end Disasm.Text
