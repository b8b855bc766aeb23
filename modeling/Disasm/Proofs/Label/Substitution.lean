import Mathlib
import Disasm.Proofs.Label.Pattern
import Disasm.Proofs.Label.Search
import Disasm.Proofs.Text.Split

/-!
# References and what they are replaced by

* `Reference.Starts r cs rest`  the text `cs` starts with the reference `r`, and `rest` is what follows it;
* `Scanned cs parts last`  the references of a text from left to right, each behind a front in which none starts, and
  what is left behind the last one;
* `read?_eq_some_iff`, `exists_scanned`, `Scanned.unique`  references are read where they start, and every text is
  scanned in one way;
* `Labels.Names`, `Labels.Stands`  the names of an address, and what a reference is replaced by;
* `substituteFrom_scanned`  the fronts are kept and the references are replaced one by one;
* `Scanned.kept`  a text in which all references are kept is scanned like the text itself;
* `references_substituted`  the replacement of the references of a text.
-/

namespace Disasm

open Disasm.Text

namespace Reference

/-! ## where a reference starts -/

def sign (r : Reference) : Char := if r.isData then 'd' else 'f'

/-- What follows an opening brace: blanks, the address, which ends where the word characters end, and anything up to
the first closing brace. -/
def Encloses (address cs rest : List Char) : Prop :=
  ∃ blanks tail, cs = blanks ++ (address ++ (tail ++ '\x7d' :: rest)) ∧
    (∀ c ∈ blanks, isBlank c = true) ∧ address ≠ [] ∧ (∀ c ∈ address, isWordChar c = true) ∧
    (∀ c ∈ (tail ++ '\x7d' :: rest).head?, isWordChar c = false) ∧ '\x7d' ∉ tail

/-- the text starts with the reference, and `rest` is what follows it -/
def Starts (r : Reference) (cs rest : List Char) : Prop :=
  ∃ inner, cs = '@' :: r.sign :: '\x7b' :: inner ∧ Encloses r.address inner rest

def IsStart (cs : List Char) : Prop := ∃ r rest, Starts r cs rest

theorem afterBrace_eq_some_iff {cs rest : List Char} (h : '\n' ∉ cs) :
    afterBrace cs = some rest ↔ ∃ tail, cs = tail ++ '\x7d' :: rest ∧ '\x7d' ∉ tail := by
  induction cs with
  | nil => simp [afterBrace]
  | cons c cs ih =>
    rw [List.mem_cons, not_or] at h
    rw [afterBrace]
    by_cases hc : c = '\x7d'
    · subst hc
      rw [if_pos rfl]
      constructor
      · intro hsome
        cases hsome
        exact ⟨[], rfl, List.not_mem_nil⟩
      · rintro ⟨tail, heq, hnot⟩
        cases tail with
        | nil => cases heq; rfl
        | cons d tail =>
          cases heq
          exact absurd List.mem_cons_self hnot
    · rw [if_neg hc, if_neg (Ne.symm h.1), ih h.2]
      constructor
      · rintro ⟨tail, rfl, hnot⟩
        exact ⟨c :: tail, rfl, List.not_mem_cons_of_ne_of_not_mem (Ne.symm hc) hnot⟩
      · rintro ⟨tail, heq, hnot⟩
        cases tail with
        | nil => cases heq; exact absurd rfl hc
        | cons d tail =>
          cases heq
          exact ⟨tail, rfl, fun hmem => hnot (List.mem_cons_of_mem _ hmem)⟩

/-- a blank in front plays no part, as no brace is blank -/
theorem afterBrace_dropBlank {cs : List Char} (h : '\n' ∉ cs) : afterBrace (dropBlank cs) = afterBrace cs := by
  cases cs with
  | nil => rfl
  | cons c cs =>
    rw [dropBlank]
    split
    next hblank =>
      have hbrace : c ≠ '\x7d' := by
        rintro rfl
        exact absurd hblank (by decide)
      have hline : c ≠ '\n' := fun hc => h (hc ▸ List.mem_cons_self)
      rw [afterBrace, if_neg hbrace, if_neg hline]
    next => rfl

theorem encloses_of_inBraces {isData : Bool} {cs rest : List Char} {r : Reference} (h : '\n' ∉ cs)
    (hr : inBraces isData cs = some (r, rest)) : r.isData = isData ∧ Encloses r.address cs rest := by
  unfold inBraces at hr
  dsimp only at hr
  split at hr
  · cases hr
  next hne =>
    obtain ⟨_, hafter, heq⟩ := Option.map_eq_some_iff.1 hr
    cases heq
    have hbody : (cs.dropWhile isBlank).takeWhile isWordChar ++ (cs.dropWhile isBlank).dropWhile isWordChar =
        cs.dropWhile isBlank := List.takeWhile_append_dropWhile
    have hline : '\n' ∉ (cs.dropWhile isBlank).dropWhile isWordChar := fun hmem =>
      h ((List.dropWhile_sublist _).subset ((List.dropWhile_sublist _).subset hmem))
    rw [afterBrace_dropBlank hline, afterBrace_eq_some_iff hline] at hafter
    obtain ⟨tail, htail, hnot⟩ := hafter
    refine ⟨rfl, cs.takeWhile isBlank, tail, ?_, fun c hc => List.mem_takeWhile_imp hc, ?_,
      fun c hc => List.mem_takeWhile_imp hc, ?_, hnot⟩
    · rw [← htail, hbody, List.takeWhile_append_dropWhile]
    · exact fun hnil => hne (List.isEmpty_iff.2 hnil)
    · intro c hc
      rw [← htail] at hc
      have hstop := List.head?_dropWhile_not isWordChar (cs.dropWhile isBlank)
      rw [Option.mem_def.1 hc] at hstop
      exact hstop

theorem inBraces_of_encloses {isData : Bool} {address cs rest : List Char} (h : '\n' ∉ cs)
    (hcs : Encloses address cs rest) : inBraces isData cs = some (⟨isData, address⟩, rest) := by
  obtain ⟨blanks, tail, rfl, hblank, hne, hword, hstop, hnot⟩ := hcs
  obtain ⟨a, as, rfl⟩ := List.exists_cons_of_ne_nil hne
  have hbody : (blanks ++ (a :: as ++ (tail ++ '\x7d' :: rest))).dropWhile isBlank =
      a :: as ++ (tail ++ '\x7d' :: rest) := by
    rw [List.dropWhile_append_of_pos hblank, List.cons_append,
      List.dropWhile_cons_of_neg (by rw [not_blank_of_wordChar (hword a List.mem_cons_self)]; decide)]
  obtain ⟨c, ds, hds⟩ : ∃ c ds, tail ++ '\x7d' :: rest = c :: ds :=
    List.exists_cons_of_ne_nil (List.append_ne_nil_of_right_ne_nil tail (List.cons_ne_nil _ _))
  have hc : ¬ isWordChar c = true := by
    rw [hstop c (by rw [hds]; rfl)]
    decide
  have htake : (a :: as ++ (tail ++ '\x7d' :: rest)).takeWhile isWordChar = a :: as := by
    rw [List.takeWhile_append_of_pos hword, hds, List.takeWhile_cons_of_neg hc, List.append_nil]
  have hdrop : (a :: as ++ (tail ++ '\x7d' :: rest)).dropWhile isWordChar = tail ++ '\x7d' :: rest := by
    rw [List.dropWhile_append_of_pos hword, hds, List.dropWhile_cons_of_neg hc]
  have hline : '\n' ∉ tail ++ '\x7d' :: rest := fun hmem =>
    h (List.mem_append_right _ (List.mem_append_right _ hmem))
  have hafter : afterBrace (dropBlank (tail ++ '\x7d' :: rest)) = some rest := by
    rw [afterBrace_dropBlank hline]
    exact (afterBrace_eq_some_iff hline).2 ⟨tail, rfl, hnot⟩
  unfold inBraces
  dsimp only
  rw [hbody, htake, hdrop, hafter]
  rfl

theorem read?_eq_some_iff {cs rest : List Char} {r : Reference} (h : '\n' ∉ cs) :
    read? cs = some (r, rest) ↔ r.Starts cs rest := by
  have hinner {inner : List Char} {s : Char} (hcs : cs = '@' :: s :: '\x7b' :: inner) : '\n' ∉ inner := fun hmem =>
    h (hcs ▸ List.mem_cons_of_mem _ (List.mem_cons_of_mem _ (List.mem_cons_of_mem _ hmem)))
  constructor
  · intro hr
    rw [read?_eq_scan?] at hr
    unfold scan? at hr
    split at hr
    next inner =>
      obtain ⟨hdata, henclosed⟩ := encloses_of_inBraces (hinner rfl) hr
      exact ⟨inner, by rw [sign, hdata]; rfl, henclosed⟩
    next inner =>
      obtain ⟨hdata, henclosed⟩ := encloses_of_inBraces (hinner rfl) hr
      exact ⟨inner, by rw [sign, hdata]; rfl, henclosed⟩
    next => cases hr
  · rintro ⟨inner, rfl, henclosed⟩
    obtain ⟨isData, address⟩ := r
    rw [read?_eq_scan?]
    cases isData <;> exact inBraces_of_encloses (hinner rfl) henclosed

theorem read?_eq_none_iff {cs : List Char} (h : '\n' ∉ cs) : read? cs = none ↔ ¬ IsStart cs := by
  rw [Option.eq_none_iff_forall_ne_some]
  constructor
  · rintro hnone ⟨r, rest, hstart⟩
    exact hnone (r, rest) ((read?_eq_some_iff h).2 hstart)
  · rintro hnot ⟨r, rest⟩ hsome
    exact hnot ⟨r, rest, (read?_eq_some_iff h).1 hsome⟩

theorem IsStart.ne_nil {cs : List Char} (h : IsStart cs) : cs ≠ [] := by
  obtain ⟨r, rest, inner, rfl, -⟩ := h
  exact List.cons_ne_nil _ _

/-- a reference starts with its sign and is closed by a brace -/
theorem Starts.exists_eq_cons {r : Reference} {cs rest : List Char} (h : r.Starts cs rest) :
    ∃ ds, cs = '@' :: ds ∧ '\x7d' ∈ ds := by
  obtain ⟨inner, rfl, blanks, tail, rfl, -⟩ := h
  exact ⟨_, rfl, by simp⟩

theorem Starts.subset {r : Reference} {cs rest : List Char} (h : r.Starts cs rest) : rest ⊆ cs := by
  obtain ⟨inner, rfl, blanks, tail, rfl, -⟩ := h
  intro c hc
  simp [hc]

/-- the kept form of a reference starts it again -/
theorem Starts.render {r : Reference} {cs rest : List Char} (h : r.Starts cs rest) (ds : List Char) :
    r.Starts (r.render.toList ++ ds) ds := by
  obtain ⟨inner, -, blanks, tail, -, -, hne, hword, -, -⟩ := h
  refine ⟨r.address ++ '\x7d' :: ds, ?_, [], [], rfl, List.forall_mem_nil _, hne, hword, ?_, List.not_mem_nil⟩
  · obtain ⟨isData, address⟩ := r
    unfold Reference.render
    cases isData <;> simp [letter, sign]
  · intro c hc
    cases hc
    exact isWordChar_brace

/-- What starts in front of the sign of a reference has its address there too, so nothing behind the sign plays a part
as long as a brace follows. -/
theorem IsStart.append_sign {b cs ds : List Char} (hb : b ≠ []) (hds : '\x7d' ∈ ds) (h : IsStart (b ++ '@' :: cs)) :
    IsStart (b ++ '@' :: ds) := by
  obtain ⟨r, rest, inner, heq, blanks, tail, rfl, hblank, hne, hword, hstop, hnot⟩ := h
  -- the sign is no part of the opening
  obtain ⟨b, rfl⟩ : ∃ b', b = '@' :: r.sign :: '\x7b' :: b' := by
    have hsign : '@' ≠ r.sign := by
      unfold sign
      split <;> decide
    rcases b with _ | ⟨x, _ | ⟨y, _ | ⟨z, b⟩⟩⟩
    · exact absurd rfl hb
    · simp only [List.cons_append, List.nil_append, List.cons.injEq] at heq
      exact absurd heq.2.1 hsign
    · simp only [List.cons_append, List.nil_append, List.cons.injEq] at heq
      exact absurd heq.2.2.1 (by decide)
    · simp only [List.cons_append, List.cons.injEq] at heq
      exact ⟨b, by rw [heq.1, heq.2.1, heq.2.2.1]⟩
  simp only [List.cons_append, List.cons.injEq, true_and] at heq
  -- nor of the address
  obtain ⟨more, rfl, hmore⟩ : ∃ more, b = (blanks ++ r.address) ++ more ∧
      tail ++ '\x7d' :: rest = more ++ '@' :: cs := by
    rw [← List.append_assoc] at heq
    rcases List.append_eq_append_iff.1 heq with ⟨a, ha, ha'⟩ | ⟨a, ha, ha'⟩
    · cases a with
      | nil => exact ⟨[], by rw [ha, List.append_nil, List.append_nil], ha'.symm⟩
      | cons x a =>
        cases ha'
        have hmem : '@' ∈ blanks ++ r.address := by rw [ha]; simp
        rcases List.mem_append.1 hmem with hin | hin
        · exact absurd (hblank _ hin) (by decide)
        · exact absurd (hword _ hin) (Bool.eq_false_iff.1 isWordChar_at)
    · exact ⟨a, ha, ha'⟩
  obtain ⟨tail', rest', hsplit, hnot'⟩ :=
    List.eq_append_cons_of_mem (List.mem_append_right more (List.mem_cons_of_mem '@' hds))
  refine ⟨r, rest', (blanks ++ r.address ++ more) ++ '@' :: ds, rfl, blanks, tail', ?_, hblank, hne, hword, ?_, hnot'⟩
  · rw [← hsplit, List.append_assoc, List.append_assoc]
  · intro c hc
    refine hstop c ?_
    rw [hmore]
    rw [← hsplit] at hc
    cases more with
    | nil => exact hc
    | cons x more => exact hc

end Reference

/-! ## scanning a text -/

open Reference

/-- no reference starts inside the front of a text -/
def PlainBefore (front cs : List Char) : Prop := ∀ b, b <:+ front → b ≠ [] → ¬ IsStart (b ++ cs)

namespace PlainBefore

variable {front cs ds : List Char}

theorem nil (cs : List Char) : PlainBefore [] cs := fun _ hb hne => absurd (List.suffix_nil.1 hb) hne

theorem cons_iff {c : Char} : PlainBefore (c :: front) cs ↔ ¬ IsStart (c :: front ++ cs) ∧ PlainBefore front cs := by
  constructor
  · intro h
    exact ⟨h _ List.suffix_rfl (List.cons_ne_nil _ _), fun b hb => h b (List.suffix_cons_iff.2 (.inr hb))⟩
  · rintro ⟨hc, h⟩ b hb hne
    rcases List.suffix_cons_iff.1 hb with rfl | hb
    · exact hc
    · exact h b hb hne

/-- a front stays plain when other text with a reference follows -/
theorem change (h : PlainBefore front ('@' :: cs)) (hcs : '\x7d' ∈ cs) : PlainBefore front ('@' :: ds) :=
  fun b hb hne hstart => h b hb hne (hstart.append_sign hne hcs)

/-- the first reference of a text stands at one place -/
theorem unique {front' cs' : List Char} (h : PlainBefore front cs) (hcs : IsStart cs) (h' : PlainBefore front' cs')
    (hcs' : IsStart cs') (heq : front ++ cs = front' ++ cs') : front = front' ∧ cs = cs' := by
  rcases List.append_eq_append_iff.1 heq with ⟨b, rfl, rfl⟩ | ⟨b, rfl, rfl⟩
  · rcases eq_or_ne b [] with rfl | hb
    · exact ⟨(List.append_nil _).symm, rfl⟩
    · exact absurd hcs (h' b (List.suffix_append _ _) hb)
  · rcases eq_or_ne b [] with rfl | hb
    · exact ⟨List.append_nil _, rfl⟩
    · exact absurd hcs' (h b (List.suffix_append _ _) hb)

end PlainBefore

/-- The references of a text from left to right, each with the text in front of it, and the text behind the last one.
The scan goes on behind the brace that closes a reference. -/
inductive Scanned : List Char → List (List Char × Reference) → List Char → Prop
  | last {plain : List Char} (hplain : PlainBefore plain []) : Scanned plain [] plain
  | next {front cs rest last : List Char} {r : Reference} {parts : List (List Char × Reference)}
      (hplain : PlainBefore front cs) (hstart : r.Starts cs rest) (hrest : Scanned rest parts last) :
      Scanned (front ++ cs) ((front, r) :: parts) last

namespace Scanned

variable {cs last : List Char} {parts : List (List Char × Reference)}

/-- a character in front at which no reference starts -/
theorem exists_cons {c : Char} (h : Scanned cs parts last) (hc : ¬ IsStart (c :: cs)) :
    ∃ parts last, Scanned (c :: cs) parts last := by
  cases h with
  | last hplain => exact ⟨[], _, .last (PlainBefore.cons_iff.2 ⟨by rwa [List.append_nil], hplain⟩)⟩
  | next hplain hstart hrest => exact ⟨_, _, .next (PlainBefore.cons_iff.2 ⟨hc, hplain⟩) hstart hrest⟩

end Scanned

theorem exists_scanned {cs : List Char} (h : '\n' ∉ cs) : ∃ parts last, Scanned cs parts last := by
  induction hn : cs.length using Nat.strong_induction_on generalizing cs with
  | _ n ih =>
    subst hn
    cases hread : read? cs with
    | some found =>
      obtain ⟨r, rest⟩ := found
      have hstart := (read?_eq_some_iff h).1 hread
      obtain ⟨parts, last, hrest⟩ := ih _ (length_read? hread) (fun hmem => h (hstart.subset hmem)) rfl
      exact ⟨_, _, .next (.nil cs) hstart hrest⟩
    | none =>
      cases cs with
      | nil => exact ⟨[], [], .last (.nil [])⟩
      | cons c cs =>
        obtain ⟨parts, last, hrest⟩ := ih _ (Nat.lt_succ_self _) (fun hmem => h (List.mem_cons_of_mem _ hmem)) rfl
        exact hrest.exists_cons ((read?_eq_none_iff h).1 hread)

namespace Scanned

variable {cs last : List Char} {parts : List (List Char × Reference)}

theorem unique {parts' : List (List Char × Reference)} {last' : List Char} (h : Scanned cs parts last)
    (h' : Scanned cs parts' last') (hcs : '\n' ∉ cs) : parts = parts' ∧ last = last' := by
  induction h generalizing parts' last' with
  | @last plain hplain =>
    cases h' with
    | last => exact ⟨rfl, rfl⟩
    | @next front cs rest _ r _ _ hstart =>
      have hcs : IsStart cs := ⟨r, rest, hstart⟩
      exact absurd ((List.append_nil cs).symm ▸ hcs) (hplain cs (List.suffix_append _ _) hcs.ne_nil)
  | @next front cs rest last r parts hplain hstart hrest ih =>
    generalize htext : front ++ cs = text at h'
    cases h' with
    | last hplain' =>
      have hcs : IsStart cs := ⟨r, rest, hstart⟩
      exact absurd ((List.append_nil cs).symm ▸ hcs) (hplain' cs (htext ▸ List.suffix_append _ _) hcs.ne_nil)
    | @next front' cs' rest' _ r' parts' hplain' hstart' hrest' =>
      obtain ⟨rfl, rfl⟩ := hplain.unique ⟨r, rest, hstart⟩ hplain' ⟨r', rest', hstart'⟩ htext
      have hline : '\n' ∉ cs := fun hmem => hcs (List.mem_append_right _ hmem)
      have hread := (read?_eq_some_iff hline).2 hstart
      rw [(read?_eq_some_iff hline).2 hstart'] at hread
      cases hread
      obtain ⟨rfl, rfl⟩ := ih hrest' fun hmem => hline (hstart.subset hmem)
      exact ⟨rfl, rfl⟩

/-- the text with every reference in its kept form -/
def keptText (parts : List (List Char × Reference)) (last : List Char) : List Char :=
  parts.flatMap (fun p => p.1 ++ p.2.render.toList) ++ last

theorem keptText_cons (p : List Char × Reference) (parts : List (List Char × Reference)) (last : List Char) :
    keptText (p :: parts) last = p.1 ++ (p.2.render.toList ++ keptText parts last) := by
  unfold keptText
  rw [List.flatMap_cons, List.append_assoc, List.append_assoc]

/-- nothing starts anew when references take their kept form -/
theorem kept (h : Scanned cs parts last) : Scanned (keptText parts last) parts last := by
  induction h with
  | last hplain => exact .last hplain
  | next hplain hstart _ ih =>
    rw [keptText_cons]
    refine .next ?_ (hstart.render _) ih
    obtain ⟨ds, rfl, hbrace⟩ := hstart.exists_eq_cons
    obtain ⟨ds', hds', -⟩ := (hstart.render (keptText _ _)).exists_eq_cons
    rw [hds']
    exact hplain.change hbrace

theorem unbroken_kept (h : Scanned cs parts last) (hcs : '\n' ∉ cs) : '\n' ∉ keptText parts last := by
  induction h with
  | last => exact hcs
  | @next front cs rest last r parts _ hstart _ ih =>
    rw [List.mem_append, not_or] at hcs
    have hrender : '\n' ∉ r.render.toList := by
      obtain ⟨inner, rfl, blanks, tail, rfl, -⟩ := hstart
      obtain ⟨isData, address⟩ := r
      unfold Reference.render
      cases isData <;> simp_all [letter]
    rw [keptText_cons, List.mem_append, List.mem_append, not_or, not_or]
    exact ⟨hcs.1, hrender, ih fun hmem => hcs.2 (hstart.subset hmem)⟩

end Scanned

/-! ## what references are replaced by -/

theorem Found.find_answers (t : RangeTable) (x : Int) : Answers (t.getD · []) x (t.find x) := by
  have hlisted : listed t.toList = (t.getD · []) := funext (listed_eq_getD (.refl _))
  rw [← scan_toList, ← hlisted]
  exact scan_answers x t.toList

namespace Reference

def number? (r : Reference) : Option Int := readNumber? (String.ofList r.address)

end Reference

namespace Labels

variable {l : Labels}

/-- The names of an address.  Of data: the symbol there; without one the ranges that start there; without them the
nearest range that covers it, with the distance from its start.  Of code: the function there. -/
inductive Names (l : Labels) (addr : Int) : Bool → String → Prop
  | symbol {name : String} (hname : l.symbols[addr]? = some name) : Names l addr true name
  | start {found : Found} (hsymbol : l.symbols[addr]? = none) (hfound : found.Answers (l.ranges.getD · []) addr)
      (hexact : found.exact ≠ []) : Names l addr true (":".intercalate found.exact)
  | inside {found : Found} {n : Nearest} (hsymbol : l.symbols[addr]? = none)
      (hfound : found.Answers (l.ranges.getD · []) addr) (hexact : found.exact = [])
      (hnear : found.nearest = some n) : Names l addr true (n.name ++ "+0x" ++ Text.hex n.distance)
  | function {name : String} (hname : l.functions[addr]? = some name) : Names l addr false name

/-- what is known about an address -/
def name? (l : Labels) (isData : Bool) (addr : Int) : Option String :=
  if isData then l.dataName? addr else l.functions[addr]?

theorem dataName?_of_symbol {addr : Int} {name : String} (h : l.symbols[addr]? = some name) :
    l.dataName? addr = some name := by
  unfold dataName?
  rw [h]

theorem dataName?_of_none {addr : Int} {found : Found} (h : l.symbols[addr]? = none)
    (hfound : found.Answers (l.ranges.getD · []) addr) :
    l.dataName? addr =
      if found.exact ≠ [] then some (":".intercalate found.exact)
      else found.nearest.map fun n => n.name ++ "+0x" ++ Text.hex n.distance := by
  obtain rfl := hfound.unique (Found.find_answers l.ranges addr)
  unfold dataName?
  rw [h]
  dsimp only
  refine if_congr ?_ rfl rfl
  rw [Bool.not_eq_true', List.isEmpty_eq_false_iff]

theorem name?_eq_some_iff {isData : Bool} {addr : Int} {name : String} :
    l.name? isData addr = some name ↔ l.Names addr isData name := by
  constructor
  · intro h
    cases isData with
    | false => exact .function h
    | true =>
      change l.dataName? addr = some name at h
      cases hsymbol : l.symbols[addr]? with
      | some symbol =>
        rw [dataName?_of_symbol hsymbol] at h
        cases h
        exact .symbol hsymbol
      | none =>
        have hfound := Found.find_answers l.ranges addr
        rw [dataName?_of_none hsymbol hfound] at h
        split at h
        next hexact =>
          cases h
          exact .start hsymbol hfound hexact
        next hexact =>
          obtain ⟨n, hn, rfl⟩ := Option.map_eq_some_iff.1 h
          exact .inside hsymbol hfound (not_not.1 hexact) hn
  · intro h
    cases h with
    | symbol hname => exact dataName?_of_symbol hname
    | start hsymbol hfound hexact => exact (dataName?_of_none hsymbol hfound).trans (if_pos hexact)
    | inside hsymbol hfound hexact hnear =>
      refine (dataName?_of_none hsymbol hfound).trans ((if_neg (not_not.2 hexact)).trans ?_)
      rw [hnear]
      rfl
    | function hname => exact hname

/-- no name is known for the address of a reference -/
def Nameless (l : Labels) (r : Reference) : Prop := ∀ addr name, r.number? = some addr → ¬ l.Names addr r.isData name

/-- what stands for a reference: a name of its address, or its kept form if there is none -/
def Stands (l : Labels) (r : Reference) (text : String) : Prop :=
  ∃ addr, r.number? = some addr ∧
    (l.Names addr r.isData text ∨ (∀ name, ¬ l.Names addr r.isData name) ∧ text = r.render)

theorem resolve_of_none {r : Reference} (h : r.number? = none) : l.resolve r = .error (String.ofList r.address) := by
  unfold Reference.number? at h
  unfold resolve
  rw [h]

theorem resolve_of_some {r : Reference} {addr : Int} (h : r.number? = some addr) :
    l.resolve r = .ok ((l.name? r.isData addr).getD r.render) := by
  unfold Reference.number? at h
  unfold resolve name?
  rw [h]

theorem resolve_eq_ok_iff {r : Reference} {text : String} : l.resolve r = .ok text ↔ l.Stands r text := by
  unfold Stands
  cases haddr : r.number? with
  | none => simp [resolve_of_none haddr]
  | some addr =>
    simp only [resolve_of_some haddr, ← name?_eq_some_iff, Except.ok.injEq, Option.some.injEq, exists_eq_left']
    cases hname : l.name? r.isData addr with
    | some name => simp
    | none => simp [eq_comm]

theorem Stands.eq_render {r : Reference} {text : String} (h : l.Stands r text) (hr : l.Nameless r) :
    text = r.render := by
  obtain ⟨addr, haddr, hname | ⟨-, heq⟩⟩ := h
  · exact absurd hname (hr addr text haddr)
  · exact heq

/-! ## substitution -/

theorem substituteFrom_of_start {done cs rest : List Char} {r : Reference} (h : Reference.read? cs = some (r, rest)) :
    l.substituteFrom done cs = l.resolve r >>= fun name => l.substituteFrom (name.toList.reverse ++ done) rest := by
  rw [substituteFrom]
  split
  next hread =>
    rw [h] at hread
    cases hread
    cases l.resolve r <;> rfl
  next hread =>
    rw [h] at hread
    cases hread

theorem substituteFrom_of_none {done cs : List Char} {c : Char} (h : Reference.read? (c :: cs) = none) :
    l.substituteFrom done (c :: cs) = l.substituteFrom (c :: done) cs := by
  rw [substituteFrom]
  split
  next hread =>
    rw [h] at hread
    cases hread
  next => rfl

theorem substituteFrom_nil (done : List Char) : l.substituteFrom done [] = .ok (String.ofList done.reverse) := by
  rw [substituteFrom]
  split
  next hread => cases hread
  next => rfl

/-- a plain front is kept -/
theorem substituteFrom_plain {front cs : List Char} (h : PlainBefore front cs) (hcs : '\n' ∉ front ++ cs)
    (done : List Char) : l.substituteFrom done (front ++ cs) = l.substituteFrom (front.reverse ++ done) cs := by
  induction front generalizing done with
  | nil => rfl
  | cons c front ih =>
    obtain ⟨hc, h⟩ := PlainBefore.cons_iff.1 h
    rw [List.cons_append] at hcs
    rw [List.cons_append, substituteFrom_of_none ((read?_eq_none_iff hcs).2 hc),
      ih h (fun hmem => hcs (List.mem_cons_of_mem _ hmem)), List.reverse_cons, List.append_assoc]
    rfl

end Labels

/-- the fronts of references, each with a text in the place of its reference -/
def filledIn (parts : List (List Char × Reference)) (texts : List String) (last : List Char) : List Char :=
  (List.zipWith (fun p text => p.1 ++ text.toList) parts texts).flatten ++ last

theorem filledIn_cons (front : List Char) (r : Reference) (parts : List (List Char × Reference)) (text : String)
    (texts : List String) (last : List Char) :
    filledIn ((front, r) :: parts) (text :: texts) last = front ++ (text.toList ++ filledIn parts texts last) := by
  unfold filledIn
  rw [List.zipWith_cons_cons, List.flatten_cons, List.append_assoc, List.append_assoc]

namespace Labels

variable {l : Labels}

theorem substituteFrom_scanned {cs last : List Char} {parts : List (List Char × Reference)}
    (h : Scanned cs parts last) (hcs : '\n' ∉ cs) (done : List Char) :
    l.substituteFrom done cs = (parts.mapM fun p => l.resolve p.2).map fun texts =>
      String.ofList (done.reverse ++ filledIn parts texts last) := by
  induction h generalizing done with
  | @last plain hplain =>
    have hkeep := substituteFrom_plain (l := l) hplain (by rwa [List.append_nil]) done
    rw [List.append_nil] at hkeep
    rw [hkeep, substituteFrom_nil, List.reverse_append, List.reverse_reverse]
    rfl
  | @next front cs rest last r parts hplain hstart _ ih =>
    have hline : '\n' ∉ cs := fun hmem => hcs (List.mem_append_right _ hmem)
    rw [substituteFrom_plain hplain hcs, substituteFrom_of_start ((read?_eq_some_iff hline).2 hstart), List.mapM_cons]
    cases l.resolve r with
    | error e => rfl
    | ok name =>
      refine (ih (fun hmem => hline (hstart.subset hmem)) _).trans ?_
      cases parts.mapM fun p => l.resolve p.2 with
      | error e => rfl
      | ok texts =>
        show Except.ok _ = Except.ok _
        dsimp only
        rw [filledIn_cons]
        simp only [List.reverse_append, List.reverse_reverse, List.append_assoc]

theorem substitute_scanned {text : String} {last : List Char} {parts : List (List Char × Reference)}
    (h : Scanned text.toList parts last) (htext : Unbroken text) :
    l.substitute text = (parts.mapM fun p => l.resolve p.2).map fun texts =>
      String.ofList (filledIn parts texts last) :=
  substituteFrom_scanned h htext []

end Labels

section
variable {ε α β : Type} {f : α → Except ε β}

theorem mapM_eq_ok_iff {xs : List α} {ys : List β} :
    xs.mapM f = .ok ys ↔ List.Forall₂ (fun x y => f x = .ok y) xs ys := by
  induction xs generalizing ys with
  | nil => simp [pure, Except.pure, eq_comm]
  | cons x xs ih =>
    rw [List.mapM_cons, List.forall₂_cons_left_iff]
    simp only [← ih]
    cases f x with
    | error e => simp [bind, Except.bind]
    | ok y =>
      cases xs.mapM f with
      | error e => simp [bind, Except.bind]
      | ok zs => simp [bind, Except.bind, pure, Except.pure, eq_comm]

end

namespace Labels

variable {l : Labels}

/-- the first address that is no number ends the work -/
theorem mapM_resolve_eq_error_iff {parts : List (List Char × Reference)} {e : String} :
    (parts.mapM fun p => l.resolve p.2) = .error e ↔
      ∃ p, parts.find? (·.2.number?.isNone) = some p ∧ e = String.ofList p.2.address := by
  induction parts with
  | nil => simp [pure, Except.pure]
  | cons p parts ih =>
    rw [List.mapM_cons, List.find?_cons]
    cases haddr : p.2.number? with
    | none => simp [resolve_of_none haddr, bind, Except.bind, eq_comm]
    | some addr =>
      rw [Option.isNone_some]
      dsimp only
      rw [← ih, resolve_of_some haddr]
      cases parts.mapM fun p => l.resolve p.2 <;> simp [bind, Except.bind, pure, Except.pure]

theorem substitute_eq_ok_iff {text out : String} {last : List Char} {parts : List (List Char × Reference)}
    (h : Scanned text.toList parts last) (htext : Unbroken text) :
    l.substitute text = .ok out ↔ ∃ texts, List.Forall₂ (fun p t => l.Stands p.2 t) parts texts ∧
      out = String.ofList (filledIn parts texts last) := by
  simp only [← resolve_eq_ok_iff, ← mapM_eq_ok_iff]
  rw [substitute_scanned h htext]
  cases parts.mapM fun p => l.resolve p.2 with
  | error e => simp [Except.map]
  | ok texts => simp [Except.map, eq_comm]

theorem substitute_eq_error_iff {text e : String} {last : List Char} {parts : List (List Char × Reference)}
    (h : Scanned text.toList parts last) (htext : Unbroken text) :
    l.substitute text = .error e ↔
      ∃ p, parts.find? (·.2.number?.isNone) = some p ∧ e = String.ofList p.2.address := by
  rw [substitute_scanned h htext, ← mapM_resolve_eq_error_iff]
  cases parts.mapM fun p => l.resolve p.2 <;> simp [Except.map]

theorem filledIn_of_nameless {parts : List (List Char × Reference)} {texts : List String}
    (h : List.Forall₂ (fun p t => l.Stands p.2 t) parts texts) (hnone : ∀ p ∈ parts, l.Nameless p.2)
    (last : List Char) : filledIn parts texts last = Scanned.keptText parts last := by
  induction h with
  | nil => rfl
  | cons hstands _ ih =>
    obtain ⟨hr, hrest⟩ := List.forall_mem_cons.1 hnone
    rw [filledIn_cons, Scanned.keptText_cons, hstands.eq_render hr, ih hrest]

/-- a text of which all references are kept has the same references as before -/
theorem substitute_twice {text : String} {last : List Char} {parts : List (List Char × Reference)}
    (h : Scanned text.toList parts last) (htext : Unbroken text) (hnone : ∀ p ∈ parts, l.Nameless p.2) :
    (l.substitute text >>= l.substitute) = l.substitute text := by
  cases hout : l.substitute text with
  | error e => rfl
  | ok out =>
    show l.substitute out = .ok out
    obtain ⟨texts, htexts, heq⟩ := (substitute_eq_ok_iff h htext).1 hout
    rw [filledIn_of_nameless htexts hnone] at heq
    have hlist : out.toList = Scanned.keptText parts last := by rw [heq, String.toList_ofList]
    have hkept : Scanned out.toList parts last := hlist ▸ h.kept
    have hbroken : Unbroken out := by
      unfold Unbroken
      rw [hlist]
      exact h.unbroken_kept htext
    rw [substitute_scanned hkept hbroken, ← substitute_scanned h htext, hout]

/-- Every text on one line is scanned for references in one way.  It is replaced by its fronts with what stands for the
references between them.  This fails if an address is no number, and the first such address is told.  Where nothing has
a name, replacing again changes nothing. -/
theorem references_substituted (l : Labels) {text : String} (htext : Unbroken text) :
    ∃ parts last, Scanned text.toList parts last ∧
      (∀ parts' last', Scanned text.toList parts' last' → parts' = parts ∧ last' = last) ∧
      (∀ out, l.substitute text = .ok out ↔
        ∃ texts, List.Forall₂ (fun p t => l.Stands p.2 t) parts texts ∧
          out = String.ofList (filledIn parts texts last)) ∧
      (∀ e, l.substitute text = .error e ↔
        ∃ p, parts.find? (·.2.number?.isNone) = some p ∧ e = String.ofList p.2.address) ∧
      ((∃ e, l.substitute text = .error e) ↔ ∃ p ∈ parts, p.2.number? = none) ∧
      ((∀ p ∈ parts, l.Nameless p.2) → (l.substitute text >>= l.substitute) = l.substitute text) := by
  obtain ⟨parts, last, hscan⟩ := exists_scanned htext
  refine ⟨parts, last, hscan, fun _ _ h => h.unique hscan htext, fun out => substitute_eq_ok_iff hscan htext,
    fun e => substitute_eq_error_iff hscan htext, ?_, substitute_twice hscan htext⟩
  simp only [substitute_eq_error_iff hscan htext]
  constructor
  · rintro ⟨_, p, hp, -⟩
    have hnone := List.find?_some hp
    exact ⟨p, List.mem_of_find?_eq_some hp, Option.isNone_iff_eq_none.1 hnone⟩
  · rintro ⟨p, hp, hnone⟩
    have hsome : (parts.find? (·.2.number?.isNone)).isSome :=
      List.find?_isSome.2 ⟨p, hp, Option.isNone_iff_eq_none.2 hnone⟩
    obtain ⟨q, hq⟩ := Option.isSome_iff_exists.1 hsome
    exact ⟨_, q, hq, rfl⟩

/-- one function has a name -/
def oneFunction : Labels := { functions := .ofList [((0x10 : Int), "main")] }

/-- one address has a name, one is kept less its blanks and the text behind it, and one is not closed -/
theorem references_substituted_call :
    Unbroken "@f\x7b0x10\x7d(@d\x7b  0x20 size\x7d, @f\x7b0x10" ∧
    ∃ parts last, Scanned "@f\x7b0x10\x7d(@d\x7b  0x20 size\x7d, @f\x7b0x10".toList parts last ∧
      ∃ texts, List.Forall₂ (fun p t => oneFunction.Stands p.2 t) parts texts ∧
        "main(@d\x7b0x20\x7d, @f\x7b0x10" = String.ofList (filledIn parts texts last) := by
  have htext : Unbroken "@f\x7b0x10\x7d(@d\x7b  0x20 size\x7d, @f\x7b0x10" := by decide
  obtain ⟨parts, last, hscan, -, hok, -⟩ := references_substituted oneFunction htext
  exact ⟨htext, parts, last, hscan, (hok _).1 (by decide +kernel)⟩

end Labels
end Disasm
