import Mathlib
import Disasm.Proofs.Listing.Shown

/-!
# Passages

What is collected between two entries that close is shown at once, and in one of two ways.  A listing is
made of such passages.

* `Passage`  entries that are shown together: the last one closes, the others do not;
* `Passage.replacement?`  the statement that takes the place of the instructions, if they are replaced;
* `passages`, `flatMap_passages`  the passages of some entries, and that they hold all entries but those
  behind the last one that closes;
* `layOut_eq`  a layout is the texts of the passages, one behind the other;
* `exists_of_closes`  every entry that closes is the last one of a passage.
-/

namespace Disasm.Listing

instance (e : Entry) : Decidable (Closes e) := inferInstanceAs (Decidable (_ ∨ _))

/-- the brief forms of some entries -/
def briefs (es : List Entry) : String := String.join (es.map Entry.brief)

theorem briefs_concat (es : List Entry) (e : Entry) : briefs (es ++ [e]) = briefs es ++ e.brief := by
  unfold briefs
  rw [List.map_append, String.join_append, List.map_singleton, String.join_cons]
  exact congrArg (briefs es ++ ·) String.append_empty

theorem written_concat (es : List Entry) (e : Entry) : written (es ++ [e]) = written es ++ e.written := by
  rw [written_append, written_cons, written_nil, String.append_empty]

/-- entries that are shown together -/
structure Passage where
  body : List Entry
  last : Entry
  body_open : ∀ e ∈ body, ¬ Closes e
  last_closes : Closes last

namespace Passage

def entries (g : Passage) : List Entry := g.body ++ [g.last]

/-- a statement that is not hollow can take the place of the instructions -/
def replacement? (g : Passage) : Option String := g.last.statement.filter fun s => !isHollow s

/-- the passage as a listing shows it -/
def text (replace : Bool) (g : Passage) : String :=
  match (if replace then g.replacement? else none) with
  | some s => briefs g.entries ++ ("    " ++ s ++ ";\n")
  | none => written g.entries

theorem text_replaced {g : Passage} {s : String} (h : g.replacement? = some s) :
    g.text true = briefs g.entries ++ ("    " ++ s ++ ";\n") := by
  unfold text
  rw [if_pos rfl, h]

theorem text_kept {g : Passage} {replace : Bool} (h : replace = true → g.replacement? = none) :
    g.text replace = written g.entries := by
  unfold text
  cases replace with
  | false => rfl
  | true => rw [if_pos rfl, h rfl]

theorem replacement?_eq_some_iff {g : Passage} {s : String} :
    g.replacement? = some s ↔ g.last.statement = some s ∧ isHollow s = false := by
  unfold replacement?
  rw [Option.filter_eq_some_iff, Bool.not_eq_true']

end Passage

/-- the passages of some entries, when the open entries `done` are collected already -/
def passagesFrom : (done : List Entry) → (∀ e ∈ done, ¬ Closes e) → List Entry → List Passage
  | _, _, [] => []
  | done, hd, e :: rest =>
    if he : Closes e then ⟨done, e, hd, he⟩ :: passagesFrom [] (List.forall_mem_nil _) rest
    else passagesFrom (done ++ [e]) (List.forall_mem_append.2 ⟨hd, List.forall_mem_singleton.2 he⟩) rest

def passages (es : List Entry) : List Passage := passagesFrom [] (List.forall_mem_nil _) es

section
variable {done : List Entry} {hd : ∀ e ∈ done, ¬ Closes e} {e : Entry} {es : List Entry}

theorem passagesFrom_closing (he : Closes e) : passagesFrom done hd (e :: es) =
    ⟨done, e, hd, he⟩ :: passagesFrom [] (List.forall_mem_nil _) es := by
  rw [passagesFrom, dif_pos he]

theorem passagesFrom_open (he : ¬ Closes e) : passagesFrom done hd (e :: es) =
    passagesFrom (done ++ [e]) (List.forall_mem_append.2 ⟨hd, List.forall_mem_singleton.2 he⟩) es := by
  rw [passagesFrom, dif_neg he]

/-- the passages hold all entries up to the last one that closes -/
theorem flatMap_passagesFrom (done : List Entry) (hd : ∀ e ∈ done, ¬ Closes e) (es : List Entry) :
    ∃ lost, done ++ es = (passagesFrom done hd es).flatMap Passage.entries ++ lost ∧
      ∀ e ∈ lost, ¬ Closes e := by
  induction es generalizing done with
  | nil => exact ⟨done, by simp [passagesFrom], hd⟩
  | cons e es ih =>
    by_cases he : Closes e
    · obtain ⟨lost, heq, hlost⟩ := ih [] (List.forall_mem_nil _)
      refine ⟨lost, ?_, hlost⟩
      rw [passagesFrom_closing he, List.flatMap_cons, List.append_assoc, ← heq]
      simp [Passage.entries]
    · obtain ⟨lost, heq, hlost⟩ := ih (done ++ [e]) (List.forall_mem_append.2 ⟨hd, by simpa using he⟩)
      refine ⟨lost, ?_, hlost⟩
      rw [passagesFrom_open he, ← heq, List.append_assoc, List.singleton_append]

end

theorem flatMap_passages (es : List Entry) :
    ∃ lost, es = (passages es).flatMap Passage.entries ++ lost ∧ ∀ e ∈ lost, ¬ Closes e :=
  flatMap_passagesFrom [] (List.forall_mem_nil _) es

theorem mem_of_mem_passages {es : List Entry} {g : Passage} (hg : g ∈ passages es) {e : Entry}
    (he : e ∈ g.entries) : e ∈ es := by
  obtain ⟨lost, heq, -⟩ := flatMap_passages es
  rw [heq]
  exact List.mem_append_left lost (List.mem_flatMap.2 ⟨g, hg, he⟩)

/-- when the last entry closes, the passages hold all entries -/
theorem flatMap_passages_of_last {es : List Entry} (h : ∀ e, es.getLast? = some e → Closes e) :
    (passages es).flatMap Passage.entries = es := by
  obtain ⟨lost, heq, hopen⟩ := flatMap_passages es
  have hnil : lost = [] := by
    by_contra hne
    have hlast : es.getLast? = some (lost.getLast hne) := by
      rw [heq, List.getLast?_append, List.getLast?_eq_getLast_of_ne_nil hne, Option.some_or]
    exact hopen _ (List.getLast_mem hne) (h _ hlast)
  rw [hnil, List.append_nil] at heq
  exact heq.symm

/-! ## the layout -/

/-- an entry that closes shows its passage -/
theorem layOutFrom_passage (replace : Bool) (out : String) (g : Passage) (es : List Entry) :
    layOutFrom replace out (written g.body) (briefs g.body) (g.last :: es) =
      layOutFrom replace (out ++ g.text replace) "" "" es := by
  have hwritten : written g.entries = written g.body ++ g.last.written := written_concat _ _
  have hbriefs : briefs g.entries = briefs g.body ++ g.last.brief := briefs_concat _ _
  rw [layOutFrom]
  cases hs : g.last.statement with
  | none =>
    have hb : g.last.isBoundary = true := by
      rcases g.last_closes with h | h
      · rw [hs] at h
        cases h
      · exact h
    have hnone : g.replacement? = none := by simp [Passage.replacement?, hs]
    have hlast : g.last.written = g.last.full := by simp [Entry.written, hs]
    simp only [if_pos hb]
    rw [Passage.text_kept fun _ => hnone, hwritten, hlast]
  | some s =>
    have hlast : g.last.written = g.last.full ++ ("    ;; dec: " ++ s ++ "\n\n") := by simp [Entry.written, hs]
    dsimp only
    by_cases hkeep : (!replace || isHollow s) = true
    · have hnone : replace = true → g.replacement? = none := by
        rintro rfl
        have hh : isHollow s = true := by simpa using hkeep
        simp [Passage.replacement?, hs, hh]
      rw [if_pos hkeep, Passage.text_kept hnone, hwritten, hlast]
      simp only [String.append_assoc]
    · obtain ⟨rfl, hh⟩ : replace = true ∧ isHollow s = false := by simpa using hkeep
      rw [if_neg hkeep, Passage.text_replaced (Passage.replacement?_eq_some_iff.2 ⟨hs, hh⟩), hbriefs]
      simp only [String.append_assoc]

theorem layOutFrom_eq (replace : Bool) (es : List Entry) (out : String) (done : List Entry)
    (hd : ∀ e ∈ done, ¬ Closes e) :
    layOutFrom replace out (written done) (briefs done) es =
      out ++ String.join ((passagesFrom done hd es).map (Passage.text replace)) := by
  induction es generalizing out done with
  | nil => exact String.append_empty.symm
  | cons e es ih =>
    by_cases he : Closes e
    · have hshow := layOutFrom_passage replace out ⟨done, e, hd, he⟩ es
      have hrest := ih (out ++ Passage.text replace ⟨done, e, hd, he⟩) [] (List.forall_mem_nil _)
      rw [passagesFrom_closing he, List.map_cons, String.join_cons, ← String.append_assoc]
      exact hshow.trans hrest
    · obtain ⟨hs, hb⟩ := not_or.1 he
      have hnone : e.statement = none := by simpa using hs
      have hwritten : e.written = e.full := by simp [Entry.written, hnone]
      have hrest := ih out (done ++ [e]) (List.forall_mem_append.2 ⟨hd, by simpa using he⟩)
      rw [written_concat, briefs_concat, hwritten] at hrest
      rw [passagesFrom_open he, layOutFrom, hnone]
      simp only [if_neg hb]
      exact hrest

/-- a layout is made of the passages -/
theorem layOut_eq (replace : Bool) (es : List Entry) :
    layOut replace es = String.join ((passages es).map (Passage.text replace)) := by
  have h := layOutFrom_eq replace es "" [] (List.forall_mem_nil _)
  rw [String.empty_append] at h
  exact h

/-! ## the place of a passage -/

/-- the passage holds the entries of `es` from the index `first` to the index `last` -/
structure Passage.Spans (g : Passage) (es : List Entry) (first last : Nat) : Prop where
  length_eq : first + g.body.length = last
  getElem?_eq : ∀ j < g.entries.length, es[first + j]? = g.entries[j]?
  /-- an entry that closes stands in front of the passage -/
  before_closes : ∀ (j : Nat) (e : Entry), j + 1 = first → es[j]? = some e → Closes e

namespace Passage.Spans
variable {g : Passage} {es : List Entry} {first last : Nat}

theorem length_entries (g : Passage) : g.entries.length = g.body.length + 1 := by simp [Passage.entries]

theorem last_eq (h : g.Spans es first last) : es[last]? = some g.last := by
  have hlast := h.getElem?_eq g.body.length (by rw [length_entries]; omega)
  rw [h.length_eq] at hlast
  rw [hlast]
  simp [Passage.entries]

theorem open_of_lt (h : g.Spans es first last) {j : Nat} (hj : first ≤ j) (hl : j < last) {e : Entry}
    (he : es[j]? = some e) : ¬ Closes e := by
  have hlen := h.length_eq
  have hlt : j - first < g.body.length := by omega
  have hget := h.getElem?_eq (j - first) (by rw [length_entries]; omega)
  rw [Nat.add_sub_cancel' hj, he, Passage.entries, List.getElem?_append_left hlt] at hget
  exact g.body_open e (List.mem_of_getElem? hget.symm)

/-- the entries of the passage are those with these indices -/
theorem mem_entries_iff (h : g.Spans es first last) {e : Entry} :
    e ∈ g.entries ↔ ∃ j, first ≤ j ∧ j ≤ last ∧ es[j]? = some e := by
  have hlen := h.length_eq
  constructor
  · intro he
    obtain ⟨j, hj⟩ := List.mem_iff_getElem?.1 he
    have hlt : j < g.entries.length := (List.getElem?_eq_some_iff.1 hj).1
    refine ⟨first + j, by omega, ?_, ?_⟩
    · rw [length_entries] at hlt
      omega
    · rw [h.getElem?_eq j hlt, hj]
  · rintro ⟨j, hf, hl, he⟩
    have hget := h.getElem?_eq (j - first) (by rw [length_entries]; omega)
    rw [Nat.add_sub_cancel' hf, he] at hget
    exact List.mem_of_getElem? hget.symm

end Passage.Spans

/-- a passage between others has its place among all entries -/
theorem Passage.spans_append (gs : List Passage) (g : Passage) (back : List Entry) :
    g.Spans (gs.flatMap Passage.entries ++ (g.entries ++ back)) (gs.flatMap Passage.entries).length
      ((gs.flatMap Passage.entries).length + g.body.length) where
  length_eq := rfl
  getElem?_eq j hj := by
    rw [List.getElem?_append_right (Nat.le_add_right _ _), Nat.add_sub_cancel_left, List.getElem?_append_left hj]
  before_closes j e hj he := by
    rw [List.getElem?_append_left (by omega)] at he
    -- the entry in front is the last one of the passage in front
    rcases List.eq_nil_or_concat gs with rfl | ⟨hs, h, rfl⟩
    · cases he
    · have hfront : (hs.concat h).flatMap Passage.entries = (hs.flatMap Passage.entries ++ h.body) ++ [h.last] := by
        simp [Passage.entries]
      rw [hfront] at he hj
      rw [List.length_append, List.length_singleton] at hj
      rw [show j = (hs.flatMap Passage.entries ++ h.body).length by omega, List.getElem?_concat_length] at he
      cases he
      exact h.last_closes

theorem Passage.spans_of_split {es : List Entry} {gs hs : List Passage} {g : Passage}
    (h : passages es = gs ++ g :: hs) :
    g.Spans es (gs.flatMap Passage.entries).length ((gs.flatMap Passage.entries).length + g.body.length) := by
  obtain ⟨lost, heq, -⟩ := flatMap_passages es
  have hes : es = gs.flatMap Passage.entries ++ (g.entries ++ (hs.flatMap Passage.entries ++ lost)) := by
    rw [heq, h]
    simp
  have hspan := Passage.spans_append gs g (hs.flatMap Passage.entries ++ lost)
  rwa [← hes] at hspan

theorem exists_spans {es : List Entry} {g : Passage} (hg : g ∈ passages es) :
    ∃ first last, g.Spans es first last := by
  obtain ⟨gs, hs, h⟩ := List.append_of_mem hg
  exact ⟨_, _, Passage.spans_of_split h⟩

/-- among passages and open entries, an entry that closes is the last one of a passage -/
theorem exists_split {gs : List Passage} {lost : List Entry} (hopen : ∀ e ∈ lost, ¬ Closes e) {k : Nat}
    {e : Entry} (he : (gs.flatMap Passage.entries ++ lost)[k]? = some e) (hc : Closes e) :
    ∃ hs g is, gs = hs ++ g :: is ∧ g.last = e ∧ (hs.flatMap Passage.entries).length + g.body.length = k := by
  induction gs generalizing k with
  | nil => exact absurd hc (hopen e (List.mem_of_getElem? he))
  | cons g gs ih =>
    have heq : (g :: gs).flatMap Passage.entries ++ lost =
        g.body ++ (g.last :: (gs.flatMap Passage.entries ++ lost)) := by simp [Passage.entries]
    rw [heq] at he
    rcases Nat.lt_trichotomy k g.body.length with hlt | rfl | hgt
    · rw [List.getElem?_append_left hlt] at he
      exact absurd hc (g.body_open e (List.mem_of_getElem? he))
    · rw [List.getElem?_append_right (le_refl _), Nat.sub_self] at he
      cases he
      exact ⟨[], g, gs, rfl, rfl, Nat.zero_add _⟩
    · obtain ⟨m, rfl⟩ := Nat.exists_eq_add_of_lt hgt
      have hm : g.body.length + m + 1 - g.body.length = m + 1 := by omega
      rw [List.getElem?_append_right (by omega), hm, List.getElem?_cons_succ] at he
      obtain ⟨hs, f, is, hgs, hlast, hlen⟩ := ih he
      refine ⟨g :: hs, f, is, by rw [hgs]; rfl, hlast, ?_⟩
      rw [List.flatMap_cons, List.length_append, Passage.Spans.length_entries]
      omega

/-- an entry that closes is the last one of its passage -/
theorem exists_of_closes {es : List Entry} {k : Nat} {e : Entry} (he : es[k]? = some e) (hc : Closes e) :
    ∃ g ∈ passages es, g.last = e ∧ ∃ first, g.Spans es first k := by
  obtain ⟨lost, heq, hopen⟩ := flatMap_passages es
  rw [heq] at he
  obtain ⟨gs, g, hs, hsplit, hlast, hk⟩ := exists_split hopen he hc
  have hspan := Passage.spans_of_split hsplit
  rw [hk] at hspan
  exact ⟨g, by simp [hsplit], hlast, _, hspan⟩

end Disasm.Listing
