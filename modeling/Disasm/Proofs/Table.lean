import Mathlib
import Disasm.Analysis.Basic
import Disasm.Label.Table

/-!
# Properties of all entries of a table

`Every P t` says that all values of the table `t` have the property `P`.  Emptying, inserting and changing
an entry keep it; it holds of the values that a look-up or a walk over the table gives.

`Tabulates t g n` says that the table `t` holds the values of `g` below `n`.  Inserting the next one keeps it.

`Assigns t key val es` says that the table `t` has the value of each of some things under its key.  Inserting a
thing with a new key keeps it.

`Groups t key val es` says that the table `t` lists the values of some things under their keys, in the order
of the things.  Adding to the list at a key keeps it.

`insertAll t es` and `appendAll t es` put entries into a table one after the other: the last one with a key stays, or
they are all listed under it.

`Collects t key R n` says that the table `t` lists, under each key, a value for every place below `n` with this
key.  Adding the value of the next place keeps it.
-/

namespace Disasm

section
variable {α β γ : Type} [Ord α] [Std.TransOrd α] {P : β → Prop} {t : Std.TreeMap α β}

/-- all values of a table have a property -/
def Every (P : β → Prop) (t : Std.TreeMap α β) : Prop := ∀ (k : α) (v : β), t[k]? = some v → P v

namespace Every

theorem empty : Every P ({} : Std.TreeMap α β) := by
  intro k v h
  rw [Std.TreeMap.getElem?_emptyc] at h
  cases h

theorem insert (h : Every P t) (k : α) {v : β} (hv : P v) : Every P (t.insert k v) := by
  intro k' v' h'
  rw [Std.TreeMap.getElem?_insert] at h'
  split at h'
  · cases h'; exact hv
  · exact h k' v' h'

theorem alter (h : Every P t) (k : α) {f : Option β → Option β}
    (hf : ∀ v, f t[k]? = some v → P v) : Every P (t.alter k f) := by
  intro k' v' h'
  rw [Std.TreeMap.getElem?_alter] at h'
  split at h'
  · exact hf v' h'
  · exact h k' v' h'

omit [Std.TransOrd α] in
/-- a value that is looked up, or one that stands for it -/
theorem getD (h : Every P t) (k : α) {v : β} (hv : P v) : P (t[k]?.getD v) := by
  cases hk : t[k]? with
  | none => exact hv
  | some w => exact h k w hk

theorem foldl [Std.LawfulEqOrd α] (h : Every P t) {I : γ → Prop} {f : γ → α → β → γ} {init : γ}
    (h0 : I init) (hf : ∀ acc k v, I acc → P v → I (f acc k v)) : I (t.foldl f init) := by
  rw [Std.TreeMap.foldl_eq_foldl_toList]
  have hmem : ∀ e ∈ t.toList, P e.2 := fun e he =>
    h e.1 e.2 (Std.TreeMap.mem_toList_iff_getElem?_eq_some.1 he)
  generalize t.toList = l at hmem
  induction l generalizing init with
  | nil => exact h0
  | cons e l ih =>
    exact ih (hf _ _ _ h0 (hmem e List.mem_cons_self)) fun e' he' => hmem e' (List.mem_cons_of_mem e he')

end Every

theorem contains_insert_iff [Std.LawfulEqOrd α] {k a : α} {v : β} :
    (t.insert k v).contains a = true ↔ a = k ∨ t.contains a = true := by
  rw [Std.TreeMap.contains_insert, Bool.or_eq_true, beq_iff_eq, Std.LawfulEqCmp.compare_eq_iff_eq]
  exact or_congr_left eq_comm

end

/-! ## values of a function -/

section
variable {β : Type} {t : Std.TreeMap Int β} {g : Nat → Option β} {n : Nat}

/-- the table holds the values that `g` has below `n`, and nothing else -/
def Tabulates (t : Std.TreeMap Int β) (g : Nat → Option β) (n : Nat) : Prop :=
  ∀ (x : Int) (v : β), t[x]? = some v ↔ ∃ j : Nat, x = j ∧ j < n ∧ g j = some v

namespace Tabulates

theorem empty : Tabulates ({} : Std.TreeMap Int β) g 0 := by
  intro x v
  rw [Std.TreeMap.getElem?_emptyc]
  exact ⟨fun h => (by cases h), fun ⟨j, _, hj, _⟩ => absurd hj (Nat.not_lt_zero j)⟩

theorem skip (h : Tabulates t g n) (hg : g n = none) : Tabulates t g (n + 1) := by
  intro x v
  rw [h x v]
  constructor
  · rintro ⟨j, hx, hj, hv⟩
    exact ⟨j, hx, Nat.lt_succ_of_lt hj, hv⟩
  · rintro ⟨j, hx, hj, hv⟩
    refine ⟨j, hx, Nat.lt_of_le_of_ne (Nat.le_of_lt_succ hj) ?_, hv⟩
    rintro rfl
    rw [hg] at hv
    cases hv

theorem insert (h : Tabulates t g n) {w : β} (hg : g n = some w) : Tabulates (t.insert (n : Int) w) g (n + 1) := by
  intro x v
  rw [Std.TreeMap.getElem?_insert]
  by_cases hx : (n : Int) = x
  · subst hx
    rw [if_pos Std.ReflCmp.compare_self]
    constructor
    · intro hv
      exact ⟨n, rfl, Nat.lt_succ_self n, hg.trans hv⟩
    · rintro ⟨j, hj, -, hv⟩
      rw [← Int.ofNat.inj hj, hg] at hv
      exact hv
  · rw [if_neg fun he => hx (Std.LawfulEqCmp.eq_of_compare he), h x v]
    constructor
    · rintro ⟨j, hj, hlt, hv⟩
      exact ⟨j, hj, Nat.lt_succ_of_lt hlt, hv⟩
    · rintro ⟨j, rfl, hlt, hv⟩
      exact ⟨j, rfl, by omega, hv⟩

end Tabulates
end

/-! ## values under keys -/

section
variable {β ε : Type} {t : Std.TreeMap Int β} {key : ε → Int} {val : ε → β} {es : List ε}

/-- each key has the value of the thing with this key -/
def Assigns (t : Std.TreeMap Int β) (key : ε → Int) (val : ε → β) (es : List ε) : Prop :=
  ∀ (x : Int) (v : β), t[x]? = some v ↔ ∃ e ∈ es, key e = x ∧ val e = v

namespace Assigns

theorem empty : Assigns ({} : Std.TreeMap Int β) key val [] := by
  intro x v
  rw [Std.TreeMap.getElem?_emptyc]
  exact ⟨fun h => (by cases h), fun ⟨e, he, _⟩ => (by cases he)⟩

theorem concat (h : Assigns t key val es) {e : ε} (hnew : ∀ e' ∈ es, key e' ≠ key e) :
    Assigns (t.insert (key e) (val e)) key val (es ++ [e]) := by
  intro x v
  rw [Std.TreeMap.getElem?_insert]
  simp only [List.mem_append, List.mem_singleton]
  by_cases hx : key e = x
  · subst hx
    rw [if_pos Std.ReflCmp.compare_self]
    constructor
    · intro hv
      exact ⟨e, .inr rfl, rfl, Option.some.inj hv⟩
    · rintro ⟨e', he' | rfl, hkey, rfl⟩
      · exact absurd hkey (hnew e' he')
      · rfl
  · rw [if_neg fun he => hx (Std.LawfulEqCmp.eq_of_compare he), h x v]
    constructor
    · rintro ⟨e', he', hrest⟩
      exact ⟨e', .inl he', hrest⟩
    · rintro ⟨e', he' | rfl, hkey, hval⟩
      · exact ⟨e', he', hkey, hval⟩
      · exact absurd hkey hx

theorem mem_iff (h : Assigns t key val es) {x : Int} : x ∈ t ↔ ∃ e ∈ es, key e = x := by
  rw [← Std.TreeMap.isSome_getElem?_iff_mem, Option.isSome_iff_exists]
  constructor
  · rintro ⟨v, hv⟩
    obtain ⟨e, he, hkey, -⟩ := (h x v).1 hv
    exact ⟨e, he, hkey⟩
  · rintro ⟨e, he, hkey⟩
    exact ⟨val e, (h x (val e)).2 ⟨e, he, hkey, rfl⟩⟩

/-- things in the order of their keys stand in the table in this order -/
theorem toList_eq (h : Assigns t key val es) (hs : es.Pairwise fun a b => key a < key b) :
    t.toList = es.map fun e => (key e, val e) := by
  have hanti : Std.Antisymm fun a b : Int × β => a.1 < b.1 :=
    ⟨fun a b hab hba => absurd hab (lt_asymm hba)⟩
  have hirrefl : Std.Irrefl fun a b : Int × β => a.1 < b.1 := ⟨fun a => lt_irrefl a.1⟩
  have htable : t.toList.Pairwise fun a b => a.1 < b.1 :=
    Std.TreeMap.ordered_keys_toList.imp fun hab => Int.compare_eq_lt.1 hab
  refine htable.eq_of_mem_iff (List.pairwise_map.2 hs) ?_
  rintro ⟨x, v⟩
  rw [Std.TreeMap.mem_toList_iff_getElem?_eq_some, h x v, List.mem_map]
  simp only [Prod.mk.injEq]

end Assigns
end

/-! ## lists under keys -/

section
variable {β ε : Type} {t : Std.TreeMap Int (List β)} {key : ε → Int} {val : ε → β} {es : List ε}

theorem getElem?_append (t : Std.TreeMap Int (List β)) (k x : Int) (b : β) :
    (append t k b)[x]? = if k = x then some (t[x]?.getD [] ++ [b]) else t[x]? := by
  unfold append
  rw [Std.TreeMap.getElem?_alter]
  by_cases h : k = x
  · subst h
    rw [if_pos Std.ReflCmp.compare_self, if_pos rfl]
  · rw [if_neg h, if_neg fun he => h (Std.LawfulEqCmp.eq_of_compare he)]

/-- each key has the values of the things with this key, in their order; no key has an empty list -/
def Groups (t : Std.TreeMap Int (List β)) (key : ε → Int) (val : ε → β) (es : List ε) : Prop :=
  ∀ k : Int, t[k]?.getD [] = (es.filter fun e => key e = k).map val ∧ t[k]? ≠ some []

namespace Groups

theorem empty : Groups ({} : Std.TreeMap Int (List β)) key val [] := by
  intro k
  rw [Std.TreeMap.getElem?_emptyc]
  exact ⟨rfl, fun h => by cases h⟩

theorem concat (h : Groups t key val es) (e : ε) : Groups (append t (key e) (val e)) key val (es ++ [e]) := by
  intro k
  obtain ⟨hk, hne⟩ := h k
  rw [getElem?_append, List.filter_append, List.map_append, ← hk]
  by_cases he : key e = k
  · rw [if_pos he, List.filter_cons_of_pos (by simpa using he)]
    refine ⟨rfl, fun hnil => ?_⟩
    simpa using Option.some.inj hnil
  · rw [if_neg he, List.filter_cons_of_neg (by simpa using he)]
    exact ⟨(List.append_nil _).symm, hne⟩

end Groups
end

/-! ## entries one after the other -/

section
variable {β γ : Type}

theorem mem_iff_exists_getElem? {t : Std.TreeMap Int β} {a : Int} : a ∈ t ↔ ∃ b, t[a]? = some b := by
  rw [← Std.TreeMap.isSome_getElem?_iff_mem, Option.isSome_iff_exists]

/-- the table after some entries are put into it -/
def insertAll (t : Std.TreeMap Int β) (es : List (Int × β)) : Std.TreeMap Int β :=
  es.foldl (fun t e => t.insert e.1 e.2) t

/-- what the last entry with a key has -/
def lastValue? (es : List (Int × β)) (a : Int) : Option β := (es.filter fun e => e.1 = a).getLast?.map Prod.snd

theorem lastValue?_cons (e : Int × β) (es : List (Int × β)) (a : Int) :
    lastValue? (e :: es) a = (lastValue? es a).or (if e.1 = a then some e.2 else none) := by
  unfold lastValue?
  by_cases h : e.1 = a
  · rw [List.filter_cons_of_pos (by simpa using h), if_pos h, List.getLast?_cons]
    cases (es.filter fun e => e.1 = a).getLast? <;> rfl
  · rw [List.filter_cons_of_neg (by simpa using h), if_neg h, Option.or_none]

theorem exists_of_lastValue? {es : List (Int × β)} {a : Int} {b : β} (h : lastValue? es a = some b) :
    (a, b) ∈ es := by
  obtain ⟨e, he, rfl⟩ := Option.map_eq_some_iff.1 h
  obtain ⟨hmem, hkey⟩ := List.mem_filter.1 (List.mem_of_getLast? he)
  rwa [← of_decide_eq_true hkey]

theorem exists_lastValue?_iff {es : List (Int × β)} {a : Int} :
    (∃ b, lastValue? es a = some b) ↔ ∃ b, (a, b) ∈ es := by
  constructor
  · rintro ⟨b, hb⟩
    exact ⟨b, exists_of_lastValue? hb⟩
  · rintro ⟨b, hb⟩
    have hne : (es.filter fun e => e.1 = a) ≠ [] := List.ne_nil_of_mem (List.mem_filter.2 ⟨hb, by simp⟩)
    exact ⟨_, by rw [lastValue?, List.getLast?_eq_getLast_of_ne_nil hne]; rfl⟩

theorem lastValue?_map (f : β → γ) (es : List (Int × β)) (a : Int) :
    lastValue? (es.map fun e => (e.1, f e.2)) a = (lastValue? es a).map f := by
  unfold lastValue?
  rw [List.filter_map, List.getLast?_map, Option.map_map, Option.map_map]
  rfl

/-- a table has one entry for each of its keys -/
theorem lastValue?_toList (t : Std.TreeMap Int β) (a : Int) : lastValue? t.toList a = t[a]? := by
  ext b
  constructor
  · intro h
    exact Std.TreeMap.mem_toList_iff_getElem?_eq_some.1 (exists_of_lastValue? h)
  · intro h
    obtain ⟨b', hb'⟩ := exists_lastValue?_iff.2 ⟨b, Std.TreeMap.mem_toList_iff_getElem?_eq_some.2 h⟩
    have hget := Std.TreeMap.mem_toList_iff_getElem?_eq_some.1 (exists_of_lastValue? hb')
    rw [h] at hget
    rwa [Option.some.inj hget]

/-- the last entry with a key stays -/
theorem getElem?_insertAll (t : Std.TreeMap Int β) (es : List (Int × β)) (a : Int) :
    (insertAll t es)[a]? = (lastValue? es a).or t[a]? := by
  unfold insertAll
  induction es generalizing t with
  | nil => rfl
  | cons e es ih =>
    rw [List.foldl_cons, ih, lastValue?_cons, Option.or_assoc, Std.TreeMap.getElem?_insert]
    by_cases h : e.1 = a
    · rw [if_pos (compare_eq_iff_eq.2 h), if_pos h, Option.some_or]
    · rw [if_neg (fun he => h (compare_eq_iff_eq.1 he)), if_neg h, Option.none_or]

/-- the table of lists after some values are added at their keys -/
def appendAll (t : Std.TreeMap Int (List β)) (es : List (Int × β)) : Std.TreeMap Int (List β) :=
  es.foldl (fun t e => append t e.1 e.2) t

theorem getD_append (t : Std.TreeMap Int (List β)) (k : Int) (b : β) (a : Int) :
    (append t k b).getD a [] = t.getD a [] ++ if k = a then [b] else [] := by
  rw [Std.TreeMap.getD_eq_getD_getElem?, Std.TreeMap.getD_eq_getD_getElem?, getElem?_append]
  by_cases h : k = a
  · rw [if_pos h, if_pos h]
    rfl
  · rw [if_neg h, if_neg h, List.append_nil]

theorem getD_appendAll (t : Std.TreeMap Int (List β)) (es : List (Int × β)) (a : Int) :
    (appendAll t es).getD a [] = t.getD a [] ++ (es.filter fun e => e.1 = a).map Prod.snd := by
  unfold appendAll
  induction es generalizing t with
  | nil => exact (List.append_nil _).symm
  | cons e es ih =>
    rw [List.foldl_cons, ih, getD_append, List.append_assoc]
    by_cases h : e.1 = a
    · rw [if_pos h, List.filter_cons_of_pos (by simpa using h)]
      rfl
    · rw [if_neg h, List.filter_cons_of_neg (by simpa using h)]
      rfl

end

/-! ## lists of places -/

theorem exists_of_forall₂ {α β : Type} {R : α → β → Prop} {as : List α} {bs : List β} (h : List.Forall₂ R as bs)
    {a : α} (ha : a ∈ as) : ∃ b ∈ bs, R a b := by
  induction h with
  | nil => cases ha
  | cons hr _ ih =>
    rcases List.mem_cons.1 ha with rfl | ha
    · exact ⟨_, List.mem_cons_self, hr⟩
    · obtain ⟨b, hb, hab⟩ := ih ha
      exact ⟨b, List.mem_cons_of_mem _ hb, hab⟩

section
variable {β : Type} {t : Std.TreeMap Int (List β)} {key : Nat → Option Int} {R : Nat → β → Prop} {n : Nat} {k : Int}

/-- the places below `n` with a key, in order -/
def placesOf (key : Nat → Option Int) (n : Nat) (k : Int) : List Nat :=
  (List.range n).filter fun j => key j = some k

theorem mem_placesOf {j : Nat} : j ∈ placesOf key n k ↔ j < n ∧ key j = some k := by
  unfold placesOf
  rw [List.mem_filter, List.mem_range, decide_eq_true_iff]

theorem pairwise_placesOf (key : Nat → Option Int) (n : Nat) (k : Int) : (placesOf key n k).Pairwise (· < ·) :=
  List.pairwise_lt_range.filter _

theorem placesOf_skip (h : key n ≠ some k) : placesOf key (n + 1) k = placesOf key n k := by
  unfold placesOf
  rw [List.range_succ, List.filter_append, List.filter_cons_of_neg (by simpa using h)]
  exact List.append_nil _

theorem placesOf_concat (h : key n = some k) : placesOf key (n + 1) k = placesOf key n k ++ [n] := by
  unfold placesOf
  rw [List.range_succ, List.filter_append, List.filter_cons_of_pos (by simpa using h)]
  rfl

/-- each key has one value for each place below `n` with this key, in order; no key has an empty list -/
def Collects (t : Std.TreeMap Int (List β)) (key : Nat → Option Int) (R : Nat → β → Prop) (n : Nat) : Prop :=
  ∀ k : Int, List.Forall₂ R (placesOf key n k) (t[k]?.getD []) ∧ t[k]? ≠ some []

namespace Collects

theorem empty : Collects ({} : Std.TreeMap Int (List β)) key R 0 := by
  intro k
  rw [Std.TreeMap.getElem?_emptyc]
  exact ⟨.nil, fun h => by cases h⟩

theorem skip (h : Collects t key R n) (hn : key n = none) : Collects t key R (n + 1) := by
  intro k
  rw [placesOf_skip (by rw [hn]; simp)]
  exact h k

theorem concat (h : Collects t key R n) (hn : key n = some k) {b : β} (hb : R n b) :
    Collects (append t k b) key R (n + 1) := by
  intro x
  obtain ⟨hx, hne⟩ := h x
  rw [getElem?_append]
  by_cases hk : k = x
  · rw [if_pos hk, placesOf_concat (hk ▸ hn)]
    refine ⟨List.rel_append hx (.cons hb .nil), fun hnil => ?_⟩
    simpa using Option.some.inj hnil
  · rw [if_neg hk, placesOf_skip (by rw [hn]; simpa using hk)]
    exact ⟨hx, hne⟩

end Collects
end

end Disasm
