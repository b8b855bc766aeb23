import Mathlib
import Disasm.Proofs.Patterns

/-!
# The tables of functions

A walk files every function once: when the next `enter` comes, which it has counted for the function by then,
or at the end of the code.  What it files is a record, and the four tables are views of one list of records.

* `LastEnter`, `NextEnter`  the function that a place is in, and the `enter` that ends a function;
* `IsFunction`  the functions of the code;
* `Record`, `Files`  what is filed of a function, and tables that hold some records;
* `Course`, `Course.step`  along a walk, the records are those of the functions that have ended;
* `sizes_counted`  the sizes of functions, and their sum;
* `function_tables_agree`  the tables of a program are about the same functions.
-/

namespace Disasm

/-! ## functions of the code -/

/-- `k` stands behind `a`, and no function starts between them -/
def Behind (code : List Instruction) (a : Int) (k : Nat) : Prop :=
  a < k ∧ ∀ m : Nat, a < m → m < k → ¬ EnterAt code m

/-- the last `enter` in front of `k`, or -1 when there is none -/
def LastEnter (code : List Instruction) (k : Nat) (a : Int) : Prop :=
  ((∃ j : Nat, a = j ∧ EnterAt code j) ∨ a = -1) ∧ Behind code a k

/-- the first `enter` behind `a` -/
def NextEnter (code : List Instruction) (a : Int) (b : Nat) : Prop := Behind code a b ∧ EnterAt code b

/-- a function starts at every `enter`; -1 stands for the code in front of the first one, and for no code -/
def IsFunction (code : List Instruction) (a : Int) : Prop :=
  (∃ j : Nat, a = j ∧ EnterAt code j) ∨ a = -1 ∧ ¬ EnterAt code 0

section
variable {code : List Instruction} {k : Nat} {a : Int}

theorem enterAt_iff {i : Instruction} (hi : code[k]? = some i) : EnterAt code k ↔ i.op = .enter := by
  unfold EnterAt
  rw [hi]
  constructor
  · rintro ⟨j, hj, hop⟩
    rwa [Option.some.inj hj]
  · intro hop
    exact ⟨i, rfl, hop⟩

instance (code : List Instruction) (k : Nat) : Decidable (EnterAt code k) :=
  inferInstanceAs (Decidable (∃ i ∈ code[k]?, i.op = .enter))

instance (code : List Instruction) (a : Int) (k : Nat) : Decidable (Behind code a k) :=
  decidable_of_iff (a < k ∧ ∀ m < k, a < (m : Int) → ¬ EnterAt code m)
    (and_congr_right' (forall_congr' fun _ => imp.swap))

instance (code : List Instruction) (a : Int) (b : Nat) : Decidable (NextEnter code a b) :=
  inferInstanceAs (Decidable (_ ∧ _))

theorem IsFunction.lt_length (h : IsFunction code a) : a < code.length := by
  rcases h with ⟨j, rfl, i, hi, -⟩ | ⟨rfl, -⟩
  · exact Int.ofNat_lt.2 (List.getElem?_eq_some_iff.1 hi).1
  · omega

namespace LastEnter

theorem zero : LastEnter code 0 (-1) := ⟨.inr rfl, by decide, fun m _ hm => absurd hm (Nat.not_lt_zero m)⟩

theorem enter (h : EnterAt code k) : LastEnter code (k + 1) k :=
  ⟨.inl ⟨k, rfl, h⟩, by push_cast; omega, fun m hm hk => by omega⟩

theorem other (h : LastEnter code k a) (hk : ¬ EnterAt code k) : LastEnter code (k + 1) a := by
  obtain ⟨ha, hlt, hnone⟩ := h
  refine ⟨ha, by push_cast; omega, fun m hm hmk => ?_⟩
  rcases Nat.lt_succ_iff_lt_or_eq.1 hmk with hlt | rfl
  · exact hnone m hm hlt
  · exact hk

theorem neg_one_le (h : LastEnter code k a) : -1 ≤ a := by
  rcases h.1 with ⟨j, rfl, -⟩ | rfl
  · omega
  · exact le_refl _

/-- the code in front of the first `enter` counts only if there is some, or if there is no `enter` -/
theorem isFunction (h : LastEnter code k a) (hk : 0 < k ∨ ¬ EnterAt code 0) : IsFunction code a := by
  rcases h.1 with ha | rfl
  · exact .inl ha
  · exact .inr ⟨rfl, hk.elim (h.2.2 0 (by decide)) id⟩

end LastEnter

/-- a place behind `a` does not stand behind the next `enter` -/
theorem Behind.le_next (h : Behind code a k) {n : Nat} (hn : NextEnter code a n) : k ≤ n := by
  by_contra hlt
  exact h.2 n hn.1.1 (by omega) hn.2

theorem NextEnter.unique {m n : Nat} (hm : NextEnter code a m) (hn : NextEnter code a n) : m = n :=
  le_antisymm (hm.1.le_next hn) (hn.1.le_next hm)

end

/-! ## arguments of a function -/

/-- the places at which the function `a` leaves arguments in front of `k` -/
def argsBefore (code : List Instruction) (a : Int) (k : Nat) : Set Int :=
  {v | ∃ j < k, Behind code a j ∧ code[j]? = some ⟨.arg, v⟩}

/-- the places at which a function leaves arguments -/
def argsOf (code : List Instruction) (a : Int) : Set Int := {v | ∃ j, Behind code a j ∧ code[j]? = some ⟨.arg, v⟩}

section
variable {code : List Instruction} {k : Nat} {a : Int} {i : Instruction}

theorem argsBefore_start (hk : (k : Int) ≤ a + 1) : argsBefore code a k = ∅ := by
  refine Set.eq_empty_iff_forall_notMem.2 ?_
  rintro v ⟨j, hj, ⟨hlt, -⟩, -⟩
  omega

theorem argsBefore_arg (h : Behind code a k) (hi : code[k]? = some i) (hop : i.op = .arg) :
    argsBefore code a (k + 1) = insert i.parm (argsBefore code a k) := by
  have hself : i = ⟨.arg, i.parm⟩ := by rw [← hop]
  ext v
  constructor
  · rintro ⟨j, hj, hb, hv⟩
    rcases Nat.lt_succ_iff_lt_or_eq.1 hj with hlt | rfl
    · exact .inr ⟨j, hlt, hb, hv⟩
    · rw [hi] at hv
      rw [Option.some.inj hv]
      exact .inl rfl
  · rintro (rfl | ⟨j, hj, hb, hv⟩)
    · exact ⟨k, Nat.lt_succ_self k, h, hi.trans (congrArg some hself)⟩
    · exact ⟨j, Nat.lt_succ_of_lt hj, hb, hv⟩

theorem argsBefore_other (hi : code[k]? = some i) (hop : i.op ≠ .arg) :
    argsBefore code a (k + 1) = argsBefore code a k := by
  ext v
  constructor
  · rintro ⟨j, hj, hb, hv⟩
    rcases Nat.lt_succ_iff_lt_or_eq.1 hj with hlt | rfl
    · exact ⟨j, hlt, hb, hv⟩
    · rw [hi] at hv
      rw [Option.some.inj hv] at hop
      exact absurd rfl hop
  · rintro ⟨j, hj, hb, hv⟩
    exact ⟨j, Nat.lt_succ_of_lt hj, hb, hv⟩

/-- nothing is left out in front of the next `enter` -/
theorem argsBefore_next (hk : NextEnter code a k) : argsBefore code a k = argsOf code a := by
  ext v
  constructor
  · rintro ⟨j, -, hb, hv⟩
    exact ⟨j, hb, hv⟩
  · rintro ⟨j, hb, hv⟩
    refine ⟨j, (hb.le_next hk).lt_of_ne ?_, hb, hv⟩
    rintro rfl
    cases (enterAt_iff hv).1 hk.2

theorem argsBefore_length (code : List Instruction) (a : Int) : argsBefore code a code.length = argsOf code a := by
  ext v
  constructor
  · rintro ⟨j, -, hb, hv⟩
    exact ⟨j, hb, hv⟩
  · rintro ⟨j, hb, hv⟩
    exact ⟨j, (List.getElem?_eq_some_iff.1 hv).1, hb, hv⟩

end

/-! ## records -/

/-- what is filed of a function -/
structure Record where
  func : Int
  count : Int
  text : String
  maxArg : Int

namespace Record

def hash (r : Record) : Int := textHash r.text

/-- the record of a function that ends in front of `b`, where `extra` more instructions are counted -/
structure Tells (code : List Instruction) (b : Nat) (extra : Int) (r : Record) : Prop where
  last : LastEnter code b r.func
  count_eq : r.count = b - max r.func 0 + extra
  maxArg : IsGreatest (insert 8 (argsBefore code r.func b)) r.maxArg

/-- the record was filed at an `enter` -/
def Ended (code : List Instruction) (r : Record) : Prop := ∃ b, 0 < b ∧ EnterAt code b ∧ r.Tells code b 1

end Record

namespace Functions
variable {f : Functions} {rs : List Record} {i : Instruction}

/-- the record of the current function -/
def record (f : Functions) : Record := ⟨f.func, f.count, f.text, f.maxArg⟩

/-- the tables hold some records -/
structure Files (f : Functions) (rs : List Record) : Prop where
  sizes : Assigns f.sizes Record.func Record.count rs
  hashes : Assigns f.hashes Record.func Record.hash rs
  byHash : Groups f.byHash Record.hash Record.func rs
  maxArgs : Assigns f.maxArgs Record.func Record.maxArg rs

theorem Files.filed (h : f.Files rs) (hnew : ∀ r ∈ rs, r.func ≠ f.func) : f.filed.Files (rs ++ [f.record]) where
  sizes := h.sizes.concat (e := f.record) hnew
  hashes := h.hashes.concat (e := f.record) hnew
  byHash := h.byHash.concat f.record
  maxArgs := h.maxArgs.concat (e := f.record) hnew

/-- after `k` instructions: the current function so far, and the records of those that have ended -/
structure Course (code : List Instruction) (k : Nat) (f : Functions) (rs : List Record) : Prop where
  index_eq : f.index = k
  current : f.record.Tells code k 0
  files : f.Files rs
  ordered : (rs ++ [f.record]).Pairwise fun r r' => r.func < r'.func
  ended : ∀ r ∈ rs, r.Ended code
  covers : ∀ a, IsFunction code a → a < k → ∃ r ∈ rs ++ [f.record], r.func = a
  total : (rs.map Record.count).sum + f.count = k + rs.length

namespace Course
variable {code : List Instruction} {k : Nat} {r : Record}

theorem func_lt (h : Course code k f rs) : ∀ r ∈ rs, r.func < f.func := by
  intro r hr
  exact (List.pairwise_append.1 h.ordered).2.2 r hr f.record (List.mem_singleton.2 rfl)

theorem filed (h : Course code k f rs) : f.filed.Files (rs ++ [f.record]) :=
  h.files.filed fun r hr => (h.func_lt r hr).ne

theorem count_eq (h : Course code k f rs) : f.count = k - max f.func 0 := by
  have := h.current.count_eq
  rwa [add_zero] at this

/-- the order is that of any record of the current function -/
theorem ordered_of_func (h : Course code k f rs) (hr : r.func = f.func) :
    (rs ++ [r]).Pairwise fun r r' => r.func < r'.func := by
  refine List.pairwise_append.2 ⟨(List.pairwise_append.1 h.ordered).1, List.pairwise_singleton _ _, ?_⟩
  intro x hx y hy
  rw [List.mem_singleton.1 hy, hr]
  exact h.func_lt x hx

theorem covers_of_func (h : Course code k f rs) (hr : r.func = f.func) {a : Int} (ha : IsFunction code a)
    (hlt : a < k) : ∃ x ∈ rs ++ [r], x.func = a := by
  obtain ⟨x, hx, rfl⟩ := h.covers a ha hlt
  rcases List.mem_append.1 hx with hx | hx
  · exact ⟨x, List.mem_append.2 (.inl hx), rfl⟩
  · rw [List.mem_singleton.1 hx]
    exact ⟨r, List.mem_append.2 (.inr (List.mem_singleton.2 rfl)), hr⟩

theorem start (code : List Instruction) : Course code 0 ({ tables := {} } : Walk).functions [] where
  index_eq := rfl
  current := by
    refine ⟨LastEnter.zero, rfl, ?_⟩
    rw [argsBefore_start (by decide)]
    exact ⟨.inl rfl, by rintro v (rfl | hv); exacts [le_refl _, hv.elim]⟩
  files := ⟨.empty, .empty, .empty, .empty⟩
  ordered := List.pairwise_singleton _ _
  ended r hr := by cases hr
  covers a ha hlt := by
    rcases ha with ⟨j, rfl, -⟩ | ⟨rfl, -⟩
    · omega
    · exact ⟨_, List.mem_singleton.2 rfl, rfl⟩
  total := rfl

/-- the record of a function that has just started -/
theorem tells_started {e : Nat} (he : EnterAt code e) : Record.Tells code (e + 1) 0 ⟨e, 1, "", 8⟩ := by
  refine ⟨LastEnter.enter he, ?_, ?_⟩
  · dsimp only
    push_cast
    omega
  · rw [argsBefore_start (by push_cast; rfl)]
    exact ⟨.inl rfl, by rintro v (rfl | hv); exacts [le_refl _, hv.elim]⟩

/-- a function ends, and the next one starts -/
theorem enter (h : Course code k f rs) (hi : code[k]? = some i) (hop : i.op = .enter) (hk : 0 < k) :
    Course code (k + 1) (f.step i) (rs ++ [(f.counted i).record]) := by
  have he : EnterAt code k := (enterAt_iff hi).2 hop
  have hlast : LastEnter code k f.func := h.current.last
  have hended : (f.counted i).record.Ended code := by
    refine ⟨k, hk, he, hlast, ?_, h.current.maxArg⟩
    show f.count + 1 = _
    rw [h.count_eq]
    rfl
  have hfiles : (f.counted i).filed.Files (rs ++ [(f.counted i).record]) :=
    Files.filed (f := f.counted i) ⟨h.files.sizes, h.files.hashes, h.files.byHash, h.files.maxArgs⟩
      fun r hr => (h.func_lt r hr).ne
  rw [step_enter hop (by rw [h.index_eq]; exact Int.natCast_pos.2 hk), h.index_eq]
  refine ⟨rfl, tells_started he, ⟨hfiles.sizes, hfiles.hashes, hfiles.byHash, hfiles.maxArgs⟩, ?_, ?_, ?_, ?_⟩
  · -- the functions so far start in front of this one
    refine List.pairwise_append.2 ⟨h.ordered_of_func rfl, List.pairwise_singleton _ _, ?_⟩
    intro r hr r' hr'
    rw [List.mem_singleton.1 hr']
    rcases List.mem_append.1 hr with hr | hr
    · exact (h.func_lt r hr).trans hlast.2.1
    · rw [List.mem_singleton.1 hr]
      exact hlast.2.1
  · intro r hr
    rcases List.mem_append.1 hr with hr | hr
    · exact h.ended r hr
    · rw [List.mem_singleton.1 hr]
      exact hended
  · intro a ha hlt
    by_cases hak : a < k
    · obtain ⟨r, hr, hfunc⟩ := h.covers_of_func (r := (f.counted i).record) rfl ha hak
      exact ⟨r, List.mem_append.2 (.inl hr), hfunc⟩
    · exact ⟨_, List.mem_append.2 (.inr (List.mem_singleton.2 rfl)), by push_cast at hlt; show (k : Int) = a; omega⟩
  · have htotal := h.total
    rw [List.map_append, List.sum_append, List.length_append]
    show _ + (f.count + 1 + 0) + 1 = _
    simp only [List.length_singleton]
    push_cast
    linarith

/-- the first instruction starts a function, and no other one ends -/
theorem first (h : Course code 0 f rs) (hi : code[0]? = some i) (hop : i.op = .enter) :
    Course code 1 (f.step i) [] := by
  have he : EnterAt code 0 := (enterAt_iff hi).2 hop
  have hnil : rs = [] := by
    refine List.eq_nil_iff_forall_not_mem.2 fun r hr => ?_
    obtain ⟨b, -, -, hr'⟩ := h.ended r hr
    have := h.func_lt r hr
    have : f.func < ((0 : Nat) : Int) := h.current.last.2.1
    have := hr'.last.neg_one_le
    omega
  have hindex : f.index = 0 := h.index_eq
  subst hnil
  rw [step_first hop (by rw [hindex]; decide), hindex]
  refine ⟨rfl, tells_started he, ⟨h.files.sizes, h.files.hashes, h.files.byHash, h.files.maxArgs⟩,
    List.pairwise_singleton _ _, fun r hr => (by cases hr), ?_, rfl⟩
  intro a ha hlt
  rcases ha with ⟨j, rfl, -⟩ | ⟨-, hnone⟩
  · exact ⟨_, List.mem_singleton.2 rfl, by show (0 : Int) = j; omega⟩
  · exact absurd he hnone

/-- an instruction inside a function -/
theorem other (h : Course code k f rs) (hi : code[k]? = some i) (hop : i.op ≠ .enter) :
    Course code (k + 1) (f.step i) rs := by
  have hnot : ¬ EnterAt code k := fun he => hop ((enterAt_iff hi).1 he)
  have hlast : LastEnter code k f.func := h.current.last
  rw [step_other hop, h.index_eq]
  refine ⟨rfl, ⟨hlast.other hnot, ?_, ?_⟩, ⟨h.files.sizes, h.files.hashes, h.files.byHash, h.files.maxArgs⟩,
    h.ordered_of_func rfl, h.ended, ?_, ?_⟩
  · show f.count + 1 = _ - max f.func 0 + 0
    rw [h.count_eq]
    push_cast
    ring
  · show IsGreatest (insert 8 (argsBefore code f.func (k + 1))) (if i.op = .arg then max f.maxArg i.parm else f.maxArg)
    have hmax : IsGreatest (insert 8 (argsBefore code f.func k)) f.maxArg := h.current.maxArg
    by_cases harg : i.op = .arg
    · rw [if_pos harg, argsBefore_arg hlast.2 hi harg, Set.insert_comm, max_comm]
      exact hmax.insert i.parm
    · rw [if_neg harg, argsBefore_other hi harg]
      exact hmax
  · intro a ha hlt
    have hak : a < k := by
      -- no function starts here
      rcases ha with ⟨j, rfl, hj⟩ | ⟨rfl, -⟩
      · rcases Nat.lt_succ_iff_lt_or_eq.1 (Int.ofNat_lt.1 hlt) with hjk | rfl
        · exact Int.ofNat_lt.2 hjk
        · exact absurd hj hnot
      · omega
    exact h.covers_of_func rfl ha hak
  · show _ + (f.count + 1) = _
    have := h.total
    push_cast
    linarith

/-- one instruction -/
theorem step (h : Course code k f rs) (hi : code[k]? = some i) : ∃ rs', Course code (k + 1) (f.step i) rs' := by
  by_cases hop : i.op = .enter
  · rcases Nat.eq_zero_or_pos k with rfl | hk
    · exact ⟨[], h.first hi hop⟩
    · exact ⟨_, h.enter hi hop hk⟩
  · exact ⟨rs, h.other hi hop⟩

end Course
end Functions

/-- all instructions -/
theorem course_run {image : Image} {code : List Instruction} {w : Walk}
    (hrun : Walk.run image code { tables := {} } = (w, none)) :
    ∃ rs, Functions.Course code code.length w.functions rs := by
  refine Walk.run_inv_at (I := fun k w => ∃ rs, Functions.Course code k w.functions rs)
    ⟨[], Functions.Course.start code⟩ ?_ hrun
  rintro k i v - hpast ⟨rs, hv⟩ hi -
  rw [Walk.functions_step hpast]
  exact hv.step hi

/-! ## the records of the whole code -/

namespace Functions.Course
variable {code : List Instruction} {f : Functions} {rs : List Record} {r : Record}

theorem ended_or_last (h : Course code code.length f rs) (hr : r ∈ rs ++ [f.record]) :
    r.Ended code ∨ r.Tells code code.length 0 := by
  rcases List.mem_append.1 hr with hr | hr
  · exact .inl (h.ended r hr)
  · rw [List.mem_singleton.1 hr]
    exact .inr h.current

/-- there is a record of every function, and of nothing else -/
theorem isFunction_iff (h : Course code code.length f rs) {a : Int} :
    IsFunction code a ↔ ∃ r ∈ rs ++ [f.record], r.func = a := by
  constructor
  · intro ha
    exact h.covers a ha ha.lt_length
  · rintro ⟨r, hr, rfl⟩
    rcases h.ended_or_last hr with ⟨b, hb, -, ht⟩ | ht
    · exact ht.last.isFunction (.inl hb)
    · refine ht.last.isFunction ?_
      by_cases hnil : code.length = 0
      · refine .inr fun ⟨i, hi, _⟩ => ?_
        rw [List.length_eq_zero_iff.1 hnil] at hi
        cases hi
      · exact .inl (Nat.pos_of_ne_zero hnil)

/-- the `enter` that ends a function is counted for it -/
theorem count_of_followed (h : Course code code.length f rs) (hr : r ∈ rs ++ [f.record]) {b : Nat}
    (hb : NextEnter code r.func b) : r.count = b - max r.func 0 + 1 := by
  rcases h.ended_or_last hr with ⟨b', -, he, ht⟩ | ht
  · rw [NextEnter.unique hb ⟨ht.last.2, he⟩]
    exact ht.count_eq
  · -- nothing starts behind the last function
    obtain ⟨i, hi, -⟩ := hb.2
    have := (List.getElem?_eq_some_iff.1 hi).1
    have := ht.last.2.le_next hb
    omega

theorem count_of_last (h : Course code code.length f rs) (hr : r ∈ rs ++ [f.record])
    (hnone : ∀ b, ¬ NextEnter code r.func b) : r.count = code.length - max r.func 0 := by
  rcases h.ended_or_last hr with ⟨b, -, he, ht⟩ | ht
  · exact absurd ⟨ht.last.2, he⟩ (hnone b)
  · have := ht.count_eq
    rwa [add_zero] at this

theorem isGreatest_maxArg (h : Course code code.length f rs) (hr : r ∈ rs ++ [f.record]) :
    IsGreatest (insert 8 (argsOf code r.func)) r.maxArg := by
  rcases h.ended_or_last hr with ⟨b, -, he, ht⟩ | ht
  · rw [← argsBefore_next ⟨ht.last.2, he⟩]
    exact ht.maxArg
  · rw [← argsBefore_length]
    exact ht.maxArg

/-- every function but the last one is counted one too long -/
theorem sum_sizes (h : Course code code.length f rs) :
    (f.filed.sizes.toList.map Prod.snd).sum = code.length + (f.filed.sizes.size - 1 : Int) := by
  have hlist := h.filed.sizes.toList_eq h.ordered
  have hsize : f.filed.sizes.size = rs.length + 1 := by
    rw [← Std.TreeMap.length_toList, hlist, List.length_map, List.length_append]
    rfl
  rw [hsize, hlist, List.map_map, List.map_append, List.sum_append]
  show (rs.map Record.count).sum + (f.count + 0) = _
  have := h.total
  push_cast
  linarith

end Functions.Course

/-! ## the tables of a program -/

/-- the tables of functions are about the same functions -/
structure FunctionTablesAgree (p : Program) : Prop where
  sizes : ∀ a : Int, a ∈ p.analysis.sizes ↔ IsFunction p.code a
  hashes : ∀ a : Int, a ∈ p.analysis.hashes ↔ IsFunction p.code a
  maxArgs : ∀ a : Int, a ∈ p.analysis.maxArgs ↔ IsFunction p.code a
  callers : ∀ target : Int, ∀ a ∈ p.analysis.calls[target]?.getD [], IsFunction p.code a
  /-- under a hash: the functions that have it -/
  byHash : ∀ hash : Int, InOrder (· < ·) p.analysis.byHash[hash]? fun a => p.analysis.hashes[a]? = some hash
  greatest : ∀ a n : Int, p.analysis.maxArgs[a]? = some n → IsGreatest (insert 8 (argsOf p.code a)) n

namespace Program
variable {d : Directory} {type : Option String} {file : ByteArray} {c c' : Console} {p : Program}

/-- the tables of functions are those of a walk over the whole code -/
theorem course_of_load (hload : load d type file c = (.ok p, c')) :
    ∃ f rs, Functions.Course p.code p.code.length f rs ∧ p.analysis.sizes = f.filed.sizes ∧
      p.analysis.hashes = f.filed.hashes ∧ p.analysis.byHash = f.filed.byHash ∧
      p.analysis.maxArgs = f.filed.maxArgs := by
  obtain ⟨w, hw, ht⟩ := (load_eq_ok hload).walk_ok
  obtain ⟨rs, hcourse⟩ := course_run hw
  refine ⟨w.functions, rs, hcourse, ?_⟩
  rw [ht]
  exact ⟨rfl, rfl, rfl, rfl⟩

/-- a caller has a hash -/
theorem hash_of_caller (hload : load d type file c = (.ok p, c')) {target a : Int}
    (ha : a ∈ p.analysis.calls[target]?.getD []) : ∃ hash, p.analysis.hashes[a]? = some hash := by
  obtain ⟨w, hw, ht⟩ := (load_eq_ok hload).walk_ok
  rw [ht] at ha ⊢
  cases hcalls : w.endFunction.tables.calls[target]? with
  | none =>
    rw [hcalls] at ha
    cases ha
  | some callers =>
    rw [hcalls] at ha
    exact ((Walk.complete_of_run hw).callers target callers hcalls a ha).1

/-- The size of a function is the number of its instructions, and one more for the `enter` that follows it if
there is one.  So the sizes add up to the number of instructions and one more for each function but the
last. -/
theorem sizes_counted (hload : load d type file c = (.ok p, c')) :
    (∀ a b : Nat, EnterAt p.code a → NextEnter p.code a b → p.analysis.sizes[(a : Int)]? = some ((b : Int) - a + 1)) ∧
      (∀ a : Nat, EnterAt p.code a → (∀ b, ¬ NextEnter p.code a b) →
        p.analysis.sizes[(a : Int)]? = some (p.header.instructionCount - a)) ∧
      (p.analysis.sizes.toList.map Prod.snd).sum = p.header.instructionCount + (p.analysis.sizes.size - 1 : Int) := by
  obtain ⟨f, rs, hcourse, hsizes, -⟩ := course_of_load hload
  have hcount : (p.code.length : Int) = p.header.instructionCount := by
    have hl := load_eq_ok hload
    rw [hl.length_instructions]
    exact Int.toNat_of_nonneg (Header.fields_nonneg hl.isIn.nonneg).1
  have hrecord : ∀ a : Nat, EnterAt p.code a → ∃ r ∈ rs ++ [f.record], r.func = a ∧
      p.analysis.sizes[(a : Int)]? = some r.count := by
    intro a ha
    obtain ⟨r, hr, hfunc⟩ := hcourse.isFunction_iff.1 (.inl ⟨a, rfl, ha⟩)
    rw [hsizes]
    exact ⟨r, hr, hfunc, (hcourse.filed.sizes a r.count).2 ⟨r, hr, hfunc, rfl⟩⟩
  refine ⟨fun a b ha hb => ?_, fun a ha hnone => ?_, ?_⟩
  · obtain ⟨r, hr, hfunc, hsize⟩ := hrecord a ha
    rw [hsize, hcourse.count_of_followed hr (hfunc ▸ hb), hfunc, max_eq_left (Int.natCast_nonneg a)]
  · obtain ⟨r, hr, hfunc, hsize⟩ := hrecord a ha
    rw [hsize, hcourse.count_of_last hr (hfunc ▸ hnone), hfunc, max_eq_left (Int.natCast_nonneg a), hcount]
  · rw [hsizes, hcourse.sum_sizes, hcount]

/-- two functions, of two and of three instructions -/
def unevenCode : List Instruction := [⟨.enter, 8⟩, ⟨.leave, 8⟩, ⟨.enter, 8⟩, ⟨.const, 1⟩, ⟨.leave, 8⟩]

theorem sizes_counted_uneven :
    ∃ p c, load bare none (fileOf unevenCode [] []) {} = (.ok p, c) ∧ EnterAt p.code 0 ∧ NextEnter p.code 0 2 ∧
      p.analysis.sizes[(0 : Int)]? = some 3 ∧ p.analysis.sizes[(2 : Int)]? = some 3 ∧
      (p.analysis.sizes.toList.map Prod.snd).sum = 6 := by
  obtain ⟨p, c, hl, ht⟩ := exists_of_loadsWith bare (fileOf unevenCode [] [])
    (fun p => p.code = unevenCode && p.header.instructionCount = 5 && p.analysis.sizes.size = 2) (by decide +kernel)
  simp only [Bool.and_eq_true, decide_eq_true_eq] at ht
  obtain ⟨⟨hcode, hcount⟩, hsize⟩ := ht
  have h0 : EnterAt p.code 0 := by rw [hcode]; decide
  have h2 : EnterAt p.code 2 := by rw [hcode]; decide
  have hnext : NextEnter p.code 0 2 := by rw [hcode]; decide
  have hlast : ∀ b, ¬ NextEnter p.code 2 b := by
    have hnone : ∀ b < 5, ¬ NextEnter unevenCode 2 b := by decide
    intro b hb
    rw [hcode] at hb
    obtain ⟨i, hi, -⟩ := hb.2
    exact hnone b (List.getElem?_eq_some_iff.1 hi).1 hb
  obtain ⟨hfollowed, hunfollowed, hsum⟩ := sizes_counted hl
  refine ⟨p, c, hl, h0, hnext, hfollowed 0 2 h0 hnext, ?_, ?_⟩
  · rw [show ((2 : Int)) = ((2 : Nat) : Int) from rfl, hunfollowed 2 h2 hlast, hcount]
    rfl
  · rw [hsum, hcount, hsize]
    rfl

/-- the first function has two instructions, and the sizes exceed the code -/
theorem size_counts_next :
    ∃ p c, load bare none (fileOf unevenCode [] []) {} = (.ok p, c) ∧ EnterAt p.code 0 ∧ NextEnter p.code 0 2 ∧
      p.analysis.sizes[(0 : Int)]? ≠ some (2 - 0) ∧
      (p.analysis.sizes.toList.map Prod.snd).sum ≠ p.header.instructionCount := by
  obtain ⟨p, c, hl, ht⟩ := exists_of_loadsWith bare (fileOf unevenCode [] [])
    (fun p => p.code = unevenCode && p.header.instructionCount = 5 && p.analysis.sizes.toList = [(0, 3), (2, 3)])
    (by decide +kernel)
  simp only [Bool.and_eq_true, decide_eq_true_eq] at ht
  obtain ⟨⟨hcode, hcount⟩, hsizes⟩ := ht
  have hsize : p.analysis.sizes[(0 : Int)]? = some 3 := by
    rw [← Std.TreeMap.mem_toList_iff_getElem?_eq_some, hsizes]
    decide
  refine ⟨p, c, hl, by rw [hcode]; decide, by rw [hcode]; decide, ?_, ?_⟩
  · rw [hsize]
    decide
  · rw [hsizes, hcount]
    decide

/-- The functions with a size, those with a hash and those with a number of arguments are the functions of the
code, and callers are among them.  The functions are listed under their hashes, and a number of
arguments is the largest that the function leaves, 8 at least. -/
theorem function_tables_agree (hload : load d type file c = (.ok p, c')) : FunctionTablesAgree p := by
  obtain ⟨f, rs, hcourse, hsizes, hhashes, hbyHash, hmaxArgs⟩ := course_of_load hload
  have hfiles := hcourse.filed
  have hkeys : ∀ a : Int, a ∈ p.analysis.hashes ↔ IsFunction p.code a := by
    intro a
    rw [hhashes, hfiles.hashes.mem_iff, hcourse.isFunction_iff]
  refine ⟨?_, hkeys, ?_, ?_, ?_, ?_⟩
  · intro a
    rw [hsizes, hfiles.sizes.mem_iff, hcourse.isFunction_iff]
  · intro a
    rw [hmaxArgs, hfiles.maxArgs.mem_iff, hcourse.isFunction_iff]
  · intro target a ha
    obtain ⟨hash, hhash⟩ := hash_of_caller hload ha
    rw [← hkeys a, ← Std.TreeMap.isSome_getElem?_iff_mem, hhash]
    rfl
  · intro hash
    obtain ⟨hlist, hne⟩ := hfiles.byHash hash
    rw [hbyHash, hhashes]
    refine ⟨?_, fun a => ?_, hne⟩
    · rw [hlist, List.pairwise_map]
      exact hcourse.ordered.filter _
    · show _ ↔ f.filed.hashes[a]? = some hash
      rw [hlist, hfiles.hashes a hash]
      simp only [List.mem_map, List.mem_filter, decide_eq_true_eq]
      constructor
      · rintro ⟨r, ⟨hr, hh⟩, ha⟩
        exact ⟨r, hr, ha, hh⟩
      · rintro ⟨r, hr, ha, hh⟩
        exact ⟨r, ⟨hr, hh⟩, ha⟩
  · intro a n hn
    rw [hmaxArgs] at hn
    obtain ⟨r, hr, rfl, rfl⟩ := (hfiles.maxArgs a n).1 hn
    exact hcourse.isGreatest_maxArg hr

/-- calls in front of the first function and in it -/
def outerCode : List Instruction :=
  [⟨.const, 3⟩, ⟨.call, 0⟩, ⟨.pop, 0⟩, ⟨.enter, 24⟩, ⟨.const, 1⟩, ⟨.arg, 12⟩, ⟨.const, 3⟩, ⟨.call, 0⟩, ⟨.leave, 24⟩,
    ⟨.enter, 8⟩, ⟨.leave, 8⟩]

theorem function_tables_agree_outer :
    ∃ p c, load bare none (fileOf outerCode [] []) {} = (.ok p, c) ∧ FunctionTablesAgree p ∧ ¬ EnterAt p.code 0 ∧
      (-1 : Int) ∈ p.analysis.sizes ∧ p.analysis.calls[(3 : Int)]? = some [-1, 3] ∧
      IsGreatest (insert 8 (argsOf p.code 3)) 12 := by
  obtain ⟨p, c, hl, ht⟩ := exists_of_loadsWith bare (fileOf outerCode [] [])
    (fun p => p.code = outerCode && p.analysis.calls[(3 : Int)]? = some [-1, 3] &&
      p.analysis.maxArgs[(3 : Int)]? = some 12) (by decide +kernel)
  simp only [Bool.and_eq_true, decide_eq_true_eq] at ht
  obtain ⟨⟨hcode, hcalls⟩, hmax⟩ := ht
  have hfirst : ¬ EnterAt p.code 0 := by rw [hcode]; decide
  have hagree := function_tables_agree hl
  exact ⟨p, c, hl, hagree, hfirst, (hagree.sizes (-1)).2 (.inr ⟨rfl, hfirst⟩), hcalls, hagree.greatest 3 12 hmax⟩

end Program
end Disasm
