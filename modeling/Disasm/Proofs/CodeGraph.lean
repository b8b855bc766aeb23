import Mathlib
import Disasm.Proofs.FunctionTables

/-!
# Jumps and calls

The walk lists every branch, jump and call whose target stands in the code: in the parameter of a branch, or in
the constant that is pushed right in front of a jump or a call.  A call is listed by the function that makes
it, and its last argument is compared with those of the other calls of the same function.

* `JumpsTo`, `CallsTo`  the instruction at an address leads to a target;
* `LastArg`  the argument that a call at an address finds;
* `Edges`  the part of a walk that is about jumps and calls, with a step of its own, and `edges_step`: a walk
  changes this part by these steps and nothing else;
* `Linked`, `linked_run`  along a walk, the tables list the jumps and calls that have been passed;
* `GraphExact`, `graph_exact`  the tables of a program that was loaded.
-/

namespace Disasm

/-! ## jumps and calls in the code -/

/-- a branch with this parameter, or a jump right behind this constant -/
def JumpsTo (code : List Instruction) (k : Nat) (t : Int) : Prop :=
  (∃ op, op.isBranch = true ∧ code[k]? = some ⟨op, t⟩) ∨
    ∃ j i, k = j + 1 ∧ code[k]? = some i ∧ i.op = .jump ∧ code[j]? = some ⟨.const, t⟩

/-- a call right behind this constant -/
def CallsTo (code : List Instruction) (k : Nat) (t : Int) : Prop :=
  ∃ j i, k = j + 1 ∧ code[k]? = some i ∧ i.op = .call ∧ code[j]? = some ⟨.const, t⟩

/-- the constant that is pushed right before -/
def pushed? (past : List Instruction) : Option Int :=
  past.head?.bind fun c => if c.op = .const then some c.parm else none

/-- where an instruction jumps to, as far as the code tells -/
def jumpBy? (i : Instruction) (past : List Instruction) : Option Int :=
  if i.op.isBranch then some i.parm else if i.op = .jump then pushed? past else none

def callBy? (i : Instruction) (past : List Instruction) : Option Int :=
  if i.op = .call then pushed? past else none

/-- where the instruction at `j` jumps to -/
def jumpTarget? (code : List Instruction) (j : Nat) : Option Int :=
  (code[j]?).bind fun i => jumpBy? i (code.take j).reverse

/-- what the instruction at `j` calls -/
def callTarget? (code : List Instruction) (j : Nat) : Option Int :=
  (code[j]?).bind fun i => callBy? i (code.take j).reverse

section
variable {code : List Instruction} {k : Nat} {i : Instruction} {t : Int}

theorem jumpTarget?_eq (hi : code[k]? = some i) : jumpTarget? code k = jumpBy? i (code.take k).reverse := by
  rw [jumpTarget?, hi, Option.bind_some]

theorem callTarget?_eq (hi : code[k]? = some i) : callTarget? code k = callBy? i (code.take k).reverse := by
  rw [callTarget?, hi, Option.bind_some]

theorem pushed?_eq_some_iff (hk : k ≤ code.length) :
    pushed? (code.take k).reverse = some t ↔ ∃ j, k = j + 1 ∧ code[j]? = some ⟨.const, t⟩ := by
  cases k with
  | zero =>
    constructor
    · intro h
      cases h
    · rintro ⟨j, hj, -⟩
      cases hj
  | succ j =>
    obtain ⟨c, hc⟩ : ∃ c, code[j]? = some c := ⟨_, List.getElem?_eq_getElem hk⟩
    rw [reverse_take_succ hc]
    show (if c.op = .const then some c.parm else none) = some t ↔ _
    constructor
    · intro h
      split at h
      next hop =>
        cases h
        exact ⟨j, rfl, by rw [hc, ← hop]⟩
      next => cases h
    · rintro ⟨j', hj, hc'⟩
      cases hj
      rw [hc] at hc'
      rw [Option.some.inj hc', if_pos rfl]

theorem jumpTarget?_eq_some_iff : jumpTarget? code k = some t ↔ JumpsTo code k t := by
  constructor
  · intro h
    obtain ⟨i, hi, h⟩ := Option.bind_eq_some_iff.1 h
    unfold jumpBy? at h
    split at h
    next hop =>
      cases h
      exact .inl ⟨i.op, hop, hi⟩
    next =>
      split at h
      next hop =>
        obtain ⟨j, hj, hc⟩ := (pushed?_eq_some_iff (List.getElem?_eq_some_iff.1 hi).1.le).1 h
        exact .inr ⟨j, i, hj, hi, hop, hc⟩
      next => cases h
  · rintro (⟨op, hop, hi⟩ | ⟨j, i, hj, hi, hop, hc⟩)
    · rw [jumpTarget?_eq hi, jumpBy?, if_pos hop]
    · rw [jumpTarget?_eq hi, jumpBy?, if_neg (by rw [hop]; decide), if_pos hop]
      exact (pushed?_eq_some_iff (List.getElem?_eq_some_iff.1 hi).1.le).2 ⟨j, hj, hc⟩

theorem callTarget?_eq_some_iff : callTarget? code k = some t ↔ CallsTo code k t := by
  constructor
  · intro h
    obtain ⟨i, hi, h⟩ := Option.bind_eq_some_iff.1 h
    unfold callBy? at h
    split at h
    next hop =>
      obtain ⟨j, hj, hc⟩ := (pushed?_eq_some_iff (List.getElem?_eq_some_iff.1 hi).1.le).1 h
      exact ⟨j, i, hj, hi, hop, hc⟩
    next => cases h
  · rintro ⟨j, i, hj, hi, hop, hc⟩
    rw [callTarget?_eq hi, callBy?, if_pos hop]
    exact (pushed?_eq_some_iff (List.getElem?_eq_some_iff.1 hi).1.le).2 ⟨j, hj, hc⟩

theorem mem_placesOf_jumpTarget? : k ∈ placesOf (jumpTarget? code) code.length t ↔ JumpsTo code k t := by
  rw [mem_placesOf, jumpTarget?_eq_some_iff, and_iff_right_iff_imp]
  rintro (⟨_, -, hi⟩ | ⟨_, _, -, hi, -⟩)
  · exact (List.getElem?_eq_some_iff.1 hi).1
  · exact (List.getElem?_eq_some_iff.1 hi).1

theorem mem_placesOf_callTarget? : k ∈ placesOf (callTarget? code) code.length t ↔ CallsTo code k t := by
  rw [mem_placesOf, callTarget?_eq_some_iff, and_iff_right_iff_imp]
  rintro ⟨_, _, -, hi, -⟩
  exact (List.getElem?_eq_some_iff.1 hi).1

end

/-! ## arguments of calls -/

/-- none of some opcodes stands between `j` and `k` -/
def NoneBetween (ops : List Opcode) (code : List Instruction) (j k : Nat) : Prop :=
  ∀ m i, j < m → m < k → code[m]? = some i → i.op ∉ ops

/-- the parameter of the last `arg` in front of `k` with no `enter` and no `pop` in between, or 0 when there is
none -/
def LastArg (code : List Instruction) (k : Nat) (v : Int) : Prop :=
  (∃ j < k, code[j]? = some ⟨.arg, v⟩ ∧ NoneBetween [.arg, .enter, .pop] code j k) ∨
    v = 0 ∧ ∀ j < k, ∀ x, code[j]? = some ⟨.arg, x⟩ → ¬ NoneBetween [.enter, .pop] code j k

section
variable {code : List Instruction} {j k : Nat} {i : Instruction} {v w : Int} {ops : List Opcode}

theorem NoneBetween.succ (h : NoneBetween ops code j k) (hi : code[k]? = some i) (hop : i.op ∉ ops) :
    NoneBetween ops code j (k + 1) := by
  intro m i' hj hm hi'
  rcases Nat.lt_succ_iff_lt_or_eq.1 hm with hlt | rfl
  · exact h m i' hj hlt hi'
  · rw [hi] at hi'
    rwa [← Option.some.inj hi']

namespace LastArg

theorem zero : LastArg code 0 0 := .inr ⟨rfl, fun j hj => absurd hj (Nat.not_lt_zero j)⟩

/-- arguments are taken back -/
theorem reset (hi : code[k]? = some i) (hop : i.op = .enter ∨ i.op = .pop) : LastArg code (k + 1) 0 := by
  refine .inr ⟨rfl, fun j hj x hx hnone => ?_⟩
  rcases Nat.lt_succ_iff_lt_or_eq.1 hj with hlt | rfl
  · refine hnone k i hlt (Nat.lt_succ_self k) hi ?_
    rcases hop with hop | hop <;> simp [hop]
  · rw [hi] at hx
    rw [Option.some.inj hx] at hop
    rcases hop with hop | hop <;> cases hop

theorem arg (hi : code[k]? = some i) (hop : i.op = .arg) : LastArg code (k + 1) i.parm :=
  .inl ⟨k, Nat.lt_succ_self k, by rw [hi, ← hop], fun m i' hm hk => by omega⟩

theorem other (h : LastArg code k v) (hi : code[k]? = some i) (hop : i.op ∉ [.arg, .enter, .pop]) :
    LastArg code (k + 1) v := by
  rcases h with ⟨j, hj, hv, hnone⟩ | ⟨rfl, hnone⟩
  · exact .inl ⟨j, Nat.lt_succ_of_lt hj, hv, hnone.succ hi hop⟩
  · refine .inr ⟨rfl, fun j hj x hx hbetween => ?_⟩
    rcases Nat.lt_succ_iff_lt_or_eq.1 hj with hlt | rfl
    · exact hnone j hlt x hx fun m i' hm hk hi' => hbetween m i' hm (Nat.lt_succ_of_lt hk) hi'
    · rw [hi] at hx
      rw [Option.some.inj hx] at hop
      exact hop (by simp)

theorem unique (h : LastArg code k v) (h' : LastArg code k w) : v = w := by
  have hfewer : ∀ {j}, NoneBetween [.arg, .enter, .pop] code j k → NoneBetween [.enter, .pop] code j k :=
    fun hnone m i hj hk hi hmem => hnone m i hj hk hi (List.mem_cons_of_mem _ hmem)
  rcases h with ⟨j, hj, hv, hnone⟩ | ⟨rfl, hnone⟩
  · rcases h' with ⟨j', hj', hw, hnone'⟩ | ⟨rfl, hnone'⟩
    · -- the earlier one would not be the last
      rcases lt_trichotomy j j' with hlt | rfl | hlt
      · exact absurd (List.mem_cons_self) (hnone j' _ hlt hj' hw)
      · rw [hv] at hw
        cases hw
        rfl
      · exact absurd (List.mem_cons_self) (hnone' j _ hlt hj hv)
    · exact absurd (hfewer hnone) (hnone' j hj v hv)
  · rcases h' with ⟨j', hj', hw, hnone'⟩ | ⟨rfl, -⟩
    · exact absurd (hfewer hnone') (hnone j' hj' w hw)
    · rfl

end LastArg
end

/-- the value that all have in common, -1 when they differ -/
def common? : List Int → Option Int
  | [] => none
  | v :: vs => some (if ∀ x ∈ vs, x = v then v else -1)

section
variable {v w : Int} {vs : List Int}

/-- one more call -/
theorem common?_concat (vs : List Int) (v : Int) : common? (vs ++ [v]) = some (Walk.parmCount v (common? vs)) := by
  cases vs with
  | nil =>
    show some (if ∀ x ∈ [], x = v then v else -1) = some v
    rw [if_pos fun x hx => (by cases hx)]
  | cons a vs =>
    have hsplit : (∀ x ∈ vs ++ [v], x = a) ↔ (∀ x ∈ vs, x = a) ∧ v = a := by
      simp only [List.mem_append, List.mem_singleton, or_imp, forall_and, forall_eq]
    have hcount : ∀ n, Walk.parmCount v (some n) = if n = v then n else -1 := fun _ => rfl
    show some (if ∀ x ∈ vs ++ [v], x = a then a else -1) =
      some (Walk.parmCount v (some (if ∀ x ∈ vs, x = a then a else -1)))
    rw [hcount]
    by_cases hall : ∀ x ∈ vs, x = a
    · by_cases hv : v = a
      · rw [if_pos (hsplit.2 ⟨hall, hv⟩), if_pos hall, if_pos hv.symm]
      · rw [if_neg fun h => hv (hsplit.1 h).2, if_pos hall, if_neg (Ne.symm hv)]
    · -- a difference is never forgotten
      rw [if_neg fun h => hall (hsplit.1 h).1, if_neg hall]
      split <;> rfl

theorem isSome_common? : (common? vs).isSome ↔ vs ≠ [] := by
  cases vs <;> simp [common?]

theorem common?_of_ne (hv : v ∈ vs) (hw : w ∈ vs) (hne : v ≠ w) : common? vs = some (-1) := by
  cases vs with
  | nil => cases hv
  | cons a vs =>
    refine congrArg some (if_neg fun hall => hne ?_)
    have heq : ∀ x ∈ a :: vs, x = a := by
      intro x hx
      rcases List.mem_cons.1 hx with rfl | hx
      · rfl
      · exact hall x hx
    rw [heq v hv, heq w hw]

theorem common?_of_forall (hne : vs ≠ []) (hall : ∀ x ∈ vs, x = v) : common? vs = some v := by
  cases vs with
  | nil => exact absurd rfl hne
  | cons a vs =>
    obtain rfl : a = v := hall a List.mem_cons_self
    exact congrArg some (if_pos fun x hx => hall x (List.mem_cons_of_mem a hx))

end

/-! ## the edges of a walk -/

/-- what a walk keeps about jumps and calls -/
structure Edges where
  func : Int
  lastArg : Int
  jumps : Std.TreeMap Int (List Int)
  calls : Std.TreeMap Int (List Int)
  parmCounts : Std.TreeMap Int Int

/-- what an instruction adds -/
def Edges.visit (index : Int) (past : List Instruction) (i : Instruction) (e : Edges) : Edges where
  func := if i.op = .enter then index else e.func
  lastArg := if i.op = .enter ∨ i.op = .pop then 0 else if i.op = .arg then i.parm else e.lastArg
  jumps := (jumpBy? i past).elim e.jumps fun t => append e.jumps t index
  calls := (callBy? i past).elim e.calls fun t => append e.calls t e.func
  parmCounts := (callBy? i past).elim e.parmCounts fun t =>
    e.parmCounts.insert t (Walk.parmCount e.lastArg e.parmCounts[t]?)

namespace Walk

def edges (w : Walk) : Edges :=
  ⟨w.func, w.lastArg, w.tables.jumps, w.tables.calls, w.tables.parmCounts⟩

theorem SwitchesOnly.edges_eq {w w' : Walk} (h : SwitchesOnly w w') : w'.edges = w.edges := by
  obtain ⟨_, _, _, _, _, rfl⟩ := h
  rfl

/-- the constant that a jump or a call finds -/
theorem Passed.pushed?_eq {past : List Instruction} {w : Walk} (h : Passed past w) :
    pushed? past = if w.prev.op = .const then some w.prev.parm else none := by
  rw [h.prev_eq]
  cases past with
  | nil => rfl
  | cons prev rest => rfl

theorem edges_visitJump (image : Image) (w : Walk) :
    (w.visitJump image).1.edges =
      { w.edges with
        jumps := (if w.prev.op = .const then some w.prev.parm else none).elim w.tables.jumps fun t =>
          append w.tables.jumps t w.index } := by
  unfold visitJump
  by_cases hconst : w.prev.op = .const
  · rw [if_pos hconst, if_pos hconst]
    rfl
  · rw [if_neg hconst, if_neg hconst]
    split
    · exact (SwitchesOnly.addSwitch image _ w).edges_eq
    · rfl

theorem edges_visitCall (w : Walk) :
    w.visitCall.edges =
      (if w.prev.op = .const then some w.prev.parm else none).elim w.edges fun t => (w.addCall t).edges := by
  unfold visitCall
  split <;> rfl

theorem edges_addPointerRead (w : Walk) : w.addPointerRead.edges = w.edges := by
  unfold addPointerRead
  split <;> rfl

theorem edges_startFunction (w : Walk) : w.startFunction.edges = { w.edges with func := w.index, lastArg := 0 } := by
  unfold startFunction
  dsimp only
  split <;> rfl

/-- one instruction -/
theorem edges_step {past : List Instruction} {w : Walk} (hp : Passed past w) (image : Image) (i : Instruction) :
    (step image i w).1.edges = w.edges.visit w.index past i := by
  show (visit image i (counted i w)).1.edges = _
  have hpushed := hp.pushed?_eq
  unfold visit Edges.visit jumpBy? callBy?
  split
  next hop => rw [hop]; rfl
  next hop => rw [hop]; rfl
  next hop => rw [hop]; exact edges_addPointerRead _
  next hop => rw [hop]; exact edges_addPointerRead _
  next hop => rw [hop]; exact edges_addPointerRead _
  next hop => rw [hop]; exact edges_startFunction _
  next hop =>
    rw [hop, hpushed]
    exact edges_visitJump image _
  next hop =>
    rw [hop, hpushed, edges_visitCall]
    show Option.elim (if w.prev.op = .const then some w.prev.parm else none) _ _ = Edges.mk _ _ _ (Option.elim _ _ _)
      (Option.elim _ _ _)
    cases (if w.prev.op = .const then some w.prev.parm else none) <;> rfl
  next hpop harg hl1 hl2 hl4 henter hjump hcall =>
    have hkeep : ¬ (i.op = .enter ∨ i.op = .pop) := fun h => h.elim henter hpop
    rw [if_neg henter, if_neg hkeep, if_neg harg, if_neg hcall, if_neg hjump]
    split <;> rfl

end Walk

/-! ## along a walk -/

/-- the tables list the jumps and calls in front of `k` -/
structure Linked (code : List Instruction) (k : Nat) (e : Edges) : Prop where
  func : LastEnter code k e.func
  lastArg : LastArg code k e.lastArg
  jumps : Collects e.jumps (jumpTarget? code) (fun j b => (j : Int) = b) k
  calls : Collects e.calls (callTarget? code) (LastEnter code) k
  parms : ∀ t : Int, ∃ args, List.Forall₂ (LastArg code) (placesOf (callTarget? code) k t) args ∧
    e.parmCounts[t]? = common? args

namespace Linked
variable {code : List Instruction} {k : Nat} {e : Edges} {i : Instruction}

theorem start (code : List Instruction) : Linked code 0 ({ tables := {} } : Walk).edges where
  func := .zero
  lastArg := .zero
  jumps := .empty
  calls := .empty
  parms _ := ⟨[], .nil, Std.TreeMap.getElem?_emptyc⟩

theorem func_visit (h : Linked code k e) (hi : code[k]? = some i) :
    LastEnter code (k + 1) (e.visit k (code.take k).reverse i).func := by
  show LastEnter code (k + 1) (if i.op = .enter then (k : Int) else e.func)
  by_cases hop : i.op = .enter
  · rw [if_pos hop]
    exact .enter ((enterAt_iff hi).2 hop)
  · rw [if_neg hop]
    exact h.func.other fun he => hop ((enterAt_iff hi).1 he)

theorem lastArg_visit (h : Linked code k e) (hi : code[k]? = some i) :
    LastArg code (k + 1) (e.visit k (code.take k).reverse i).lastArg := by
  show LastArg code (k + 1) (if i.op = .enter ∨ i.op = .pop then 0 else if i.op = .arg then i.parm else e.lastArg)
  by_cases hreset : i.op = .enter ∨ i.op = .pop
  · rw [if_pos hreset]
    exact .reset hi hreset
  · rw [if_neg hreset]
    by_cases harg : i.op = .arg
    · rw [if_pos harg]
      exact .arg hi harg
    · rw [if_neg harg]
      refine h.lastArg.other hi ?_
      simp only [List.mem_cons, List.not_mem_nil, or_false]
      exact fun hop => hop.elim harg hreset

/-- one more call with this target, or none -/
theorem parms_visit (h : Linked code k e) (hi : code[k]? = some i) (t : Int) :
    ∃ args, List.Forall₂ (LastArg code) (placesOf (callTarget? code) (k + 1) t) args ∧
      (e.visit k (code.take k).reverse i).parmCounts[t]? = common? args := by
  obtain ⟨args, hargs, hcommon⟩ := h.parms t
  show ∃ args, _ ∧ ((callBy? i (code.take k).reverse).elim _ _)[t]? = _
  rw [← callTarget?_eq hi]
  cases hcall : callTarget? code k with
  | none =>
    rw [placesOf_skip (by rw [hcall]; simp)]
    exact ⟨args, hargs, hcommon⟩
  | some x =>
    show ∃ args, _ ∧ (e.parmCounts.insert x (Walk.parmCount e.lastArg e.parmCounts[x]?))[t]? = _
    rw [Std.TreeMap.getElem?_insert]
    by_cases hx : x = t
    · subst hx
      rw [if_pos Std.ReflCmp.compare_self, hcommon, placesOf_concat hcall]
      exact ⟨args ++ [e.lastArg], List.rel_append hargs (.cons h.lastArg .nil), (common?_concat args _).symm⟩
    · -- a call of something else
      rw [if_neg fun he => hx (Std.LawfulEqCmp.eq_of_compare he), placesOf_skip (by rw [hcall]; simpa using hx)]
      exact ⟨args, hargs, hcommon⟩

/-- one instruction -/
theorem visit (h : Linked code k e) (hi : code[k]? = some i) :
    Linked code (k + 1) (e.visit k (code.take k).reverse i) where
  func := h.func_visit hi
  lastArg := h.lastArg_visit hi
  jumps := by
    show Collects ((jumpBy? i (code.take k).reverse).elim _ _) _ _ _
    rw [← jumpTarget?_eq hi]
    cases hjump : jumpTarget? code k with
    | none => exact h.jumps.skip hjump
    | some t => exact h.jumps.concat hjump rfl
  calls := by
    show Collects ((callBy? i (code.take k).reverse).elim _ _) _ _ _
    rw [← callTarget?_eq hi]
    cases hcall : callTarget? code k with
    | none => exact h.calls.skip hcall
    | some t => exact h.calls.concat hcall h.func
  parms := h.parms_visit hi

end Linked

/-- all instructions -/
theorem linked_run {image : Image} {code : List Instruction} {w : Walk}
    (hrun : Walk.run image code { tables := {} } = (w, none)) : Linked code code.length w.edges := by
  refine Walk.run_inv_at (I := fun k w => Linked code k w.edges) (Linked.start code) ?_ hrun
  intro k i v hindex hpast hv hi _
  rw [Walk.edges_step hpast, hindex]
  exact hv.visit hi

/-! ## the tables of a program -/

/-- the tables of jumps and calls hold what stands in the code -/
structure GraphExact (p : Program) : Prop where
  /-- under a target: the branches and jumps that lead to it -/
  jumps : ∀ t : Int, InOrder (· < ·) p.analysis.jumps[t]? fun i => ∃ k : Nat, i = k ∧ JumpsTo p.code k t
  /-- under a target: for every call of it, the function that makes the call -/
  calls : ∀ t : Int, p.analysis.calls[t]? ≠ some [] ∧
    ∃ sites : List Nat, sites.Pairwise (· < ·) ∧ (∀ k, k ∈ sites ↔ CallsTo p.code k t) ∧
      List.Forall₂ (LastEnter p.code) sites (p.analysis.calls[t]?.getD [])
  counted : ∀ t : Int, t ∈ p.analysis.parmCounts ↔ ∃ k, CallsTo p.code k t
  differ : ∀ (t x y : Int) (j k : Nat), CallsTo p.code j t → CallsTo p.code k t → LastArg p.code j x →
    LastArg p.code k y → x ≠ y → p.analysis.parmCounts[t]? = some (-1)
  agree : ∀ t n : Int, (∃ k, CallsTo p.code k t) → (∀ k, CallsTo p.code k t → LastArg p.code k n) →
    p.analysis.parmCounts[t]? = some n

namespace Linked
variable {code : List Instruction} {e : Edges}

theorem jumps_inOrder (h : Linked code code.length e) (t : Int) :
    InOrder (· < ·) e.jumps[t]? fun i => ∃ k : Nat, i = k ∧ JumpsTo code k t := by
  obtain ⟨hlist, hne⟩ := h.jumps t
  have hmap : (placesOf (jumpTarget? code) code.length t).map (fun j : Nat => (j : Int)) = e.jumps[t]?.getD [] := by
    rw [← List.forall₂_eq_eq_eq, List.forall₂_map_left_iff]
    exact hlist
  refine ⟨?_, fun i => ?_, hne⟩
  · rw [← hmap, List.pairwise_map]
    exact (pairwise_placesOf _ _ t).imp Int.ofNat_lt.2
  · rw [← hmap, List.mem_map]
    constructor
    · rintro ⟨k, hk, rfl⟩
      exact ⟨k, rfl, mem_placesOf_jumpTarget?.1 hk⟩
    · rintro ⟨k, rfl, hk⟩
      exact ⟨k, mem_placesOf_jumpTarget?.2 hk, rfl⟩

theorem mem_parmCounts (h : Linked code code.length e) (t : Int) : t ∈ e.parmCounts ↔ ∃ k, CallsTo code k t := by
  obtain ⟨args, hargs, hcommon⟩ := h.parms t
  rw [← Std.TreeMap.isSome_getElem?_iff_mem, hcommon, isSome_common?, ← List.length_pos_iff_ne_nil,
    ← hargs.length_eq, List.length_pos_iff_exists_mem]
  exact exists_congr fun k => mem_placesOf_callTarget?

theorem parmCounts_of_ne (h : Linked code code.length e) {t x y : Int} {j k : Nat} (hj : CallsTo code j t)
    (hk : CallsTo code k t) (hx : LastArg code j x) (hy : LastArg code k y) (hne : x ≠ y) :
    e.parmCounts[t]? = some (-1) := by
  obtain ⟨args, hargs, hcommon⟩ := h.parms t
  obtain ⟨x', hmem, hx'⟩ := exists_of_forall₂ hargs (mem_placesOf_callTarget?.2 hj)
  obtain ⟨y', hmem', hy'⟩ := exists_of_forall₂ hargs (mem_placesOf_callTarget?.2 hk)
  rw [hx.unique hx', hy.unique hy'] at hne
  rw [hcommon, common?_of_ne hmem hmem' hne]

theorem parmCounts_of_forall (h : Linked code code.length e) {t n : Int} (hcall : ∃ k, CallsTo code k t)
    (hn : ∀ k, CallsTo code k t → LastArg code k n) : e.parmCounts[t]? = some n := by
  obtain ⟨args, hargs, hcommon⟩ := h.parms t
  rw [hcommon]
  refine common?_of_forall ?_ fun x hx => ?_
  · obtain ⟨k, hk⟩ := hcall
    obtain ⟨x, hx, -⟩ := exists_of_forall₂ hargs (mem_placesOf_callTarget?.2 hk)
    exact List.ne_nil_of_mem hx
  · obtain ⟨k, hk, hkx⟩ := exists_of_forall₂ hargs.flip hx
    exact LastArg.unique hkx (hn k (mem_placesOf_callTarget?.1 hk))

end Linked

namespace Program
variable {d : Directory} {type : Option String} {file : ByteArray} {c c' : Console} {p : Program}

/-- Each target is listed with the branches and jumps to it and with the functions that call it, in the order of
the code and for every target, whether an instruction stands there or not.  Its number of parameters is the last
argument that all calls have in common, or -1 if two of them differ. -/
theorem graph_exact (hload : load d type file c = (.ok p, c')) : GraphExact p := by
  obtain ⟨w, hw, ht⟩ := (load_eq_ok hload).walk_ok
  have hlinked := linked_run hw
  have hjumps : p.analysis.jumps = w.edges.jumps := by rw [ht]; rfl
  have hcalls : p.analysis.calls = w.edges.calls := by rw [ht]; rfl
  have hparms : p.analysis.parmCounts = w.edges.parmCounts := by rw [ht]; rfl
  refine ⟨?_, ?_, ?_, ?_, ?_⟩
  · rw [hjumps]
    exact hlinked.jumps_inOrder
  · intro t
    obtain ⟨hsites, hne⟩ := hlinked.calls t
    rw [hcalls]
    exact ⟨hne, _, pairwise_placesOf _ _ t, fun k => mem_placesOf_callTarget?, hsites⟩
  · rw [hparms]
    exact hlinked.mem_parmCounts
  · intro t x y j k hj hk hx hy hne
    rw [hparms, hlinked.parmCounts_of_ne hj hk hx hy hne]
  · intro t n hcall hn
    rw [hparms, hlinked.parmCounts_of_forall hcall hn]

/-- two jumps to one place, two calls that differ, and a call of nothing that stands in the code -/
def crossingCode : List Instruction :=
  [⟨.enter, 24⟩, ⟨.arg, 12⟩, ⟨.const, -5⟩, ⟨.call, 0⟩, ⟨.pop, 0⟩, ⟨.const, -5⟩, ⟨.call, 0⟩, ⟨.eq, 10⟩, ⟨.const, 10⟩,
    ⟨.jump, 0⟩, ⟨.leave, 24⟩, ⟨.enter, 8⟩, ⟨.arg, 8⟩, ⟨.const, 99⟩, ⟨.call, 0⟩, ⟨.leave, 8⟩]

theorem graph_exact_crossing :
    ∃ p c, load bare none (fileOf crossingCode [] []) {} = (.ok p, c) ∧ GraphExact p ∧
      p.analysis.jumps[(10 : Int)]? = some [7, 9] ∧ p.analysis.calls[(-5 : Int)]? = some [0, 0] ∧
      p.analysis.calls[(99 : Int)]? = some [11] ∧ p.analysis.parmCounts[(-5 : Int)]? = some (-1) ∧
      p.analysis.parmCounts[(99 : Int)]? = some 8 := by
  obtain ⟨p, c, hl, ht⟩ := exists_of_loadsWith bare (fileOf crossingCode [] [])
    (fun p => p.code = crossingCode && p.analysis.jumps[(10 : Int)]? = some [7, 9] &&
      p.analysis.calls[(-5 : Int)]? = some [0, 0] && p.analysis.calls[(99 : Int)]? = some [11] &&
      p.analysis.parmCounts[(99 : Int)]? = some 8) (by decide +kernel)
  simp only [Bool.and_eq_true, decide_eq_true_eq] at ht
  obtain ⟨⟨⟨⟨hcode, hjumps⟩, hcalls⟩, hcalls'⟩, hparms⟩ := ht
  have hexact := graph_exact hl
  refine ⟨p, c, hl, hexact, hjumps, hcalls, hcalls', ?_, hparms⟩
  -- behind an `arg`, and behind a `pop`
  have hat : ∀ (k : Nat) (i : Instruction), crossingCode[k]? = some i → p.code[k]? = some i := hcode ▸ fun _ _ h => h
  have harg : LastArg p.code 3 12 := (LastArg.arg (hat 1 _ rfl) rfl).other (hat 2 _ rfl) (by decide)
  have hpop : LastArg p.code 6 0 := (LastArg.reset (hat 4 _ rfl) (.inr rfl)).other (hat 5 _ rfl) (by decide)
  exact hexact.differ (-5) 12 0 3 6 ⟨2, _, rfl, hat 3 _ rfl, rfl, hat 2 _ rfl⟩ ⟨5, _, rfl, hat 6 _ rfl, rfl, hat 5 _ rfl⟩
    harg hpop (by decide)

end Program
end Disasm
