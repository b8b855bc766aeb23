import Mathlib
import Disasm.Analysis.Walk
import Disasm.Proofs.Instruction

/-!
# What a walk leaves in the tables

* `Passed`, `Passed.step`  what a walk carries of the instructions that it has passed;
* `Filed`  a function has a hash and a number of arguments;
* `Known`  along a walk, all functions that were entered and all that made calls are filed or current, and a
  local pointer was read behind the address of a local;
* `SwitchesOnly`  all that a switch changes of a walk;
* `known_step`  one instruction keeps this;
* `run_inv`, `run_inv_at`  what each instruction keeps holds when a walk has come to its end;
* `complete_of_run`  then all are filed.
-/

namespace Disasm

/-- the instructions behind the last `enter`, the last one first -/
def sinceEnter (past : List Instruction) : List Instruction := past.takeWhile fun i => i.op != .enter

theorem sinceEnter_enter {i : Instruction} (hop : i.op = .enter) (past : List Instruction) :
    sinceEnter (i :: past) = [] :=
  List.takeWhile_cons_of_neg (by rw [hop]; decide)

theorem sinceEnter_other {i : Instruction} (hop : i.op ≠ .enter) (past : List Instruction) :
    sinceEnter (i :: past) = i :: sinceEnter past :=
  List.takeWhile_cons_of_pos (bne_iff_ne.2 hop)

theorem reverse_take_succ {code : List Instruction} {k : Nat} {i : Instruction} (hi : code[k]? = some i) :
    (code.take (k + 1)).reverse = i :: (code.take k).reverse := by
  rw [List.take_add_one, hi, Option.toList_some, List.reverse_append]
  rfl

namespace Walk

/-! ## what a walk has passed -/

/-- A walk behind the instructions `past`, the last one first: it carries their number, the place behind them,
the last one and those of the current function. -/
structure Passed (past : List Instruction) (w : Walk) : Prop where
  index_eq : w.index = past.length
  pos_eq : w.pos = (Instruction.encodeAll past.reverse).length
  prev_eq : w.prev = past.head?.getD ⟨.undef, 0⟩
  ops_eq : w.ops = sinceEnter past

/-- where a walk is and what it carries of the code -/
def trail (w : Walk) : Int × Nat × Instruction × List Instruction := (w.index, w.pos, w.prev, w.ops)

/-- the tables have a hash and a number of arguments for a function -/
def Filed (t : Analysis) (f : Int) : Prop :=
  (∃ hash, t.hashes[f]? = some hash) ∧ ∃ n, t.maxArgs[f]? = some n

/-- what is known about functions, calls and pointer reads after the first `k` instructions -/
structure Known (code : List Instruction) (k : Nat) (w : Walk) : Prop where
  enters : ∀ j i, j < k → code[j]? = some i → i.op = .enter → (j : Int) = w.func ∨ Filed w.tables j
  callers : ∀ (target : Int) (fs : List Int), w.tables.calls[target]? = some fs →
    ∀ f ∈ fs, f = w.func ∨ Filed w.tables f
  noCalls : k = 0 → ∀ target : Int, w.tables.calls[target]? = none
  reads : ∀ (x : Int) (r : PointerRead), w.tables.pointerReads[x]? = some r → r.isLocal = true →
    ∃ (j : Nat) (i : Instruction), (j : Int) < x ∧ code[j]? = some i ∧ i.op = .localAddr

/-! ## steps that change nothing of this -/

/-- two walks agree on functions, calls and pointer reads -/
structure Alike (w w' : Walk) : Prop where
  func : w'.func = w.func
  hashes : w'.tables.hashes = w.tables.hashes
  maxArgs : w'.tables.maxArgs = w.tables.maxArgs
  calls : w'.tables.calls = w.tables.calls
  pointerReads : w'.tables.pointerReads = w.tables.pointerReads

theorem Alike.refl (w : Walk) : Alike w w := ⟨rfl, rfl, rfl, rfl, rfl⟩

/-- two walks differ at most in the tables of switches and in the warnings -/
def SwitchesOnly (w w' : Walk) : Prop :=
  ∃ switches switchStarts cases switchData warnings,
    w' = { w with tables := { w.tables with switches, switchStarts, cases, switchData }, warnings }

namespace SwitchesOnly

theorem refl (w : Walk) : SwitchesOnly w w := ⟨_, _, _, _, _, rfl⟩

theorem trans {u v w : Walk} (h : SwitchesOnly u v) (h' : SwitchesOnly v w) : SwitchesOnly u w := by
  obtain ⟨_, _, _, _, _, rfl⟩ := h
  obtain ⟨_, _, _, _, _, rfl⟩ := h'
  exact ⟨_, _, _, _, _, rfl⟩

theorem alike {w w' : Walk} (h : SwitchesOnly w w') : Alike w w' := by
  obtain ⟨_, _, _, _, _, rfl⟩ := h
  exact ⟨rfl, rfl, rfl, rfl, rfl⟩

theorem trail_eq {w w' : Walk} (h : SwitchesOnly w w') : w'.trail = w.trail := by
  obtain ⟨_, _, _, _, _, rfl⟩ := h
  rfl

theorem index_eq {w w' : Walk} (h : SwitchesOnly w w') : w'.index = w.index := congrArg Prod.fst h.trail_eq

theorem foldl_warn (texts : List String) (w : Walk) : SwitchesOnly w (texts.foldl warn w) := by
  induction texts generalizing w with
  | nil => exact refl w
  | cons t texts ih => exact trans (v := w.warn t) ⟨_, _, _, _, _, rfl⟩ (ih (w.warn t))

theorem addCase (size : Nat) (w : Walk) (s : Switch) (value : Int) (target : Nat) :
    SwitchesOnly w (Walk.addCase size w s value target) := by
  unfold Walk.addCase
  split <;> exact ⟨_, _, _, _, _, rfl⟩

theorem addCases (image : Image) (s : Switch) (n : Nat) (value : Int) (w : Walk) :
    SwitchesOnly w (Walk.addCases image s n value w).1 := by
  induction n generalizing value w with
  | zero => exact refl w
  | succ n ih =>
    unfold Walk.addCases
    split
    · exact (addCase _ w s value _).trans (ih _ _)
    · exact refl w

/-- a switch -/
theorem addSwitch (image : Image) (s : Switch) (w : Walk) : SwitchesOnly w (w.addSwitch image s).1 := by
  unfold Walk.addSwitch
  split
  · exact trans (v := w.setTables _) ⟨_, _, _, _, _, rfl⟩ (addCases image s _ _ _)
  · exact foldl_warn _ w

end SwitchesOnly

theorem Alike.visitJump (image : Image) (w : Walk) : Alike w (w.visitJump image).1 := by
  unfold Walk.visitJump
  split
  · exact ⟨rfl, rfl, rfl, rfl, rfl⟩
  · split
    · exact (SwitchesOnly.addSwitch image _ w).alike
    · exact refl w

/-! ## one instruction -/

/-- an `enter` forgets the instructions of the function before -/
theorem trail_visit_enter (image : Image) {i : Instruction} (hop : i.op = .enter) (w : Walk) :
    (visit image i w).1.trail = (w.index, w.pos, w.prev, []) := by
  unfold visit
  rw [hop]
  dsimp only
  unfold startFunction
  dsimp only
  split <;> rfl

theorem trail_visit_other (image : Image) {i : Instruction} (hop : i.op ≠ .enter) (w : Walk) :
    (visit image i w).1.trail = w.trail := by
  unfold visit
  split
  next => rfl
  next => rfl
  next => unfold addPointerRead; split <;> rfl
  next => unfold addPointerRead; split <;> rfl
  next => unfold addPointerRead; split <;> rfl
  next henter => exact absurd henter hop
  next =>
    unfold visitJump
    split
    · rfl
    · split
      · exact (SwitchesOnly.addSwitch image _ w).trail_eq
      · rfl
  next => unfold visitCall; split <;> rfl
  next => split <;> rfl

theorem index_visit (image : Image) (i : Instruction) (w : Walk) : (visit image i w).1.index = w.index := by
  by_cases hop : i.op = .enter
  · exact congrArg Prod.fst (trail_visit_enter image hop w)
  · exact congrArg Prod.fst (trail_visit_other image hop w)

namespace Passed
variable {past : List Instruction} {w : Walk} {i : Instruction}

theorem start (tables : Analysis) : Passed [] { tables } := ⟨rfl, rfl, rfl, rfl⟩

theorem pos_counted (h : Passed past w) : (counted i w).pos = (Instruction.encodeAll (i :: past).reverse).length := by
  rw [List.reverse_cons, Instruction.encodeAll_append, List.length_append, Instruction.encodeAll_singleton,
    Instruction.length_encode, ← h.pos_eq]
  rfl

/-- one instruction -/
theorem step (h : Passed past w) (image : Image) (i : Instruction) : Passed (i :: past) (Walk.step image i w).1 := by
  have hnext : (visit image i (counted i w)).1.index + 1 = ((i :: past).length : Int) := by
    rw [index_visit, List.length_cons, show (counted i w).index = _ from h.index_eq]
    rfl
  by_cases hop : i.op = .enter
  · have htrail := trail_visit_enter image hop (counted i w)
    simp only [trail, Prod.mk.injEq] at htrail
    obtain ⟨-, hpos, -, hops⟩ := htrail
    exact ⟨hnext, hpos.trans h.pos_counted, rfl, hops.trans (sinceEnter_enter hop past).symm⟩
  · have htrail := trail_visit_other image hop (counted i w)
    simp only [trail, Prod.mk.injEq] at htrail
    obtain ⟨-, hpos, -, hops⟩ := htrail
    refine ⟨hnext, hpos.trans h.pos_counted, rfl, hops.trans ?_⟩
    rw [sinceEnter_other hop, ← h.ops_eq]
    rfl

/-- an `enter` ends within the first five bytes only if it is the first instruction -/
theorem pos_counted_iff (h : Passed past w) (hop : i.op = .enter) : 5 < (counted i w).pos ↔ 0 < w.index := by
  have hpos : (counted i w).pos = w.pos + 5 := by
    show w.pos + (1 + i.op.width) = _
    rw [hop]
    rfl
  rw [hpos, h.pos_eq, h.index_eq]
  cases past with
  | nil => decide
  | cons j past =>
    have hle := Instruction.length_le_encodeAll (j :: past).reverse
    rw [List.length_reverse, List.length_cons] at hle
    rw [List.length_cons]
    omega

end Passed

theorem Known.of_alike {code : List Instruction} {k : Nat} {w w' : Walk} (h : Known code k w)
    (ha : Alike w w') : Known code k w' := by
  have hfiled : ∀ f, Filed w'.tables f = Filed w.tables f := fun f => by
    unfold Filed
    rw [ha.hashes, ha.maxArgs]
  refine ⟨?_, ?_, ?_, ?_⟩
  · intro j i hj hi hop
    rw [ha.func, hfiled]
    exact h.enters j i hj hi hop
  · intro target fs hfs f hf
    rw [ha.calls] at hfs
    rw [ha.func, hfiled]
    exact h.callers target fs hfs f hf
  · intro hk target
    rw [ha.calls]
    exact h.noCalls hk target
  · intro x r hr
    rw [ha.pointerReads] at hr
    exact h.reads x r hr

/-! ## functions and calls -/

theorem filed_insert {t : Analysis} {f g hash n : Int} {sizes : Std.TreeMap Int Int}
    {byHash : Std.TreeMap Int (List Int)} (h : f = g ∨ Filed t f) :
    Filed { t with sizes := sizes, hashes := t.hashes.insert g hash, byHash := byHash,
                   maxArgs := t.maxArgs.insert g n } f := by
  unfold Filed
  dsimp only
  rw [Std.TreeMap.getElem?_insert, Std.TreeMap.getElem?_insert]
  by_cases hg : compare g f = .eq
  · rw [if_pos hg, if_pos hg]
    exact ⟨⟨_, rfl⟩, _, rfl⟩
  · rw [if_neg hg, if_neg hg]
    exact h.resolve_left fun he => hg (by rw [he]; exact Std.ReflCmp.compare_self)

theorem filed_endFunction {w : Walk} {f : Int} (h : f = w.func ∨ Filed w.tables f) :
    Filed w.endFunction.tables f := filed_insert h

variable {code : List Instruction} {k : Nat} {w : Walk} {i : Instruction}

/-- the instruction that a walk passes; an `enter` has to be the current function then -/
theorem Known.advance (h : Known code k w) (hi : code[k]? = some i) (he : i.op = .enter → w.func = k) :
    Known code (k + 1) (Walk.advance i w) where
  enters j i' hj hi' hop := by
    rcases Nat.lt_succ_iff_lt_or_eq.1 hj with hlt | rfl
    · exact h.enters j i' hlt hi' hop
    · rw [hi] at hi'
      exact .inl (he (Option.some.inj hi' ▸ hop)).symm
  callers := h.callers
  noCalls hk := nomatch hk
  reads := h.reads

/-- a function starts at the current instruction -/
theorem Known.startFunction (h : Known code k w) (hfirst : ¬ 5 < w.pos → k = 0) : Known code k w.startFunction := by
  unfold Walk.startFunction
  dsimp only
  split
  next hpos =>
    refine ⟨?_, ?_, ?_, h.reads⟩
    · exact fun j i hj hi hop => .inr (filed_endFunction (h.enters j i hj hi hop))
    · exact fun target fs hfs f hf => .inr (filed_endFunction (h.callers target fs hfs f hf))
    · exact h.noCalls
  next hpos =>
    -- nothing stands in front of the first instruction
    have hk : k = 0 := hfirst hpos
    refine ⟨fun j i hj => ?_, fun target fs hfs => ?_, h.noCalls, h.reads⟩
    · rw [hk] at hj
      exact absurd hj (Nat.not_lt_zero j)
    · rw [show _ = _ from h.noCalls hk target] at hfs
      cases hfs

/-- the current function makes a call -/
theorem Known.addCall (h : Known code k w) (hk : k ≠ 0) (target : Int) : Known code k (w.addCall target) := by
  refine ⟨h.enters, fun t fs hfs f hf => ?_, fun h0 => absurd h0 hk, h.reads⟩
  change (append w.tables.calls target w.func)[t]? = some fs at hfs
  unfold append at hfs
  rw [Std.TreeMap.getElem?_alter] at hfs
  split at hfs
  · cases hfs
    rcases List.mem_append.1 hf with hf | hf
    · cases hc : w.tables.calls[target]? with
      | none => rw [hc] at hf; cases hf
      | some gs => rw [hc] at hf; exact h.callers target gs hc f hf
    · exact .inl (List.mem_singleton.1 hf)
  · exact h.callers t fs hfs f hf

theorem Known.visitCall (h : Known code k w) (hprev : w.prev.op = .const → k ≠ 0) : Known code k w.visitCall := by
  unfold Walk.visitCall
  split
  next hconst => exact h.addCall (hprev hconst) _
  next => exact h

/-! ## pointer reads -/

theorem pointerRead?_eq_some_iff {past : List Instruction} {r : PointerRead} :
    pointerRead? past = some r ↔
      ∃ address load offset add rest, past = add :: offset :: load :: address :: rest ∧
        (address.op = .const ∨ address.op = .localAddr) ∧ load.op = .load4 ∧ offset.op = .const ∧ add.op = .add ∧
        r = ⟨address.op = .localAddr, address.parm, offset.parm⟩ := by
  constructor
  · intro h
    unfold pointerRead? at h
    split at h
    next add offset load address rest =>
      split at h
      next hops =>
        refine ⟨address, load, offset, add, rest, rfl, ?_⟩
        split at h
        next ha =>
          cases h
          exact ⟨.inl ha, hops.2.2, hops.2.1, hops.1, by simp [ha]⟩
        next =>
          split at h
          next ha =>
            cases h
            exact ⟨.inr ha, hops.2.2, hops.2.1, hops.1, by simp [ha]⟩
          next => cases h
      next => cases h
    next => cases h
  · rintro ⟨address, load, offset, add, rest, rfl, ha, hl, ho, hadd, rfl⟩
    unfold pointerRead?
    dsimp only
    rw [if_pos ⟨hadd, ho, hl⟩]
    rcases ha with ha | ha
    · simp [ha]
    · simp [ha]

/-- no pattern reaches over the start of a function -/
theorem pointerRead?_sinceEnter (past : List Instruction) :
    pointerRead? (sinceEnter past) = pointerRead? past := by
  unfold sinceEnter
  apply Option.ext
  intro r
  rw [pointerRead?_eq_some_iff, pointerRead?_eq_some_iff]
  constructor
  · rintro ⟨address, load, offset, add, rest, hpast, hpattern⟩
    refine ⟨address, load, offset, add, rest ++ past.dropWhile fun i => i.op != .enter, ?_, hpattern⟩
    conv => lhs; rw [← List.takeWhile_append_dropWhile (p := fun i => i.op != .enter) (l := past), hpast]
    simp only [List.cons_append]
  · rintro ⟨address, load, offset, add, rest, rfl, ha, hl, ho, hadd, hr⟩
    refine ⟨address, load, offset, add, rest.takeWhile fun i => i.op != .enter, ?_, ha, hl, ho, hadd, hr⟩
    have haddress : (address.op != .enter) = true := by rcases ha with h | h <;> rw [h] <;> rfl
    simp [hl, ho, hadd, haddress]

/-- a pointer among the locals is read behind the address of a local -/
theorem local_of_pointerRead? {past : List Instruction} {r : PointerRead} (h : pointerRead? past = some r)
    (hl : r.isLocal = true) : ∃ a ∈ past, a.op = .localAddr := by
  obtain ⟨address, load, offset, add, rest, rfl, -, -, -, -, rfl⟩ := pointerRead?_eq_some_iff.1 h
  exact ⟨address, by simp, of_decide_eq_true hl⟩

theorem Known.addPointerRead (h : Known code k w) (hindex : w.index = k) (hops : w.ops.tail ⊆ code.take k) :
    Known code k w.addPointerRead := by
  unfold Walk.addPointerRead
  split
  next r hr =>
    refine ⟨h.enters, h.callers, h.noCalls, fun x r' hx hl => ?_⟩
    change (w.tables.pointerReads.insert w.index r)[x]? = some r' at hx
    rw [Std.TreeMap.getElem?_insert] at hx
    split at hx
    next he =>
      cases hx
      obtain ⟨a, ha, hop⟩ := local_of_pointerRead? hr hl
      obtain ⟨j, hj⟩ := List.mem_iff_getElem?.1 (hops ha)
      rw [List.getElem?_take] at hj
      split at hj
      next hlt =>
        refine ⟨j, a, ?_, hj, hop⟩
        rw [← Std.LawfulEqCmp.eq_of_compare he, hindex]
        omega
      next => cases hj
    next => exact h.reads x r' hx hl
  next => exact h

/-! ## the walk -/

theorem func_startFunction (w : Walk) : w.startFunction.func = w.index := by
  unfold startFunction
  dsimp only
  split <;> rfl

/-- an `enter` becomes the current function -/
theorem func_visit_enter (image : Image) (hop : i.op = .enter) (w : Walk) : (visit image i w).1.func = w.index := by
  unfold visit
  rw [hop]
  exact func_startFunction w

/-- what an instruction does to the tables -/
theorem Known.visit (image : Image) (h : Known code k w) (hp : Passed (code.take k).reverse w) (hindex : w.index = k) :
    Known code k (visit image i (counted i w)).1 := by
  have hc : Known code k (counted i w) := h.of_alike ⟨rfl, rfl, rfl, rfl, rfl⟩
  have hread : Known code k (counted i w).addPointerRead := hc.addPointerRead hindex fun a ha => by
    have hmem : a ∈ sinceEnter (code.take k).reverse := hp.ops_eq ▸ ha
    exact List.mem_reverse.1 ((List.takeWhile_sublist _).subset hmem)
  unfold Walk.visit
  split
  next => exact hc.of_alike ⟨rfl, rfl, rfl, rfl, rfl⟩
  next => exact hc.of_alike ⟨rfl, rfl, rfl, rfl, rfl⟩
  next => exact hread
  next => exact hread
  next => exact hread
  next hop =>
    refine hc.startFunction fun hpos => ?_
    have hfirst := mt (hp.pos_counted_iff hop).2 hpos
    omega
  next => exact hc.of_alike (.visitJump image _)
  next =>
    refine hc.visitCall fun hconst hk => ?_
    -- nothing has been pushed in front of the first instruction
    rw [show (counted i w).prev = _ from hp.prev_eq, hk] at hconst
    cases hconst
  next =>
    split
    · exact hc.of_alike ⟨rfl, rfl, rfl, rfl, rfl⟩
    · exact hc

/-- one instruction -/
theorem known_step (image : Image) (h : Known code k w) (hp : Passed (code.take k).reverse w) (hindex : w.index = k)
    (hi : code[k]? = some i) : Known code (k + 1) (step image i w).1 :=
  (h.visit image hp hindex).advance hi fun hop => (func_visit_enter image hop _).trans hindex

/-- what each instruction keeps holds at the end of a walk over the whole code -/
theorem run_inv {I : Nat → Walk → Prop} {image : Image} {w w' : Walk} (h0 : I 0 w)
    (hs : ∀ k i v v', I k v → code[k]? = some i → step image i v = (v', none) → I (k + 1) v')
    (hrun : run image code w = (w', none)) : I code.length w' := by
  -- the walk from the instruction `k` on
  have hfrom : ∀ (rest : List Instruction) (k : Nat) (v : Walk), I k v → k ≤ code.length → code.drop k = rest →
      run image rest v = (w', none) → I code.length w' := by
    intro rest
    induction rest with
    | nil =>
      intro k v hI hk hrest h
      cases h
      rwa [Nat.le_antisymm (List.drop_eq_nil_iff.1 hrest) hk]
    | cons i rest ih =>
      intro k v hI hk hrest h
      have hi : code[k]? = some i := by rw [← List.head?_drop, hrest]; rfl
      have hrest' : code.drop (k + 1) = rest := by rw [← List.tail_drop, hrest]; rfl
      unfold run at h
      split at h
      next v' hv => exact ih (k + 1) v' (hs k i v v' hI hi hv) (List.getElem?_eq_some_iff.1 hi).1 hrest' h
      next => cases h
  exact hfrom code 0 w h0 (Nat.zero_le _) List.drop_zero hrun

/-- what each instruction keeps holds at the end of a walk; on the way, the walk knows where it is and what it has
passed -/
theorem run_inv_at {I : Nat → Walk → Prop} {image : Image} {tables : Analysis} {w : Walk} (h0 : I 0 { tables })
    (hs : ∀ (k : Nat) (i : Instruction) (v : Walk), v.index = k → Passed (code.take k).reverse v → I k v →
      code[k]? = some i → (step image i v).2 = none → I (k + 1) (step image i v).1)
    (hrun : run image code { tables } = (w, none)) : I code.length w := by
  refine (run_inv (I := fun k w => Passed (code.take k).reverse w ∧ I k w) ⟨Passed.start tables, h0⟩ ?_ hrun).2
  intro k i v v' ⟨hpast, hv⟩ hi hstep
  have hindex : v.index = k := by
    rw [hpast.index_eq, List.length_reverse, List.length_take,
      Nat.min_eq_left (List.getElem?_eq_some_iff.1 hi).1.le]
  have hpast' := hpast.step image i
  have hv' := hs k i v hindex hpast hv hi (by rw [hstep])
  rw [hstep] at hpast' hv'
  rw [reverse_take_succ hi]
  exact ⟨hpast', hv'⟩

/-- the tables of a walk over the whole code -/
structure Complete (code : List Instruction) (t : Analysis) : Prop where
  enters : ∀ (j : Nat) (i : Instruction), code[j]? = some i → i.op = .enter → Filed t j
  callers : ∀ (target : Int) (fs : List Int), t.calls[target]? = some fs → ∀ f ∈ fs, Filed t f
  reads : ∀ (x : Int) (r : PointerRead), t.pointerReads[x]? = some r → r.isLocal = true →
    ∃ (j : Nat) (i : Instruction), (j : Int) < x ∧ code[j]? = some i ∧ i.op = .localAddr

/-- every function that is entered or makes a call is filed when the last one has been ended -/
theorem complete_of_run {image : Image} {w : Walk} (h : run image code { tables := {} } = (w, none)) :
    Complete code w.endFunction.tables := by
  have hnone : ∀ target : Int, (({} : Analysis).calls)[target]? = none := fun _ => Std.TreeMap.getElem?_emptyc
  have h0 : Known code 0 { tables := {} } := by
    refine ⟨fun j i hj => absurd hj (Nat.not_lt_zero j), fun t fs hfs => ?_, fun _ => hnone,
      fun x r hr => ?_⟩
    · rw [show _ = _ from hnone t] at hfs
      cases hfs
    · rw [show (({} : Analysis).pointerReads)[x]? = none from Std.TreeMap.getElem?_emptyc] at hr
      cases hr
  have hw := run_inv_at (I := Known code) h0 (fun k i v hindex hp hv hi _ => known_step image hv hp hindex hi) h
  refine ⟨fun j i hi hop => ?_, fun t fs hfs f hf => ?_, hw.reads⟩
  · exact filed_endFunction (hw.enters j i (List.getElem?_eq_some_iff.1 hi).1 hi hop)
  · exact filed_endFunction (hw.callers t fs hfs f hf)

end Walk
end Disasm
