import Mathlib
import Disasm.Proofs.Analysis
import Disasm.Proofs.Program

/-!
# The hash of a function

The walk collects the text of a function from the instruction behind its `enter` on.  The text is closed by
the next `enter`, whose code still counts for it, or by the end of the program, where nothing does.

* `Functions`  the part of a walk that is about functions, with a step of its own;
* `functions_run`  a walk changes this part by these steps and nothing else;
* `functionAt code a`, `hashText`  the instructions of the function at `a`, and the text of instructions;
* `hashes_of_last`, `hashes_of_followed`  the hash that a whole walk files for the function at `a`;
* `hash_eq_iff`  when two functions with the same instructions have the same hash.
-/

namespace Disasm

/-- the text of some instructions for a hash -/
def hashText (is : List Instruction) : String :=
  String.join (is.map fun i => toString i.op.code ++ Walk.parmText i)

theorem hashText_cons (i : Instruction) (is : List Instruction) :
    hashText (i :: is) = hashText [i] ++ hashText is := by
  unfold hashText
  simp only [List.map_cons, List.map_nil, String.join_cons, String.join_nil, String.append_empty]

/-! ## the functions of a walk -/

/-- what a walk keeps about functions -/
structure Functions where
  index : Int
  func : Int
  count : Int
  text : String
  maxArg : Int
  sizes : Std.TreeMap Int Int
  hashes : Std.TreeMap Int Int
  byHash : Std.TreeMap Int (List Int)
  maxArgs : Std.TreeMap Int Int

namespace Functions

/-- files the current function -/
def filed (f : Functions) : Functions :=
  { f with
    sizes := f.sizes.insert f.func f.count
    hashes := f.hashes.insert f.func (textHash f.text)
    byHash := append f.byHash (textHash f.text) f.func
    maxArgs := f.maxArgs.insert f.func f.maxArg }

/-- starts the function at the current instruction -/
def start (f : Functions) : Functions :=
  { (if 0 < f.index then f.filed else f) with func := f.index, count := 1, text := "", maxArg := 8 }

def counted (i : Instruction) (f : Functions) : Functions :=
  { f with count := f.count + 1, text := f.text ++ hashText [i] }

/-- what an instruction does beyond being counted -/
def visit (i : Instruction) (f : Functions) : Functions :=
  if i.op = .enter then f.start
  else if i.op = .arg then { f with maxArg := max f.maxArg i.parm }
  else f

def step (f : Functions) (i : Instruction) : Functions :=
  { visit i (f.counted i) with index := f.index + 1 }

theorem index_step (f : Functions) (i : Instruction) : (f.step i).index = f.index + 1 := rfl

section
variable {i : Instruction} {f : Functions}

/-- an `enter` files the function that it ends, and is counted for it -/
theorem step_enter (hi : i.op = .enter) (hf : 0 < f.index) :
    f.step i = { (f.counted i).filed with
      func := f.index, count := 1, text := "", maxArg := 8, index := f.index + 1 } := by
  unfold step visit start
  rw [if_pos hi, if_pos (show 0 < (f.counted i).index from hf)]
  rfl

/-- nothing is filed at the start of the code -/
theorem step_first (hi : i.op = .enter) (hf : ¬ 0 < f.index) :
    f.step i = { f with func := f.index, count := 1, text := "", maxArg := 8, index := f.index + 1 } := by
  unfold step visit start
  rw [if_pos hi, if_neg (show ¬ 0 < (f.counted i).index from hf)]
  rfl

theorem step_other (hi : i.op ≠ .enter) :
    f.step i = { f.counted i with
      maxArg := if i.op = .arg then max f.maxArg i.parm else f.maxArg, index := f.index + 1 } := by
  unfold step visit
  rw [if_neg hi]
  split <;> rfl

end

theorem func_step_enter {i : Instruction} (hi : i.op = .enter) (f : Functions) :
    (f.step i).func = f.index := by
  by_cases hf : 0 < f.index
  · rw [step_enter hi hf]
  · rw [step_first hi hf]

theorem text_step_enter {i : Instruction} (hi : i.op = .enter) (f : Functions) :
    (f.step i).text = "" := by
  by_cases hf : 0 < f.index
  · rw [step_enter hi hf]
  · rw [step_first hi hf]

/-- the text is hashed with the code of the `enter` that closes it -/
theorem hashes_step_enter {i : Instruction} (hi : i.op = .enter) {f : Functions} (hf : 0 < f.index) :
    (f.step i).hashes = f.hashes.insert f.func (textHash (f.text ++ hashText [i])) := by
  rw [step_enter hi hf]
  rfl

section
variable {i : Instruction} (hi : i.op ≠ .enter) (f : Functions)
include hi

theorem func_step_other : (f.step i).func = f.func := by
  rw [step_other hi]
  rfl

theorem text_step_other : (f.step i).text = f.text ++ hashText [i] := by
  rw [step_other hi]
  rfl

theorem hashes_step_other : (f.step i).hashes = f.hashes := by
  rw [step_other hi]
  rfl

end

end Functions

namespace Walk

def functions (w : Walk) : Functions :=
  ⟨w.index, w.func, w.count, w.text, w.maxArg, w.tables.sizes, w.tables.hashes, w.tables.byHash,
    w.tables.maxArgs⟩

theorem SwitchesOnly.functions_eq {w w' : Walk} (h : SwitchesOnly w w') : w'.functions = w.functions := by
  obtain ⟨_, _, _, _, _, rfl⟩ := h
  rfl

theorem functions_visitJump (image : Image) (w : Walk) :
    (w.visitJump image).1.functions = w.functions := by
  unfold visitJump
  split
  · rfl
  · split
    · exact (SwitchesOnly.addSwitch image _ w).functions_eq
    · rfl

theorem functions_addPointerRead (w : Walk) : w.addPointerRead.functions = w.functions := by
  unfold addPointerRead
  split <;> rfl

theorem functions_visitCall (w : Walk) : w.visitCall.functions = w.functions := by
  unfold visitCall
  split <;> rfl

theorem functions_startFunction {w : Walk} (hpos : 5 < w.pos ↔ 0 < w.index) :
    w.startFunction.functions = w.functions.start := by
  unfold startFunction Functions.start
  by_cases h : 0 < w.index
  · rw [if_pos (hpos.2 h), if_pos (show 0 < w.functions.index from h)]
    rfl
  · rw [if_neg (mt hpos.1 h), if_neg (show ¬ 0 < w.functions.index from h)]
    rfl

theorem functions_counted (i : Instruction) (w : Walk) :
    (counted i w).functions = w.functions.counted i := by
  have htext : w.text ++ hashText [i] = w.text ++ toString i.op.code ++ parmText i := by
    unfold hashText
    simp only [List.map_cons, List.map_nil, String.join_cons, String.join_nil, String.append_empty,
      String.append_assoc]
  unfold Functions.counted functions
  dsimp only
  rw [htext]
  rfl

theorem functions_visit (image : Image) {i : Instruction} {w : Walk}
    (hpos : i.op = .enter → (5 < w.pos ↔ 0 < w.index)) :
    (visit image i w).1.functions = w.functions.visit i := by
  unfold visit Functions.visit
  split
  next hop => rw [hop]; rfl
  next hop => rw [hop]; rfl
  next hop => rw [hop]; exact functions_addPointerRead w
  next hop => rw [hop]; exact functions_addPointerRead w
  next hop => rw [hop]; exact functions_addPointerRead w
  next hop => rw [hop]; exact functions_startFunction (hpos hop)
  next hop => rw [hop]; exact functions_visitJump image w
  next hop => rw [hop]; exact functions_visitCall w
  next hpop harg hl1 hl2 hl4 henter hjump hcall =>
    rw [if_neg henter, if_neg harg]
    split <;> rfl

/-- one instruction -/
theorem functions_step {past : List Instruction} {w : Walk} (hp : Passed past w) (image : Image) (i : Instruction) :
    (step image i w).1.functions = w.functions.step i := by
  have h : (visit image i (counted i w)).1.functions = (w.functions.counted i).visit i := by
    rw [functions_visit image fun hop => hp.pos_counted_iff hop, functions_counted]
  have hindex : (visit image i (counted i w)).1.index = w.index := index_visit image i (counted i w)
  unfold Functions.step
  rw [← h]
  unfold step advance functions
  dsimp only
  rw [hindex]

/-- a walk that comes to its end changes the functions instruction by instruction -/
theorem functions_run {image : Image} {is past : List Instruction} {w w' : Walk} (hp : Passed past w)
    (h : run image is w = (w', none)) : w'.functions = is.foldl Functions.step w.functions := by
  induction is generalizing past w with
  | nil => cases h; rfl
  | cons i is ih =>
    unfold run at h
    split at h
    next v hv =>
      have hstep : v.functions = w.functions.step i := by
        rw [← functions_step hp image i, hv]
      have hnext := hp.step image i
      rw [hv] at hnext
      rw [ih hnext h, List.foldl_cons, hstep]
    next => cases h

end Walk

/-! ## one function -/

/-- an `enter` stands at an address -/
def EnterAt (code : List Instruction) (a : Nat) : Prop := ∃ i, code[a]? = some i ∧ i.op = .enter

/-- the instructions from `a` on, up to the next `enter` or the end -/
def functionAt (code : List Instruction) (a : Nat) : List Instruction :=
  (code.drop a).take 1 ++ (code.drop (a + 1)).takeWhile fun i => i.op != .enter

/-- another function starts behind the one at `a` -/
def Followed (code : List Instruction) (a : Nat) : Prop := ∃ b, a < b ∧ EnterAt code b

namespace Functions

theorem index_foldl (is : List Instruction) (f : Functions) :
    (is.foldl step f).index = f.index + is.length := by
  induction is generalizing f with
  | nil => simp
  | cons i is ih =>
    rw [List.foldl_cons, ih, index_step, List.length_cons]
    push_cast
    ring

/-- instructions inside a function are collected in its text -/
theorem foldl_inside (is : List Instruction) (h : ∀ i ∈ is, i.op ≠ .enter) (f : Functions) :
    (is.foldl step f).func = f.func ∧ (is.foldl step f).text = f.text ++ hashText is ∧
      (is.foldl step f).hashes = f.hashes := by
  induction is generalizing f with
  | nil =>
    refine ⟨rfl, ?_, rfl⟩
    show f.text = f.text ++ hashText []
    rw [show hashText [] = "" from rfl, String.append_empty]
  | cons i is ih =>
    have hi : i.op ≠ .enter := h i List.mem_cons_self
    obtain ⟨hfunc, htext, hhashes⟩ := ih (fun j hj => h j (List.mem_cons_of_mem i hj)) (f.step i)
    rw [List.foldl_cons]
    refine ⟨?_, ?_, ?_⟩
    · rw [hfunc, func_step_other hi]
    · rw [htext, text_step_other hi, hashText_cons i is, String.append_assoc]
    · rw [hhashes, hashes_step_other hi]

/-- a function that has been filed and left keeps its hash -/
theorem hashes_foldl_left (is : List Instruction) {f : Functions} {a : Int} (hfunc : a < f.func)
    (hindex : a < f.index) :
    (is.foldl step f).hashes[a]? = f.hashes[a]? ∧ a < (is.foldl step f).func := by
  induction is generalizing f with
  | nil => exact ⟨rfl, hfunc⟩
  | cons i is ih =>
    have hnext : a < (f.step i).index := by
      rw [index_step]
      omega
    rw [List.foldl_cons]
    by_cases hi : i.op = .enter
    · obtain ⟨hh, hf⟩ := ih (f := f.step i) (by rw [func_step_enter hi]; exact hindex) hnext
      refine ⟨?_, hf⟩
      rw [hh]
      by_cases hpos : 0 < f.index
      · rw [hashes_step_enter hi hpos, Std.TreeMap.getElem?_insert, if_neg]
        intro he
        rw [Std.LawfulEqCmp.eq_of_compare he] at hfunc
        exact lt_irrefl a hfunc
      · unfold step visit start
        rw [if_pos hi, if_neg (show ¬ 0 < (f.counted i).index from hpos)]
        rfl
    · obtain ⟨hh, hf⟩ := ih (f := f.step i) (by rw [func_step_other hi]; exact hfunc) hnext
      exact ⟨by rw [hh, hashes_step_other hi], hf⟩

end Functions

section
variable {code : List Instruction} {a : Nat}

theorem functionAt_eq_cons {e : Instruction} (he : code[a]? = some e) :
    functionAt code a = e :: (code.drop (a + 1)).takeWhile fun i => i.op != .enter := by
  obtain ⟨hlt, hget⟩ := List.getElem?_eq_some_iff.1 he
  unfold functionAt
  rw [List.drop_eq_getElem_cons hlt, hget]
  rfl

/-- an address behind `a` is one of the instructions behind `a` -/
theorem followed_iff : Followed code a ↔ ∃ i ∈ code.drop (a + 1), i.op = .enter := by
  constructor
  · rintro ⟨b, hb, i, hi, hop⟩
    refine ⟨i, List.mem_of_getElem? (i := b - (a + 1)) ?_, hop⟩
    rw [List.getElem?_drop, ← hi]
    congr 1
    omega
  · rintro ⟨i, hi, hop⟩
    obtain ⟨k, hk⟩ := List.mem_iff_getElem?.1 hi
    rw [List.getElem?_drop] at hk
    exact ⟨a + 1 + k, by omega, i, hk, hop⟩

/-- the functions when the walk comes to the end of the one at `a` -/
theorem functions_at_end {f : Functions} (h0 : f.index = 0) (ha : EnterAt code a) :
    ∃ (g : Functions) (rest : List Instruction), code.foldl Functions.step f = rest.foldl Functions.step g ∧
      rest = (code.drop (a + 1)).dropWhile (fun i => i.op != .enter) ∧
      g.func = a ∧ (a : Int) < g.index ∧ g.text = hashText (functionAt code a).tail := by
  obtain ⟨e, he, hop⟩ := ha
  obtain ⟨hlt, hget⟩ := List.getElem?_eq_some_iff.1 he
  have hbody : (functionAt code a).tail = (code.drop (a + 1)).takeWhile fun i => i.op != .enter := by
    rw [functionAt_eq_cons he]
    rfl
  rw [hbody]
  generalize hb : (code.drop (a + 1)).takeWhile (fun i => i.op != .enter) = body
  generalize hr : (code.drop (a + 1)).dropWhile (fun i => i.op != .enter) = rest
  have hinside : ∀ i ∈ body, i.op ≠ .enter := by
    intro i hi
    rw [← hb] at hi
    simpa using List.mem_takeWhile_imp hi
  have hcode : code = code.take a ++ e :: (body ++ rest) := by
    rw [← hb, ← hr, List.takeWhile_append_dropWhile, ← hget, ← List.drop_eq_getElem_cons hlt,
      List.take_append_drop]
  -- the functions in front of the `enter`, and behind it
  have h1 : ((code.take a).foldl Functions.step f).index = a := by
    rw [Functions.index_foldl, h0, List.length_take]
    omega
  generalize hf1 : (code.take a).foldl Functions.step f = f1 at h1
  obtain ⟨hfunc, htext, -⟩ := Functions.foldl_inside body hinside (f1.step e)
  refine ⟨body.foldl Functions.step (f1.step e), rest, ?_, rfl, ?_, ?_, ?_⟩
  · rw [hcode, List.foldl_append, List.foldl_cons, List.foldl_append, hf1]
  · rw [hfunc, Functions.func_step_enter hop, h1]
  · rw [Functions.index_foldl, Functions.index_step, h1]
    omega
  · rw [htext, Functions.text_step_enter hop, String.empty_append]

theorem hashes_filed (f : Functions) : f.filed.hashes[f.func]? = some (textHash f.text) :=
  Std.TreeMap.getElem?_insert_self

/-- the function behind which no other starts is filed at the end, with its own text -/
theorem hashes_of_last {f : Functions} (h0 : f.index = 0) (ha : EnterAt code a)
    (hlast : ¬ Followed code a) :
    ((code.foldl Functions.step f).filed).hashes[(a : Int)]? =
      some (textHash (hashText (functionAt code a).tail)) := by
  obtain ⟨g, rest, hfold, hrest, hfunc, -, htext⟩ := functions_at_end h0 ha
  have hnil : rest = [] := by
    rw [hrest, List.dropWhile_eq_nil_iff]
    intro i hi
    simp only [bne_iff_ne, ne_eq]
    exact fun hop => hlast (followed_iff.2 ⟨i, hi, hop⟩)
  rw [hfold, hnil, List.foldl_nil, ← hfunc, hashes_filed, htext]

/-- any other function is filed by the next `enter`, which counts for its text -/
theorem hashes_of_followed {f : Functions} (h0 : f.index = 0) (ha : EnterAt code a)
    (hnext : Followed code a) :
    ((code.foldl Functions.step f).filed).hashes[(a : Int)]? =
      some (textHash (hashText (functionAt code a).tail ++ toString Opcode.enter.code)) := by
  obtain ⟨g, rest, hfold, hrest, hfunc, hindex, htext⟩ := functions_at_end h0 ha
  obtain ⟨i, hi, hop⟩ := followed_iff.1 hnext
  cases rest with
  | nil =>
    have := List.dropWhile_eq_nil_iff.1 hrest.symm i hi
    simp [hop] at this
  | cons e rest =>
    have he : e.op = .enter := by
      have := List.head_dropWhile_not (fun i : Instruction => i.op != .enter) (l := code.drop (a + 1))
        (by rw [← hrest]; exact List.cons_ne_nil e rest)
      simp only [← hrest, List.head_cons] at this
      simpa using this
    have hpos : 0 < g.index := by omega
    have hmark : hashText [e] = toString Opcode.enter.code := by
      simp [hashText, Walk.parmText, he]
    have hstep : (g.step e).hashes[(a : Int)]? =
        some (textHash (hashText (functionAt code a).tail ++ toString Opcode.enter.code)) := by
      rw [Functions.hashes_step_enter he hpos, hfunc, Std.TreeMap.getElem?_insert_self, htext, hmark]
    -- all functions that are filed later stand behind this one
    obtain ⟨hkeep, hlater⟩ := Functions.hashes_foldl_left rest (f := g.step e) (a := a)
      (by rw [Functions.func_step_enter he]; exact hindex) (by rw [Functions.index_step]; omega)
    rw [hfold, List.foldl_cons]
    show ((rest.foldl Functions.step (g.step e)).hashes.insert _ _)[(a : Int)]? = _
    rw [Std.TreeMap.getElem?_insert, if_neg, hkeep, hstep]
    intro he'
    rw [Std.LawfulEqCmp.eq_of_compare he'] at hlater
    exact lt_irrefl _ hlater

end

namespace Program

/-- Two functions with the same instructions have the same hash exactly when another function starts behind
both or behind neither, or when the code of an `enter` at the end of their text does not change its
hash. -/
theorem hash_eq_iff {d : Directory} {type : Option String} {file : ByteArray} {c c' : Console}
    {p : Program} (hload : load d type file c = (.ok p, c')) {a b : Nat} (ha : EnterAt p.code a)
    (hb : EnterAt p.code b) (hsame : functionAt p.code a = functionAt p.code b) :
    ∃ x y, p.analysis.hashes[(a : Int)]? = some x ∧ p.analysis.hashes[(b : Int)]? = some y ∧
      (x = y ↔ (Followed p.code a ↔ Followed p.code b) ∨
        textHash (hashText (functionAt p.code a).tail) =
          textHash (hashText (functionAt p.code a).tail ++ toString Opcode.enter.code)) := by
  obtain ⟨w, hw, ht⟩ := (load_eq_ok hload).walk_ok
  have hrun := Walk.functions_run (Walk.Passed.start _) hw
  generalize hf : ({ tables := {} } : Walk).functions = f at hrun
  have h0 : f.index = 0 := by
    rw [← hf]
    rfl
  have hhash : p.analysis.hashes = w.functions.filed.hashes := by
    rw [ht]
    rfl
  rw [hhash, hrun]
  by_cases hna : Followed p.code a
  · by_cases hnb : Followed p.code b
    · refine ⟨_, _, hashes_of_followed h0 ha hna, hashes_of_followed h0 hb hnb, ?_⟩
      simp [hsame, hna, hnb]
    · refine ⟨_, _, hashes_of_followed h0 ha hna, hashes_of_last h0 hb hnb, ?_⟩
      simp only [hsame, hna, hnb, iff_false, not_true, false_or]
      exact eq_comm
  · by_cases hnb : Followed p.code b
    · refine ⟨_, _, hashes_of_last h0 ha hna, hashes_of_followed h0 hb hnb, ?_⟩
      simp [hsame, hna, hnb]
    · refine ⟨_, _, hashes_of_last h0 ha hna, hashes_of_last h0 hb hnb, ?_⟩
      simp [hsame, hna, hnb]

/-- three functions with the same instructions -/
def repeatedCode : List Instruction :=
  [⟨.enter, 8⟩, ⟨.const, -3⟩, ⟨.leave, 8⟩, ⟨.enter, 8⟩, ⟨.const, -3⟩, ⟨.leave, 8⟩, ⟨.enter, 8⟩, ⟨.const, -3⟩,
    ⟨.leave, 8⟩]

theorem hash_eq_repeated :
    ∃ p c, load bare none (fileOf repeatedCode [] []) {} = (.ok p, c) ∧ EnterAt p.code 0 ∧ EnterAt p.code 3 ∧
      functionAt p.code 0 = functionAt p.code 3 ∧
      ∃ x, p.analysis.hashes[(0 : Int)]? = some x ∧ p.analysis.hashes[(3 : Int)]? = some x := by
  obtain ⟨p, c, hl, ht⟩ := exists_of_loadsWith bare (fileOf repeatedCode [] [])
    (fun p => p.code = repeatedCode) (by decide +kernel)
  have hcode : p.code = repeatedCode := of_decide_eq_true ht
  have h0 : EnterAt p.code 0 := hcode ▸ ⟨_, rfl, rfl⟩
  have h3 : EnterAt p.code 3 := hcode ▸ ⟨_, rfl, rfl⟩
  have hsame : functionAt p.code 0 = functionAt p.code 3 := by
    rw [hcode]
    decide
  have hnext0 : Followed p.code 0 := ⟨3, by decide, h3⟩
  have hnext3 : Followed p.code 3 := ⟨6, by decide, hcode ▸ ⟨_, rfl, rfl⟩⟩
  obtain ⟨x, y, hx, hy, hxy⟩ := hash_eq_iff hl h0 h3 hsame
  cases hxy.2 (.inl ⟨fun _ => hnext3, fun _ => hnext0⟩)
  exact ⟨p, c, hl, h0, h3, hsame, x, hx, hy⟩

/-- the last function differs from the one before it in its hash alone -/
theorem hash_of_last_differs :
    ∃ p c x y, load bare none (fileOf repeatedCode [] []) {} = (.ok p, c) ∧ EnterAt p.code 3 ∧
      EnterAt p.code 6 ∧ functionAt p.code 3 = functionAt p.code 6 ∧
      p.analysis.hashes[(3 : Int)]? = some x ∧ p.analysis.hashes[(6 : Int)]? = some y ∧ x ≠ y := by
  obtain ⟨p, c, hl, ht⟩ := exists_of_loadsWith bare (fileOf repeatedCode [] [])
    (fun p => p.code = repeatedCode && p.analysis.hashes[(3 : Int)]? = some 1542965110 &&
      p.analysis.hashes[(6 : Int)]? = some (-441661500)) (by decide +kernel)
  simp only [Bool.and_eq_true, decide_eq_true_eq] at ht
  obtain ⟨⟨hcode, hx⟩, hy⟩ := ht
  refine ⟨p, c, _, _, hl, hcode ▸ ⟨_, rfl, rfl⟩, hcode ▸ ⟨_, rfl, rfl⟩, ?_, hx, hy, by decide⟩
  rw [hcode]
  decide

end Program
end Disasm
