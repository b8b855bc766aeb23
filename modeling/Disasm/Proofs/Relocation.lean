import Mathlib
import Disasm.Proofs.FunctionHash

/-!
# Moved code

The same functions can stand in two images with their data, their targets and their frames at other places.
The walk reads these places, and words of the data behind them, but files functions by their opcodes, the
addresses of their locals and their negative constants alone.

* `Moved`  two instructions that differ at most in a place;
* `Functions.Agree`  two walks have filed the same functions with the same texts;
* `Functions.Agree.step`, `Functions.Agree.foldl`  moved instructions keep this;
* `functions_eq_of_moved`  the sizes and hashes of two programs with moved code are the same.
-/

namespace Disasm

/-- the instructions have one opcode; addresses of locals are the same, and constants are the same or both
not negative -/
structure Moved (i j : Instruction) : Prop where
  op_eq : i.op = j.op
  local_eq : i.op = .localAddr → i.parm = j.parm
  const_eq : i.op = .const → i.parm = j.parm ∨ 0 ≤ i.parm ∧ 0 ≤ j.parm

instance (i j : Instruction) : Decidable (Moved i j) :=
  decidable_of_iff
    (i.op = j.op ∧ (i.op = .localAddr → i.parm = j.parm) ∧
      (i.op = .const → i.parm = j.parm ∨ 0 ≤ i.parm ∧ 0 ≤ j.parm))
    ⟨fun ⟨ho, hl, hc⟩ => ⟨ho, hl, hc⟩, fun h => ⟨h.op_eq, h.local_eq, h.const_eq⟩⟩

namespace Moved
variable {i j : Instruction}

theorem parmText_eq (h : Moved i j) : Walk.parmText i = Walk.parmText j := by
  unfold Walk.parmText
  rw [h.op_eq]
  split
  next hop =>
    rcases h.const_eq (h.op_eq.trans hop) with hparm | ⟨hi, hj⟩
    · rw [hparm]
    · -- a constant that is not negative leaves no trace
      rw [if_neg (by omega), if_neg (by omega)]
  next hop => rw [h.local_eq (h.op_eq.trans hop)]
  next => rfl

theorem hashText_eq (h : Moved i j) : hashText [i] = hashText [j] := by
  unfold hashText
  rw [List.map_singleton, List.map_singleton, h.op_eq, h.parmText_eq]

end Moved

namespace Functions

/-- the same functions are filed, and the current ones have the same text; the arguments may differ -/
structure Agree (f g : Functions) : Prop where
  index : f.index = g.index
  func : f.func = g.func
  count : f.count = g.count
  text : f.text = g.text
  sizes : f.sizes = g.sizes
  hashes : f.hashes = g.hashes
  byHash : f.byHash = g.byHash

namespace Agree
variable {f g : Functions} {i j : Instruction}

theorem filed (h : Agree f g) : Agree f.filed g.filed where
  index := h.index
  func := h.func
  count := h.count
  text := h.text
  sizes := by
    show f.sizes.insert f.func f.count = g.sizes.insert g.func g.count
    rw [h.sizes, h.func, h.count]
  hashes := by
    show f.hashes.insert f.func (textHash f.text) = g.hashes.insert g.func (textHash g.text)
    rw [h.hashes, h.func, h.text]
  byHash := by
    show append f.byHash (textHash f.text) f.func = append g.byHash (textHash g.text) g.func
    rw [h.byHash, h.func, h.text]

theorem start (h : Agree f g) : Agree f.start g.start := by
  unfold Functions.start
  rw [h.index]
  by_cases hpos : 0 < g.index
  · rw [if_pos hpos, if_pos hpos]
    exact ⟨h.index, rfl, rfl, rfl, h.filed.sizes, h.filed.hashes, h.filed.byHash⟩
  · rw [if_neg hpos, if_neg hpos]
    exact ⟨h.index, rfl, rfl, rfl, h.sizes, h.hashes, h.byHash⟩

theorem counted (h : Agree f g) (hm : Moved i j) : Agree (f.counted i) (g.counted j) where
  index := h.index
  func := h.func
  count := congrArg (· + 1) h.count
  text := by
    show f.text ++ hashText [i] = g.text ++ hashText [j]
    rw [h.text, hm.hashText_eq]
  sizes := h.sizes
  hashes := h.hashes
  byHash := h.byHash

theorem visit (h : Agree f g) (hm : Moved i j) : Agree (f.visit i) (g.visit j) := by
  unfold Functions.visit
  rw [hm.op_eq]
  by_cases henter : j.op = .enter
  · rw [if_pos henter, if_pos henter]
    exact h.start
  · rw [if_neg henter, if_neg henter]
    -- places of arguments may differ, and are not compared
    split
    · exact ⟨h.index, h.func, h.count, h.text, h.sizes, h.hashes, h.byHash⟩
    · exact h

/-- one instruction -/
theorem step (h : Agree f g) (hm : Moved i j) : Agree (f.step i) (g.step j) := by
  have hv := (h.counted hm).visit hm
  exact ⟨congrArg (· + 1) h.index, hv.func, hv.count, hv.text, hv.sizes, hv.hashes, hv.byHash⟩

/-- all instructions -/
theorem foldl {is js : List Instruction} (hm : List.Forall₂ Moved is js) (h : Agree f g) :
    Agree (is.foldl Functions.step f) (js.foldl Functions.step g) := by
  induction hm generalizing f g with
  | nil => exact h
  | cons hij _ ih => exact ih (h.step hij)

end Agree
end Functions

namespace Program

/-- Two programs whose code differs in places alone have functions of the same sizes, with the same hashes,
at the same addresses, whatever their data and jump tables are. -/
theorem functions_eq_of_moved {d d' : Directory} {type type' : Option String} {file file' : ByteArray}
    {c c' out out' : Console} {p q : Program} (hp : load d type file c = (.ok p, out))
    (hq : load d' type' file' c' = (.ok q, out')) (hm : List.Forall₂ Moved p.code q.code) :
    p.analysis.sizes = q.analysis.sizes ∧ p.analysis.hashes = q.analysis.hashes ∧
      p.analysis.byHash = q.analysis.byHash := by
  obtain ⟨v, hv, hpt⟩ := (load_eq_ok hp).walk_ok
  obtain ⟨w, hw, hqt⟩ := (load_eq_ok hq).walk_ok
  have hstart : Functions.Agree ({ tables := {} } : Walk).functions ({ tables := {} } : Walk).functions :=
    ⟨rfl, rfl, rfl, rfl, rfl, rfl, rfl⟩
  have hend : Functions.Agree v.functions w.functions := by
    rw [Walk.functions_run (Walk.Passed.start _) hv, Walk.functions_run (Walk.Passed.start _) hw]
    exact hstart.foldl hm
  rw [hpt, hqt]
  exact ⟨hend.filed.sizes, hend.filed.hashes, hend.filed.byHash⟩

/-- two functions, the first with a switch and a call -/
def placedCode (frame table target : Int) : List Instruction :=
  [⟨.enter, frame⟩, ⟨.localAddr, 16⟩, ⟨.load4, 0⟩, ⟨.const, 0⟩, ⟨.lti, target⟩, ⟨.localAddr, 16⟩, ⟨.load4, 0⟩,
    ⟨.const, 1⟩, ⟨.gti, target⟩, ⟨.localAddr, 16⟩, ⟨.load4, 0⟩, ⟨.const, 2⟩, ⟨.lsh, 0⟩, ⟨.const, table⟩,
    ⟨.add, 0⟩, ⟨.load4, 0⟩, ⟨.jump, 0⟩, ⟨.const, target⟩, ⟨.arg, frame⟩, ⟨.const, -3⟩, ⟨.call, 0⟩,
    ⟨.leave, frame⟩, ⟨.enter, frame⟩, ⟨.localAddr, 8⟩, ⟨.leave, frame⟩]

/-- the table of the switch is read in one image and lies behind the data of the other -/
theorem functions_eq_of_moved_table :
    ∃ p q c c', load bare none (fileOf (placedCode 24 0 17) [17, 0, 0, 0, 21, 0, 0, 0] []) {} = (.ok p, c) ∧
      load bare none (fileOf (placedCode 40 4096 20) [] [1]) {} = (.ok q, c') ∧
      List.Forall₂ Moved p.code q.code ∧ p.analysis.switchStarts = [1] ∧ q.analysis.switchStarts = [] ∧
      p.analysis.sizes = q.analysis.sizes ∧ p.analysis.hashes = q.analysis.hashes ∧
      p.analysis.byHash = q.analysis.byHash := by
  obtain ⟨p, c, hp, htp⟩ := exists_of_loadsWith bare (fileOf (placedCode 24 0 17) [17, 0, 0, 0, 21, 0, 0, 0] [])
    (fun p => p.code = placedCode 24 0 17 && p.analysis.switchStarts = [1]) (by decide +kernel)
  obtain ⟨q, c', hq, htq⟩ := exists_of_loadsWith bare (fileOf (placedCode 40 4096 20) [] [1])
    (fun q => q.code = placedCode 40 4096 20 && q.analysis.switchStarts = []) (by decide +kernel)
  simp only [Bool.and_eq_true, decide_eq_true_eq] at htp htq
  have hm : List.Forall₂ Moved p.code q.code := by
    rw [htp.1, htq.1]
    decide
  exact ⟨p, q, c, c', hp, hq, hm, htp.2, htq.2, functions_eq_of_moved hp hq hm⟩

end Program
end Disasm
