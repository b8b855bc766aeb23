import Mathlib
import Disasm.Program
import Disasm.Proofs.Image

/-!
# What loading a program gives

* `Program.Loaded`  the parts of a program that was loaded: its image, the entries of the jump table and
  the tables of a walk over the whole code;
* `load_eq_ok`  a program that `load` gives is such a program;
* `load_annotations`  its annotations are those of the directory;
* `load_keeps`  what the steps of loading keep holds of the program.
-/

namespace Disasm.Program

open Disasm.Action

/-- the instructions of a program -/
abbrev code (p : Program) : List Instruction := p.image.decoded.instructions

/-- a program that was loaded from the bytes of a file -/
structure Loaded (file : ByteArray) (p : Program) : Prop where
  image_ok : Image.ofBytes file = .ok p.image
  targets_ok : p.image.jumpTargets = .ok p.jumpTargets
  decoded_ok : p.image.decoded.fault = none
  walk_ok : ∃ w, Walk.run p.image p.image.decoded.instructions { tables := {} } = (w, none) ∧
    p.analysis = w.endFunction.tables

theorem setType_eq_ok {d : Directory} {type : Option String} {s t : Session Program} {u : Unit}
    (h : setType d type s = .ok u t) : t.state = { s.state with names := t.state.names } := by
  unfold setType at h
  cases ht : type.bind ProgramType.ofName? with
  | some k =>
    rw [ht] at h
    obtain ⟨v, -, rfl⟩ := within_eq_ok h
    rfl
  | none =>
    rw [ht] at h
    cases h
    rfl

theorem annotate_eq_ok {d : Directory} {s t : Session Program} {u : Unit}
    (h : annotate d s = .ok u t) : t.state = { s.state with annotations := t.state.annotations } := by
  obtain ⟨v, -, rfl⟩ := within_eq_ok h
  rfl

theorem readJumpTable_eq_ok {s t : Session Program} {u : Unit} (h : readJumpTable s = .ok u t) :
    ∃ targets, s.state.image.jumpTargets = .ok targets ∧
      t.state = { s.state with jumpTargets := targets } := by
  unfold readJumpTable at h
  obtain ⟨p, s0, h0, h⟩ := bind_eq_ok h
  cases h0
  obtain ⟨targets, s1, h1, h2⟩ := bind_eq_ok h
  obtain ⟨he, rfl⟩ := ofExcept_eq_ok h1
  cases h2
  exact ⟨targets, he, rfl⟩

theorem extend_eq_none {image : Image} {code : Decoded} {tables tables' : Analysis}
    {warnings : List String} (h : tables.extend image code = (tables', warnings, none)) :
    code.fault = none ∧
      ∃ w, Walk.run image code.instructions { tables } = (w, none) ∧ tables' = w.endFunction.tables := by
  unfold Analysis.extend at h
  split at h
  next => cases h
  next w hw =>
    split at h
    next => cases h
    next hf => cases h; exact ⟨hf, w, hw, rfl⟩

/-- a walk that comes to its end: its tables are kept and its warnings are shown -/
theorem analyse_of_ok {s : Session Program} {w : Walk} (hf : s.state.image.decoded.fault = none)
    (hw : Walk.run s.state.image s.state.image.decoded.instructions { tables := s.state.analysis } = (w, none)) :
    analyse s = .ok () ⟨{ s.state with analysis := w.endFunction.tables },
      w.warnings.reverse.foldl (fun c text => c.warn text) s.console⟩ := by
  unfold analyse Analysis.extend
  dsimp only
  rw [hw]
  dsimp only
  rw [hf]

/-- a walk that a fault ends -/
theorem analyse_of_fault {s : Session Program} {w : Walk} {f : Fault}
    (hw : Walk.run s.state.image s.state.image.decoded.instructions { tables := s.state.analysis } = (w, some f)) :
    ∃ t, analyse s = .error f t := by
  unfold analyse Analysis.extend
  dsimp only
  rw [hw]
  exact ⟨_, rfl⟩

theorem analyse_eq_ok {s t : Session Program} {u : Unit} (h : analyse s = .ok u t) :
    s.state.image.decoded.fault = none ∧
      ∃ w, Walk.run s.state.image s.state.image.decoded.instructions
          { tables := s.state.analysis } = (w, none) ∧
        t.state = { s.state with analysis := w.endFunction.tables } := by
  unfold analyse at h
  dsimp only at h
  generalize he : s.state.analysis.extend s.state.image s.state.image.decoded = r at h
  obtain ⟨tables, warnings, fault⟩ := r
  cases fault with
  | some f => cases h
  | none =>
    cases h
    obtain ⟨hf, w, hw, rfl⟩ := extend_eq_none he
    exact ⟨hf, w, hw, rfl⟩

theorem load_run {d : Directory} {type : Option String} {file : ByteArray} {c c' : Console}
    {p : Program} (h : load d type file c = (.ok p, c')) :
    ∃ image, Image.ofBytes file = .ok image ∧ prepare d type ⟨{ image }, c⟩ = .ok () ⟨p, c'⟩ := by
  unfold load at h
  split at h
  next => cases h
  next image hi =>
    split at h
    next s hs => cases h; exact ⟨image, hi, hs⟩
    next => cases h

theorem load_eq_ok {d : Directory} {type : Option String} {file : ByteArray} {c c' : Console}
    {p : Program} (h : load d type file c = (.ok p, c')) : Loaded file p := by
  obtain ⟨image, hi, h⟩ := load_run h
  obtain ⟨_, s0, h0, h⟩ := bind_eq_ok h
  obtain ⟨_, s1, h1, h⟩ := bind_eq_ok h
  obtain ⟨_, s2, h2, h⟩ := bind_eq_ok h
  have e0 := setType_eq_ok h0
  have e1 := annotate_eq_ok h1
  obtain ⟨targets, ht, e2⟩ := readJumpTable_eq_ok h2
  obtain ⟨hf, w, hw, e3⟩ := analyse_eq_ok h
  dsimp only at e0 e3
  rw [e2, e1, e0] at hf hw e3
  rw [e1, e0] at ht
  subst e3
  exact ⟨hi, ht, hf, w, hw, rfl⟩

/-- names are known first, then the directory is read -/
theorem load_parts {d : Directory} {type : Option String} {file : ByteArray} {c c' : Console}
    {p : Program} (h : load d type file c = (.ok p, c')) :
    ∃ image s t, Image.ofBytes file = .ok image ∧ setType d type ⟨{ image }, c⟩ = .ok () s ∧
      Annotations.load d ⟨{}, s.console⟩ = .ok () t ∧ p.annotations = t.state := by
  obtain ⟨image, hi, hrun⟩ := load_run h
  obtain ⟨_, s0, h0, hrun⟩ := bind_eq_ok hrun
  obtain ⟨_, s1, h1, hrun⟩ := bind_eq_ok hrun
  obtain ⟨_, s2, h2, h3⟩ := bind_eq_ok hrun
  have e0 := setType_eq_ok h0
  obtain ⟨t, ht, e1⟩ := within_eq_ok h1
  obtain ⟨targets, -, e2⟩ := readJumpTable_eq_ok h2
  obtain ⟨-, w, -, e3⟩ := analyse_eq_ok h3
  dsimp only at e0 e3
  rw [e0] at ht
  refine ⟨image, s0, t, hi, h0, ht, ?_⟩
  rw [e3, e2, e1]

/-- the annotations of a program are those of the directory -/
theorem load_annotations {d : Directory} {type : Option String} {file : ByteArray} {c c' : Console}
    {p : Program} (h : load d type file c = (.ok p, c')) :
    ∃ (before : Console) (t : Session Annotations), Annotations.load d ⟨{}, before⟩ = .ok () t ∧ p.annotations = t.state := by
  obtain ⟨-, s, t, -, -, ht, hannotations⟩ := load_parts h
  exact ⟨s.console, t, ht, hannotations⟩

/-- what the steps of loading keep holds of the program -/
theorem load_keeps {I : Program → Prop} {P : Unit → Prop} {d : Directory} {type : Option String}
    {file : ByteArray} {c c' : Console} {p : Program} (hk : Keeps I P (prepare d type))
    (hI : ∀ image, I { image }) (h : load d type file c = (.ok p, c')) : I p := by
  obtain ⟨image, -, h⟩ := load_run h
  exact (hk.of_ok (hI image) h).1

/-! ## the code -/

/-- the bytes of the code start with those of the instructions -/
theorem code_eq (p : Program) : p.image.code.toList = Instruction.encodeAll p.code ++ p.image.decoded.rest :=
  (Instruction.decode_spec _ _).1

namespace Loaded

variable {file : ByteArray} {p : Program}

theorem isIn (h : Loaded file p) : p.image.IsIn file.data.toList := Image.ofBytes_eq_ok h.image_ok

theorem length_instructions (h : Loaded file p) :
    p.image.decoded.instructions.length = p.header.instructionCount.toNat :=
  (Instruction.decode_spec _ _).2.2 h.decoded_ok

theorem fits (_ : Loaded file p) : ∀ i ∈ p.image.decoded.instructions, i.Fits :=
  (Instruction.decode_spec _ _).2.1

theorem dataLength_nonneg (h : Loaded file p) : 0 ≤ p.header.dataLength :=
  (Header.fields_nonneg h.isIn.nonneg).2.2.2.2.1

theorem codeBytes_eq (h : Loaded file p) : p.codeBytes = Instruction.encodeAll p.code := by
  unfold codeBytes
  rw [Image.copied_eq h.decoded_ok]

end Loaded

/-! ## small programs -/

/-- a file of the second version of the format: four zero bytes stand in front of the code and four
behind it, and the jump table has one entry -/
def fileOf (code : List Instruction) (data lit : List UInt8) : ByteArray :=
  let bytes := Instruction.encodeAll code
  let header : List Int := [Version.two.magic, code.length, 40, bytes.length + 4, 44 + bytes.length,
    data.length, lit.length, 16, 4]
  ⟨(header.flatMap Instruction.wordBytes ++ List.replicate 4 0 ++ bytes ++ List.replicate 4 0 ++ data ++ lit ++
    Instruction.wordBytes 0).toArray⟩

/-- a directory with no annotations and no templates -/
def bare : Directory := ({} : Directory).write "templates-default.dat" ByteArray.empty

/-- the file holds a program, and the program passes a test -/
def loadsWith (d : Directory) (file : ByteArray) (test : Program → Bool) : Bool :=
  match load d none file {} with
  | (.ok p, _) => test p
  | (.error _, _) => false

theorem exists_of_loadsWith (d : Directory) (file : ByteArray) (test : Program → Bool)
    (h : loadsWith d file test = true) :
    ∃ p c, load d none file {} = (.ok p, c) ∧ test p = true := by
  unfold loadsWith at h
  split at h
  next p c hl => exact ⟨p, c, hl, h⟩
  next => cases h

end Disasm.Program
