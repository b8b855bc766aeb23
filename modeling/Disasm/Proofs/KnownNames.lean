import Mathlib
import Disasm.KnownNames
import Disasm.Program
import Disasm.Proofs.Action
import Disasm.Proofs.Table
import Disasm.Proofs.Text.Split

/-!
# Reading the names known beforehand

* `Numbered`, `readCalls_ok`, `numbered_of_readCalls`  lines with calls are read if and only if their numbers are;
* `numbered_builtIn`  the built-in calls of every type of program are read;
* `readHashes_ok`  names are put behind those that have the same hash already;
* `CallsReadable`, `loads_iff_callsReadable`, `functions_of_load`  both files in turn;
* `setType_ok_iff`, `functions_of_setType`  the same for the type of a program.
-/

namespace Disasm

open Disasm.Action Disasm.Text

namespace KnownNames

/-! ## calls -/

/-- the words name no call, or the number of the call can be read -/
def Numbered (ws : List String) : Prop :=
  ∀ first name w : String, ws = [first, name, w] → (readNumber? w).isSome = true

theorem readCall_ok {ws : List String} (h : Numbered ws) (loc : Location) (s : Session KnownNames) :
    ∃ calls, readCall loc ws s = .ok () ⟨{ s.state with calls }, s.console⟩ := by
  unfold readCall
  split
  next first name w =>
    obtain ⟨n, hn⟩ := Option.isSome_iff_exists.1 (h first name w rfl)
    rw [hn]
    exact ⟨_, rfl⟩
  next => exact ⟨_, rfl⟩

theorem numbered_of_readCall {ws : List String} {loc : Location} {s t : Session KnownNames}
    (h : readCall loc ws s = .ok () t) : Numbered ws := by
  rintro first name w rfl
  unfold readCall at h
  cases hn : readNumber? w with
  | some n => rfl
  | none =>
    simp only [hn] at h
    cases h

theorem readCalls_ok {ls : List String} (h : ∀ l ∈ ls, Numbered (words l)) (file : String) (index : Nat)
    (s : Session KnownNames) :
    ∃ calls, readLines file readCall index ls s = .ok () ⟨{ s.state with calls }, s.console⟩ := by
  induction ls generalizing index s with
  | nil => exact ⟨_, rfl⟩
  | cons l ls ih =>
    obtain ⟨hl, hrest⟩ := List.forall_mem_cons.1 h
    obtain ⟨calls, hcalls⟩ := readCall_ok hl ⟨file, index, l⟩ s
    rw [readLines, bind_of_ok hcalls]
    exact ih hrest (index + 1) _

theorem numbered_of_readCalls {ls : List String} {file : String} {index : Nat} {s t : Session KnownNames}
    (h : readLines file readCall index ls s = .ok () t) : ∀ l ∈ ls, Numbered (words l) := by
  induction ls generalizing index s with
  | nil => exact List.forall_mem_nil _
  | cons l ls ih =>
    rw [readLines] at h
    obtain ⟨_, s', hl, hrest⟩ := bind_eq_ok h
    exact List.forall_mem_cons.2 ⟨numbered_of_readCall hl, ih hrest⟩

/-! ## the built-in calls -/

/-- the characters of a line, of which the third word is a number if there is one -/
def isCallRow (cs : List Char) : Bool :=
  cs.getLast? == some '\n' && !cs.dropLast.contains '\n' &&
    (wordsOf cs)[2]?.all fun w => (readNumber? (String.ofList w)).isSome

theorem exists_of_isCallRow {row : String} (h : isCallRow row.toList = true) :
    ∃ l, Unbroken l ∧ row = l ++ "\n" := by
  rw [isCallRow, Bool.and_eq_true, Bool.and_eq_true] at h
  obtain ⟨⟨hlast, hbody⟩, -⟩ := h
  refine ⟨String.ofList row.toList.dropLast, ?_, ?_⟩
  · unfold Unbroken
    simpa using hbody
  · apply String.toList_injective
    rw [String.toList_append, String.toList_ofList]
    exact (List.dropLast_append_getLast? _ (eq_of_beq hlast)).symm

theorem numbered_of_isCallRow {row : String} (h : isCallRow row.toList = true) : Numbered (words row) := by
  rw [isCallRow, Bool.and_eq_true] at h
  intro first name w hw
  have hget : ((wordsOf row.toList).map String.ofList)[2]? = some w := by
    rw [← words, hw]
    rfl
  rw [List.getElem?_map] at hget
  obtain ⟨cs, hcs, rfl⟩ := Option.map_eq_some_iff.1 hget
  rw [hcs] at h
  exact h.2

theorem numbered_join {rows : List String} (h : ∀ row ∈ rows, isCallRow row.toList = true) :
    ∀ l ∈ lines (String.join rows), Numbered (words l) := by
  rw [lines_join_rows fun row hrow => exists_of_isCallRow (h row hrow)]
  exact fun l hl => numbered_of_isCallRow (h l hl)

/-- Rows and their characters.  A literal is made of its characters, which is much faster to check than what comes
out when it is decoded. -/
inductive Spelled : List String → List (List Char) → Prop
  | nil : Spelled [] []
  | cons {row : String} {cs : List Char} {rows : List String} {css : List (List Char)} :
    row = String.ofList cs → Spelled rows css → Spelled (row :: rows) (cs :: css)

theorem isCallRow_of_spelled {rows : List String} {css : List (List Char)} (h : Spelled rows css)
    (hcss : css.all isCallRow = true) :
    ∀ row ∈ rows, isCallRow row.toList = true := by
  induction h with
  | nil => exact List.forall_mem_nil _
  | cons hrow _ ih =>
    rw [List.all_cons, Bool.and_eq_true] at hcss
    refine List.forall_mem_cons.2 ⟨?_, ih hcss.2⟩
    rw [hrow, String.toList_ofList]
    exact hcss.1

/-- the built-in calls of every type of program can be read -/
theorem numbered_builtIn (type : ProgramType) : ∀ l ∈ lines type.callsFile.2, Numbered (words l) := by
  cases type
  all_goals
    apply numbered_join
    apply isCallRow_of_spelled
    case h =>
      repeat apply Spelled.cons rfl
      exact .nil
    case hcss => decide +kernel

/-! ## names of functions -/

/-- the line names a function: a name and its hash -/
def Named (line : String) (e : Int × String) : Prop :=
  ∃ first w rest, words line = first :: e.2 :: w :: rest ∧ readInt? 16 w = some e.1

theorem readHash_ok {line : String} {e : Int × String} (h : Named line e) (loc : Location) (s : Session KnownNames) :
    readHash loc (words line) s =
      .ok () ⟨{ s.state with functions := append s.state.functions e.1 e.2 }, s.console⟩ := by
  obtain ⟨first, w, rest, hw, he⟩ := h
  rw [hw]
  unfold readHash
  simp only [he]
  rfl

theorem readHashes_ok {ls : List String} {es : List (Int × String)} (h : List.Forall₂ Named ls es) (file : String)
    (index : Nat) (s : Session KnownNames) :
    readLines file readHash index ls s =
      .ok () ⟨{ s.state with functions := appendAll s.state.functions es }, s.console⟩ := by
  induction h generalizing index s with
  | nil => rfl
  | cons hl _ ih =>
    rw [readLines, bind_of_ok (readHash_ok hl _ s), ih]
    rfl

/-! ## both files -/

/-- a file with calls in the directory can be read -/
def CallsReadable (d : Directory) (type : ProgramType) : Prop :=
  d.holds type.callsFile.1 = true →
    ∃ text, d.text type.callsFile.1 = .ok text ∧ ∀ l ∈ lines text, Numbered (words l)

variable {d : Directory} {type : ProgramType} {s : Session KnownNames}

theorem fileText_own {file : String × String} {text : String} (hd : d.holds file.1 = true) (ht : d.text file.1 = .ok text)
    (s : Session KnownNames) : fileText d file s = .ok text s := by
  unfold fileText
  rw [if_pos hd, ht]
  rfl

theorem fileText_builtIn {file : String × String} (hd : d.holds file.1 = false) (s : Session KnownNames) :
    fileText d file s = .ok file.2 s := by
  unfold fileText
  rw [hd]
  rfl

theorem exists_fileText (h : CallsReadable d type) (s : Session KnownNames) :
    ∃ text, fileText d type.callsFile s = .ok text s ∧ ∀ l ∈ lines text, Numbered (words l) := by
  cases hd : d.holds type.callsFile.1 with
  | true =>
    obtain ⟨text, ht, hl⟩ := h hd
    exact ⟨text, fileText_own hd ht s, hl⟩
  | false => exact ⟨_, fileText_builtIn hd s, numbered_builtIn type⟩

theorem callsReadable_of_fileText {text : String} {t : Session KnownNames}
    (h : fileText d type.callsFile s = .ok text t) (hl : ∀ l ∈ lines text, Numbered (words l)) : CallsReadable d type := by
  intro hd
  unfold fileText at h
  rw [if_pos hd] at h
  exact ⟨text, (ofExcept_eq_ok h).1, hl⟩

section
variable {text : String} {es : List (Int × String)} (hd : d.holds type.hashesFile.1 = true)
  (ht : d.text type.hashesFile.1 = .ok text) (hes : List.Forall₂ Named (lines text) es)
include hd ht hes

/-- the second file is read whenever the first one is -/
theorem load_ok (h : CallsReadable d type) (s : Session KnownNames) :
    ∃ calls, load d type s = .ok () ⟨⟨calls, appendAll s.state.functions es⟩, s.console⟩ := by
  obtain ⟨callsText, hcalls, hl⟩ := exists_fileText h s
  obtain ⟨calls, hread⟩ := readCalls_ok hl type.callsFile.1 0 s
  refine ⟨calls, ?_⟩
  unfold load
  rw [bind_of_ok hcalls, bind_of_ok hread, bind_of_ok (fileText_own hd ht _), readHashes_ok hes]

theorem loads_iff_callsReadable : (∃ t, load d type s = .ok () t) ↔ CallsReadable d type := by
  constructor
  · rintro ⟨t, h⟩
    unfold load at h
    obtain ⟨callsText, s', hcalls, h⟩ := bind_eq_ok h
    obtain ⟨_, s'', hread, -⟩ := bind_eq_ok h
    exact callsReadable_of_fileText hcalls (numbered_of_readCalls hread)
  · intro h
    obtain ⟨calls, hload⟩ := load_ok hd ht hes h s
    exact ⟨_, hload⟩

theorem functions_of_load {t : Session KnownNames} (h : load d type s = .ok () t) :
    t.state.functions = appendAll s.state.functions es := by
  obtain ⟨calls, hload⟩ := load_ok hd ht hes ((loads_iff_callsReadable hd ht hes).1 ⟨t, h⟩) s
  rw [h] at hload
  cases hload
  rfl

end

end KnownNames

/-! ## types of programs -/

namespace Program

theorem setType_name (d : Directory) (type : ProgramType) :
    setType d (some type.name) = within (·.names) (fun k p => { p with names := k }) (KnownNames.load d type) := by
  cases type <;> rfl

variable {d : Directory} {type : ProgramType} {s t : Session Program} {text : String} {es : List (Int × String)}
  (hd : d.holds type.hashesFile.1 = true) (ht : d.text type.hashesFile.1 = .ok text)
  (hes : List.Forall₂ KnownNames.Named (lines text) es)
include hd ht hes

theorem setType_ok_iff : (∃ t, setType d (some type.name) s = .ok () t) ↔ KnownNames.CallsReadable d type := by
  rw [setType_name, ← KnownNames.loads_iff_callsReadable (s := ⟨s.state.names, s.console⟩) hd ht hes]
  constructor
  · rintro ⟨t, h⟩
    obtain ⟨u, hu, -⟩ := within_eq_ok h
    exact ⟨u, hu⟩
  · rintro ⟨u, hu⟩
    unfold within
    rw [hu]
    exact ⟨_, rfl⟩

theorem functions_of_setType (h : setType d (some type.name) s = .ok () t) :
    t.state.names.functions = appendAll s.state.names.functions es := by
  rw [setType_name] at h
  obtain ⟨u, hu, rfl⟩ := within_eq_ok h
  exact KnownNames.functions_of_load hd ht hes hu

end Program
end Disasm
