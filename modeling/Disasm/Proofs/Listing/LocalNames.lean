import Mathlib
import Disasm.Proofs.Annotation.Frames
import Disasm.Proofs.Directory
import Disasm.Proofs.Listing.Shown

/-!
# The names of locals in a listing

* `rangeRemark lib es func addr`  what the search through the ranges of a function says of an address;
* `remark_of_entries`  what an instruction shows for a local: its plain name, and otherwise what the search says, unless
  another local of the function has a plain name;
* `local_remark_iff`  so one plain name hides all ranges of its function.
-/

namespace Disasm

open Disasm.Action

/-! ## directories with another functions file -/

section
open Annotations (functionsFile)
variable (d : Directory) (data : ByteArray)

theorem holds_functions {other : String} (h : Directory.path other ≠ Directory.path functionsFile) :
    (d.write functionsFile data).holds other = d.holds other :=
  Directory.holds_write d data h (by decide +kernel)

theorem loadDefaults_functions : Library.loadDefaults (d.write functionsFile data) = Library.loadDefaults d := by
  have hdefault : Directory.path Library.defaultFile ≠ Directory.path functionsFile := by decide +kernel
  have huser : Directory.path Library.userFile ≠ Directory.path functionsFile := by decide +kernel
  unfold Library.loadDefaults
  rw [holds_functions d data hdefault, holds_functions d data huser, Directory.text_write d data hdefault,
    Directory.text_write d data huser]

theorem setType_functions (type : Option String) :
    Program.setType (d.write functionsFile data) type = Program.setType d type := by
  have htext : ∀ file : String × String, Directory.path file.1 ≠ Directory.path functionsFile →
      KnownNames.fileText (d.write functionsFile data) file = KnownNames.fileText d file := by
    intro file h
    unfold KnownNames.fileText
    rw [holds_functions d data h, Directory.text_write d data h]
  have hcalls : ∀ t : ProgramType, Directory.path t.callsFile.1 ≠ Directory.path functionsFile := by
    intro t
    cases t <;> decide +kernel
  have hhashes : ∀ t : ProgramType, Directory.path t.hashesFile.1 ≠ Directory.path functionsFile := by
    intro t
    cases t <;> decide +kernel
  unfold Program.setType
  cases type.bind ProgramType.ofName? with
  | none => rfl
  | some t =>
    show within _ _ (KnownNames.load _ t) = within _ _ (KnownNames.load d t)
    rw [KnownNames.load, KnownNames.load, htext _ (hcalls t), htext _ (hhashes t)]

end

/-! ## programs -/

namespace Program

/-- what the functions file of a directory says of locals -/
def frameEntries (d : Directory) : List Annotations.FrameEntry :=
  Annotations.frameEntries none (Annotations.functionLines d)

section
variable {d : Directory} {type : Option String} {file : ByteArray} {c c' c'' : Console} {p p' : Program}

/-- the templates of a program are those that the directory has, with some references -/
theorem exists_templates (h : load d type file c = (.ok p, c')) :
    ∃ image s u refs, Image.ofBytes file = .ok image ∧ setType d type ⟨{ image }, c⟩ = .ok () s ∧
      Library.loadDefaults d ⟨{}, s.console⟩ = .ok () u ∧ p.library = u.state.expecting refs ∧
      Annotations.Reflects u.state (frameEntries d) p.labels := by
  obtain ⟨image, s, t, hi, hs, ht, hannotations⟩ := load_parts h
  obtain ⟨u, hu, ⟨refs, hrefs⟩, hreflects⟩ := Annotations.load_reflects ht
  refine ⟨image, s, u, refs, hi, hs, hu, ?_, ?_⟩
  · rw [library, hannotations, hrefs]
  · rw [labels, hannotations]
    exact hreflects

theorem reflects_of_load (h : load d type file c = (.ok p, c')) :
    Annotations.Reflects p.library (frameEntries d) p.labels := by
  obtain ⟨image, s, u, refs, -, -, -, hlib, hreflects⟩ := exists_templates h
  rw [hlib]
  exact ⟨hreflects.name, hreflects.named, hreflects.ranges⟩

/-- with another functions file type words mean the same -/
theorem reflects_of_write {data : ByteArray} (h : load d type file c = (.ok p, c'))
    (h' : load (d.write Annotations.functionsFile data) type file c = (.ok p', c'')) : p'.image = p.image ∧
      Annotations.Reflects p.library (frameEntries (d.write Annotations.functionsFile data)) p'.labels := by
  have himage : p'.image = p.image :=
    Except.ok.inj ((load_eq_ok h').image_ok.symm.trans (load_eq_ok h).image_ok)
  obtain ⟨image, s, u, refs, hi, hs, hu, hlib, -⟩ := exists_templates h
  obtain ⟨image', s', u', refs', hi', hs', hu', -, hreflects⟩ := exists_templates h'
  rw [setType_functions] at hs'
  rw [loadDefaults_functions] at hu'
  cases hi.symm.trans hi'
  cases hs.symm.trans hs'
  cases hu.symm.trans hu'
  rw [hlib]
  exact ⟨himage, hreflects.name, hreflects.named, hreflects.ranges⟩

end
end Program

namespace Listing

open Annotations (FrameEntry Reflects plainName? frameRanges functionsFile)

/-! ## remarks -/

/-- what the search through the ranges of a function says of an address, if anything -/
def rangeRemark (lib : Library) (es : List FrameEntry) (func addr : Int) : String :=
  ((foundNaming? ((frameRanges lib es func).find addr)).map Naming.remark).getD ""

theorem remark_localNaming? {p : Program} {lib : Library} {es : List FrameEntry} (h : Reflects lib es p.labels)
    (func addr : Int) :
    ((localNaming? p func addr).map Naming.remark).getD "" =
      (plainName? es func addr).getD (if es.any (FrameEntry.names func) then "" else rangeRemark lib es func addr) := by
  rw [← h.name, ← h.named, rangeRemark, ← h.ranges, localNaming?, Labels.localsOf, Labels.localRangesOf,
    Std.TreeMap.getD_eq_getD_getElem?, Std.TreeMap.getD_eq_getD_getElem?, Std.TreeMap.contains_eq_isSome_getElem?]
  cases p.labels.locals[func]? with
  | some names =>
    show ((names[addr]?.map _).map _).getD "" = (names[addr]?).getD ""
    cases names[addr]? with
    | none => rfl
    | some n => rfl
  | none =>
    show _ = ((∅ : Std.TreeMap Int String)[addr]?).getD _
    rw [Std.TreeMap.getElem?_emptyc]
    cases p.labels.localRanges[func]? with
    | none => rfl
    | some t => rfl

/-- what is shown for a local in the function at the last `enter` -/
theorem remark_of_entries {p : Program} {lib : Library} {es : List FrameEntry} (h : Reflects lib es p.labels) {k : Nat}
    {e : Entry} (he : (entries p).1[k]? = some e) (hop : e.instruction.op = .localAddr) {func : Nat} {frame : Int}
    (henter : enterBefore p.code k = some (func, frame)) (hlocal : e.instruction.parm - frame - 8 < 0) :
    e.remark = (plainName? es func e.instruction.parm).getD
      (if es.any (FrameEntry.names func) then "" else rangeRemark lib es func e.instruction.parm) := by
  obtain ⟨_, _, hreaches⟩ := reaches_entries p
  obtain ⟨s, t, i, done, hr, hi, hshows⟩ := hreaches.entry_at he
  obtain ⟨hfunc, hframe⟩ := hr.inFrame.arriving
  rw [henter, Option.map_some] at hfunc hframe
  rw [hshows.instruction_eq] at hop hlocal ⊢
  rw [← remark_localNaming? h]
  cases hshows with
  | @«local» frame' _ hf =>
    cases hf.symm.trans hframe
    show (frameNaming p (Option.getD _ (-1)) frame i.parm).remark = _
    rw [hfunc, Option.getD_some, frameNaming, if_neg (not_le.2 hlocal)]
    cases localNaming? p func i.parm with
    | none => rfl
    | some n => rfl
  | enter hop' | const hop' => rw [hop] at hop'; cases hop'
  | statement ho | value ho => rw [hop] at ho; cases ho
  | other _ _ hl => exact absurd hop hl

/-! ## plain names and ranges -/

theorem plainName?_insert {front back : List FrameEntry} {func addr other : Int} {n : String} (h : other ≠ addr) :
    plainName? (front ++ .name func other n :: back) func addr = plainName? (front ++ back) func addr := by
  have hother : FrameEntry.nameAt? func addr (.name func other n) = none := if_neg fun hat => h hat.2
  rw [Annotations.plainName?_append, Annotations.plainName?_append, ← List.singleton_append,
    Annotations.plainName?_append, Annotations.plainName?_singleton, hother, Option.or_none]

theorem getD_eq_iff {α : Type} {o : Option α} {x y : α} : o.getD x = o.getD y ↔ o.isSome = true ∨ x = y := by
  cases o with
  | some a => exact iff_of_true rfl (.inl rfl)
  | none => exact (or_iff_right Bool.false_ne_true).symm

/-- an instruction shows the plain name of a local; without one it shows what the search through the ranges of the
function says, but nothing when another local of the function has a plain name.  So it shows the plain name and
otherwise what the search says exactly when there is such a name, when no local of the function has one or when the
search says nothing.  A plain name for another local leaves what is shown exactly when there is such a name, when some
local of the function has one already or when the search says nothing -/
theorem local_remark_iff {d : Directory} {type : Option String} {file : ByteArray} {c c' : Console} {p : Program}
    (hload : Program.load d type file c = (.ok p, c')) {k : Nat} {e : Entry} (he : (entries p).1[k]? = some e)
    (hop : e.instruction.op = .localAddr) {func : Nat} {frame : Int}
    (henter : enterBefore p.code k = some (func, frame)) (hlocal : e.instruction.parm - frame - 8 < 0) :
    e.remark = (plainName? (Program.frameEntries d) func e.instruction.parm).getD
        (if (Program.frameEntries d).any (FrameEntry.names func) then ""
          else rangeRemark p.library (Program.frameEntries d) func e.instruction.parm) ∧
    (e.remark = (plainName? (Program.frameEntries d) func e.instruction.parm).getD
        (rangeRemark p.library (Program.frameEntries d) func e.instruction.parm) ↔
      (plainName? (Program.frameEntries d) func e.instruction.parm).isSome = true ∨
        (Program.frameEntries d).any (FrameEntry.names func) = false ∨
        rangeRemark p.library (Program.frameEntries d) func e.instruction.parm = "") ∧
    ∀ {data : ByteArray} {p' : Program} {c'' : Console} {front back : List FrameEntry} {other : Int} {n : String}
      {e' : Entry}, Program.load (d.write functionsFile data) type file c = (.ok p', c'') →
      Program.frameEntries d = front ++ back →
      Program.frameEntries (d.write functionsFile data) = front ++ .name func other n :: back →
      other ≠ e.instruction.parm → (entries p').1[k]? = some e' →
      (e'.remark = e.remark ↔
        (plainName? (Program.frameEntries d) func e.instruction.parm).isSome = true ∨
          (Program.frameEntries d).any (FrameEntry.names func) = true ∨
          rangeRemark p.library (Program.frameEntries d) func e.instruction.parm = "") := by
  have hremark := remark_of_entries (Program.reflects_of_load hload) he hop henter hlocal
  refine ⟨hremark, ?_, ?_⟩
  · rw [hremark]
    refine getD_eq_iff.trans (or_congr_right ?_)
    cases (Program.frameEntries d).any (FrameEntry.names func) with
    | false => exact iff_of_true rfl (.inl rfl)
    | true => exact eq_comm.trans (or_iff_right Bool.false_ne_true.symm).symm
  · intro data p' c'' front back other n e' hload' hes hes' hother he'
    obtain ⟨himage, hreflects⟩ := Program.reflects_of_write hload hload'
    have hcode : p'.code = p.code := congrArg (fun image => image.decoded.instructions) himage
    have hinstruction : e'.instruction = e.instruction := by
      obtain ⟨_, _, hreaches⟩ := reaches_entries p
      obtain ⟨_, _, hreaches'⟩ := reaches_entries p'
      have hat := (hreaches'.index_eq he').2
      rw [hcode, (hreaches.index_eq he).2] at hat
      exact (Option.some.inj hat).symm
    have hremark' := remark_of_entries hreflects he' (hinstruction ▸ hop) (hcode ▸ henter) (hinstruction ▸ hlocal)
    -- the function has a plain name now, and the search is not made
    have hnamed : (front ++ FrameEntry.name func other n :: back).any (FrameEntry.names func) = true := by
      simp [FrameEntry.names]
    rw [hes', hinstruction, plainName?_insert hother, ← hes, if_pos hnamed] at hremark'
    rw [hremark, hremark']
    refine getD_eq_iff.trans (or_congr_right ?_)
    cases (Program.frameEntries d).any (FrameEntry.names func) with
    | true => exact iff_of_true rfl (.inl rfl)
    | false => exact eq_comm.trans (or_iff_right Bool.false_ne_true).symm

/-! ### a function with a buffer -/

/-- the address of a local is taken -/
def bufferFile : ByteArray := Program.fileOf [⟨.enter, 0x30⟩, ⟨.localAddr, 0x18⟩, ⟨.leave, 0x30⟩] [] []

/-- the local is a range -/
def bufferDirectory : Directory := Program.bare.write functionsFile "0x0 f\nlocal 0x18 0x8 buffer\n".toUTF8

/-- and has a plain name too -/
def firstDirectory : Directory :=
  Program.bare.write functionsFile "0x0 f\nlocal 0x18 first\nlocal 0x18 0x8 buffer\n".toUTF8

/-- another local has a plain name -/
def countDirectory : Directory :=
  bufferDirectory.write functionsFile "0x0 f\nlocal 0x10 count\nlocal 0x18 0x8 buffer\n".toUTF8

/-- both have one -/
def countFirstText : ByteArray := "0x0 f\nlocal 0x10 count\nlocal 0x18 first\nlocal 0x18 0x8 buffer\n".toUTF8

/-- the program is loaded and shows this for the local, and the search finds the range -/
def showsLocal (d : Directory) (remark : String) : Bool :=
  Program.loadsWith d bufferFile fun p =>
    (entries p).1[1]?.map (fun e => (e.instruction, e.remark)) == some (⟨.localAddr, 0x18⟩, remark) &&
      (enterBefore p.code 1 == some (0, 0x30) && rangeRemark p.library (Program.frameEntries d) 0 0x18 == "buffer")

theorem exists_of_showsLocal {d : Directory} {remark : String} (h : showsLocal d remark = true) :
    ∃ p c e, Program.load d none bufferFile {} = (.ok p, c) ∧ (entries p).1[1]? = some e ∧
      e.instruction = ⟨.localAddr, 0x18⟩ ∧ e.remark = remark ∧ enterBefore p.code 1 = some (0, 0x30) ∧
      rangeRemark p.library (Program.frameEntries d) 0 0x18 = "buffer" := by
  obtain ⟨p, c, hload, htest⟩ := Program.exists_of_loadsWith d bufferFile _ h
  rw [Bool.and_eq_true, Bool.and_eq_true, beq_iff_eq, beq_iff_eq, beq_iff_eq] at htest
  obtain ⟨e, he, hpair⟩ := Option.map_eq_some_iff.1 htest.1
  exact ⟨p, c, e, hload, he, congrArg Prod.fst hpair, congrArg Prod.snd hpair, htest.2⟩

/-- the plain name of the local is shown, also when another local gets one -/
theorem local_remark_first : ∃ p c e p' c' e', Program.load firstDirectory none bufferFile {} = (.ok p, c) ∧
    (entries p).1[1]? = some e ∧
    Program.load (firstDirectory.write functionsFile countFirstText) none bufferFile {} = (.ok p', c') ∧
    (entries p').1[1]? = some e' ∧
    e.remark = (plainName? (Program.frameEntries firstDirectory) 0 0x18).getD
      (rangeRemark p.library (Program.frameEntries firstDirectory) 0 0x18) ∧ e'.remark = e.remark := by
  obtain ⟨p, c, e, hload, he, hi, -, henter, -⟩ :=
    exists_of_showsLocal (show showsLocal firstDirectory "first" = true by decide +kernel)
  obtain ⟨p', c', e', hload', he', -⟩ := exists_of_showsLocal
    (show showsLocal (firstDirectory.write functionsFile countFirstText) "first" = true by decide +kernel)
  have hname : (plainName? (Program.frameEntries firstDirectory) (0 : Nat) e.instruction.parm).isSome = true := by
    rw [hi]
    decide +kernel
  obtain ⟨-, hiff, hother⟩ := local_remark_iff hload he (by rw [hi]) henter (by rw [hi]; decide)
  have hentries : Program.frameEntries firstDirectory = [] ++ [.name 0 0x18 "first", .range 0 0x18 "0x8" "buffer"] := by
    decide +kernel
  have hentries' : Program.frameEntries (firstDirectory.write functionsFile countFirstText) =
      [] ++ .name (0 : Nat) 0x10 "count" :: [.name 0 0x18 "first", .range 0 0x18 "0x8" "buffer"] := by
    decide +kernel
  have hstated := hiff.2 (.inl hname)
  rw [hi] at hstated
  exact ⟨p, c, e, p', c', e', hload, he, hload', he', hstated,
    (hother hload' hentries hentries' (by rw [hi]; decide) he').2 (.inl hname)⟩

/-- the range is shown, and no more when another local gets a plain name -/
theorem plainName_hides_range : ∃ p c e p' c' e', Program.load bufferDirectory none bufferFile {} = (.ok p, c) ∧
    (entries p).1[1]? = some e ∧ e.remark = "buffer" ∧
    Program.load countDirectory none bufferFile {} = (.ok p', c') ∧
    (entries p').1[1]? = some e' ∧ e'.remark = "" ∧
    plainName? (Program.frameEntries countDirectory) 0 0x18 = none ∧
    rangeRemark p'.library (Program.frameEntries countDirectory) 0 0x18 = "buffer" := by
  obtain ⟨p, c, e, hload, he, -, hremark, -⟩ :=
    exists_of_showsLocal (show showsLocal bufferDirectory "buffer" = true by decide +kernel)
  obtain ⟨p', c', e', hload', he', -, hremark', -, hfound⟩ := exists_of_showsLocal
    (show showsLocal countDirectory "" = true by decide +kernel)
  exact ⟨p, c, e, p', c', e', hload, he, hremark, hload', he', hremark', by decide +kernel, hfound⟩

end Listing

end Disasm
