import Mathlib
import Disasm.Proofs.Annotation.Load
import Disasm.Proofs.Listing.Line
import Disasm.Proofs.Listing.Run

/-!
# The parts of an entry

All parts of an entry but the line of its instruction are comments.  The names that they show come from
annotation files and hold no line ends.

* `quiet_jumpLabel`, `quiet_caseLabel`, `remarks_heading`  labels and the heads of functions;
* `Naming.Tidy`, `tidy_frameNaming`, `tidy_constantText`  what is said about addresses and constants;
* `remarks_loadNote`, `remarks_switchNote`  the other notes;
* `unbroken_render`  operations on unbroken texts leave unbroken texts.
-/

namespace Disasm.Listing

open Disasm.Text

/-! ## comments -/

/-- a comment of which the last part ends the line -/
theorem remarks_ended {a b c : String} (hb : b = c ++ "\n") (hc : isRemark (a ++ c) = true)
    (h : Unbroken (a ++ c)) : Remarks (a ++ b) := by
  rw [hb, ← String.append_assoc]
  exact remarks_line hc h

/-- a comment below an empty line -/
theorem remarks_below {l : String} (hc : isRemark l = true) (h : Unbroken l) : Remarks ("\n" ++ (l ++ "\n")) :=
  remarks_newline.append (remarks_line hc h)

/-- words behind the mark of a comment -/
theorem isRemark_semicolon {t : String} (h : t = "" ∨ ∃ u, t = " " ++ u) : isRemark (";" ++ t) = true := by
  rcases h with rfl | ⟨u, rfl⟩
  · decide
  · rw [← String.append_assoc]
    exact isRemark_append (by decide) u

/-! ## labels -/

theorem quiet_rule {t : String} (h : Unbroken t) : Quiet (rule ++ t ++ "\n") := by
  have hrule : rule ++ t ++ "\n" = "\n" ++ (labelMark ++ t ++ "\n") := by
    rw [show rule = "\n" ++ labelMark by decide]
    simp only [String.append_assoc]
  have hsilent : isSilent (labelMark ++ t) = true := by
    unfold isSilent
    rw [isComment_append (by decide) t, Bool.or_true]
  rw [hrule]
  exact remarks_newline.quiet.append (Lines.line (unbroken_append (by decide) h) hsilent)

theorem unbroken_star (p : Program) (k : Nat) : Unbroken (star p k) := by
  unfold star
  split <;> decide

theorem quiet_jumpLabel (p : Program) (k : Nat) : Quiet (jumpLabel p k) := by
  unfold jumpLabel
  split
  next sources _ =>
    have h : Unbroken (star p k ++ ("from " ++ String.join (sources.map fun s => " 0x" ++ hex s))) := by
      refine unbroken_append (unbroken_star p k) (unbroken_append (by decide) (unbroken_join ?_))
      simp only [List.forall_mem_map, unbroken_append_iff]
      exact fun s _ => ⟨by decide, unbroken_hex s⟩
    simpa only [String.append_assoc] using quiet_rule h
  next =>
    split
    · exact quiet_rule (t := "table jump") (by decide)
    · exact Lines.empty

theorem quiet_caseLabel (p : Program) (k : Nat) : Quiet (caseLabel p k) := by
  unfold caseLabel
  split
  next sources _ =>
    have h : Unbroken ("case " ++ (star p k ++ ("from " ++ String.join (sources.map fun s =>
        " 0x" ++ hex s.1 ++ "(0x" ++ hex s.2 ++ ")")))) := by
      refine unbroken_append (by decide) (unbroken_append (unbroken_star p k)
        (unbroken_append (by decide) (unbroken_join ?_)))
      simp only [List.forall_mem_map, unbroken_append_iff]
      exact fun s _ => ⟨⟨⟨⟨by decide, unbroken_hex s.1⟩, by decide⟩, unbroken_hex s.2⟩, by decide⟩
    simpa only [String.append_assoc] using quiet_rule h
  next => exact Lines.empty

/-! ## heads of functions -/

theorem remarks_parmsLine (p : Program) (k : Nat) : Remarks (parmsLine p k) := by
  unfold parmsLine
  split
  next => exact remarks_empty
  next n _ =>
    have hcount : ∃ t, (if n = 0 then " no" else if n = -1 then " var" else " 0x" ++ hex n) = " " ++ t ∧
        Unbroken t := by
      split
      · exact ⟨"no", by decide, by decide⟩
      · split
        · exact ⟨"var", by decide, by decide⟩
        · refine ⟨"0x" ++ hex n, ?_, unbroken_append (by decide) (unbroken_hex n)⟩
          rw [← String.append_assoc]
          rfl
    obtain ⟨t, ht, hu⟩ := hcount
    have hline : ";" ++ (" " ++ t) ++ " args\n" = ";" ++ (" " ++ (t ++ " args")) ++ "\n" := by
      rw [show " args\n" = " args" ++ "\n" by decide]
      simp only [String.append_assoc]
    rw [ht, hline]
    refine remarks_line (isRemark_semicolon (.inr ⟨_, rfl⟩)) ?_
    exact unbroken_append (by decide) (unbroken_append (by decide) (unbroken_append hu (by decide)))

theorem isRemark_guesses {p : Program} {hash : Int} {text : String} (h : guesses p hash = some text) :
    isRemark (";" ++ text) = true := by
  obtain ⟨names, -, rfl⟩ := Option.map_eq_some_iff.1 h
  apply isRemark_semicolon
  cases names with
  | nil => exact .inl rfl
  | cons n names =>
    refine .inr ⟨"?" ++ n ++ "()" ++ String.join (names.map fun n => " ?" ++ n ++ "()"), ?_⟩
    rw [List.map_cons, String.join_cons, show " ?" = " " ++ "?" by decide]
    simp only [String.append_assoc]

section
variable {p : Program} (hp : p.Tidy)
include hp

theorem unbroken_guesses {hash : Int} {text : String} (h : guesses p hash = some text) :
    Unbroken text := by
  obtain ⟨names, hn, rfl⟩ := Option.map_eq_some_iff.1 h
  refine unbroken_join ?_
  simp only [List.forall_mem_map, unbroken_append_iff]
  exact fun n hm => ⟨⟨by decide, hp.names.functions _ _ hn n hm⟩, by decide⟩

theorem unbroken_callerText {caller : Int} {text : String} (h : callerText p caller = .ok text) :
    Unbroken text := by
  unfold callerText at h
  split at h
  next name hn =>
    cases h
    exact unbroken_append (unbroken_append (by decide) (hp.annotations.labels.functions _ _ hn)) (by decide)
  next =>
    obtain ⟨hash, -, h⟩ := bind_eq_ok_iff.1 h
    cases h
    cases hg : guesses p hash with
    | none => exact unbroken_append (by decide) (unbroken_hex caller)
    | some g => exact unbroken_guesses hp hg

theorem unbroken_callersText {callers : List Int} {text : String}
    (h : callersText p callers = .ok text) : Unbroken text := by
  induction callers generalizing text with
  | nil => cases h; decide
  | cons c rest ih =>
    obtain ⟨first, hc, h⟩ := bind_eq_ok_iff.1 h
    obtain ⟨more, hr, h⟩ := bind_eq_ok_iff.1 h
    cases h
    exact unbroken_append (unbroken_callerText hp hc) (ih hr)

theorem remarks_callersLine {k : Nat} {text : String} (h : callersLine p k = .ok text) : Remarks text := by
  unfold callersLine at h
  split at h
  next => cases h; exact remarks_empty
  next callers _ =>
    obtain ⟨more, hc, h⟩ := bind_eq_ok_iff.1 h
    cases h
    have hq := remarks_below (isRemark_append (s := "; called from") (by decide) more)
      (unbroken_append (by decide) (unbroken_callersText hp hc))
    rwa [← String.append_assoc, ← String.append_assoc] at hq

theorem remarks_nameLine {k : Nat} {text : String} (h : nameLine p k = .ok text) : Remarks text := by
  unfold nameLine at h
  split at h
  next name hn =>
    cases h
    refine remarks_ended (c := "()") (by decide) ?_ ?_
    · rw [String.append_assoc]
      exact isRemark_append (by decide) _
    · exact unbroken_append (unbroken_append (by decide) (hp.annotations.labels.functions _ _ hn)) (by decide)
  next =>
    obtain ⟨hash, -, h⟩ := bind_eq_ok_iff.1 h
    cases h
    cases hg : guesses p hash with
    | none => exact remarks_empty
    | some g => exact remarks_line (isRemark_guesses hg) (unbroken_append (by decide) (unbroken_guesses hp hg))

theorem remarks_heading {k : Nat} {text : String} (h : heading p k = .ok text) : Remarks text := by
  obtain ⟨callers, hc, h⟩ := bind_eq_ok_iff.1 h
  obtain ⟨name, hn, h⟩ := bind_eq_ok_iff.1 h
  obtain ⟨largest, -, h⟩ := bind_eq_ok_iff.1 h
  cases h
  have hlast : Remarks ("; max local arg 0x" ++ hex largest ++ "\n" ++ ("; ========================" ++ "\n")) :=
    (remarks_line (isRemark_append (by decide) _)
      (unbroken_append (by decide) (unbroken_hex largest))).append
      (remarks_line (by decide) (by decide))
  have hall := ((((remarks_callersLine hp hc).append remarks_newline).append
    (remarks_nameLine hp hn)).append (remarks_parmsLine p k)).append hlast
  rw [show "\n; ========================\n" = "\n" ++ ("; ========================" ++ "\n") by decide]
  simpa only [String.append_assoc] using hall

end

/-! ## addresses -/

/-- the texts of a naming are unbroken -/
structure Naming.Tidy (n : Naming) : Prop where
  remark : Unbroken n.remark
  operand : Unbroken n.operand

theorem Naming.tidy_name {name : String} (h : Unbroken name) : (⟨name, "&" ++ name⟩ : Naming).Tidy :=
  ⟨h, unbroken_append (by decide) h⟩

theorem tidy_foundNaming? {f : Found} (hf : f.Tidy) {n : Naming} (h : foundNaming? f = some n) : n.Tidy := by
  unfold foundNaming? at h
  split at h
  next first rest he =>
    cases h
    refine ⟨unbroken_intercalate (by decide) hf.exact, unbroken_append (by decide) (hf.exact first ?_)⟩
    exact he ▸ List.mem_cons_self
  next =>
    obtain ⟨m, hm, rfl⟩ := Option.map_eq_some_iff.1 h
    have ht : Unbroken (m.name ++ " + 0x" ++ hex m.distance) :=
      unbroken_append (unbroken_append (hf.nearest m hm) (by decide)) (unbroken_hex _)
    exact ⟨ht, unbroken_append (unbroken_append (by decide) ht) (by decide)⟩

section
variable {p : Program} (hp : p.Tidy)
include hp

theorem tidy_dataNaming? {addr : Int} {n : Naming} (h : dataNaming? p addr = some n) : n.Tidy := by
  unfold dataNaming? at h
  split at h
  next name hn => cases h; exact Naming.tidy_name (hp.annotations.labels.symbols _ _ hn)
  next => exact tidy_foundNaming? (hp.annotations.labels.ranges.find addr) h

theorem tidy_argRange? {func : Int} {key : String} {r : Range} (h : argRange? p func key = some r) :
    r.Tidy := by
  obtain ⟨args, ha, hr⟩ := Option.bind_eq_some_iff.1 h
  exact hp.annotations.labels.args _ _ ha _ _ hr

theorem tidy_argNaming (func distance : Int) : (argNaming p func distance).Tidy := by
  have hkey : Unbroken (argKey distance) := unbroken_append (by decide) (unbroken_toString _)
  unfold argNaming
  dsimp only
  split
  next r hr =>
    have hn := (tidy_argRange? hp hr).name
    exact ⟨unbroken_append (unbroken_append hkey (by decide)) hn, unbroken_append (by decide) hn⟩
  next => exact Naming.tidy_name hkey

theorem tidy_localNaming? {func addr : Int} {n : Naming} (h : localNaming? p func addr = some n) :
    n.Tidy := by
  unfold localNaming? at h
  split at h
  next names hn =>
    obtain ⟨name, hname, rfl⟩ := Option.map_eq_some_iff.1 h
    exact Naming.tidy_name (hp.annotations.labels.locals _ _ hn _ _ hname)
  next =>
    obtain ⟨t, ht, h⟩ := Option.bind_eq_some_iff.1 h
    exact tidy_foundNaming? ((hp.annotations.labels.localRanges _ _ ht).find addr) h

theorem tidy_frameNaming (func frame addr : Int) : (frameNaming p func frame addr).Tidy := by
  unfold frameNaming
  dsimp only
  split
  · exact tidy_argNaming hp func _
  · cases hn : localNaming? p func addr with
    | none => exact ⟨show Unbroken "" by decide, unbroken_append (by decide) (unbroken_hex addr)⟩
    | some n => exact tidy_localNaming? hp hn

end

/-! ## constants -/

theorem unbroken_escaped (b : UInt8) : Unbroken (Image.escaped b) := by
  unfold Image.escaped
  repeat (split; · decide)
  exact unbroken_append (by decide) (unbroken_hexByte b)

theorem unbroken_shown {b : UInt8} (h : Image.isShown b = true) :
    Unbroken (String.singleton (Char.ofNat b.toNat)) := by
  rw [Image.isShown, Bool.and_eq_true, decide_eq_true_iff, UInt8.lt_iff_toNat_lt] at h
  have hb : 31 < b.toNat := h.1
  have hv : b.toNat.isValidChar := .inl (by have := b.toNat_lt; omega)
  refine unbroken_ofList fun hn => ?_
  have hc : ('\n').toNat = (Char.ofNat b.toNat).toNat := congrArg Char.toNat (List.mem_singleton.1 hn)
  rw [Char.toNat_ofNat b.toNat, if_pos hv, show ('\n').toNat = 10 from rfl] at hc
  omega

theorem unbroken_quoteRest (q : Bool) (bs : List UInt8) : Unbroken (Image.quoteRest q bs) := by
  induction bs generalizing q with
  | nil => unfold Image.quoteRest; split <;> decide
  | cons b bs ih =>
    unfold Image.quoteRest
    split
    next hb =>
      exact unbroken_append (unbroken_append (by split <;> decide) (unbroken_shown hb)) (ih true)
    next => exact unbroken_append (unbroken_append (by split <;> decide) (unbroken_escaped b)) (ih false)

theorem unbroken_quoteLiteral (bs : List UInt8) : Unbroken (Image.quoteLiteral bs) := by
  cases bs with
  | nil => decide
  | cons b bs =>
    rw [Image.quoteLiteral]
    split
    next hb => exact unbroken_append (unbroken_append (by decide) (unbroken_shown hb)) (unbroken_quoteRest _ _)
    next => exact unbroken_append (unbroken_escaped b) (unbroken_quoteRest _ _)

/-- what is known about a constant is comments, and its naming is tidy -/
structure ConstantText.Tidy (t : ConstantText) : Prop where
  note : Remarks t.note.full
  brief : Remarks t.note.brief
  naming : t.naming.Tidy

/-- the bytes at a data address stand on one line -/
theorem exists_of_dataText {image : Image} {addr : Int} {text : String} (h : dataText image addr = .ok text) :
    ∃ t, text = t ++ "\n" ∧ Unbroken t := by
  obtain ⟨b0, -, h⟩ := bind_eq_ok_iff.1 h
  obtain ⟨b1, -, h⟩ := bind_eq_ok_iff.1 h
  obtain ⟨b2, -, h⟩ := bind_eq_ok_iff.1 h
  obtain ⟨b3, -, h⟩ := bind_eq_ok_iff.1 h
  refine ⟨hexByte b0 ++ " " ++ hexByte b1 ++ " " ++ hexByte b2 ++ " " ++ hexByte b3 ++ "  (0x" ++
    hexDigits (wordValue b0 b1 b2 b3) ++ ")", ?_, by simp [unbroken_append_iff]; decide⟩
  rw [← Except.ok.inj h, show ")\n" = ")" ++ "\n" by decide, ← String.append_assoc]

/-- a note on a line of its own below an empty one -/
theorem remarks_noteBelow {text : String} (h : Unbroken text) : Remarks ("\n  ; " ++ text ++ "\n") := by
  have hl : "\n  ; " ++ text ++ "\n" = "\n" ++ ("  ; " ++ text ++ "\n") := by
    rw [show "\n  ; " = "\n" ++ "  ; " by decide]
    simp only [String.append_assoc]
  rw [hl]
  exact remarks_below (isRemark_append (by decide) text) (unbroken_append (by decide) h)

/-- a value and what stands there -/
theorem remarks_noteBrief {s text : String} (hs : opensRemark s = true) (hu : Unbroken s)
    (value : Int) (h : Unbroken text) : Remarks (s ++ hex value ++ " : " ++ text ++ "\n") := by
  refine remarks_line ?_ ?_
  · simp only [String.append_assoc]
    exact isRemark_append hs _
  · exact unbroken_append (unbroken_append (unbroken_append hu (unbroken_hex value)) (by decide)) h

theorem remarks_literalBrief (value : Int) {text : String} (h : Unbroken text) :
    Remarks ("\n    ;  lit 0x" ++ hex value ++ " : " ++ text ++ "\n") := by
  have hl := remarks_newline.append (remarks_noteBrief (s := "    ;  lit 0x") (by decide) (by decide) value h)
  rw [show "\n    ;  lit 0x" = "\n" ++ "    ;  lit 0x" by decide]
  simpa only [String.append_assoc] using hl

theorem remarks_dataBrief (value : Int) {text : String} (h : Unbroken text) :
    Remarks ("    ; const 0x" ++ hex value ++ " : " ++ (text ++ "\n") ++ "\n") := by
  have hl := (remarks_noteBrief (s := "    ; const 0x") (by decide) (by decide) value h).append remarks_newline
  simpa only [String.append_assoc] using hl

section
variable {p : Program} (hp : p.Tidy)
include hp

theorem unbroken_callRemark (target : Int) : Unbroken (callRemark p target) := by
  have hcall : ∀ name : String, Unbroken name → Unbroken (name ++ "()") := fun _ h =>
    unbroken_append h (by decide)
  unfold callRemark
  split
  next name hn =>
    split at hn
    · exact hcall name (hp.names.calls _ _ hn)
    · cases hn
  next =>
    split
    next name hn => exact hcall name (hp.annotations.labels.functions _ _ hn)
    next =>
      split
      next hash _ =>
        cases hg : guesses p hash with
        | none => exact show Unbroken ":unknown function:" by decide
        | some g => exact unbroken_guesses hp hg
      next => decide

theorem tidy_constantText {k : Nat} {value : Int} {next : Nat} {t : ConstantText}
    (h : constantText p k value next = .ok t) : t.Tidy := by
  have hplain : ∀ r, Unbroken r → (⟨r, "0x" ++ hex value⟩ : Naming).Tidy := fun r hr =>
    ⟨hr, unbroken_append (by decide) (unbroken_hex value)⟩
  have hdata : ((dataNaming? p value).getD ⟨"", "0x" ++ hex value⟩).Tidy := by
    cases hn : dataNaming? p value with
    | none => exact hplain "" (by decide)
    | some n => exact tidy_dataNaming? hp hn
  unfold constantText at h
  dsimp only at h
  split at h
  next name expected hc =>
    have hword := (hp.annotations.labels.constants _ _ hc).unbroken
    split at h
    · cases h; exact ⟨remarks_empty, remarks_empty, hword, hword⟩
    · cases h; exact ⟨remarks_empty, remarks_empty, hplain _ (by decide)⟩
  next =>
    split at h
    · obtain ⟨text, ht, h⟩ := bind_eq_ok_iff.1 h
      obtain ⟨bs, -, ht⟩ := bind_eq_ok_iff.1 (lift_eq_ok_iff.1 ht)
      cases ht
      cases h
      have hlit := unbroken_quoteLiteral bs
      exact ⟨remarks_noteBelow hlit, remarks_literalBrief value hlit, hplain "" (by decide)⟩
    · split at h
      · obtain ⟨text, ht, h⟩ := bind_eq_ok_iff.1 h
        cases h
        obtain ⟨bytes, rfl, hbytes⟩ := exists_of_dataText (lift_eq_ok_iff.1 ht)
        refine ⟨?_, remarks_dataBrief value hbytes, hdata⟩
        dsimp only
        rw [← String.append_assoc]
        exact remarks_noteBelow hbytes
      · split at h
        · cases h; exact ⟨remarks_empty, remarks_empty, hplain _ (unbroken_callRemark hp value)⟩
        · split at h
          · cases h; exact ⟨remarks_empty, remarks_empty, hdata⟩
          · cases h; exact ⟨remarks_empty, remarks_empty, hplain "" (by decide)⟩

end

/-! ## notes -/

theorem remarks_switchNote (p : Program) (k : Nat) : Remarks (switchNote p k) := by
  unfold switchNote
  split
  next w _ =>
    refine remarks_ended (c := ")") (by decide) ?_ ?_
    · simp only [String.append_assoc]
      exact isRemark_append (by decide) _
    · simp only [unbroken_append_iff, unbroken_hex, and_true]
      decide
  next => exact remarks_empty

/-- a comment that ends with where a pointer is -/
theorem remarks_pointerTail {front : String} (hc : opensRemark front = true) (h : Unbroken front)
    (r : PointerRead) : Remarks (front ++ pointerTail r) := by
  refine remarks_ended (c := "*0x" ++ hex r.pointer ++ " -> (0x" ++ hex r.offset ++ ")") ?_
    (isRemark_append hc _) (unbroken_append h ?_)
  · rw [pointerTail, show ")\n" = ")" ++ "\n" by decide, ← String.append_assoc]
  · simp only [unbroken_append_iff, unbroken_hex, and_true]
    decide

section
variable {p : Program} (hp : p.Tidy)
include hp

theorem tidy_pointerRanges {s : State} {r : PointerRead} {rs : List Range}
    (h : pointerRanges p s r = .ok rs) : ∀ q ∈ rs, q.Tidy := by
  have htable : ∀ t : RangeTable, RangeTable.Tidy t → ∀ q ∈ t.getD r.pointer [], q.Tidy := fun t ht => by
    rw [Std.TreeMap.getD_eq_getD_getElem?]
    exact Every.getD ht r.pointer (List.forall_mem_nil _)
  unfold pointerRanges at h
  split at h
  · cases h; exact htable _ hp.annotations.labels.ranges
  · split at h
    next => cases h
    next frame _ =>
      dsimp only at h
      split at h
      · cases h
        intro q hq
        exact tidy_argRange? hp (Option.mem_toList.1 hq)
      · cases h
        refine htable _ ?_
        unfold Labels.localRangesOf
        rw [Std.TreeMap.getD_eq_getD_getElem?]
        exact Every.getD hp.annotations.labels.localRanges _ Every.empty

theorem remarks_pointerNote {s : State} {r : PointerRead} {text : String}
    (h : pointerNote p s r = .ok text) : Remarks text := by
  obtain ⟨rs, hrs, h⟩ := bind_eq_ok_iff.1 h
  split at h
  next => cases h; exact remarks_pointerTail (by decide) (by decide) r
  next range hfind =>
    have hrange := tidy_pointerRanges hp hrs range (List.mem_of_find?_eq_some hfind)
    have htarget : Unbroken ((range.pointer.map Pointer.target).getD "") := by
      cases hq : range.pointer with
      | none => exact show Unbroken "" by decide
      | some q => exact hrange.pointer q hq
    dsimp only at h
    split at h
    · split at h
      next => cases h
      next t ht =>
        split at h
        next m hm =>
          cases h
          have hmember := hp.annotations.library.members _ _ ht m (List.mem_of_find?_eq_some hm)
          refine remarks_line ?_ ?_
          · simp only [String.append_assoc]
            exact isRemark_append (by decide) _
          · exact unbroken_append (unbroken_append (unbroken_append (by decide) hrange.name) (by decide))
              hmember.name
        next => cases h; exact remarks_pointerTail (by decide) (by decide) r
    · cases h
      refine remarks_pointerTail ?_ ?_ r
      · rw [String.append_assoc]
        exact opensRemark_append (by decide) _
      · exact unbroken_append (unbroken_append (by decide) htarget) (by decide)

theorem remarks_loadNote {s : State} {k : Nat} {op : Opcode} {text : String}
    (h : loadNote p s k op = .ok text) : Remarks text := by
  unfold loadNote readNote at h
  split at h
  · split at h
    next => exact remarks_pointerNote hp h
    next => cases h; exact remarks_empty
  · cases h; exact remarks_empty

end

/-! ## operations -/

theorem unbroken_unary {v : String} (hv : Unbroken v) (u : Unary) : Unbroken (u.render v) := by
  unfold Unary.render
  split <;> simp only [unbroken_append_iff, hv, and_true] <;> decide

theorem unbroken_negation {v : String} (hv : Unbroken v) (n : Negation) : Unbroken (n.render v) := by
  unfold Negation.render
  split <;> simp only [unbroken_append_iff, hv, and_true] <;> decide

theorem unbroken_binary {l r : String} (hl : Unbroken l) (hr : Unbroken r) (b : Binary) :
    Unbroken (b.render l r) := by
  unfold Binary.render Binary.plain Binary.unsigned Binary.floating
  split <;> simp only [unbroken_append_iff, hl, hr, and_true] <;> decide

theorem unbroken_store {place value : String} (hp : Unbroken place) (hv : Unbroken value) (w : Store) :
    Unbroken (w.render place value) := by
  unfold Store.render Store.typeName
  split <;> simp only [unbroken_append_iff, hp, hv, and_true] <;> decide

/-- an operation on unbroken texts leaves an unbroken text -/
theorem unbroken_render {parm : String} (hparm : Unbroken parm) (o : Operation) {ts : List String}
    (h : ∀ t ∈ ts, Unbroken t) : Unbroken (o.render parm ts) := by
  unfold Operation.render
  split
  next u v => exact unbroken_unary (h v (by simp)) u
  next n v => exact unbroken_negation (h v (by simp)) n
  next b r l => exact unbroken_binary (h l (by simp)) (h r (by simp)) b
  next w r l => exact unbroken_store (h l (by simp)) (h r (by simp)) w
  next r =>
    have hr := h r (by simp)
    unfold renderArg
    simp only [unbroken_append_iff, hr, hparm, and_true]
    decide
  next r l =>
    have hl := h l (by simp)
    have hr := h r (by simp)
    unfold renderCopy
    simp only [unbroken_append_iff, hl, hr, hparm, and_true]
    decide
  next => decide

theorem unbroken_residue (o : Operation) {ts : List String} (h : ∀ t ∈ ts, Unbroken t) :
    ∀ t ∈ o.residue ts, Unbroken t := by
  unfold Operation.residue
  split
  next n v =>
    intro t ht
    unfold OperandStack.withoutSign at ht
    split at ht
    next cs hv =>
      rw [List.mem_singleton.1 ht]
      refine unbroken_of_sublist (h v (by simp)) ?_
      rw [hv]
      exact List.sublist_cons_self _ _
    next => cases ht
  next => exact List.forall_mem_nil _

theorem unbroken_texts {parm : String} (hparm : Unbroken parm) (o : Operation) {ts : List String}
    (h : ∀ t ∈ ts, Unbroken t) : ∀ t ∈ o.texts parm ts, Unbroken t := by
  have htake : ∀ t ∈ ts.take o.arity, Unbroken t := fun t ht => h t (List.mem_of_mem_take ht)
  unfold Operation.texts
  rw [List.forall_mem_cons, List.forall_mem_append]
  exact ⟨unbroken_render hparm o htake, unbroken_residue o htake, fun t ht => h t (List.mem_of_mem_drop ht)⟩

end Disasm.Listing
