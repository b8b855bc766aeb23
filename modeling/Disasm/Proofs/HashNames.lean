import Mathlib
import Disasm.Command.HashNames
import Disasm.Proofs.Annotation.Load
import Disasm.Proofs.Directory
import Disasm.Proofs.FunctionTables
import Disasm.Proofs.KnownNames
import Disasm.Proofs.Listing.Segments

/-!
# Names by hashes

The map of an assembler names functions by their addresses.  The command `hashNames` turns it into lines with
names and hashes, and these are read back when the names that are known beforehand are loaded.

* `kept`, `mapEntries_ok`  the entries of a map; the last one for an address stays;
* `words_functionLine`, `hashEntries_ok`  the hashes in the list of functions of an image;
* `namedText`, `hashNames_ok`  what the command prints;
* `forall₂_named`, `exists_addresses`  how it is read;
* `hashNames_round_trip`  under each hash stand the names of the functions with this hash, in the order of their
  addresses.
-/

namespace Disasm

open Disasm.Action Disasm.Text

namespace Command

/-! ## the map -/

/-- the address and the name on a line of a map, if the line is kept -/
def keptPair? (line : String) : Option (Int × String) :=
  match words line with
  | segment :: addr :: name :: _ =>
    if segment == "0" then
      (readInt? 16 addr).bind fun a => if a < 0x7fffffff && !stackMarks.contains name then some (a, name) else none
    else none
  | _ => none

/-- the entries of a map that are kept -/
def kept (text : String) : List (Int × String) := (lines text).filterMap keptPair?

/-- lines of the segment of code have addresses -/
def Addressed (line : String) : Prop :=
  ∀ addr name rest, words line = "0" :: addr :: name :: rest → ∃ a, readInt? 16 addr = some a

instance (line : String) : Decidable (Addressed line) :=
  decidable_of_iff ((words line)[0]? = some "0" → 3 ≤ (words line).length →
      ∀ w ∈ (words line)[1]?, (readInt? 16 w).isSome = true) <| by
    unfold Addressed
    constructor
    · intro h addr name rest hw
      rw [hw] at h
      exact Option.isSome_iff_exists.1 (h rfl (by simp) addr rfl)
    · intro h h0 hlen w hw
      rcases hws : words line with _ | ⟨first, _ | ⟨addr, _ | ⟨name, rest⟩⟩⟩
      · simp [hws] at hlen
      · simp [hws] at hlen
      · simp [hws] at hlen
      · rw [hws] at h0 hw
        cases h0
        cases hw
        exact Option.isSome_iff_exists.2 (h _ _ _ hws)

theorem mapEntry_ok {line : String} (h : Addressed line) (s : Session Directory) :
    mapEntry line s = .ok (keptPair? line) s := by
  unfold Addressed at h
  unfold mapEntry keptPair?
  cases hw : words line with
  | nil => rfl
  | cons segment ws =>
    cases ws with
    | nil => rfl
    | cons addr ws =>
      cases ws with
      | nil => rfl
      | cons name ws =>
        dsimp only
        by_cases hs : (segment == "0") = true
        · obtain ⟨a, ha⟩ := h addr name ws (by rw [hw, eq_of_beq hs])
          rw [if_pos hs, if_pos hs, ha]
          rfl
        · rw [if_neg hs, if_neg hs]
          rfl

theorem mapEntries_ok {ls : List String} (h : ∀ l ∈ ls, Addressed l) (t : Std.TreeMap Int String)
    (s : Session Directory) : mapEntries t ls s = .ok (insertAll t (ls.filterMap keptPair?)) s := by
  induction ls generalizing t with
  | nil => rfl
  | cons l ls ih =>
    obtain ⟨hl, hrest⟩ := List.forall_mem_cons.1 h
    rw [mapEntries, bind_of_ok (mapEntry_ok hl s)]
    cases hk : keptPair? l with
    | none =>
      rw [List.filterMap_cons_none hk]
      exact ih hrest t
    | some e =>
      rw [List.filterMap_cons_some hk]
      exact ih hrest (t.insert e.1 e.2)

/-- the name of an entry is a word -/
theorem isWord_of_kept {text : String} {e : Int × String} (he : e ∈ kept text) : IsWord e.2.toList := by
  obtain ⟨line, -, hk⟩ := List.mem_filterMap.1 he
  unfold keptPair? at hk
  cases hw : words line with
  | nil => rw [hw] at hk; cases hk
  | cons segment ws =>
    cases ws with
    | nil => rw [hw] at hk; cases hk
    | cons addr ws =>
      cases ws with
      | nil => rw [hw] at hk; cases hk
      | cons name ws =>
        rw [hw] at hk
        dsimp only at hk
        by_cases hs : (segment == "0") = true
        · rw [if_pos hs] at hk
          obtain ⟨a, -, ha⟩ := Option.bind_eq_some_iff.1 hk
          by_cases hc : (decide (a < 0x7fffffff) && !stackMarks.contains name) = true
          · rw [if_pos hc] at ha
            cases ha
            exact isWord_of_mem_words (s := line) (by rw [hw]; simp)
          · rw [if_neg hc] at ha
            cases ha
        · rw [if_neg hs] at hk
          cases hk

/-! ## the hashes of an image -/

/-- the options of the disassembler, which are no names of files for it -/
def optionWords : List String := ["--func-hash", "-q", "-dr", "--"]

theorem read_hashesOnly {file : String} (h : file ∉ optionWords) :
    DisassembleOptions.read ["--func-hash", file] = { hashesOnly := true, file := some file } := by
  simp only [optionWords, List.mem_cons, List.not_mem_nil, or_false, not_or] at h
  obtain ⟨h1, h2, h3, h4⟩ := h
  simp [DisassembleOptions.read, DisassembleOptions.readFrom, DisassembleOptions.operand, h1, h2, h3, h4]

theorem hashLines_ok {d : Directory} {file : String} {bytes : ByteArray} {p : Program} {c : Console}
    (hfile : file ∉ optionWords) (hbytes : d.bytes file = .ok bytes)
    (hload : Program.load d none bytes {} = (.ok p, c)) (hc : c.out = "") (con : Console) :
    hashLines file ⟨d, con⟩ = .ok (lines (Listing.functionsText p)) ⟨d, con⟩ := by
  have hopen : openProgram file none ⟨d, {}⟩ = .ok p ⟨d, c⟩ := by
    unfold openProgram
    simp only [hbytes, hload]
  have hrun : disassemble "" ["--func-hash", file] ⟨d, {}⟩ = .ok () ⟨d, c.print (Listing.functionsText p)⟩ := by
    unfold disassemble
    rw [read_hashesOnly hfile]
    show (openProgram file none >>= fun p => print (Listing.functionsText p)) ⟨d, {}⟩ = _
    rw [bind_of_ok hopen]
    rfl
  have hout : (c.print (Listing.functionsText p)).out = Listing.functionsText p := by
    unfold Console.print
    rw [hc, String.empty_append]
  unfold hashLines
  rw [bind_of_ok (show Action.read (⟨d, con⟩ : Session Directory) = .ok d ⟨d, con⟩ from rfl), hrun]
  dsimp only
  rw [hout]
  rfl

/-- a line on a function: its address, its size and its hash, and behind a blank all the rest -/
theorem functionLine_eq {p : Program} (hp : p.Tidy) (a hash : Int) :
    ∃ tail : String, Unbroken tail ∧ StartsBlank (tail ++ "\n") ∧
      Listing.functionLine p a hash =
        "0x" ++ hex8 a ++ "  " ++ ("0x" ++ hex (p.analysis.sizes.getD a 0)) ++ "  " ++ hex hash ++ (tail ++ "\n") := by
  have hgap : "  0x" = "  " ++ "0x" := rfl
  unfold Listing.functionLine
  cases hn : p.names.functions[hash]? with
  | none =>
    refine ⟨"", by decide, ⟨'\n', rfl, by decide⟩, ?_⟩
    rw [hgap]
    simp only [String.append_assoc]
  | some names =>
    have hnames := hp.names.functions hash names hn
    have htab : StartsBlank "\tpossible match to" := ⟨'\t', rfl, by decide⟩
    refine ⟨"\tpossible match to" ++ String.join (names.map (" " ++ ·)), unbroken_append (by decide) ?_,
      (htab.append _).append _, ?_⟩
    · refine unbroken_join fun s hs => ?_
      obtain ⟨name, hname, rfl⟩ := List.mem_map.1 hs
      exact unbroken_append (by decide) (hnames name hname)
    · rw [hgap]
      simp only [String.append_assoc]

theorem words_functionLine {p : Program} (hp : p.Tidy) (a : Nat) (hash : Int) :
    ∃ size more, words (Listing.functionLine p a hash) = ("0x" ++ hex8 a) :: size :: hex hash :: more := by
  obtain ⟨tail, -, htail, hline⟩ := functionLine_eq hp a hash
  rw [hline]
  exact ⟨_, _, words_three (Listing.isWord_hex8 a) (isWord_markedHex _) (isWord_hex hash) ⟨' ', rfl, by decide⟩
    (by decide) htail⟩

/-- the addresses and the hashes of functions are read from their lines -/
theorem hashEntries_ok {p : Program} (hp : p.Tidy) {es : List (Int × Int)} (hes : ∀ e ∈ es, 0 ≤ e.1)
    (t : Std.TreeMap Int String) (s : Session Directory) :
    hashEntries t (es.map fun e => Listing.functionLine p e.1 e.2) s =
      .ok (insertAll t (es.map fun e => (e.1, hex e.2))) s := by
  induction es generalizing t with
  | nil => rfl
  | cons e es ih =>
    obtain ⟨he, hrest⟩ := List.forall_mem_cons.1 hes
    obtain ⟨a, ha⟩ := Int.eq_ofNat_of_zero_le he
    obtain ⟨size, more, hwords⟩ := words_functionLine hp a e.2
    have haddr : readInt? 16 ("0x" ++ hex8 a) = some (a : Int) := readInt?_marked 8 a
    have hfirst : argument (("0x" ++ hex8 a) :: size :: hex e.2 :: more) 0 s = .ok ("0x" ++ hex8 a) s := rfl
    have hthird : argument (("0x" ++ hex8 a) :: size :: hex e.2 :: more) 2 s = .ok (hex e.2) s := rfl
    rw [List.map_cons, hashEntries, ha, hwords]
    rw [bind_of_ok hfirst, haddr, bind_of_ok (show ofOption .badNumeral (some (a : Int)) s = .ok (a : Int) s from rfl),
      bind_of_ok hthird, ih hrest, List.map_cons, ha]
    rfl

theorem lines_functionsText {p : Program} (hp : p.Tidy) (hes : ∀ e ∈ p.analysis.hashes.toList, 0 ≤ e.1) :
    lines (Listing.functionsText p) = p.analysis.hashes.toList.map fun e => Listing.functionLine p e.1 e.2 := by
  refine lines_join_rows fun row hrow => ?_
  obtain ⟨e, he, rfl⟩ := List.mem_map.1 hrow
  obtain ⟨a, ha⟩ := Int.eq_ofNat_of_zero_le (hes e he)
  obtain ⟨tail, htail, -, hline⟩ := functionLine_eq hp e.1 e.2
  refine ⟨_, ?_, hline.trans (String.append_assoc ..).symm⟩
  have hgap : Unbroken "  " := by decide
  have haddr : Unbroken ("0x" ++ hex8 e.1) := by
    rw [ha]
    exact (Listing.isWord_hex8 a).unbroken
  simp only [unbroken_append_iff] at haddr ⊢
  simp [haddr, hgap, htail]

/-- functions that start with `enter` have addresses -/
theorem nonneg_of_hashes {d : Directory} {type : Option String} {bytes : ByteArray} {p : Program} {c c' : Console}
    (hload : Program.load d type bytes c = (.ok p, c')) (hfirst : EnterAt p.code 0) {a : Int}
    (ha : a ∈ p.analysis.hashes) : 0 ≤ a := by
  obtain ⟨f, rs, hcourse, -, hhashes, -⟩ := Program.course_of_load hload
  rw [hhashes, hcourse.filed.hashes.mem_iff, ← hcourse.isFunction_iff] at ha
  rcases ha with ⟨j, rfl, -⟩ | ⟨-, h0⟩
  · exact Int.natCast_nonneg j
  · exact absurd hfirst h0

/-! ## the names that are printed -/

/-- the names of a map by their addresses -/
def keptNames (text : String) : Std.TreeMap Int String := insertAll {} (kept text)

theorem mem_keptNames_iff {text : String} {e : Int × String} :
    e ∈ (keptNames text).toList ↔ lastValue? (kept text) e.1 = some e.2 := by
  rw [show e = (e.1, e.2) from rfl, Std.TreeMap.mem_toList_iff_getElem?_eq_some, keptNames, getElem?_insertAll,
    Std.TreeMap.getElem?_emptyc, Option.or_none]

theorem mem_kept_of_mem_keptNames {text : String} {e : Int × String} (h : e ∈ (keptNames text).toList) : e ∈ kept text :=
  exists_of_lastValue? (mem_keptNames_iff.1 h)

/-- a line with the address, the name and the hash of a function -/
def namedLine (hashes : Std.TreeMap Int Int) (e : Int × String) : String :=
  "0x" ++ hex e.1 ++ " " ++ e.2 ++ " " ++ hex (hashes.getD e.1 0) ++ "\n"

theorem named_namedLine (hashes : Std.TreeMap Int Int) {e : Int × String} (he : IsWord e.2.toList) :
    KnownNames.Named (namedLine hashes e) (hashes.getD e.1 0, e.2) :=
  ⟨_, _, _, words_three (isWord_markedHex e.1) he (isWord_hex _) ⟨' ', rfl, by decide⟩ (by decide)
    ⟨'\n', rfl, by decide⟩, readInt?_hex _⟩

theorem exists_of_namedLine (hashes : Std.TreeMap Int Int) {e : Int × String} (he : IsWord e.2.toList) :
    ∃ l, Unbroken l ∧ namedLine hashes e = l ++ "\n" := by
  refine ⟨_, ?_, rfl⟩
  have hgap : Unbroken " " := by decide
  have haddr := (isWord_markedHex e.1).unbroken
  simp only [unbroken_append_iff] at haddr ⊢
  simp [haddr, hgap, he.unbroken]

/-- lines of names and hashes hold no carriage return, which would be read as the end of a line -/
theorem not_mem_namedLine (hashes : Std.TreeMap Int Int) {e : Int × String} (he : IsWord e.2.toList) :
    '\r' ∉ (namedLine hashes e).toList := by
  have hword : ∀ w : String, IsWord w.toList → '\r' ∉ w.toList := fun w hw hr => by
    have := hw.2 _ hr
    exact absurd this (by decide)
  have haddr := hword _ (isWord_markedHex e.1)
  have hhash := hword _ (isWord_hex (hashes.getD e.1 0))
  unfold namedLine
  simp only [String.toList_append, List.mem_append, not_or] at haddr ⊢
  exact ⟨⟨⟨⟨⟨haddr, by decide⟩, hword _ he⟩, by decide⟩, hhash⟩, by decide⟩

theorem printHashNames_prints {shown : Std.TreeMap Int String} {hashes : Std.TreeMap Int Int} {es : List (Int × String)}
    (h : ∀ e ∈ es, shown[e.1]? = some (hex (hashes.getD e.1 0))) :
    Prints (printHashNames shown es) (String.join (es.map (namedLine hashes))) := by
  induction es with
  | nil => exact Prints.nothing
  | cons e es ih =>
    obtain ⟨he, hrest⟩ := List.forall_mem_cons.1 h
    intro s
    rw [List.map_cons, String.join_cons, printHashNames, he]
    exact (Prints.seq (Prints.print _) (ih hrest)) s

/-- what the command prints for a map and the hashes of an image -/
def namedText (hashes : Std.TreeMap Int Int) (text : String) : String :=
  String.join ((keptNames text).toList.map (namedLine hashes))

section
variable {d : Directory} {mapFile file text : String} {bytes : ByteArray} {p : Program} {c : Console}

/-- a map of functions of an image is turned into names and hashes -/
theorem hashNames_ok (hfile : file ∉ optionWords) (hbytes : d.bytes file = .ok bytes)
    (hload : Program.load d none bytes {} = (.ok p, c)) (hquiet : c.out = "") (hfirst : EnterAt p.code 0)
    (htext : d.text mapFile = .ok text) (haddr : ∀ line ∈ lines text, Addressed line)
    (hkept : ∀ e ∈ kept text, e.1 ∈ p.analysis.hashes) (name : String) (more : List String) (con : Console) :
    hashNames name (mapFile :: file :: more) ⟨d, con⟩ = .ok () ⟨d, con.print (namedText p.analysis.hashes text)⟩ := by
  have htidy := Program.tidy_of_load hload
  have hes : ∀ e ∈ p.analysis.hashes.toList, 0 ≤ e.1 := fun e he =>
    nonneg_of_hashes hload hfirst (mem_iff_exists_getElem?.2 ⟨e.2, Std.TreeMap.mem_toList_iff_getElem?_eq_some.1 he⟩)
  have hmap : fileLines mapFile ⟨d, con⟩ = .ok (lines text) ⟨d, con⟩ := by
    unfold fileLines
    rw [bind_of_ok (show Action.read (⟨d, con⟩ : Session Directory) = .ok d ⟨d, con⟩ from rfl), htext]
    rfl
  have hlines := hashLines_ok hfile hbytes hload hquiet con
  rw [lines_functionsText htidy hes] at hlines
  have hshown : ∀ e ∈ (keptNames text).toList,
      (insertAll {} (p.analysis.hashes.toList.map fun e => (e.1, hex e.2)))[e.1]? =
        some (hex (p.analysis.hashes.getD e.1 0)) := by
    intro e he
    obtain ⟨hash, hhash⟩ := mem_iff_exists_getElem?.1 (hkept e (mem_kept_of_mem_keptNames he))
    rw [getElem?_insertAll, lastValue?_map, lastValue?_toList, Std.TreeMap.getD_eq_getD_getElem?, hhash]
    rfl
  unfold hashNames
  show (fileLines mapFile >>= fun ls => mapEntries {} ls >>= fun names => hashLines file >>= fun ls =>
    hashEntries {} ls >>= fun hashes => printHashNames hashes names.toList) ⟨d, con⟩ = _
  rw [bind_of_ok hmap, bind_of_ok (mapEntries_ok haddr {} _), bind_of_ok hlines, bind_of_ok (hashEntries_ok htidy hes {} _)]
  exact printHashNames_prints hshown _

end

/-! ## the names that are read -/

section
variable {text : String} {hashes : Std.TreeMap Int Int}

theorem forall₂_named (hashes : Std.TreeMap Int Int) (text : String) :
    List.Forall₂ KnownNames.Named (lines (namedText hashes text))
      ((keptNames text).toList.map fun e => (hashes.getD e.1 0, e.2)) := by
  have hword : ∀ e ∈ (keptNames text).toList, IsWord e.2.toList := fun e he =>
    isWord_of_kept (mem_kept_of_mem_keptNames he)
  have hlines : lines (namedText hashes text) = (keptNames text).toList.map (namedLine hashes) := by
    refine lines_join_rows fun row hrow => ?_
    obtain ⟨e, he, rfl⟩ := List.mem_map.1 hrow
    exact exists_of_namedLine hashes (hword e he)
  rw [hlines, List.forall₂_map_left_iff, List.forall₂_map_right_iff, List.forall₂_same]
  exact fun e he => named_namedLine hashes (hword e he)

theorem not_mem_namedText (hashes : Std.TreeMap Int Int) (text : String) : '\r' ∉ (namedText hashes text).toList := by
  unfold namedText
  rw [String.toList_join, List.mem_flatMap]
  rintro ⟨row, hrow, hr⟩
  obtain ⟨e, he, rfl⟩ := List.mem_map.1 hrow
  exact not_mem_namedLine hashes (isWord_of_kept (mem_kept_of_mem_keptNames he)) hr

/-- the names under a hash are those of its addresses, from the lowest one on -/
theorem exists_addresses (hkept : ∀ e ∈ kept text, e.1 ∈ hashes) (hash : Int) :
    ∃ as : List Int, as.Pairwise (· < ·) ∧
      (∀ a, a ∈ as ↔ hashes[a]? = some hash ∧ ∃ name, (a, name) ∈ kept text) ∧
      ((((keptNames text).toList.map fun e => (hashes.getD e.1 0, e.2)).filter fun e => e.1 = hash).map Prod.snd) =
        as.filterMap (lastValue? (kept text)) := by
  refine ⟨((keptNames text).toList.filter fun e => hashes.getD e.1 0 = hash).map Prod.fst, ?_, ?_, ?_⟩
  · rw [List.pairwise_map]
    exact (Std.TreeMap.ordered_keys_toList.imp fun hab => Int.compare_eq_lt.1 hab).filter _
  · intro a
    rw [List.mem_map]
    constructor
    · rintro ⟨e, he, rfl⟩
      obtain ⟨hmem, hhash⟩ := List.mem_filter.1 he
      have hk := mem_kept_of_mem_keptNames hmem
      obtain ⟨v, hv⟩ := mem_iff_exists_getElem?.1 (hkept e hk)
      have hgetD := of_decide_eq_true hhash
      rw [Std.TreeMap.getD_eq_getD_getElem?, hv, Option.getD_some] at hgetD
      exact ⟨hgetD ▸ hv, e.2, hk⟩
    · rintro ⟨hhash, hname⟩
      obtain ⟨name, hlast⟩ := exists_lastValue?_iff.2 hname
      refine ⟨(a, name), List.mem_filter.2 ⟨mem_keptNames_iff.2 hlast, ?_⟩, rfl⟩
      rw [decide_eq_true_eq, Std.TreeMap.getD_eq_getD_getElem?, hhash, Option.getD_some]
  · rw [List.filter_map, List.map_map, List.filterMap_map]
    symm
    refine List.filterMap_eq_map_iff_forall_eq_some.2 fun e he => ?_
    exact mem_keptNames_iff.1 (List.mem_filter.1 he).1

end

/-! ## there and back -/

theorem holds_of_contents {d : Directory} {name : String} {bs : List UInt8} (h : d.contents? name = some bs) :
    d.holds name = true := by
  obtain ⟨data, hd, -⟩ := Option.map_eq_some_iff.1 h
  unfold Directory.holds
  rw [Std.TreeMap.contains_eq_isSome_getElem?]
  rw [Directory.bytes?] at hd
  rw [hd]
  rfl

/-- Names go from a map to hashes and back.  Where an image is loaded without complaints and starts with `enter`, and
the entries of a map that are kept are about its functions, the command prints a text.  A program that finds this text
as its file of names then has under each hash the names of the functions with this hash, in the order of their
addresses, behind those that it had before.  Only a file with calls that cannot be read can prevent this. -/
theorem hashNames_round_trip {d : Directory} {mapFile file text : String} {bytes : ByteArray} {p : Program} {c : Console}
    (hfile : file ∉ optionWords) (hbytes : d.bytes file = .ok bytes)
    (hload : Program.load d none bytes {} = (.ok p, c)) (hquiet : c.out = "") (hfirst : EnterAt p.code 0)
    (htext : d.text mapFile = .ok text) (haddr : ∀ line ∈ lines text, Addressed line)
    (hkept : ∀ e ∈ kept text, e.1 ∈ p.analysis.hashes) :
    ∃ out : String,
      (∀ name more con, hashNames name (mapFile :: file :: more) ⟨d, con⟩ = .ok () ⟨d, con.print out⟩) ∧
      ∀ (type : ProgramType) (e : Directory), e.contents? type.hashesFile.1 = some out.toUTF8.toList →
        ∀ s : Session Program,
          ((∃ t, Program.setType e (some type.name) s = .ok () t) ↔ KnownNames.CallsReadable e type) ∧
          ∀ t, Program.setType e (some type.name) s = .ok () t → ∀ hash : Int,
            ∃ as : List Int, as.Pairwise (· < ·) ∧
              (∀ a, a ∈ as ↔ p.analysis.hashes[a]? = some hash ∧ ∃ name, (a, name) ∈ kept text) ∧
              t.state.names.functions.getD hash [] =
                s.state.names.functions.getD hash [] ++ as.filterMap (lastValue? (kept text)) := by
  refine ⟨namedText p.analysis.hashes text,
    hashNames_ok hfile hbytes hload hquiet hfirst htext haddr hkept, fun type e he s => ?_⟩
  have hholds := holds_of_contents he
  have hread := Directory.text_of_contents he (not_mem_namedText _ text)
  have hnamed := forall₂_named p.analysis.hashes text
  refine ⟨Program.setType_ok_iff hholds hread hnamed, fun t ht hash => ?_⟩
  obtain ⟨as, hsorted, hmem, hnames⟩ := exists_addresses hkept hash
  refine ⟨as, hsorted, hmem, ?_⟩
  rw [Program.functions_of_setType hholds hread hnamed ht, getD_appendAll, hnames]

/-- functions of the same kind, and one of another kind -/
def twinCode : List Instruction :=
  [⟨.enter, 8⟩, ⟨.leave, 8⟩, ⟨.enter, 16⟩, ⟨.leave, 16⟩, ⟨.enter, 8⟩, ⟨.leave, 8⟩, ⟨.enter, 8⟩, ⟨.pop, 0⟩]

/-- names for some of them, one of which is replaced -/
def twinMap : String := "0 4 b\n0 0 x\n0 6 c\n1 0 d\n0 0 a\n"

def twinDirectory : Directory :=
  (Program.bare.write "a.qvm" (Program.fileOf twinCode [] [])).write "a.map" twinMap.toUTF8

theorem hashNames_round_trip_twins :
    ∃ (p : Program) (c : Console) (out : String) (t : Session Program),
      Program.load twinDirectory none (Program.fileOf twinCode [] []) {} = (.ok p, c) ∧ c.out = "" ∧ EnterAt p.code 0 ∧
      hashNames "" ["a.map", "a.qvm"] ⟨twinDirectory, {}⟩ = .ok () ⟨twinDirectory, Console.print out {}⟩ ∧
      Program.setType (({} : Directory).write ProgramType.client.hashesFile.1 out.toUTF8) (some ProgramType.client.name)
        ⟨{ image := p.image }, c⟩ = .ok () t ∧
      t.state.names.functions.getD 320429997 [] = ["a", "b"] ∧ t.state.names.functions.getD (-1549913418) [] = ["c"] := by
  obtain ⟨p, c, hload, htest⟩ := Program.exists_of_loadsWith twinDirectory (Program.fileOf twinCode [] [])
    (fun p => p.code = twinCode &&
      p.analysis.hashes.toList = [(0, 320429997), (2, 320429997), (4, 320429997), (6, -1549913418)]) (by decide +kernel)
  simp only [Bool.and_eq_true, decide_eq_true_eq] at htest
  obtain ⟨hcode, hhashes⟩ := htest
  have hquiet : (Program.load twinDirectory none (Program.fileOf twinCode [] []) {}).2.out = "" := by decide +kernel
  rw [hload] at hquiet
  have hfirst : EnterAt p.code 0 := by rw [hcode]; decide
  have hget : ∀ a hash : Int, p.analysis.hashes[a]? = some hash ↔
      (a, hash) ∈ [((0 : Int), (320429997 : Int)), (2, 320429997), (4, 320429997), (6, -1549913418)] := by
    intro a hash
    rw [← Std.TreeMap.mem_toList_iff_getElem?_eq_some, hhashes]
  have hkept : kept twinMap = [(4, "b"), (0, "x"), (6, "c"), (0, "a")] := by decide +kernel
  have haddresses : ∀ a : Int, (∃ name, (a, name) ∈ kept twinMap) ↔ a = 4 ∨ a = 0 ∨ a = 6 := by
    intro a
    rw [hkept]
    simp [exists_or]
    omega
  have htext : twinDirectory.text "a.map" = .ok twinMap :=
    Directory.text_of_contents (by rw [twinDirectory, Directory.contents?_write, if_pos rfl]) (by decide)
  have hfunctions : ∀ e ∈ kept twinMap, e.1 ∈ p.analysis.hashes := by
    rw [hkept]
    simp only [mem_iff_exists_getElem?, hget]
    simp
  obtain ⟨out, hout, hback⟩ := hashNames_round_trip (by decide) (show twinDirectory.bytes "a.qvm" = _ from rfl) hload
    hquiet hfirst htext (by decide +kernel) hfunctions
  obtain ⟨hok, hnames⟩ := hback .client (({} : Directory).write ProgramType.client.hashesFile.1 out.toUTF8)
    (by rw [Directory.contents?_write, if_pos rfl]) ⟨{ image := p.image }, c⟩
  have hcalls : KnownNames.CallsReadable (({} : Directory).write ProgramType.client.hashesFile.1 out.toUTF8) .client :=
    fun h => by
      rw [show Directory.holds (({} : Directory).write ProgramType.client.hashesFile.1 out.toUTF8)
        ProgramType.client.callsFile.1 = false by with_unfolding_all rfl] at h
      cases h
  obtain ⟨t, ht⟩ := hok.2 hcalls
  have hnamed : ∀ (hash : Int) (as : List Int), as.Pairwise (· < ·) →
      (∀ a, a ∈ as ↔ p.analysis.hashes[a]? = some hash ∧ ∃ name, (a, name) ∈ kept twinMap) →
      t.state.names.functions.getD hash [] = as.filterMap (lastValue? (kept twinMap)) := by
    intro hash as hsorted hmem
    obtain ⟨bs, hbs, hmem', hb⟩ := hnames t ht hash
    rw [hsorted.eq_of_mem_iff hbs fun a => (hmem a).trans (hmem' a).symm, hb]
    rfl
  have htwins := hnamed 320429997 [0, 4] (by decide) fun a => by
    rw [hget, haddresses]
    simp only [List.mem_cons, List.not_mem_nil, or_false, Prod.mk.injEq]
    norm_num
    omega
  have hother := hnamed (-1549913418) [6] (by decide) fun a => by
    rw [hget, haddresses]
    simp only [List.mem_cons, List.not_mem_nil, or_false, Prod.mk.injEq]
    norm_num
    omega
  rw [hkept] at htwins hother
  exact ⟨p, c, out, t, hload, hquiet, hfirst, hout "" [] {}, ht, htwins.trans (by decide), hother.trans (by decide)⟩

end Command

end Disasm
