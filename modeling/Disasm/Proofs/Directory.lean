import Mathlib
import Disasm.Command.Basic
import Disasm.Proofs.Action

/-!
# Files after changes to a directory

* `Directory.contents?`  the bytes of a file as a list, with one equation for each change;
* `text_write`, `holds_write`  other files stay as they are;
* `writeFile_ok`, `fileBytes_ok`, `fileLines_ok`  the steps of commands on files that are there or can
  be made.
-/

namespace Disasm

/-! ## bytes as lists -/

theorem toList_loop (bs : ByteArray) (i : Nat) (r : List UInt8) :
    ByteArray.toList.loop bs i r = r.reverse ++ bs.data.toList.drop i := by
  fun_induction ByteArray.toList.loop bs i r with
  | case1 i r h ih =>
    have hi : i < bs.data.toList.length := h
    have hg : bs.get! i = bs.data.toList[i] := by
      show bs.data[i]! = bs.data.toList[i]
      rw [getElem!_pos bs.data i h, Array.getElem_toList]
    rw [ih, List.drop_eq_getElem_cons hi, hg, List.reverse_cons, List.append_assoc]
    rfl
  | case2 i r h =>
    have hi : bs.data.toList.length ≤ i := Nat.le_of_not_lt h
    rw [List.drop_eq_nil_of_le hi, List.append_nil]

theorem toList_byteArray (bs : ByteArray) : bs.toList = bs.data.toList := by
  unfold ByteArray.toList
  rw [toList_loop]
  rfl

theorem toList_injective {a b : ByteArray} (h : a.toList = b.toList) : a = b := by
  rw [toList_byteArray, toList_byteArray] at h
  exact ByteArray.ext (Array.toList_inj.1 h)

theorem length_toList_byteArray (bs : ByteArray) : bs.toList.length = bs.size := by
  rw [toList_byteArray]
  rfl

theorem toList_foldl_push (data : List UInt8) (bs : ByteArray) :
    (data.foldl ByteArray.push bs).toList = bs.toList ++ data := by
  induction data generalizing bs with
  | nil => rw [List.foldl_nil, List.append_nil]
  | cons b data ih =>
    rw [List.foldl_cons, ih, toList_byteArray, toList_byteArray, ByteArray.data_push, Array.toList_push,
      List.append_assoc]
    rfl

namespace Directory

/-! ## what a file holds -/

/-- the bytes of a file as a list -/
def contents? (d : Directory) (name : String) : Option (List UInt8) :=
  (d.bytes? name).map ByteArray.toList

theorem contents?_write (d : Directory) (name other : String) (data : ByteArray) :
    (d.write name data).contents? other =
      if path other = path name then some data.toList else d.contents? other := by
  unfold contents? bytes? write
  rw [Std.TreeMap.getElem?_insert]
  by_cases h : path other = path name
  · rw [if_pos (compare_eq_iff_eq.2 h.symm), if_pos h]
    rfl
  · rw [if_neg (fun e => h (compare_eq_iff_eq.1 e).symm), if_neg h]

theorem contents?_append (d : Directory) (name other : String) (data : List UInt8) :
    (d.append name data).contents? other =
      if path other = path name then some ((d.contents? name).getD [] ++ data)
      else d.contents? other := by
  unfold append
  rw [contents?_write, toList_foldl_push]
  unfold contents?
  cases d.bytes? name with
  | none => rw [Option.getD_none, ByteArray.toList_empty]; rfl
  | some bs => rfl

/-! ## other files -/

theorem any_eq_any_toList {α β : Type} [Ord α] (t : Std.TreeMap α β) (p : α → β → Bool) :
    t.any p = t.toList.any fun e => p e.1 e.2 := by
  have h : t.any p = Id.run (do
      for e in t do
        if p e.1 e.2 then return true
      return false) := rfl
  rw [h]
  simp only [Std.TreeMap.forIn_eq_forIn_toList]
  induction t.toList with
  | nil => rfl
  | cons e es ih =>
    rw [List.any_cons, ← ih]
    cases hp : p e.1 e.2 with
    | true => simp [hp]
    | false => simp [hp]

theorem text_write (d : Directory) {name other : String} (data : ByteArray) (h : path other ≠ path name) :
    (d.write name data).text other = d.text other := by
  have hbytes : (d.write name data).bytes? other = d.bytes? other := by
    unfold bytes? write
    rw [Std.TreeMap.getElem?_insert, if_neg fun e => h (compare_eq_iff_eq.1 e).symm]
  rw [text, text, hbytes]

/-- a file that stands in no directory makes none -/
theorem isDirectory_write (d : Directory) {name : String} (other : String) (data : ByteArray)
    (hflat : '/' ∉ (path name).toList) : (d.write name data).isDirectory other = d.isDirectory other := by
  have hinside : (path other ++ "/").isPrefixOf (path name) = false := by
    rw [Bool.eq_false_iff, String.isPrefixOf, Ne, String.startsWith_string_iff]
    intro hstart
    exact hflat (hstart.subset (by simp))
  have hany : ((d.write name data).files.any fun file _ => (path other ++ "/").isPrefixOf file) =
      d.files.any fun file _ => (path other ++ "/").isPrefixOf file := by
    rw [any_eq_any_toList, any_eq_any_toList, Bool.eq_iff_iff, List.any_eq_true, List.any_eq_true]
    -- whether a file stands in the directory is said by its path
    have hmem : ∀ e : String × ByteArray, (path other ++ "/").isPrefixOf e.1 = true →
        (e ∈ (d.write name data).files.toList ↔ e ∈ d.files.toList) := by
      intro e he
      have hne : path name ≠ e.1 := by
        intro heq
        rw [← heq, hinside] at he
        cases he
      rw [Std.TreeMap.mem_toList_iff_getElem?_eq_some, Std.TreeMap.mem_toList_iff_getElem?_eq_some, write,
        Std.TreeMap.getElem?_insert, if_neg fun h => hne (compare_eq_iff_eq.1 h)]
    exact ⟨fun ⟨e, he, hp⟩ => ⟨e, (hmem e hp).1 he, hp⟩, fun ⟨e, he, hp⟩ => ⟨e, (hmem e hp).2 he, hp⟩⟩
  rw [isDirectory, isDirectory, hany]

theorem holds_write (d : Directory) {name other : String} (data : ByteArray) (h : path other ≠ path name)
    (hflat : '/' ∉ (path name).toList) : (d.write name data).holds other = d.holds other := by
  rw [holds, holds, isDirectory_write d other data hflat, write, Std.TreeMap.contains_insert,
    beq_eq_false_iff_ne.2 fun e => h (compare_eq_iff_eq.1 e).symm, Bool.false_or]

theorem create_eq_ok {d e : Directory} {name : String} (h : d.create name = .ok e) :
    e = d.write name ByteArray.empty := by
  unfold create at h
  split at h
  · cases h
  · split at h
    · cases h; rfl
    · cases h

theorem bytes_of_contents {d : Directory} {name : String} {bs : List UInt8}
    (h : d.contents? name = some bs) : ∃ data, d.bytes name = .ok data ∧ data.toList = bs := by
  obtain ⟨data, hd, rfl⟩ := Option.map_eq_some_iff.1 h
  exact ⟨data, by rw [bytes, hd], rfl⟩

/-- a file of which the bytes are those of a text without carriage returns -/
theorem text_of_contents {d : Directory} {name t : String}
    (h : d.contents? name = some t.toUTF8.toList) (hr : '\r' ∉ t.toList) : d.text name = .ok t := by
  obtain ⟨data, hd, hb⟩ := Option.map_eq_some_iff.1 h
  have he : Text.ofBytes? data = some t := by
    rw [toList_injective hb]
    unfold Text.ofBytes?
    rw [show String.fromUTF8? t.toUTF8 = some t by
      rw [String.fromUTF8?, dif_pos (show t.toUTF8.IsValidUTF8 from t.isValidUTF8)]; rfl]
    show some (if t.toList.contains '\r' then _ else t) = some t
    rw [if_neg (by rwa [List.contains_iff_mem])]
  unfold text
  simp only [hd, he]

end Directory

namespace Command

open Directory Disasm.Action

theorem writeFile_ok {d e : Directory} {name : String} (bs : List UInt8) (c : Console)
    (h : d.create name = .ok e) :
    writeFile name bs ⟨d, c⟩ = .ok () ⟨e.append name bs, c⟩ := by
  unfold writeFile
  rw [bind_of_ok (show Action.read (⟨d, c⟩ : Session Directory) = .ok d ⟨d, c⟩ from rfl), h]
  rfl

/-- a file that is made anew holds what is written; the others stay -/
theorem contents?_written {d e : Directory} {name : String} (h : d.create name = .ok e)
    (bs : List UInt8) (other : String) :
    (e.append name bs).contents? other =
      if path other = path name then some bs else d.contents? other := by
  rw [contents?_append, create_eq_ok h, contents?_write, if_pos rfl, contents?_write]
  split
  · rw [ByteArray.toList_empty]; rfl
  · rfl

theorem fileBytes_ok {d : Directory} {name : String} {bs : List UInt8} (c : Console)
    (h : d.contents? name = some bs) : fileBytes name ⟨d, c⟩ = .ok bs ⟨d, c⟩ := by
  obtain ⟨data, hd, rfl⟩ := bytes_of_contents h
  unfold fileBytes
  rw [bind_of_ok (show Action.read (⟨d, c⟩ : Session Directory) = .ok d ⟨d, c⟩ from rfl), hd]
  rfl

theorem fileLines_ok {d : Directory} {name t : String} (c : Console)
    (h : d.contents? name = some t.toUTF8.toList) (hr : '\r' ∉ t.toList) :
    fileLines name ⟨d, c⟩ = .ok (Text.lines t) ⟨d, c⟩ := by
  unfold fileLines
  rw [bind_of_ok (show Action.read (⟨d, c⟩ : Session Directory) = .ok d ⟨d, c⟩ from rfl),
    text_of_contents h hr]
  rfl

end Command
end Disasm
