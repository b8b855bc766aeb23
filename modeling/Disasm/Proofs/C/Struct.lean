import Mathlib
import Disasm.C.Struct
import Disasm.Shape
import Disasm.Proofs.Action

/-!
# What struct definitions say, and how they are printed

The tree of a definition says what the struct is called and which fields it has, each with a name and a type.

* `Target`, `FieldType`, `Field`, `Struct`  the types of fields, fields and structs;
* `Struct.ofTree?`  the struct that a tree defines;
* `Struct.text`  the struct as a template;
* `printMember_delivers`, `printStructs_delivers`  each struct is printed as its template.
-/

namespace Disasm.C

open Disasm.Action

/-! ## structs -/

/-- what the elements of a field are, or what they point to in the end -/
inductive Target where
  | basic (t : BasicType)
  | void
  | struct (name : String)
  deriving DecidableEq

/-- an array of pointers to a target; with no lengths a single one, with depth 0 the target itself -/
structure FieldType where
  target : Target
  depth : Nat := 0
  /-- as they are written, outermost first -/
  lengths : List String := []
  deriving DecidableEq

structure Field where
  name : String
  type : FieldType
  deriving DecidableEq

structure Struct where
  name : String
  fields : List Field
  deriving DecidableEq

/-! ## the structs that trees define -/

/-- the words that stand for basic types -/
def basicWords : List (List String × BasicType) :=
  [(["char"], .char), (["signed", "char"], .char), (["unsigned", "char"], .uchar),
    (["short"], .short), (["signed", "short"], .short), (["unsigned", "short"], .ushort),
    (["signed", "short", "int"], .short), (["unsigned", "short", "int"], .ushort),
    (["int"], .int), (["signed"], .int), (["unsigned"], .uint), (["signed", "int"], .int), (["unsigned", "int"], .uint),
    (["float"], .float)]

/-- a single other word is the name of a struct -/
def Target.ofWords? (ws : List String) : Option Target :=
  match basicWords.lookup ws, ws with
  | some t, _ => some (.basic t)
  | none, [w] => some (if w = "void" then .void else .struct w)
  | none, _ => none

/-- inside its own definition a struct is called by the name of the definition -/
def Target.ofTree? (d : Definition) : Tree → Option Target
  | .node .identifierType [.list ws] => (ws.mapM Tree.label).bind Target.ofWords?
  | .node .struct [.text tag, _] => some (.struct (if d.tag = some tag then d.name.getD tag else tag))
  | _ => none

namespace FieldType

def pointed? (d : Definition) : Tree → Option FieldType
  | .node .typeDecl [_, _, _, t] => (Target.ofTree? d t).map fun target => { target }
  | .node .ptrDecl [_, t] => (pointed? d t).map fun p => { p with depth := p.depth + 1 }
  | _ => none

def array? (d : Definition) : Tree → Option FieldType
  | .node .arrayDecl [t, .node .constant [_, .text length], _] =>
    (array? d t).map fun a => { a with lengths := length :: a.lengths }
  | t => pointed? d t

/-- a pointer to a function is one to `void` -/
def ofTree? (d : Definition) : Tree → Option FieldType
  | .node .ptrDecl [_, .node .funcDecl _] => some { target := .void, depth := 1 }
  | t => array? d t

end FieldType

def Field.ofTree? (d : Definition) : Tree → Option Field
  | .node .decl [.text name, _, _, _, _, type, _, _] => (FieldType.ofTree? d type).map fun type => { name, type }
  | _ => none

/-- a typedef of a struct that lists its fields, or the definition of one -/
def Struct.ofTree? (t : Tree) : Option Struct :=
  (Definition.ofTree? t).bind fun d => d.name.bind fun name => d.members.elements.bind fun ms =>
    (ms.mapM (Field.ofTree? d)).map fun fields => { name, fields }

/-! ## the texts of structs -/

def Target.word : Target → String
  | .basic t => t.name
  | .void => "void"
  | .struct name => name

def FieldType.word (t : FieldType) : String := Text.copies t.depth "*" ++ t.target.word ++ brackets t.lengths

def Field.row (f : Field) : String := "    " ++ f.type.word ++ " " ++ f.name ++ "\n"

def Struct.rows (s : Struct) : List String := (s.name ++ " \x7b\n") :: (s.fields.map Field.row ++ ["\x7d\n", "\n"])

def Struct.text (s : Struct) : String := String.join s.rows

/-! ## printing -/

theorem get_delivers {σ : Type} {name : String} {tree found : Tree} (h : tree.field name = .ok found) :
    Delivers (C.get name tree : Action σ Tree) "" found := by
  unfold C.get
  rw [h]
  exact Delivers.pure found

/-! ## types -/

theorem eq_text_of_label {t : Tree} {s : String} (h : t.label = some s) : t = .text s := by
  cases t with
  | text u =>
    cases h
    rfl
  | null | list _ | node _ _ => cases h

theorem eq_map_text {ts : List Tree} {ws : List String} (h : ts.mapM Tree.label = some ws) : ts = ws.map .text := by
  induction ts generalizing ws with
  | nil =>
    cases h
    rfl
  | cons t ts ih =>
    rw [List.mapM_cons] at h
    obtain ⟨w, hw, h⟩ := Option.bind_eq_some_iff.1 h
    obtain ⟨rest, hrest, h⟩ := Option.bind_eq_some_iff.1 h
    cases h
    rw [eq_text_of_label hw, ih hrest]
    rfl

/-- the words of every basic type are turned into its name -/
theorem nameOfWords_basic : ∀ e ∈ basicWords, nameOfWords (e.1.map .text) = .ok (some e.2.name) := by
  unfold basicWords
  simp only [List.forall_mem_cons]
  and_intros
  all_goals first | rfl | exact List.forall_mem_nil _

theorem nameOfWords_ok {ws : List String} {target : Target} (h : Target.ofWords? ws = some target) :
    nameOfWords (ws.map .text) = .ok (some target.word) := by
  unfold Target.ofWords? at h
  cases hl : basicWords.lookup ws with
  | some t =>
    rw [hl] at h
    cases h
    obtain ⟨before, behind, hsplit, -⟩ := List.lookup_eq_some_iff.1 hl
    have hmem : (ws, t) ∈ basicWords := by
      rw [hsplit]
      simp
    exact nameOfWords_basic _ hmem
  | none =>
    rw [hl] at h
    cases ws with
    | nil => cases h
    | cons w ws =>
      cases ws with
      | cons _ _ => cases h
      | nil =>
        cases h
        have hsigned : w ≠ "signed" := by
          rintro rfl
          exact absurd hl (by decide)
        have hunsigned : w ≠ "unsigned" := by
          rintro rfl
          exact absurd hl (by decide)
        have hword : (if w = "void" then Target.void else .struct w).word = w := by
          by_cases hv : w = "void"
          · rw [if_pos hv, hv]
            rfl
          · rw [if_neg hv]
            rfl
        rw [hword]
        show Except.ok (singleName (some w)) = _
        unfold singleName
        simp [hsigned, hunsigned]

@[simp]
theorem isKind_node (k k' : NodeKind) (fs : List Tree) : (Tree.node k' fs).isKind k = decide (k' = k) := by
  show (some k' == some k) = _
  rw [Option.some_beq_some]
  rfl

/-- the name of a type under the word of a target: the words of a type, or the word behind `struct` -/
theorem word_of_target {d : Definition} {base : Tree} {target : Target} (h : Target.ofTree? d base = some target) :
    (base.isKind .identifierType = true ∧ typeName base = .ok (some target.word)) ∨
      ∃ tag fs, base = .node .struct (.text tag :: fs) ∧
        target = .struct (if d.tag = some tag then d.name.getD tag else tag) := by
  unfold Target.ofTree? at h
  split at h
  · next ws =>
    obtain ⟨words, hwords, htarget⟩ := Option.bind_eq_some_iff.1 h
    refine .inl ⟨rfl, ?_⟩
    rw [eq_map_text hwords]
    exact nameOfWords_ok htarget
  · next tag decls =>
    cases h
    exact .inr ⟨tag, [decls], rfl, rfl⟩
  · cases h

/-- what stands behind the stars of a pointer -/
theorem pointerLevels_of_pointed {d : Definition} {t : Tree} {p : FieldType} (h : FieldType.pointed? d t = some p) :
    p.lengths = [] ∧ ∃ name quals align base,
      pointerLevels t = (p.depth, .node .typeDecl [name, quals, align, base]) ∧ Target.ofTree? d base = some p.target := by
  fun_induction FieldType.pointed? d t generalizing p with
  | case1 name quals align base =>
    obtain ⟨target, htarget, rfl⟩ := Option.map_eq_some_iff.1 h
    exact ⟨rfl, name, quals, align, base, rfl, htarget⟩
  | case2 quals t ih =>
    obtain ⟨q, hq, rfl⟩ := Option.map_eq_some_iff.1 h
    obtain ⟨hlengths, name, quals, align, base, hlevels, htarget⟩ := ih hq
    refine ⟨hlengths, name, quals, align, base, ?_, htarget⟩
    rw [pointerLevels, hlevels]
  | case3 => cases h

/-- an element of an array is a pointer or what a pointer points to -/
theorem kind_of_pointed {d : Definition} {t : Tree} {p : FieldType} (h : FieldType.pointed? d t = some p) :
    t.isKind .typeDecl = true ∨ t.isKind .ptrDecl = true := by
  unfold FieldType.pointed? at h
  split at h
  · exact .inl rfl
  · exact .inr rfl
  · cases h

section
variable {σ : Type} {d : Definition}

/-- the lengths of an array, and its elements -/
theorem lengthTexts_of_array {t : Tree} {a : FieldType} (h : FieldType.array? d t = some a) (m : Tree) (sub : String) :
    ∃ element p, Delivers (lengthTexts m sub t : Action σ (List String × Tree)) "" (a.lengths, element) ∧
      FieldType.pointed? d element = some p ∧ p.target = a.target ∧ p.depth = a.depth := by
  fun_induction FieldType.array? d t generalizing a sub with
  | case1 t type length quals ih =>
    obtain ⟨b, hb, rfl⟩ := Option.map_eq_some_iff.1 h
    obtain ⟨element, p, hrest, hp⟩ := ih hb "sub "
    refine ⟨element, p, ?_, hp⟩
    have hlength : Delivers (lengthText m sub (.node .constant [type, .text length]) : Action σ String) "" length :=
      Delivers.pure length
    rw [lengthTexts]
    exact hlength.after (hrest.after (Delivers.pure _))
  | case2 t hother =>
    obtain ⟨hlengths, -⟩ := pointerLevels_of_pointed h
    refine ⟨t, a, ?_, h, rfl, rfl⟩
    rw [hlengths]
    unfold FieldType.pointed? at h
    split at h
    · exact Delivers.pure _
    · exact Delivers.pure _
    · cases h

/-! ## members -/

theorem nameText_delivers {name : String} {m : Tree} (h : m.field "name" = .ok (.text name)) :
    Delivers (nameText m : Action σ String) "" name :=
  (get_delivers h).after (Delivers.pure name)

variable {name : String} {m type : Tree} {target : Target}

theorem printPlain_delivers (hname : m.field "name" = .ok (.text name)) (htype : m.field "type" = .ok type)
    {base : Tree} (hbase : type.field "type" = .ok base) (htarget : Target.ofTree? d base = some target)
    (hself : ∀ own, d.name = some own → target ≠ .struct own) :
    Delivers (printPlain m : Action σ Unit) (Field.row ⟨name, { target }⟩) () := by
  have hrow : Field.row ⟨name, { target }⟩ = "    " ++ target.word ++ " " ++ name ++ "\n" := by
    simp [Field.row, FieldType.word, brackets, Text.copies]
  rw [hrow]
  unfold printPlain
  refine (get_delivers htype).after ((get_delivers hbase).after ?_)
  rcases word_of_target htarget with ⟨hkind, hword⟩ | ⟨tag, fs, rfl, rfl⟩
  · rw [if_pos hkind]
    exact (Delivers.orComplain hword).after ((nameText_delivers hname).after (Delivers.print _))
  · have hword : (if d.tag = some tag then d.name.getD tag else tag) = tag := by
      by_cases htag : d.tag = some tag
      · cases hown : d.name with
        | none => rw [if_pos htag, Option.getD_none]
        | some own =>
          refine absurd ?_ (hself own hown)
          rw [if_pos htag, hown, Option.getD_some]
      · rw [if_neg htag]
    have htag : (Tree.node .struct (.text tag :: fs)).field "name" = .ok (.text tag) := rfl
    rw [if_neg (by simp), if_pos (by simp), hword]
    exact (get_delivers htag).after ((nameText_delivers hname).after (Delivers.print _))

/-- the options under which every struct is printed under its own name -/
def everything : StructOptions := { printAll := true }

theorem newName_everything (d : Definition) : d.newName everything = none := by
  unfold Definition.newName everything
  cases d.name with
  | none => rfl
  | some own => exact Std.TreeMap.getElem?_emptyc

/-- without a new name the struct is called by its own -/
theorem nameOfTag_eq {o : StructOptions} (hnew : d.newName o = none) {own : String} (hown : d.name = some own)
    (tag : String) : d.nameOfTag o (some tag) = some (if d.tag = some tag then d.name.getD tag else tag) := by
  unfold Definition.nameOfTag
  by_cases htag : d.tag = some tag
  · rw [if_pos htag, htag, if_pos (by simp), hnew, hown]
    rfl
  · rw [if_neg htag, if_neg fun h => htag (eq_of_beq h).symm]

theorem printPointer_delivers {own : String} (hown : d.name = some own) (hname : m.field "name" = .ok (.text name))
    (htype : m.field "type" = .ok type) {t : Tree} (ht : type.field "type" = .ok t) {p : FieldType}
    (hp : FieldType.pointed? d t = some p) :
    Delivers (printPointer everything d m : Action σ Unit) (Field.row ⟨name, { p with depth := p.depth + 1 }⟩) () := by
  obtain ⟨hlengths, declname, quals, align, base, hlevels, htarget⟩ := pointerLevels_of_pointed hp
  have hrow : Field.row ⟨name, { p with depth := p.depth + 1 }⟩ =
      ("    " ++ Text.copies (p.depth + 1) "*") ++ (p.target.word ++ " " ++ name ++ "\n") := by
    simp [Field.row, FieldType.word, brackets, hlengths, String.append_assoc]
  have hbase : (Tree.node .typeDecl [declname, quals, align, base]).field "type" = .ok base := rfl
  rw [hrow]
  unfold printPointer
  refine (get_delivers htype).after ((get_delivers ht).after ?_)
  rw [hlevels]
  dsimp only
  rw [if_pos (by simp)]
  refine (Delivers.print _).bind ((get_delivers hbase).after ?_)
  rcases word_of_target htarget with ⟨hkind, hword⟩ | ⟨tag, fs, rfl, htag⟩
  · rw [if_pos hkind]
    exact (Delivers.orComplain hword).after ((nameText_delivers hname).after (Delivers.print _))
  · have hfield : (Tree.node .struct (.text tag :: fs)).field "name" = .ok (.text tag) := rfl
    rw [if_neg (by simp), if_pos (by simp), htag]
    refine (get_delivers hfield).after ?_
    show Delivers (nameText m >>= fun n => print (Tree.shown (d.nameOfTag everything (some tag)) ++ " " ++ n ++ "\n")) _ ()
    rw [nameOfTag_eq (newName_everything d) hown tag]
    exact (nameText_delivers hname).after (Delivers.print _)

theorem printFunction_delivers (o : StructOptions) (hname : m.field "name" = .ok (.text name))
    (htype : m.field "type" = .ok type) {fs : List Tree} (ht : type.field "type" = .ok (.node .funcDecl fs)) :
    Delivers (printPointer o d m : Action σ Unit) (Field.row ⟨name, { target := .void, depth := 1 }⟩) () := by
  have hrow : Field.row ⟨name, { target := .void, depth := 1 }⟩ =
      ("    " ++ Text.copies (0 + 1) "*") ++ ("void " ++ name ++ "\n") := by
    simp [Field.row, FieldType.word, brackets, Target.word, String.append_assoc]
  have hlevels : pointerLevels (.node .funcDecl fs) = (0, .node .funcDecl fs) := by
    unfold pointerLevels
    rfl
  rw [hrow]
  unfold printPointer
  refine (get_delivers htype).after ((get_delivers ht).after ?_)
  rw [hlevels]
  dsimp only
  rw [if_neg (by simp), if_pos (by simp)]
  exact (Delivers.print _).bind ((nameText_delivers hname).after (Delivers.print _))

theorem elementName_delivers {o : StructOptions} (hnew : d.newName o = none) {own : String} (hown : d.name = some own)
    (isPointer : Bool) {declname quals align base : Tree} (htarget : Target.ofTree? d base = some target) :
    Delivers (elementName o d m isPointer (.node .typeDecl [declname, quals, align, base]) :
      Action σ (Option String)) "" (some target.word) := by
  have hbase : (Tree.node .typeDecl [declname, quals, align, base]).field "type" = .ok base := rfl
  unfold elementName
  refine (get_delivers hbase).after ?_
  rcases word_of_target htarget with ⟨hkind, hword⟩ | ⟨tag, fs, rfl, rfl⟩
  · rw [if_pos hkind]
    exact Delivers.orComplain hword
  · have hfield : (Tree.node .struct (.text tag :: fs)).field "name" = .ok (.text tag) := rfl
    rw [if_neg (by simp), if_pos (by simp)]
    refine (get_delivers hfield).after ?_
    show Delivers (pure (d.nameOfTag o (some tag))) _ _
    rw [nameOfTag_eq hnew hown tag]
    exact Delivers.pure _

/-- an array is printed with the texts of its lengths, unless they have names -/
theorem printArray_delivers_lengths {o : StructOptions} (hnew : d.newName o = none) {own : String}
    (hown : d.name = some own) (hname : m.field "name" = .ok (.text name)) (htype : m.field "type" = .ok type)
    (hnames : o.arrayConstants[own ++ "." ++ name]? = none) {lengths : List String} {element : Tree}
    (hlengths : Delivers (lengthTexts m "" type : Action σ (List String × Tree)) "" (lengths, element)) {p : FieldType}
    (hp : FieldType.pointed? d element = some p) :
    Delivers (printArray o d m : Action σ (Option String)) (Field.row ⟨name, { p with lengths }⟩) none := by
  obtain ⟨-, declname, quals, align, base, hlevels, hbase⟩ := pointerLevels_of_pointed hp
  have hrow : Field.row ⟨name, { p with lengths }⟩ = ("    " ++ Text.copies p.depth "*" ++ p.target.word) ++
      (brackets lengths ++ " " ++ name ++ "\n") := by
    simp [Field.row, FieldType.word, String.append_assoc]
  have hkey : Delivers (dotName d m : Action σ String) "" (own ++ "." ++ name) := by
    unfold dotName
    exact (Delivers.ofOption hown).after ((get_delivers hname).after ((Delivers.ofOption rfl).after (Delivers.pure _)))
  rw [hrow]
  unfold printArray
  refine (get_delivers htype).after (hlengths.after ?_)
  dsimp only
  rw [if_pos (by simpa using kind_of_pointed hp), hlevels]
  refine (elementName_delivers hnew hown _ hbase).after ((Delivers.print _).bind ?_)
  refine hkey.after ((nameText_delivers hname).after ?_)
  rw [hnames]
  exact (Delivers.print _).before (Delivers.pure none)

theorem printArray_delivers {own : String} (hown : d.name = some own) (hname : m.field "name" = .ok (.text name))
    (htype : m.field "type" = .ok type) {a : FieldType} (ha : FieldType.array? d type = some a) :
    Delivers (printArray everything d m : Action σ (Option String)) (Field.row ⟨name, a⟩) none := by
  obtain ⟨element, p, hlengths, hp, htarget, hdepth⟩ := @lengthTexts_of_array σ d type a ha m ""
  have hrow : ({ p with lengths := a.lengths } : FieldType) = a := by rw [htarget, hdepth]
  have hdelivers := printArray_delivers_lengths (newName_everything d) hown hname htype Std.TreeMap.getElem?_emptyc
    hlengths hp
  rwa [hrow] at hdelivers

/-- every field is printed as its row -/
theorem printMember_delivers {own : String} (hown : d.name = some own) {f : Field} (hf : Field.ofTree? d m = some f)
    (hself : f.type.depth = 0 → f.type.lengths = [] → f.type.target ≠ .struct own) :
    Delivers (printMember everything d m : Action σ (Option String)) f.row none := by
  unfold Field.ofTree? at hf
  split at hf
  case h_2 => cases hf
  case h_1 name quals align storage funcspec type init bitsize =>
    obtain ⟨ft, hft, rfl⟩ := Option.map_eq_some_iff.1 hf
    have hname : (Tree.node .decl [.text name, quals, align, storage, funcspec, type, init, bitsize]).field "name" =
      .ok (.text name) := rfl
    have htype : (Tree.node .decl [.text name, quals, align, storage, funcspec, type, init, bitsize]).field "type" =
      .ok type := rfl
    unfold printMember
    refine (get_delivers htype).after ?_
    unfold FieldType.ofTree? at hft
    split at hft
    case h_1 pquals args =>
      cases hft
      exact (printFunction_delivers everything hname htype rfl).before (Delivers.pure none)
    case h_2 hother =>
      unfold FieldType.array? at hft
      split at hft
      case h_1 t ctype length dims => exact printArray_delivers hown hname htype (by rw [FieldType.array?]; exact hft)
      case h_2 =>
        unfold FieldType.pointed? at hft
        split at hft
        case h_1 declname tquals talign base =>
          obtain ⟨target, htarget, rfl⟩ := Option.map_eq_some_iff.1 hft
          have hplain : ∀ own', d.name = some own' → target ≠ .struct own' := by
            intro own' hown'
            rw [hown] at hown'
            cases hown'
            exact hself rfl rfl
          exact (printPlain_delivers hname htype rfl htarget hplain).before (Delivers.pure none)
        case h_2 pquals t =>
          obtain ⟨p, hp, rfl⟩ := Option.map_eq_some_iff.1 hft
          exact (printPointer_delivers hown hname htype rfl hp).before (Delivers.pure none)
        case h_3 => cases hft

/-! ## definitions -/

/-- a struct stands in itself only behind a pointer or in an array -/
def Struct.Proper (s : Struct) : Prop :=
  ∀ f ∈ s.fields, f.type.depth = 0 → f.type.lengths = [] → f.type.target ≠ .struct s.name

theorem printMembers_delivers {own : String} (hown : d.name = some own) {ms : List Tree} {fs : List Field}
    (hfs : ms.mapM (Field.ofTree? d) = some fs) (hself : (Struct.mk own fs).Proper) :
    Delivers (printMembers everything d ms : Action σ (List String)) (String.join (fs.map Field.row)) [] := by
  induction ms generalizing fs with
  | nil =>
    cases hfs
    exact Delivers.pure []
  | cons m ms ih =>
    rw [List.mapM_cons] at hfs
    obtain ⟨f, hf, hfs⟩ := Option.bind_eq_some_iff.1 hfs
    obtain ⟨rest, hrest, hfs⟩ := Option.bind_eq_some_iff.1 hfs
    cases hfs
    obtain ⟨hfirst, hothers⟩ := List.forall_mem_cons.1 hself
    rw [List.map_cons, String.join_cons, printMembers]
    exact (printMember_delivers hown hf hfirst).bind ((ih hrest hothers).before (Delivers.pure []))

theorem printDefinition_delivers {t : Tree} {s : Struct} (hd : Definition.ofTree? t = some d)
    (hs : Struct.ofTree? t = some s) (hself : s.Proper) :
    Delivers (printDefinition everything d : Action σ (List String)) s.text [] := by
  unfold Struct.ofTree? at hs
  rw [hd, Option.bind_some] at hs
  obtain ⟨own, hown, hs⟩ := Option.bind_eq_some_iff.1 hs
  obtain ⟨ms, hms, hs⟩ := Option.bind_eq_some_iff.1 hs
  obtain ⟨fs, hfs, rfl⟩ := Option.map_eq_some_iff.1 hs
  have hheading : d.heading everything = own := by
    have hnew : d.newName everything = none := newName_everything d
    unfold Definition.heading
    rw [hnew, hown]
    rfl
  have hmembers : d.memberTrees = ms := by
    unfold Definition.memberTrees
    rw [hms]
    rfl
  have htext : (Struct.mk own fs).text = (own ++ " \x7b\n") ++ (String.join (fs.map Field.row) ++ "\x7d\n\n") := by
    unfold Struct.text Struct.rows
    rw [String.join_cons, String.join_append]
    rfl
  rw [htext]
  unfold printDefinition
  rw [hheading, hmembers]
  refine (show Delivers (printDebug everything d) "" () from Delivers.pure ()).after ((Delivers.print _).bind ?_)
  exact (printMembers_delivers hown hfs hself).bind ((Delivers.print _).before (Delivers.pure []))

theorem ofTree?_wanted {t : Tree} {s : Struct} (hs : Struct.ofTree? t = some s) (hfake : s.name ∉ fakeStructs) :
    ∃ d, (Definition.ofTree? t).filter (Definition.isWanted everything) = some d ∧ Definition.ofTree? t = some d ∧
      d.name = some s.name := by
  unfold Struct.ofTree? at hs
  obtain ⟨d, hd, hs⟩ := Option.bind_eq_some_iff.1 hs
  obtain ⟨own, hown, hs⟩ := Option.bind_eq_some_iff.1 hs
  obtain ⟨ms, hms, hs⟩ := Option.bind_eq_some_iff.1 hs
  obtain ⟨fs, -, rfl⟩ := Option.map_eq_some_iff.1 hs
  refine ⟨d, Option.filter_eq_some_iff.2 ⟨hd, ?_⟩, hd, hown⟩
  have hnamed : Definition.isNamed fakeStructs d.name = false := by
    unfold Definition.isNamed
    rw [hown]
    simpa using hfake
  unfold Definition.isWanted Definition.isEmptyTypedef
  simp [hnamed, hms, everything]

/-- every struct is printed as its template, one after the other -/
theorem printStructs_delivers {ts : List Tree} {ss : List Struct} (hss : ts.mapM Struct.ofTree? = some ss)
    (hfake : ∀ s ∈ ss, s.name ∉ fakeStructs) (hself : ∀ s ∈ ss, s.Proper) :
    Delivers (printStructs everything ts : Action σ (List (Option String) × List String))
      (String.join (ss.map Struct.text)) (ss.map fun s => some s.name, []) := by
  induction ts generalizing ss with
  | nil =>
    cases hss
    exact Delivers.pure ([], [])
  | cons t ts ih =>
    rw [List.mapM_cons] at hss
    obtain ⟨s, hs, hss⟩ := Option.bind_eq_some_iff.1 hss
    obtain ⟨rest, hrest, hss⟩ := Option.bind_eq_some_iff.1 hss
    cases hss
    obtain ⟨hfirst, hothers⟩ := List.forall_mem_cons.1 hfake
    obtain ⟨hproper, hpropers⟩ := List.forall_mem_cons.1 hself
    obtain ⟨d, hwanted, hd, hown⟩ := ofTree?_wanted hs hfirst
    rw [List.map_cons, String.join_cons, printStructs, hwanted, List.map_cons, ← hown]
    exact (printDefinition_delivers hd hs hproper).bind ((ih hrest hothers hpropers).before (Delivers.pure _))

end

end Disasm.C
