import Mathlib
import Disasm.Proofs.C.Expression
import Disasm.Proofs.C.TypeWord
import Disasm.Proofs.Number.Text
import Disasm.Proofs.Template.ArrayWord
import Disasm.Proofs.Template.Invariant

/-!
# The lengths of arrays

A length is printed as it is written when it is a constant, and as what it is computed as when it is an expression.
The text is then read in a type word.

* `dimensions t`  the lengths of an array, outermost first, and its elements;
* `HasLength dim v`  the length is a constant or an expression with the value `v`;
* `lengthOf? dim`  the text that is printed for it;
* `isExact dim`  no octal constant from 8 on, and no expression with a quotient;
* `namesOnly_loads`  the constants of a library have names that are no numbers;
* `level?_iff`  a printed length is read as its value exactly when it is exact;
* `lengths_survive`  an array is printed with a type word that is read with the values of its lengths exactly when all
  of them are exact.
-/

namespace Disasm.C

open Disasm.Action
open Disasm.Text (IsWord IsGraphic IsDigitOf readNumber? digitsValue)

/-! ## lengths -/

def dimensions : Tree → List Tree × Tree
  | .node .arrayDecl [type, dim, _] => (dim :: (dimensions type).1, (dimensions type).2)
  | t => ([], t)

/-- a constant, or an expression with an operation at its top, of a value that is not negative -/
structure HasLength (dim : Tree) (v : Int) : Prop where
  kind : dim.isKind .constant = true ∨ dim.isKind .binaryOp = true
  value : valueOf? dim = some v
  nonneg : 0 ≤ v

/-- the text of a length -/
def lengthOf? (dim : Tree) : Option String :=
  match dim with
  | .node .constant [_, .text s] => some s
  | .node .binaryOp _ => (evaluate dim).toOption.map Quantity.text
  | _ => none

/-- neither an octal constant from 8 on nor an expression with a quotient -/
def isExact : Tree → Bool
  | .node .constant [_, .text s] => literalBase s.toList != 8 || (literalValue? s).any (· < 8)
  | t => !divides t

theorem eq_ok_of_toOption {ε α : Type} {r : Except ε α} {x : α} (h : r.toOption = some x) : r = .ok x := by
  cases r with
  | error e => cases h
  | ok y => cases h; rfl

theorem HasLength.cases {dim : Tree} {v : Int} (h : HasLength dim v) :
    (∃ type s n, dim = .node .constant [type, .text s] ∧ literalValue? s = some n ∧ v = (n : Int)) ∨
    ∃ fs, dim = .node .binaryOp fs := by
  obtain ⟨hkind, hvalue, -⟩ := h
  unfold valueOf? at hvalue
  split at hvalue
  · next type s =>
    obtain ⟨n, hn, rfl⟩ := Option.map_eq_some_iff.1 hvalue
    exact .inl ⟨type, s, n, rfl, hn, rfl⟩
  · simp at hkind
  · next op l r => exact .inr ⟨_, rfl⟩
  · cases hvalue

/-! ## the characters of lengths -/

/-- the text is one word and holds no bracket -/
structure Clear (s : String) : Prop where
  word : IsWord s.toList
  opens : '[' ∉ s.toList
  closes : ']' ∉ s.toList

theorem clear_of_forall {s : String} (hne : s.toList ≠ [])
    (h : ∀ c ∈ s.toList, IsGraphic c ∧ c ≠ '[' ∧ c ≠ ']') : Clear s where
  word := ⟨hne, fun c hc => (h c hc).1.not_blank⟩
  opens := fun hm => (h _ hm).2.1 rfl
  closes := fun hm => (h _ hm).2.2 rfl

theorem clear_digit {base : Nat} {c : Char} (h : IsDigitOf base c) : IsGraphic c ∧ c ≠ '[' ∧ c ≠ ']' :=
  ⟨h.isGraphic, h.ne rfl, h.ne rfl⟩

theorem clear_literal {s : String} {n : Nat} (h : literalValue? s = some n) : Clear s := by
  have hl := literal_of_value? h
  generalize literalBase s.toList = base at hl
  cases hl with
  | @hex x ds hs hx hne hd =>
    refine clear_of_forall (by rw [hs]; exact List.cons_ne_nil _ _) ?_
    rw [hs, List.forall_mem_cons, List.forall_mem_cons]
    refine ⟨by decide, ?_, fun c hc => clear_digit (hd c hc)⟩
    rw [Bool.or_eq_true, beq_iff_eq, beq_iff_eq] at hx
    rcases hx with rfl | rfl <;> decide
  | @octal ds hs hplain hd =>
    exact clear_of_forall (by rw [hs]; exact List.cons_ne_nil _ _) fun c hc => clear_digit (hd c hc)
  | @decimal c ds hs hc hd =>
    exact clear_of_forall (by rw [hs]; exact List.cons_ne_nil _ _) fun c hc => clear_digit (hd c hc)

theorem clear_toString (n : Int) : Clear (toString n) := by
  refine clear_of_forall (Text.isWord_toString n).1 ?_
  have hdigits : ∀ k, ∀ c ∈ Nat.toDigits 10 k, IsGraphic c ∧ c ≠ '[' ∧ c ≠ ']' := fun k c hc =>
    clear_digit (Text.isDigitOf_toDigits (by decide) (by decide) k c hc)
  cases n with
  | ofNat k =>
    show ∀ c ∈ (toString (k : Int)).toList, _
    rw [Text.toList_ofNat]
    exact hdigits k
  | negSucc k =>
    rw [Text.toList_negSucc]
    exact List.forall_mem_cons.2 ⟨by decide, hdigits (k + 1)⟩

theorem clear_text (x : Binary64) : Clear x.text := by
  obtain ⟨c, hc, -⟩ := Binary64.marked_text x
  refine clear_of_forall (List.ne_nil_of_mem hc) fun c hc => ?_
  rcases Binary64.plain_text x c hc with hd | hm
  · exact clear_digit hd
  · simp only [List.mem_cons, List.not_mem_nil, or_false] at hm
    rcases hm with rfl | rfl | rfl | rfl | rfl | rfl | rfl | rfl <;> decide

theorem clear_lengthOf? {dim : Tree} {v : Int} (h : HasLength dim v) {text : String} (ht : lengthOf? dim = some text) :
    Clear text := by
  rcases h.cases with ⟨type, s, n, rfl, hn, rfl⟩ | ⟨fs, rfl⟩
  · cases ht
    exact clear_literal hn
  · obtain ⟨q, -, rfl⟩ := Option.map_eq_some_iff.1 ht
    cases q with
    | whole n => exact clear_toString n
    | real x => exact clear_text x

/-! ## lengths in type words -/

/-- no name of a constant starts like a number -/
def NamesOnly (constants : Std.TreeMap String Int) : Prop :=
  ∀ (name : String) (n : Int), constants[name]? = some n → startsNumber name.toList = false

theorem NamesOnly.empty : NamesOnly {} := fun name n h => by
  rw [Std.TreeMap.getElem?_emptyc] at h
  cases h

theorem NamesOnly.insert {constants : Std.TreeMap String Int} (h : NamesOnly constants) {name : String}
    (hname : startsNumber name.toList = false) (n : Int) : NamesOnly (constants.insert name n) := by
  intro name' n' hn'
  rw [Std.TreeMap.getElem?_insert] at hn'
  split at hn'
  · next heq =>
    rw [← compare_eq_iff_eq.1 heq]
    exact hname
  · exact h name' n' hn'

/-- a line that makes a constant is accepted with a name alone -/
theorem readLine_namesOnly (override : Bool) (loc : Location) (words : List String) :
    Keeps (fun r : TemplateReader => NamesOnly r.library.constants) (fun _ => True)
      (TemplateReader.readLine override loc words) := by
  have hrefused : ∀ {lib : Library} {name value : String} {c : Console} {u : Unit} {t : Session TemplateReader},
      startsNumber name.toList = true →
      TemplateReader.readLine override loc ["%arrayConstant", name, value] ⟨⟨lib, none⟩, c⟩ ≠ .ok u t := by
    intro lib name value c u t hname h
    have hrun : TemplateReader.readLine override loc ["%arrayConstant", name, value] ⟨⟨lib, none⟩, c⟩ =
        TemplateReader.readConstant override loc ["%arrayConstant", name, value] ⟨⟨lib, none⟩, c⟩ := rfl
    rw [hrun, TemplateReader.readConstant, if_pos hname] at h
    cases h
  constructor
  intro s hs
  have hyields := TemplateReader.readLine_yields override loc words s
  cases hr : TemplateReader.readLine override loc words s with
  | ok u t =>
    refine ⟨?_, trivial⟩
    obtain ⟨r, c⟩ := s
    obtain ⟨r', c'⟩ := t
    cases hyields.of_ok hr with
    | @constantLine lib name value n hvalue hnew =>
      refine NamesOnly.insert hs ?_ n
      by_contra hname
      exact hrefused (by simpa using hname) hr
    | blank | aliasLine | head | brace | close | plain | template => exact hs
  | error f t =>
    obtain ⟨refs, ht⟩ := hyields.of_error hr
    show NamesOnly t.state.library.constants
    rw [ht]
    exact hs

theorem readLines_namesOnly (override : Bool) (file : String) (index : Nat) (lines : List String) :
    Keeps (fun r : TemplateReader => NamesOnly r.library.constants) (fun _ => True)
      (TemplateReader.readLines override file index lines) := by
  induction lines generalizing index with
  | nil => exact Keeps.pure trivial
  | cons line lines ih => exact (readLine_namesOnly override _ _).andThen (ih (index + 1))

theorem load_namesOnly (override : Bool) (file text : String) :
    Keeps (fun lib : Library => NamesOnly lib.constants) (fun _ => True) (Library.load override file text) := by
  have hall : Keeps (fun r : TemplateReader => NamesOnly r.library.constants) (fun _ => True)
      (TemplateReader.readAll override file (Text.lines text)) := by
    unfold TemplateReader.readAll
    refine (readLines_namesOnly override file 0 _).andThen (Keeps.read.bind fun r _ => Keeps.check fun _ => ?_)
    split
    · exact Keeps.stop _
    · exact Keeps.pure trivial
  constructor
  intro s hs
  have hrun := hall.run ⟨⟨s.state, none⟩, s.console⟩ hs
  unfold Library.load
  cases hr : TemplateReader.readAll override file (Text.lines text) ⟨⟨s.state, none⟩, s.console⟩ with
  | ok u t => rw [hr] at hrun; exact hrun
  | error f t => rw [hr] at hrun; exact hrun

/-- so it is after any loads, each with any end -/
theorem namesOnly_loads (c : Console) (calls : List Library.Call) :
    NamesOnly (Library.loads ⟨{}, c⟩ calls).state.constants := by
  have hcall : ∀ (call : Library.Call) (s : Session Library), NamesOnly s.state.constants →
      NamesOnly (call.leave s).state.constants := by
    intro call s hs
    have hkeeps : Keeps (fun lib : Library => NamesOnly lib.constants) (fun _ => True) call.run :=
      (Keeps.ofExcept (P := fun _ => True) fun _ _ => trivial).bind fun text _ =>
        load_namesOnly call.override call.file text
    have hrun := hkeeps.run s hs
    unfold Library.Call.leave
    cases hr : call.run s with
    | ok u t => rw [hr] at hrun; exact hrun.1
    | error f t => rw [hr] at hrun; exact hrun
  have hloads : ∀ (calls : List Library.Call) (s : Session Library), NamesOnly s.state.constants →
      NamesOnly (Library.loads s calls).state.constants := by
    intro calls
    induction calls with
    | nil => exact fun s hs => hs
    | cons call calls ih => exact fun s hs => ih _ (hcall call s hs)
  exact hloads calls ⟨{}, c⟩ NamesOnly.empty

section
variable {constants : Std.TreeMap String Int} {text : String} {v : Int}

/-- a text that is a number is the name of no constant -/
theorem not_constant (hclear : Clear text) (hnames : NamesOnly constants) (h : readNumber? text = some v) :
    constants[text]? = none := by
  obtain ⟨c, cs, hcs, hstart⟩ := Text.head_of_readNumber? hclear.word h
  cases hc : constants[text]? with
  | none => rfl
  | some n =>
    have hname := hnames text n hc
    rw [hcs, startsNumber] at hname
    rcases hstart with hd | rfl | rfl
    · rw [hd] at hname
      cases hname
    · cases hname
    · cases hname

theorem level?_eq_number_iff (hclear : Clear text) (hnames : NamesOnly constants) (hv : 0 ≤ v) :
    ArrayWord.level? constants (text.toList ++ [']']) = some ⟨v, none⟩ ↔ readNumber? text = some v := by
  unfold ArrayWord.level?
  rw [if_neg (by simp), if_neg (by simpa using hclear.closes), List.dropLast_concat, String.ofList_toList]
  dsimp only
  constructor
  · intro h
    obtain ⟨hfound, -⟩ := Option.filter_eq_some_iff.1 h
    cases hc : constants[text]? with
    | some n => rw [hc] at hfound; cases hfound
    | none =>
      rw [hc] at hfound
      obtain ⟨n, hn, heq⟩ := Option.map_eq_some_iff.1 hfound
      cases heq
      exact hn
  · intro h
    rw [not_constant hclear hnames h, h]
    exact Option.filter_some_pos (by simpa using hv)

theorem readNumber?_toString (hv : 0 ≤ v) : readNumber? (toString v) = some v := by
  obtain ⟨n, rfl⟩ := Int.eq_ofNat_of_zero_le hv
  have hd : ∀ c ∈ (toString (n : Int)).toList, IsDigitOf 10 c := by
    rw [Text.toList_ofNat]
    exact Text.isDigitOf_toDigits (by decide) (by decide) n
  rw [Text.readNumber?_decimal (Text.isWord_toString n).1 hd, Text.toList_ofNat,
    Text.digitsValue_toDigits (by decide) (by decide)]

/-- a printed length is read as its value exactly when it is exact -/
theorem level?_iff {dim : Tree} (h : HasLength dim v) (ht : lengthOf? dim = some text) (hnames : NamesOnly constants) :
    ArrayWord.level? constants (text.toList ++ [']']) = some ⟨v, none⟩ ↔ isExact dim = true := by
  rw [level?_eq_number_iff (clear_lengthOf? h ht) hnames h.nonneg]
  rcases h.cases with ⟨type, s, n, rfl, hn, rfl⟩ | ⟨fs, rfl⟩
  · cases ht
    rw [readNumber?_literal hn, isExact, hn]
    simp [or_iff_not_imp_left]
  · obtain ⟨q, hq, rfl⟩ := Option.map_eq_some_iff.1 ht
    have heval := eq_ok_of_toOption hq
    show _ ↔ (!divides (.node .binaryOp fs)) = true
    cases hdiv : divides (.node .binaryOp fs) with
    | false =>
      rw [evaluate_eq_whole h.value hdiv] at heval
      cases heval
      exact iff_of_true (readNumber?_toString h.nonneg) rfl
    | true =>
      obtain ⟨x, rfl⟩ := evaluate_real heval hdiv
      refine iff_of_false (fun hread => ?_) Bool.false_ne_true
      rw [Quantity.text, Binary64.readNumber?_text] at hread
      cases hread

theorem lengthOf?_of_isExact {dim : Tree} (h : HasLength dim v) (hexact : isExact dim = true) :
    ∃ text, lengthOf? dim = some text := by
  rcases h.cases with ⟨type, s, n, rfl, hn, rfl⟩ | ⟨fs, rfl⟩
  · exact ⟨s, rfl⟩
  · have hdiv : divides (.node .binaryOp fs) = false := by
      have hnot : (!divides (.node .binaryOp fs)) = true := hexact
      simpa using hnot
    refine ⟨toString v, ?_⟩
    show (evaluate (.node .binaryOp fs)).toOption.map Quantity.text = _
    rw [evaluate_eq_whole h.value hdiv]
    rfl

/-- the lengths are exact when each of their texts is read as its value -/
theorem forall_isExact_iff {dims : List Tree} {vs : List Int} {texts : List String} (hnames : NamesOnly constants)
    (hvs : List.Forall₂ HasLength dims vs) (hts : List.Forall₂ (fun dim text => lengthOf? dim = some text) dims texts) :
    (∀ dim ∈ dims, isExact dim = true) ↔
      List.Forall₂ (fun text l => ArrayWord.level? constants (text.toList ++ [']']) = some l) texts
        (vs.map fun v => ⟨v, none⟩) := by
  induction hvs generalizing texts with
  | nil =>
    cases hts
    exact iff_of_true (List.forall_mem_nil _) List.Forall₂.nil
  | cons h hvs ih =>
    cases hts with
    | cons ht hts =>
      rw [List.forall_mem_cons, List.map_cons, List.forall₂_cons, ih hts, level?_iff h ht hnames]

end

/-! ## printing -/

section
variable {σ : Type} {m type element : Tree} {dims : List Tree} {vs : List Int} {texts : List String}

theorem lengthText_delivers {dim : Tree} {v : Int} (h : HasLength dim v) {text : String}
    (ht : lengthOf? dim = some text) (sub : String) : Delivers (lengthText m sub dim : Action σ String) "" text := by
  rcases h.cases with ⟨type, s, n, rfl, -, -⟩ | ⟨fs, rfl⟩
  · cases ht
    exact Delivers.pure text
  · obtain ⟨q, hq, rfl⟩ := Option.map_eq_some_iff.1 ht
    exact (Delivers.orComplain (eq_ok_of_toOption hq)).after (Delivers.pure q.text)

theorem lengthTexts_delivers (hdims : dimensions type = (dims, element)) (hvs : List.Forall₂ HasLength dims vs)
    (hts : List.Forall₂ (fun dim text => lengthOf? dim = some text) dims texts) (sub : String) :
    Delivers (lengthTexts m sub type : Action σ (List String × Tree)) "" (texts, element) := by
  fun_induction dimensions type generalizing dims vs texts sub with
  | case1 inner dim quals ih =>
    cases hdims
    cases hvs with
    | cons h hvs =>
      cases hts with
      | cons ht hts =>
        rw [lengthTexts]
        exact (lengthText_delivers h ht sub).after ((ih rfl hvs hts "sub ").after (Delivers.pure _))
  | case2 t hother =>
    cases hdims
    cases hts
    rw [lengthTexts]
    · exact Delivers.pure _
    · exact hother

theorem orComplain_eq_ok {α : Type} {r : Except Interruption α} {s t : Session σ} {x : α}
    (h : orComplain r s = .ok x t) : r = .ok x := by
  cases r with
  | ok y => cases h; rfl
  | error e => cases e <;> cases h

theorem exists_text {dim : Tree} {v : Int} (hlength : HasLength dim v) {s t : Session σ} {sub text : String}
    (h : lengthText m sub dim s = .ok text t) : ∃ text, lengthOf? dim = some text := by
  rcases hlength.cases with ⟨type, s, n, rfl, -, -⟩ | ⟨fs, rfl⟩
  · exact ⟨s, rfl⟩
  · obtain ⟨q, u, hq, -⟩ := bind_eq_ok h
    refine ⟨q.text, ?_⟩
    show (evaluate (.node .binaryOp fs)).toOption.map Quantity.text = _
    rw [orComplain_eq_ok hq]
    rfl

/-- an array that is printed has a text for each length -/
theorem exists_texts {s t : Session σ} {sub : String} {r : List String × Tree}
    (hdims : dimensions type = (dims, element)) (hvs : List.Forall₂ HasLength dims vs)
    (h : lengthTexts m sub type s = .ok r t) :
    ∃ texts, List.Forall₂ (fun dim text => lengthOf? dim = some text) dims texts := by
  fun_induction dimensions type generalizing dims vs s t sub r with
  | case1 inner dim quals ih =>
    cases hdims
    cases hvs with
    | cons hlength hvs =>
      rw [lengthTexts] at h
      obtain ⟨text, u, htext, h⟩ := bind_eq_ok h
      obtain ⟨rest, u', hrest, -⟩ := bind_eq_ok h
      obtain ⟨first, hfirst⟩ := exists_text hlength htext
      obtain ⟨texts, hts⟩ := ih rfl hvs hrest
      exact ⟨first :: texts, List.Forall₂.cons hfirst hts⟩
  | case2 t hother =>
    cases hdims
    exact ⟨[], List.Forall₂.nil⟩

theorem exists_texts_of_isExact (hvs : List.Forall₂ HasLength dims vs) (h : ∀ dim ∈ dims, isExact dim = true) :
    ∃ texts, List.Forall₂ (fun dim text => lengthOf? dim = some text) dims texts := by
  induction hvs with
  | nil => exact ⟨[], List.Forall₂.nil⟩
  | cons hlength hvs ih =>
    obtain ⟨hfirst, hrest⟩ := List.forall_mem_cons.1 h
    obtain ⟨text, ht⟩ := lengthOf?_of_isExact hlength hfirst
    obtain ⟨texts, hts⟩ := ih hrest
    exact ⟨text :: texts, List.Forall₂.cons ht hts⟩

theorem clear_texts (hvs : List.Forall₂ HasLength dims vs)
    (hts : List.Forall₂ (fun dim text => lengthOf? dim = some text) dims texts) : ∀ text ∈ texts, Clear text := by
  induction hvs generalizing texts with
  | nil =>
    cases hts
    exact List.forall_mem_nil _
  | cons hlength hvs ih =>
    cases hts with
    | cons ht hts => exact List.forall_mem_cons.2 ⟨clear_lengthOf? hlength ht, ih hts⟩

/-- what is printed on one line is known from the text that is printed -/
theorem word_eq_of_print {s : Session σ} {word word' name : String}
    (h : (EStateM.Result.ok none { s with console := s.console.print ("    " ++ word ++ " " ++ name ++ "\n") } :
        EStateM.Result Fault (Session σ) (Option String)) =
      .ok none { s with console := s.console.print ("    " ++ word' ++ " " ++ name ++ "\n") }) : word = word' := by
  injection h with _ hs
  injection hs with _ hc
  have hout := congrArg Console.out hc
  unfold Console.print at hout
  rw [String.append_right_inj] at hout
  simpa [String.append_assoc, String.append_right_inj, String.append_left_inj] using hout

/-! ## members -/

theorem kind_of_dimensions (hdims : dimensions type = (dims, element)) (hne : dims ≠ []) :
    type.kind? = some .arrayDecl := by
  unfold dimensions at hdims
  split at hdims
  · rfl
  · cases hdims
    exact absurd rfl hne

variable {o : StructOptions} {d : Definition} {own name : String} {p : FieldType}

theorem exists_texts_of_printMember {s t : Session σ} {r : Option String} (htype : m.field "type" = .ok type)
    (hdims : dimensions type = (dims, element)) (hne : dims ≠ []) (hvs : List.Forall₂ HasLength dims vs)
    (h : printMember o d m s = .ok r t) :
    ∃ texts, List.Forall₂ (fun dim text => lengthOf? dim = some text) dims texts := by
  have hget : ∀ {u u' : Session σ} {x : Tree}, get "type" m u = .ok x u' → x = type := by
    intro u u' x hx
    have hfield := (ofExcept_eq_ok hx).1
    rw [htype] at hfield
    cases hfield
    rfl
  obtain ⟨x, u, hx, h⟩ := bind_eq_ok h
  rw [hget hx, kind_of_dimensions hdims hne] at h
  obtain ⟨y, u', hy, h⟩ := bind_eq_ok (show printArray o d m u = .ok r t from h)
  rw [hget hy] at h
  obtain ⟨z, u'', hz, -⟩ := bind_eq_ok h
  exact exists_texts hdims hvs hz

/-- an array is printed, under options that give it no other names, with a type word that every library reads with the
values of its lengths, exactly when none of them is an octal constant from 8 on or an expression with a quotient -/
theorem lengths_survive (s : Session σ) (hown : d.name = some own) (hnew : d.newName o = none)
    (hname : m.field "name" = .ok (.text name)) (htype : m.field "type" = .ok type)
    (hnames : o.arrayConstants[own ++ "." ++ name]? = none) (hdims : dimensions type = (dims, element))
    (hne : dims ≠ []) (hp : FieldType.pointed? d element = some p) (hstem : '[' ∉ p.stem)
    (hvs : List.Forall₂ HasLength dims vs) (c : Console) (calls : List Library.Call) :
    (∃ word, printMember o d m s =
        .ok none { s with console := s.console.print ("    " ++ word ++ " " ++ name ++ "\n") } ∧
      ArrayWord.read (Library.loads ⟨{}, c⟩ calls).state.constants word =
        .ok ⟨true, String.ofList p.stem, true, vs.map fun v => ⟨v, none⟩⟩) ↔
    ∀ dim ∈ dims, isExact dim = true := by
  have hprint : ∀ texts, List.Forall₂ (fun dim text => lengthOf? dim = some text) dims texts →
      Delivers (printMember o d m : Action σ (Option String)) (Field.row ⟨name, { p with lengths := texts }⟩) none := by
    intro texts hts
    refine (get_delivers htype).after ?_
    rw [kind_of_dimensions hdims hne]
    exact printArray_delivers_lengths hnew hown hname htype hnames (lengthTexts_delivers hdims hvs hts "") hp
  have hread : ∀ texts, List.Forall₂ (fun dim text => lengthOf? dim = some text) dims texts →
      (ArrayWord.read (Library.loads ⟨{}, c⟩ calls).state.constants (FieldType.word { p with lengths := texts }) =
        .ok ⟨true, String.ofList p.stem, true, vs.map fun v => ⟨v, none⟩⟩ ↔ ∀ dim ∈ dims, isExact dim = true) := by
    intro texts hts
    have hsome : (vs.map fun v => (⟨v, none⟩ : Level)).isEmpty = false := by
      rw [List.isEmpty_map, List.isEmpty_eq_false_iff]
      rintro rfl
      cases hvs
      exact hne rfl
    have hclear : ∀ l ∈ texts, '[' ∉ l.toList := fun l hl => (clear_texts hvs hts l hl).opens
    rw [forall_isExact_iff (namesOnly_loads c calls) hvs hts]
    refine Iff.trans ?_ (read_word_iff (t := { p with lengths := texts }) hstem hclear)
    rw [hsome]
    rfl
  constructor
  · rintro ⟨word, hword, hlevels⟩
    obtain ⟨texts, hts⟩ := exists_texts_of_printMember htype hdims hne hvs hword
    rw [hprint texts hts s] at hword
    rw [← word_eq_of_print hword] at hlevels
    exact (hread texts hts).1 hlevels
  · intro hexact
    obtain ⟨texts, hts⟩ := exists_texts_of_isExact hvs hexact
    exact ⟨_, hprint texts hts s, (hread texts hts).2 hexact⟩

end

/-! ### arrays of characters -/

def constant (text : String) : Tree := .node .constant [.text "int", .text text]

def operation (op : String) (l r : Tree) : Tree := .node .binaryOp [.text op, l, r]

/-- a member with some lengths -/
def charArray (name : String) (dims : List Tree) : Tree :=
  let element : Tree := .node .typeDecl [.text name, .list [], .null, .node .identifierType [.list [.text "char"]]]
  .node .decl [.text name, .list [], .list [], .list [], .list [],
    dims.foldr (fun dim t => .node .arrayDecl [t, dim, .list []]) element, .null, .null]

/-- the struct that the members stand in -/
def buffers : Definition := ⟨.null, some "buffers", false, some "buffers", some "buffers", .null⟩

/-- what is printed when nothing else has been -/
def printed {α : Type} (a : Action Unit α) : Option String :=
  match a ⟨(), {}⟩ with
  | .ok _ t => some t.console.out
  | .error _ _ => none

/-- `0x10` and `4 * (2 - 1)` -/
def gridLengths : List Tree :=
  [constant "0x10", operation "*" (constant "4") (operation "-" (constant "2") (constant "1"))]

theorem lengths_survive_grid :
    ∃ word, printMember {} buffers (charArray "grid" gridLengths) (⟨(), {}⟩ : Session Unit) =
        .ok none ⟨(), Console.print ("    " ++ word ++ " " ++ "grid" ++ "\n") {}⟩ ∧
      ArrayWord.read {} word = .ok ⟨true, "char", true, [⟨16, none⟩, ⟨4, none⟩]⟩ := by
  have hvs : List.Forall₂ HasLength gridLengths [16, 4] :=
    .cons ⟨.inl rfl, by decide +kernel, by decide⟩ (.cons ⟨.inr rfl, by decide +kernel, by decide⟩ .nil)
  exact (lengths_survive ⟨(), {}⟩ rfl Std.TreeMap.getElem?_emptyc rfl rfl Std.TreeMap.getElem?_emptyc (by rfl)
    (List.cons_ne_nil _ _) (p := { target := .basic .char }) rfl (by decide) hvs {} []).2 (by decide +kernel)

/-- two ways of writing 8: an octal constant is read in base ten, and a quotient is no whole number -/
theorem octal_and_quotient_lost :
    valueOf? (constant "010") = some 8 ∧ valueOf? (operation "/" (constant "16") (constant "2")) = some 8 ∧
      printed (printMember {} buffers (charArray "a" [constant "010"])) = some "    char[010] a\n" ∧
      ArrayWord.read {} "char[010]" = .ok ⟨true, "char", true, [⟨10, none⟩]⟩ ∧
      printed (printMember {} buffers (charArray "b" [operation "/" (constant "16") (constant "2")])) =
        some "    char[8.0] b\n" ∧
      ArrayWord.read {} "char[8.0]" = .ok ⟨false, "char", true, []⟩ := by
  decide +kernel

end Disasm.C
