import Mathlib
import Disasm.Proofs.StackDepth
import Disasm.Proofs.Text.Numeral
import Disasm.Proofs.Text.Outline

/-!
# Texts of expressions

An expression is built from words by the operations that leave a value.  Its text is that of its outermost operation
with the texts of the operands in parentheses.  Different expressions have different texts: the outline of a text shows
the outermost operation and the texts of its operands.

* `Bracket`  what stands around the text of an operand;
* `Unary.head`, `Unary.bracket`, `Negation.bracket`, `Binary.sign`, `Binary.left`, `Binary.right`  the parts of the
  text of an operation, and `Unary.render_eq`, `Negation.render_eq`, `Binary.render_eq`  that there are no others;
* `Expression`, `Statement`  expressions, and the statements that are made of them;
* `Expression.outlined`, `Expression.render_injective`  the outline of a text, and that a text has one expression;
* `Statement.render_injective`  the same for statements;
* `Expression.pushes_moves`, `Statement.pushes_moves`  carrying out the moves of an expression or of a statement
  pushes its text;
* `Expression.carryOut_unambiguous`  what the stack shows determines what was carried out.
-/

namespace Disasm

open Text (enclosed converted Outlined Matched Unbracketed)
open OperandStack (Move Pushes carryOut)
open Symbolic (isSigned)

/-! ## the parts of an operation's text -/

/-- what stands around the text of an operand -/
inductive Bracket where
  | bare
  | conversion (type : String)
  | nested (type : String)
  deriving DecidableEq

namespace Bracket

def render : Bracket → String → String
  | .bare, v => enclosed v
  | .conversion type, v => converted type v
  | .nested type, v => enclosed (converted type v)

/-- the groups of the text -/
def groups : Bracket → String → List String
  | .bare, v => [v]
  | .conversion type, v => [type, v]
  | .nested type, v => [converted type v]

/-- the name of the type -/
def typeName : Bracket → String
  | .bare => ""
  | .conversion type | .nested type => type

/-- the number of groups -/
def width : Bracket → Nat
  | .bare | .nested _ => 1
  | .conversion _ => 2

theorem length_groups (w : Bracket) (v : String) : (w.groups v).length = w.width := by
  cases w <;> rfl

theorem groups_ne_nil (w : Bracket) (v : String) : w.groups v ≠ [] := by
  cases w <;> exact List.cons_ne_nil _ _

theorem outlined {w : Bracket} {v : String} (hw : Unbracketed w.typeName) (hv : Matched v) :
    Outlined (w.render v) "" (w.groups v) := by
  cases w with
  | bare => exact Outlined.enclosed hv
  | conversion type => exact Outlined.converted hw hv
  | nested type => exact Outlined.enclosed ⟨_, _, Outlined.converted hw hv⟩

/-- the groups determine the bracket and the text, unless one text is itself the conversion that the other bracket
writes -/
theorem groups_inj {w w' : Bracket} {v v' : String} (hw : Unbracketed w.typeName) (hw' : Unbracketed w'.typeName)
    (hv : Matched v) (hv' : Matched v') (hbare : w = .bare → ∀ type, w' = .nested type → v ≠ converted type v')
    (hbare' : w' = .bare → ∀ type, w = .nested type → v' ≠ converted type v) (h : w.groups v = w'.groups v') :
    w = w' ∧ v = v' := by
  cases w with
  | bare =>
    cases w' with
    | bare => exact ⟨rfl, (List.cons.inj h).1⟩
    | conversion type => cases h
    | nested type => exact absurd (List.cons.inj h).1 (hbare rfl type rfl)
  | conversion type =>
    cases w' with
    | conversion type' =>
      cases h
      exact ⟨rfl, rfl⟩
    | bare | nested => cases h
  | nested type =>
    cases w' with
    | bare => exact absurd (List.cons.inj h).1.symm (hbare' rfl type rfl)
    | conversion type' => cases h
    | nested type' =>
      obtain ⟨rfl, rfl⟩ := Text.converted_inj hw hw' hv hv' (List.cons.inj h).1
      exact ⟨rfl, rfl⟩

theorem comma_notMem {w : Bracket} {v : String} (hw : ',' ∉ w.typeName.toList) (hv : ',' ∉ v.toList) :
    ',' ∉ (w.render v).toList := by
  cases w <;> simp_all [render, typeName, converted, enclosed]

end Bracket

/-- what stands in front of the operand -/
def Unary.head : Unary → String
  | .load1 | .load2 | .load4 => "*"
  | .sex8 | .sex16 | .cvif => ""
  | .bcom => "~"
  | .cvfi => "Q_ftol"

def Unary.bracket : Unary → Bracket
  | .load1 => .conversion "byte *"
  | .load2 => .conversion "unsigned short *"
  | .load4 => .conversion "int *"
  | .sex8 => .conversion "signed char"
  | .sex16 => .conversion "short"
  | .bcom => .nested "unsigned int"
  | .cvif => .conversion "float"
  | .cvfi => .nested "float"

def Negation.bracket : Negation → Bracket
  | .negi => .bare
  | .negf => .conversion "float"

/-- the sign between the operands -/
def Binary.sign : Binary → String
  | .add | .addf => "+"
  | .sub | .subf => "-"
  | .divi | .divu | .divf => "/"
  | .modi | .modu => "%"
  | .muli | .mulu | .mulf => "*"
  | .band => "&"
  | .bor => "|"
  | .bxor => "^"
  | .lsh => "<<"
  | .rshi | .rshu => ">>"

def Binary.left : Binary → Bracket
  | .divu | .modu | .mulu | .band | .bor | .bxor | .rshu => .nested "unsigned int"
  | .addf | .subf | .divf | .mulf => .conversion "float"
  | _ => .bare

/-- an unsigned shift converts its left operand only -/
def Binary.right : Binary → Bracket
  | .rshu => .bare
  | b => b.left

theorem Unary.render_eq (u : Unary) (v : String) : u.render v = u.head ++ u.bracket.render v := by
  refine String.toList_inj.1 ?_
  cases u <;>
  · dsimp only [render, head, bracket, Bracket.render, converted, enclosed]
    simp only [String.toList_append, List.append_assoc]
    rfl

theorem Negation.render_eq (n : Negation) (v : String) : n.render v = "-" ++ n.bracket.render v := by
  refine String.toList_inj.1 ?_
  cases n <;>
  · dsimp only [render, bracket, Bracket.render, converted, enclosed]
    simp only [String.toList_append, List.append_assoc]
    rfl

namespace Binary

theorem plain_eq (l sign r : String) : plain l sign r = enclosed l ++ (" " ++ sign ++ " ") ++ enclosed r := by
  refine String.toList_inj.1 ?_
  dsimp only [plain, enclosed]
  simp only [String.toList_append, List.append_assoc]
  rfl

theorem unsigned_eq (l sign r : String) :
    unsigned l sign r =
      enclosed (converted "unsigned int" l) ++ (" " ++ sign ++ " ") ++ enclosed (converted "unsigned int" r) := by
  refine String.toList_inj.1 ?_
  dsimp only [unsigned, converted, enclosed]
  simp only [String.toList_append, List.append_assoc]
  rfl

theorem floating_eq (l sign r : String) :
    floating l sign r = converted "float" l ++ (" " ++ sign ++ " ") ++ converted "float" r := by
  refine String.toList_inj.1 ?_
  dsimp only [floating, converted, enclosed]
  simp only [String.toList_append, List.append_assoc]
  rfl

theorem rshu_eq (l r : String) :
    rshu.render l r = enclosed (converted "unsigned int" l) ++ (" " ++ ">>" ++ " ") ++ enclosed r := by
  refine String.toList_inj.1 ?_
  dsimp only [render, converted, enclosed]
  simp only [String.toList_append, List.append_assoc]
  rfl

theorem render_eq (b : Binary) (l r : String) :
    b.render l r = b.left.render l ++ (" " ++ b.sign ++ " ") ++ b.right.render r := by
  cases b with
  | add | sub | divi | modi | muli | lsh | rshi => exact plain_eq l _ r
  | divu | modu | mulu | band | bor | bxor => exact unsigned_eq l _ r
  | addf | subf | divf | mulf => exact floating_eq l _ r
  | rshu => exact rshu_eq l r

end Binary

/-! ### the parts determine the operation, and no part has a parenthesis or a comma -/

theorem Unary.ext_parts {u u' : Unary} (hhead : u.head = u'.head) (hbracket : u.bracket = u'.bracket) : u = u' := by
  revert hhead hbracket
  cases u <;> cases u' <;> decide

theorem Negation.ext_parts {n n' : Negation} (hbracket : n.bracket = n'.bracket) : n = n' := by
  revert hbracket
  cases n <;> cases n' <;> decide

theorem Binary.ext_parts {b b' : Binary} (hsign : b.sign = b'.sign) (hleft : b.left = b'.left)
    (hright : b.right = b'.right) : b = b' := by
  revert hsign hleft hright
  cases b <;> cases b' <;> decide

/-- neither a parenthesis nor a comma -/
def Clear (t : String) : Prop := Unbracketed t ∧ ',' ∉ t.toList

instance (t : String) : Decidable (Clear t) := inferInstanceAs (Decidable (_ ∧ _))

theorem Unary.clear (u : Unary) : Clear u.head ∧ Clear u.bracket.typeName := by
  cases u <;> decide

theorem Negation.clear (n : Negation) : Clear n.bracket.typeName := by
  cases n <;> decide

theorem Binary.clear (b : Binary) :
    Clear (" " ++ b.sign ++ " ") ∧ Clear b.left.typeName ∧ Clear b.right.typeName := by
  cases b <;> decide

namespace Binary

theorem width_right (b : Binary) : b.right.width = b.left.width := by
  cases b <;> rfl

theorem type_left {b : Binary} {type : String} (h : b.left = .nested type) : type = "unsigned int" := by
  cases b <;> cases h <;> rfl

theorem type_right {b : Binary} {type : String} (h : b.right = .nested type) : type = "unsigned int" := by
  cases b <;> cases h <;> rfl

theorem sign_inj {b b' : Binary} (h : " " ++ b.sign ++ " " = " " ++ b'.sign ++ " ") : b.sign = b'.sign := by
  have hlist := congrArg String.toList h
  simp only [String.toList_append, List.append_assoc] at hlist
  exact String.toList_inj.1 (List.append_cancel_right (List.append_cancel_left hlist))

end Binary

/-! ## expressions -/

/-- the text of an operand that no operation has made -/
@[ext]
structure Word where
  text : String
  ne_empty : text ≠ ""
  clear : Clear text

/-- words and the operations that leave a value -/
inductive Expression where
  | word (w : Word)
  | unary (u : Unary) (e : Expression)
  | negate (n : Negation) (e : Expression)
  | binary (b : Binary) (l r : Expression)

namespace Expression

def render : Expression → String
  | .word w => w.text
  | .unary u e => u.render e.render
  | .negate n e => n.render e.render
  | .binary b l r => b.render l.render r.render

/-- what the text has outside of all parentheses -/
def top : Expression → String
  | .word w => w.text
  | .unary u _ => u.head
  | .negate _ _ => "-"
  | .binary b _ _ => " " ++ b.sign ++ " "

/-- what the text has in parentheses -/
def groups : Expression → List String
  | .word _ => []
  | .unary u e => u.bracket.groups e.render
  | .negate n e => n.bracket.groups e.render
  | .binary b l r => b.left.groups l.render ++ b.right.groups r.render

theorem outlined (e : Expression) : Outlined e.render e.top e.groups := by
  induction e with
  | word w => exact Outlined.word w.clear.1
  | unary u e ih =>
    obtain ⟨hhead, htype⟩ := u.clear
    have houtline := (Outlined.word hhead.1).append (Bracket.outlined htype.1 ⟨_, _, ih⟩)
    rw [String.append_empty, List.nil_append, ← u.render_eq] at houtline
    exact houtline
  | negate n e ih =>
    have hminus : Unbracketed "-" := by decide
    have houtline := (Outlined.word hminus).append (Bracket.outlined n.clear.1 ⟨_, _, ih⟩)
    rw [String.append_empty, List.nil_append, ← n.render_eq] at houtline
    exact houtline
  | binary b l r ihl ihr =>
    obtain ⟨hsign, hleft, hright⟩ := b.clear
    have houtline := ((Bracket.outlined hleft.1 ⟨_, _, ihl⟩).append (Outlined.word hsign.1)).append
      (Bracket.outlined hright.1 ⟨_, _, ihr⟩)
    rw [String.empty_append, String.append_empty, List.append_nil, ← b.render_eq] at houtline
    exact houtline

theorem matched (e : Expression) : Matched e.render := ⟨_, _, e.outlined⟩

theorem comma_notMem (e : Expression) : ',' ∉ e.render.toList := by
  induction e with
  | word w => exact w.clear.2
  | unary u e ih =>
    obtain ⟨hhead, htype⟩ := u.clear
    rw [render, u.render_eq, String.toList_append, List.mem_append, not_or]
    exact ⟨hhead.2, Bracket.comma_notMem htype.2 ih⟩
  | negate n e ih =>
    rw [render, n.render_eq, String.toList_append, List.mem_append, not_or]
    exact ⟨by decide, Bracket.comma_notMem n.clear.2 ih⟩
  | binary b l r ihl ihr =>
    obtain ⟨hsign, hleft, hright⟩ := b.clear
    rw [render, b.render_eq, String.toList_append, String.toList_append]
    simp only [List.mem_append, not_or]
    exact ⟨⟨Bracket.comma_notMem hleft.2 ihl, hsign.2⟩, Bracket.comma_notMem hright.2 ihr⟩

/-! ### a text has one expression -/

/-- the outermost constructor -/
inductive Form where
  | word | unary | negation | binary
  deriving DecidableEq

def form : Expression → Form
  | .word _ => .word
  | .unary _ _ => .unary
  | .negate _ _ => .negation
  | .binary _ _ _ => .binary

/-- the outermost constructor, read off an outline -/
def Form.ofOutline (top : String) (groups : List String) : Form :=
  if groups = [] then .word
  else if top = "-" then .negation
  else if top.toList.head? = some ' ' then .binary
  else .unary

theorem form_eq (e : Expression) : e.form = Form.ofOutline e.top e.groups := by
  unfold Form.ofOutline
  cases e with
  | word w => rfl
  | unary u e =>
    have hhead : u.head ≠ "-" ∧ u.head.toList.head? ≠ some ' ' := by cases u <;> decide
    rw [groups, top, if_neg (Bracket.groups_ne_nil _ _), if_neg hhead.1, if_neg hhead.2]
    rfl
  | negate n e =>
    rw [groups, top, if_neg (Bracket.groups_ne_nil _ _), if_pos rfl]
    rfl
  | binary b l r =>
    have hsign : " " ++ b.sign ++ " " ≠ "-" ∧ (" " ++ b.sign ++ " ").toList.head? = some ' ' := by
      cases b <;> decide
    have hgroups := List.append_ne_nil_of_left_ne_nil (b.left.groups_ne_nil l.render) (b.right.groups r.render)
    rw [groups, top, if_neg hgroups, if_neg hsign.1, if_pos hsign.2]
    rfl

theorem outline_eq {e e' : Expression} (h : e.render = e'.render) :
    e.top = e'.top ∧ e.groups = e'.groups ∧ e.form = e'.form := by
  have houtline := e.outlined
  rw [h] at houtline
  obtain ⟨htop, hgroups⟩ := houtline.unique e'.outlined
  refine ⟨htop, hgroups, ?_⟩
  rw [form_eq, form_eq, htop, hgroups]

/-- no expression converts to an unsigned integer outside of all parentheses -/
theorem render_ne_unsigned (e : Expression) {v : String} (hv : Matched v) :
    e.render ≠ converted "unsigned int" v := by
  intro h
  have htype : Unbracketed "unsigned int" := by decide
  have houtline := Outlined.converted htype hv
  rw [← h] at houtline
  obtain ⟨htop, hgroups⟩ := e.outlined.unique houtline
  have hform := e.form_eq
  rw [htop, hgroups] at hform
  cases e with
  | unary u e => cases u <;> simp [groups, Unary.bracket, Bracket.groups] at hgroups
  | word | negate | binary => cases hform

/-- the groups of an operand determine it where no type but the unsigned integer is nested: the text of the other operand
is not such a conversion itself -/
theorem operand_inj {w w' : Bracket} {e e' : Expression} (hw : Unbracketed w.typeName) (hw' : Unbracketed w'.typeName)
    (htype : ∀ type, w = .nested type → type = "unsigned int")
    (htype' : ∀ type, w' = .nested type → type = "unsigned int") (h : w.groups e.render = w'.groups e'.render) :
    w = w' ∧ e.render = e'.render := by
  refine Bracket.groups_inj hw hw' e.matched e'.matched (fun _ type hnested => ?_) (fun _ type hnested => ?_) h
  · rw [htype' type hnested]
    exact e.render_ne_unsigned e'.matched
  · rw [htype type hnested]
    exact e'.render_ne_unsigned e.matched

theorem render_injective : Function.Injective render := by
  intro e
  induction e with
  | word w =>
    intro e' h
    obtain ⟨htop, hgroups, hform⟩ := outline_eq h
    cases e' with
    | word w' => exact congrArg word (Word.ext htop)
    | unary | negate | binary => cases hform
  | unary u e ih =>
    intro e' h
    obtain ⟨htop, hgroups, hform⟩ := outline_eq h
    cases e' with
    | unary u' e' =>
      have hbare : u.bracket ≠ .bare ∧ u'.bracket ≠ .bare := by cases u <;> cases u' <;> decide
      obtain ⟨hbracket, hrender⟩ := Bracket.groups_inj u.clear.2.1 u'.clear.2.1 e.matched e'.matched
        (fun hw => absurd hw hbare.1) (fun hw => absurd hw hbare.2) hgroups
      rw [Unary.ext_parts htop hbracket, ih hrender]
    | word | negate | binary => cases hform
  | negate n e ih =>
    intro e' h
    obtain ⟨htop, hgroups, hform⟩ := outline_eq h
    cases e' with
    | negate n' e' =>
      have hnested : ∀ type, n.bracket ≠ .nested type ∧ n'.bracket ≠ .nested type := by
        intro type
        cases n <;> cases n' <;> exact ⟨Bracket.noConfusion, Bracket.noConfusion⟩
      obtain ⟨hbracket, hrender⟩ := Bracket.groups_inj n.clear.1 n'.clear.1 e.matched e'.matched
        (fun _ type hw => absurd hw (hnested type).2) (fun _ type hw => absurd hw (hnested type).1) hgroups
      rw [Negation.ext_parts hbracket, ih hrender]
    | word | unary | binary => cases hform
  | binary b l r ihl ihr =>
    intro e' h
    obtain ⟨htop, hgroups, hform⟩ := outline_eq h
    cases e' with
    | binary b' l' r' =>
      obtain ⟨-, hleft, hright⟩ := b.clear
      obtain ⟨-, hleft', hright'⟩ := b'.clear
      -- the groups of the operands are told apart by their number, which is the same on both sides of the sign
      have hlength := congrArg List.length hgroups
      simp only [groups, List.length_append, Bracket.length_groups, Binary.width_right] at hlength
      obtain ⟨hgroupsl, hgroupsr⟩ := List.append_inj hgroups (by simp only [Bracket.length_groups]; omega)
      obtain ⟨hbl, hl⟩ := operand_inj hleft.1 hleft'.1 (fun _ => b.type_left) (fun _ => b'.type_left) hgroupsl
      obtain ⟨hbr, hr⟩ := operand_inj hright.1 hright'.1 (fun _ => b.type_right) (fun _ => b'.type_right) hgroupsr
      rw [Binary.ext_parts (Binary.sign_inj htop) hbl hbr, ihl hl, ihr hr]
    | word | unary | negate => cases hform

/-! ### the text is what the stack shows -/

/-- pushes the words and carries out the operations behind their operands -/
def moves : Expression → List Move
  | .word w => [.leaf w.text]
  | .unary u e => e.moves ++ [.operate (.unary u) ""]
  | .negate n e => e.moves ++ [.operate (.negate n) ""]
  | .binary b l r => l.moves ++ (r.moves ++ [.operate (.binary b) ""])

/-- no text that starts with a minus sign is negated -/
def SignedOnce : Expression → Prop
  | .word _ => True
  | .unary _ e => e.SignedOnce
  | .negate _ e => isSigned e.render = false ∧ e.SignedOnce
  | .binary _ l r => l.SignedOnce ∧ r.SignedOnce

theorem render_ne_empty (e : Expression) : e.render ≠ "" := by
  cases e with
  | word w => exact w.ne_empty
  | unary u e =>
    have harity : [e.render].length = (Operation.unary u).arity := rfl
    exact Operation.render_ne_empty "" harity
  | negate n e =>
    have harity : [e.render].length = (Operation.negate n).arity := rfl
    exact Operation.render_ne_empty "" harity
  | binary b l r =>
    have harity : [r.render, l.render].length = (Operation.binary b).arity := rfl
    exact Operation.render_ne_empty "" harity

theorem pushes_moves {e : Expression} (h : e.SignedOnce) : Pushes e.moves e.render := by
  induction e with
  | word w => exact fun _ => rfl
  | unary u e ih => exact (ih h).operate "" (o := .unary u) rfl e.render_ne_empty rfl
  | negate n e ih => exact (ih h.2).operate "" (o := .negate n) rfl e.render_ne_empty h.1
  | binary b l r ihl ihr =>
    exact (ihl h.1).operate₂ (ihr h.2) "" (o := .binary b) rfl l.render_ne_empty r.render_ne_empty rfl

end Expression

/-! ## statements -/

/-- the text of an opcode's parameter -/
@[ext]
structure Parameter where
  digits : List Char
  hex : ∀ c ∈ digits, Text.IsDigitOf 16 c

def Parameter.text (p : Parameter) : String := "0x" ++ String.ofList p.digits

theorem Parameter.text_injective : Function.Injective Parameter.text := by
  intro p p' h
  have hlist := congrArg String.toList h
  simp only [text, String.toList_append, String.toList_ofList] at hlist
  exact Parameter.ext (List.append_cancel_left hlist)

theorem Parameter.bracket_notMem (p : Parameter) : ']' ∉ p.text.toList := by
  simp only [text, String.toList_append, String.toList_ofList, List.mem_append, not_or]
  exact ⟨by decide, fun h => Text.IsDigitOf.ne (p.hex _ h) rfl rfl⟩

/-- what the operations make that complete a statement -/
inductive Statement where
  | store (w : Store) (place value : Expression)
  | arg (p : Parameter) (value : Expression)
  | copy (p : Parameter) (target source : Expression)

/-- two texts without a mark that end at their first mark -/
theorem append_mark_inj {α : Type} {mark : α} {xs ys us vs : List α} (hx : mark ∉ xs) (hy : mark ∉ ys)
    (h : xs ++ mark :: us = ys ++ mark :: vs) : xs = ys ∧ us = vs := by
  induction xs generalizing ys with
  | nil =>
    cases ys with
    | nil => exact ⟨rfl, (List.cons.inj h).2⟩
    | cons y ys => exact absurd ((List.cons.inj h).1 ▸ List.mem_cons_self) hy
  | cons x xs ih =>
    rw [List.mem_cons, not_or] at hx
    cases ys with
    | nil => exact absurd (List.cons.inj h).1.symm hx.1
    | cons y ys =>
      rw [List.mem_cons, not_or] at hy
      obtain ⟨rfl, htail⟩ := List.cons.inj h
      obtain ⟨rfl, rfl⟩ := ih hx.2 hy.2 htail
      exact ⟨rfl, rfl⟩

theorem Store.render_inj {w w' : Store} {place place' value value' : String} (hplace : Matched place)
    (hplace' : Matched place') (h : w.render place value = w'.render place' value') :
    w = w' ∧ place = place' ∧ value = value' := by
  have hlist : ∀ (w : Store) (place value : String), (w.render place value).toList =
      '*' :: '(' :: ((w.typeName ++ " *").toList ++
        ')' :: '(' :: (place.toList ++ ')' :: (" = ".toList ++ value.toList))) := by
    intro w place value
    dsimp only [render]
    simp only [String.toList_append, List.append_assoc]
    rfl
  have htype : ∀ w : Store, Unbracketed (w.typeName ++ " *") := by
    intro w
    cases w <;> decide
  have heq := congrArg String.toList h
  rw [hlist, hlist] at heq
  obtain ⟨htypes, hrest⟩ := (Text.Outlines.word (htype w)).cancel (Text.Outlines.word (htype w'))
    (List.cons.inj (List.cons.inj heq).2).2
  obtain ⟨top, groups, hplace⟩ := hplace
  obtain ⟨top', groups', hplace'⟩ := hplace'
  obtain ⟨hplaces, hvalues⟩ := Text.Outlines.cancel hplace hplace' (List.cons.inj hrest).2
  refine ⟨?_, String.toList_inj.1 hplaces, String.toList_inj.1 (List.append_cancel_left hvalues)⟩
  revert htypes
  cases w <;> cases w' <;> decide

theorem renderArg_inj {parm parm' value value' : String} (hparm : ']' ∉ parm.toList) (hparm' : ']' ∉ parm'.toList)
    (h : renderArg parm value = renderArg parm' value') : parm = parm' ∧ value = value' := by
  have hlist : ∀ parm value : String,
      (renderArg parm value).toList = "Arg[".toList ++ (parm.toList ++ ']' :: (" = ".toList ++ value.toList)) := by
    intro parm value
    dsimp only [renderArg]
    simp only [String.toList_append, List.append_assoc]
    rfl
  have heq := congrArg String.toList h
  rw [hlist, hlist] at heq
  obtain ⟨hparms, hvalues⟩ := append_mark_inj hparm hparm' (List.append_cancel_left heq)
  exact ⟨String.toList_inj.1 hparms, String.toList_inj.1 (List.append_cancel_left hvalues)⟩

theorem renderCopy_inj {target target' source source' parm parm' : String} (htarget : ',' ∉ target.toList)
    (htarget' : ',' ∉ target'.toList) (hsource : ',' ∉ source.toList) (hsource' : ',' ∉ source'.toList)
    (h : renderCopy target source parm = renderCopy target' source' parm') :
    target = target' ∧ source = source' ∧ parm = parm' := by
  have hlist : ∀ target source parm : String, (renderCopy target source parm).toList =
      "VM_BlockCopy(".toList ++ (target.toList ++
        ',' :: ' ' :: (source.toList ++ ',' :: ' ' :: (parm.toList ++ [')']))) := by
    intro target source parm
    dsimp only [renderCopy]
    simp only [String.toList_append, List.append_assoc]
    rfl
  have heq := congrArg String.toList h
  rw [hlist, hlist] at heq
  obtain ⟨htargets, hrest⟩ := append_mark_inj htarget htarget' (List.append_cancel_left heq)
  obtain ⟨hsources, hrest⟩ := append_mark_inj hsource hsource' (List.cons.inj hrest).2
  have hparms := List.append_cancel_right (List.cons.inj hrest).2
  exact ⟨String.toList_inj.1 htargets, String.toList_inj.1 hsources, String.toList_inj.1 hparms⟩

namespace Statement

def render : Statement → String
  | .store w place value => w.render place.render value.render
  | .arg p value => renderArg p.text value.render
  | .copy p target source => renderCopy target.render source.render p.text

def moves : Statement → List Move
  | .store w place value => place.moves ++ (value.moves ++ [.operate (.store w) ""])
  | .arg p value => value.moves ++ [.operate .arg p.text]
  | .copy p target source => target.moves ++ (source.moves ++ [.operate .copy p.text])

def SignedOnce : Statement → Prop
  | .store _ place value => place.SignedOnce ∧ value.SignedOnce
  | .arg _ value => value.SignedOnce
  | .copy _ target source => target.SignedOnce ∧ source.SignedOnce

theorem pushes_moves {t : Statement} (h : t.SignedOnce) : Pushes t.moves t.render := by
  cases t with
  | store w place value =>
    exact (Expression.pushes_moves h.1).operate₂ (Expression.pushes_moves h.2) "" (o := .store w) rfl
      place.render_ne_empty value.render_ne_empty rfl
  | arg p value =>
    exact (Expression.pushes_moves h).operate p.text (o := .arg) rfl value.render_ne_empty rfl
  | copy p target source =>
    exact (Expression.pushes_moves h.1).operate₂ (Expression.pushes_moves h.2) p.text (o := .copy) rfl
      target.render_ne_empty source.render_ne_empty rfl

/-- the operation, by the first character of the text -/
def initial : Statement → Char
  | .store _ _ _ => '*'
  | .arg _ _ => 'A'
  | .copy _ _ _ => 'V'

theorem head?_render (t : Statement) : t.render.toList.head? = some t.initial := by
  cases t <;>
  · dsimp only [render, Store.render, renderArg, renderCopy]
    simp only [String.toList_append, List.append_assoc]
    rfl

theorem render_injective : Function.Injective render := by
  intro t t' h
  have hinitial : t.initial = t'.initial := by
    have hhead := t.head?_render
    rw [h, t'.head?_render] at hhead
    exact (Option.some.inj hhead).symm
  cases t with
  | store w place value =>
    cases t' with
    | store w' place' value' =>
      obtain ⟨rfl, hplace, hvalue⟩ := Store.render_inj place.matched place'.matched h
      rw [Expression.render_injective hplace, Expression.render_injective hvalue]
    | arg | copy => exact absurd hinitial (by simp [initial])
  | arg p value =>
    cases t' with
    | arg p' value' =>
      obtain ⟨hp, hvalue⟩ := renderArg_inj p.bracket_notMem p'.bracket_notMem h
      rw [Parameter.text_injective hp, Expression.render_injective hvalue]
    | store | copy => exact absurd hinitial (by simp [initial])
  | copy p target source =>
    cases t' with
    | copy p' target' source' =>
      obtain ⟨htarget, hsource, hp⟩ :=
        renderCopy_inj target.comma_notMem target'.comma_notMem source.comma_notMem source'.comma_notMem h
      rw [Parameter.text_injective hp, Expression.render_injective htarget, Expression.render_injective hsource]
    | store | arg => exact absurd hinitial (by simp [initial])

end Statement

/-- carrying out an expression or a statement pushes its text and changes nothing else, and the text determines the
expression or the statement -/
theorem Expression.carryOut_unambiguous :
    (∀ e : Expression, e.SignedOnce → ∀ s : OperandStack, s.valid = true →
      carryOut e.moves s = .ok () { s with items := some e.render :: s.items }) ∧
    Function.Injective Expression.render ∧
    (∀ t : Statement, t.SignedOnce → ∀ s : OperandStack, s.valid = true →
      carryOut t.moves s = .ok () { s with items := some t.render :: s.items }) ∧
    Function.Injective Statement.render := by
  refine ⟨?_, Expression.render_injective, ?_, Statement.render_injective⟩
  · intro e he s hs
    exact (Expression.pushes_moves he).of_valid hs
  · intro t ht s hs
    exact (Statement.pushes_moves ht).of_valid hs

def Word.local8 : Word := ⟨"&local8", by decide, by decide⟩

def Word.hex10 : Word := ⟨"0x10", by decide, by decide⟩

def Parameter.hex8 : Parameter := ⟨['8'], List.forall_mem_singleton.2 ⟨8, rfl⟩⟩

/-- the quotient of unsigned numbers, one of them negated, above an operand without text; the other quotient; and a copy
of a block -/
theorem Expression.carryOut_unambiguous_quotients :
    carryOut [.leaf "&local8", .operate (.unary .load4) "", .leaf "0x10", .operate (.negate .negi) "",
        .operate (.binary .divu) ""] ⟨[none], true⟩ =
      .ok () ⟨[some "((unsigned int)(*(int *)(&local8))) / ((unsigned int)(-(0x10)))", none], true⟩ ∧
    (Expression.binary .divi (.word .local8) (.word .hex10)).render ≠
      (Expression.binary .divu (.word .local8) (.word .hex10)).render ∧
    carryOut [.leaf "&local8", .leaf "0x10", .operate .copy "0x8"] ⟨[], true⟩ =
      .ok () ⟨[some "VM_BlockCopy(&local8, 0x10, 0x8)"], true⟩ := by
  obtain ⟨hexpression, hinjective, hstatement, -⟩ := Expression.carryOut_unambiguous
  refine ⟨?_, ?_, ?_⟩
  · exact hexpression (.binary .divu (.unary .load4 (.word .local8)) (.negate .negi (.word .hex10)))
      ⟨trivial, by decide, trivial⟩ ⟨[none], true⟩ rfl
  · intro h
    cases hinjective h
  · exact hstatement (.copy .hex8 (.word .local8) (.word .hex10)) ⟨trivial, trivial⟩ ⟨[], true⟩ rfl

end Disasm
