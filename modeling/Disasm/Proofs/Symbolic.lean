import Mathlib
import Disasm.Instruction
import Disasm.Proofs.OperandStack

/-!
# Code carried out on texts

A stretch of code is carried out on texts in two ways.

* `execute`  every opcode has the effect of the opcode table: `push` leaves a value that has no text, `pop`
  removes the top, an operation replaces its operands by its result;
* `decompile`  as listings do it: `push` and `pop` are passed over, and a negation of a text with a sign
  leaves that text without its sign as well.

`length_exec` says that the depth changes as the opcode table has it, and `execute_eq_iff` when the two
leave the same single text: exactly when every pushed value is popped before anything else is done, and
no text with a sign is negated.  One direction follows both step by step.  In the other, the lengths of
the texts decide: what `decompile` leaves is never shorter than what the code holds, what `execute` leaves
is never longer, and each difference between the two costs length.
-/

namespace Disasm

/-- the part that an opcode has in the making of a statement -/
inductive Role where
  /-- a constant or an address is pushed -/
  | leaf
  | operation (o : Operation)
  | push
  | pop
  /-- nothing happens -/
  | idle
  /-- control goes elsewhere -/
  | flow
  deriving DecidableEq

def Opcode.role (op : Opcode) : Role :=
  match op.operation? with
  | some o => .operation o
  | none =>
    match op with
    | .const | .localAddr => .leaf
    | .push => .push
    | .pop => .pop
    | .undef | .ignore | .brk => .idle
    | _ => .flow

/-- an instruction and the text of the leaf that it pushes -/
structure Labelled where
  instruction : Instruction
  leaf : String := ""
  deriving DecidableEq, Repr

namespace Labelled

def role (x : Labelled) : Role := x.instruction.op.role

/-- the parameter as an operation shows it -/
def parm (x : Labelled) : String := "0x" ++ Text.hex x.instruction.parm

end Labelled

namespace Symbolic

/-! ## two ways to carry out code -/

/-- goes through a stretch of code from a start; `none` once a step is refused -/
def follow {α : Type} (f : Labelled → α → Option α) (start : α) (xs : List Labelled) : Option α :=
  xs.foldlM (fun a x => f x a) start

/-- removes some operands, if so many are there -/
def dropped {α : Type} (n : Nat) (xs : List α) : Option (List α) :=
  if n ≤ xs.length then some (xs.drop n) else none

/-- the texts of some operands, if all of them have one -/
def textsOf? : List Operand → Option (List String)
  | [] => some []
  | none :: _ => none
  | some t :: xs => (textsOf? xs).map (t :: ·)

/-- one instruction with the effect of the opcode table; the result of an operation has a text if all of
its operands do -/
def exec (x : Labelled) (xs : List Operand) : Option (List Operand) :=
  match x.role with
  | .leaf => some (some x.leaf :: xs)
  | .operation o =>
    (dropped o.arity xs).map fun rest => (textsOf? (xs.take o.arity)).map (o.render x.parm) :: rest
  | .push => some (none :: xs)
  | .pop => dropped 1 xs
  | .idle => some xs
  | .flow => dropped (-x.instruction.op.stackChange).toNat xs

def execute (xs : List Labelled) : Option (List Operand) := follow exec [] xs

/-- one instruction as listings take it -/
def recite (x : Labelled) (ts : List String) : Option (List String) :=
  match x.role with
  | .leaf => some (x.leaf :: ts)
  | .operation o => if o.arity ≤ ts.length then some (o.texts x.parm ts) else none
  | .push | .pop | .idle => some ts
  | .flow => none

def decompile (xs : List Labelled) : Option (List String) := follow recite [] xs

/-! ## when they agree -/

/-- the number of pushed values that wait for a `pop`; all else has to wait until there are none -/
def wait (x : Labelled) (n : Nat) : Option Nat :=
  match x.role with
  | .push => some (n + 1)
  | .pop => if n = 0 then none else some (n - 1)
  | .idle => some n
  | .leaf | .operation _ => if n = 0 then some 0 else none
  | .flow => none

/-- every pushed value is popped before anything else is done -/
def Settled (xs : List Labelled) : Prop := follow wait 0 xs = some 0

def isSigned (t : String) : Bool := t.toList.head? = some '-'

/-- whether the last text has a sign; such a text may not be negated -/
def sign (x : Labelled) (b : Bool) : Option Bool :=
  match x.role with
  | .leaf => some (isSigned x.leaf)
  | .operation (.negate _) => if b then none else some true
  | .operation _ => some false
  | .push | .pop | .idle => some b
  | .flow => none

/-- no text with a sign is negated -/
def SignedOnce (xs : List Labelled) : Prop := (follow sign false xs).isSome = true

instance (xs : List Labelled) : Decidable (Settled xs) := inferInstanceAs (Decidable (_ = _))

instance (xs : List Labelled) : Decidable (SignedOnce xs) := inferInstanceAs (Decidable (_ = _))

section
variable {α : Type} (f : Labelled → α → Option α) (a : α)

theorem follow_concat (xs : List Labelled) (x : Labelled) :
    follow f a (xs ++ [x]) = (follow f a xs).bind (f x) := by
  unfold follow
  rw [List.foldlM_append]
  show Option.bind _ (fun b => Option.bind (f x b) some) = _
  congr 1
  funext b
  exact bind_pure (f x b)

theorem follow_concat_eq_some {xs : List Labelled} {x : Labelled} {b : α} :
    follow f a (xs ++ [x]) = some b ↔ ∃ c, follow f a xs = some c ∧ f x c = some b := by
  rw [follow_concat, Option.bind_eq_some_iff]

end

/-! ## depths -/

theorem stackChange_role (op : Opcode) :
    op.stackChange + (if op.endsStatement then 1 else 0) =
      match op.role with
      | .leaf | .push => 1
      | .operation o => 1 - (o.arity : Int)
      | .pop => -1
      | .idle => 0
      | .flow => -((-op.stackChange).toNat : Int) := by
  cases op <;> rfl

/-- execution changes the depth as the opcode table says; a statement stays as one text -/
theorem length_exec {x : Labelled} {xs ys : List Operand} (h : exec x xs = some ys) :
    (ys.length : Int) = xs.length + x.instruction.op.stackChange +
      (if x.instruction.op.endsStatement then 1 else 0) := by
  have hdrop : ∀ {n : Nat} {zs : List Operand}, dropped n xs = some zs → (zs.length : Int) = xs.length - n := by
    intro n zs hz
    unfold dropped at hz
    split at hz
    next hle => cases hz; rw [List.length_drop, Int.ofNat_sub hle]
    next => cases hz
  have hrole := stackChange_role x.instruction.op
  rw [show x.instruction.op.role = x.role from rfl] at hrole
  unfold exec at h
  rw [Int.add_assoc, hrole]
  cases hr : x.role with
  | leaf | push | idle =>
    rw [hr] at h
    cases h
    simp
  | pop | flow =>
    rw [hr] at h
    have := hdrop h
    dsimp only
    omega
  | operation o =>
    rw [hr] at h
    obtain ⟨rest, hrest, rfl⟩ := Option.map_eq_some_iff.1 h
    have := hdrop hrest
    rw [List.length_cons]
    dsimp only
    omega

/-! ## lengths of results -/

end Symbolic

namespace Operation

/-- the length that an operation adds to its operands -/
def overhead (parm : String) (o : Operation) : Nat := (o.render parm (List.replicate o.arity "")).length

theorem length_unary (u : Unary) (v : String) : (u.render v).length = (u.render "").length + v.length := by
  unfold Unary.render
  split <;> simp only [String.length_append, String.length_empty] <;> omega

theorem length_negation (n : Negation) (v : String) :
    (n.render v).length = (n.render "").length + v.length := by
  unfold Negation.render
  split <;> simp only [String.length_append, String.length_empty] <;> omega

theorem length_binary (b : Binary) (l r : String) :
    (b.render l r).length = (b.render "" "").length + (l.length + r.length) := by
  unfold Binary.render Binary.plain Binary.unsigned Binary.floating
  split <;> simp only [String.length_append, String.length_empty] <;> omega

theorem length_store (w : Store) (l r : String) :
    (w.render l r).length = (w.render "" "").length + (l.length + r.length) := by
  unfold Store.render
  simp only [String.length_append, String.length_empty]
  omega

theorem length_render (parm : String) (o : Operation) {vs : List String} (h : vs.length = o.arity) :
    (o.render parm vs).length = o.overhead parm + (vs.map String.length).sum := by
  cases o with
  | unary u =>
    obtain ⟨v, rfl⟩ := List.length_eq_one_iff.1 h
    exact length_unary u v
  | negate n =>
    obtain ⟨v, rfl⟩ := List.length_eq_one_iff.1 h
    exact length_negation n v
  | binary b =>
    obtain ⟨r, l, rfl⟩ := List.length_eq_two.1 h
    show (b.render l r).length = (b.render "" "").length + (r.length + (l.length + 0))
    rw [length_binary b l r]
    omega
  | store w =>
    obtain ⟨r, l, rfl⟩ := List.length_eq_two.1 h
    show (w.render l r).length = (w.render "" "").length + (r.length + (l.length + 0))
    rw [length_store w l r]
    omega
  | arg =>
    obtain ⟨r, rfl⟩ := List.length_eq_one_iff.1 h
    show (renderArg parm r).length = (renderArg parm "").length + (r.length + 0)
    unfold renderArg
    simp only [String.length_append, String.length_empty]
    omega
  | copy =>
    obtain ⟨r, l, rfl⟩ := List.length_eq_two.1 h
    show (renderCopy l r parm).length = (renderCopy "" "" parm).length + (r.length + (l.length + 0))
    unfold renderCopy
    simp only [String.length_append, String.length_empty]
    omega

theorem arity_le_overhead (parm : String) (o : Operation) : o.arity ≤ o.overhead parm := by
  cases o with
  | unary u => show 1 ≤ (u.render "").length; cases u <;> decide
  | negate n => show 1 ≤ (n.render "").length; cases n <;> decide
  | binary b => show 2 ≤ (b.render "" "").length; cases b <;> decide
  | store w => show 2 ≤ (w.render "" "").length; cases w <;> decide
  | arg =>
    show 1 ≤ (renderArg parm "").length
    unfold renderArg
    simp only [String.length_append]
    have : 1 ≤ "Arg[".length := by decide
    omega
  | copy =>
    show 2 ≤ (renderCopy "" "" parm).length
    unfold renderCopy
    simp only [String.length_append]
    have : 2 ≤ "VM_BlockCopy(".length := by decide
    omega

theorem render_ne_empty (parm : String) {o : Operation} {vs : List String} (h : vs.length = o.arity) :
    o.render parm vs ≠ "" := by
  intro hempty
  have hlength := o.length_render parm h
  have hoverhead := o.arity_le_overhead parm
  have hpos := o.arity_pos
  rw [hempty, String.length_empty] at hlength
  omega

end Operation

namespace Symbolic

/-! ### weights -/

/-- the length of all texts, with one more for each of them -/
def weight (ts : List String) : Nat := (ts.map fun t => t.length + 1).sum

/-- values without a text weigh nothing -/
def load (xs : List Operand) : Nat := weight (xs.filterMap id)

/-- what an instruction adds to the weight when no text is lost or doubled -/
def gain (x : Labelled) : Nat :=
  match x.role with
  | .leaf => x.leaf.length + 1
  | .operation o => o.overhead x.parm + 1 - o.arity
  | _ => 0

def potential (xs : List Labelled) : Nat := (xs.map gain).sum

theorem weight_append (ts us : List String) : weight (ts ++ us) = weight ts + weight us := by
  unfold weight
  rw [List.map_append, List.sum_append]

theorem weight_cons (t : String) (ts : List String) : weight (t :: ts) = t.length + 1 + weight ts := rfl

theorem weight_eq (ts : List String) : weight ts = (ts.map String.length).sum + ts.length := by
  induction ts with
  | nil => rfl
  | cons t ts ih =>
    rw [weight_cons, ih, List.map_cons, List.sum_cons, List.length_cons]
    omega

theorem load_append (xs ys : List Operand) : load (xs ++ ys) = load xs + load ys := by
  unfold load
  rw [List.filterMap_append, weight_append]

theorem load_map_some (ts : List String) : load (ts.map some) = weight ts := by
  unfold load
  rw [List.filterMap_map]
  congr 1
  exact List.filterMap_some

theorem potential_concat (xs : List Labelled) (x : Labelled) :
    potential (xs ++ [x]) = potential xs + gain x := by
  unfold potential
  rw [List.map_append, List.sum_append, List.map_singleton, List.sum_singleton]

/-- the weight of the result of an operation -/
theorem weight_render {x : Labelled} {o : Operation} (hx : x.role = .operation o) {vs : List String}
    (h : vs.length = o.arity) : weight [o.render x.parm vs] = weight vs + gain x := by
  have hle := o.arity_le_overhead x.parm
  unfold gain
  rw [hx, weight_cons, o.length_render x.parm h, weight_eq vs, h]
  show _ + 1 + 0 = _
  dsimp only
  omega

/-! ## what is decompiled -/

theorem isSigned_append {s : String} (h : s ≠ "") (t : String) : isSigned (s ++ t) = isSigned s := by
  unfold isSigned
  rw [String.toList_append, List.head?_append_of_ne_nil _ (fun hn => h (String.toList_eq_nil_iff.1 hn))]

theorem isSigned_render (parm : String) (o : Operation) {vs : List String} (h : vs.length = o.arity) :
    isSigned (o.render parm vs) = match o with | .negate _ => true | _ => false := by
  cases o with
  | unary u =>
    obtain ⟨v, rfl⟩ := List.length_eq_one_iff.1 h
    show isSigned (u.render v) = false
    unfold Unary.render
    split <;> rw [String.append_assoc, isSigned_append (by decide)] <;> decide
  | negate n =>
    obtain ⟨v, rfl⟩ := List.length_eq_one_iff.1 h
    show isSigned (n.render v) = true
    unfold Negation.render
    split <;> rw [String.append_assoc, isSigned_append (by decide)] <;> decide
  | binary b =>
    obtain ⟨r, l, rfl⟩ := List.length_eq_two.1 h
    show isSigned (b.render l r) = false
    unfold Binary.render Binary.plain Binary.unsigned Binary.floating
    split <;> simp only [String.append_assoc] <;> rw [isSigned_append (by decide)] <;> decide
  | store w =>
    obtain ⟨r, l, rfl⟩ := List.length_eq_two.1 h
    show isSigned (w.render l r) = false
    unfold Store.render
    simp only [String.append_assoc]
    rw [isSigned_append (by decide)]
    decide
  | arg =>
    obtain ⟨r, rfl⟩ := List.length_eq_one_iff.1 h
    show isSigned (renderArg parm r) = false
    unfold renderArg
    simp only [String.append_assoc]
    rw [isSigned_append (by decide)]
    decide
  | copy =>
    obtain ⟨r, l, rfl⟩ := List.length_eq_two.1 h
    show isSigned (renderCopy l r parm) = false
    unfold renderCopy
    simp only [String.append_assoc]
    rw [isSigned_append (by decide)]
    decide

/-- the last text has a sign -/
def topSigned (ts : List String) : Bool := (ts.head?.map isSigned).getD false

/-- the weight of the texts after an operation -/
theorem weight_texts {x : Labelled} {o : Operation} (hx : x.role = .operation o) {ts : List String}
    (h : o.arity ≤ ts.length) :
    weight (o.texts x.parm ts) = weight ts + gain x + weight (o.residue (ts.take o.arity)) := by
  have htake := weight_render hx (List.length_take_of_le h)
  have hsplit : weight ts = weight (ts.take o.arity) + weight (ts.drop o.arity) := by
    rw [← weight_append, List.take_append_drop]
  unfold Operation.texts
  rw [weight_cons, weight_append]
  rw [weight_cons] at htake
  change _ + 1 + 0 = _ at htake
  omega

/-- a negation leaves a text besides its result when its operand has a sign -/
theorem residue_negate (n : Negation) {ts : List String} (h : (Operation.negate n).arity ≤ ts.length) :
    let rest := (Operation.negate n).residue (ts.take (Operation.negate n).arity)
    (topSigned ts = false → rest = []) ∧ (topSigned ts = true → 0 < weight rest) := by
  obtain ⟨v, rest, rfl⟩ := List.exists_cons_of_length_pos h
  show (isSigned v = false → (OperandStack.withoutSign v.toList).toList = []) ∧
    (isSigned v = true → 0 < weight (OperandStack.withoutSign v.toList).toList)
  unfold isSigned OperandStack.withoutSign
  split
  next cs hv => rw [hv]; exact ⟨fun h => by simp at h, fun _ => Nat.succ_pos _⟩
  next hv =>
    refine ⟨fun _ => rfl, fun h => ?_⟩
    obtain ⟨cs, hcs⟩ := List.head?_eq_some_iff.1 (of_decide_eq_true h)
    exact absurd hcs (hv cs)

theorem residue_eq_nil {o : Operation} (h : ∀ n, o ≠ .negate n) (vs : List String) : o.residue vs = [] := by
  cases o with
  | negate n => exact absurd rfl (h n)
  | _ => rfl

/-- one step keeps the balance of weight and code, or makes the texts heavier for good -/
theorem recite_weight {x : Labelled} {us ts : List String} (h : recite x us = some ts) :
    weight us + gain x ≤ weight ts ∧
      (∀ b, sign x (topSigned us) = some b → weight ts = weight us + gain x ∧ topSigned ts = b) ∧
      (sign x (topSigned us) = none → weight us + gain x < weight ts) := by
  unfold recite at h
  unfold sign
  have hidle : ∀ {r : Role}, x.role = r → r = .push ∨ r = .pop ∨ r = .idle → gain x = 0 := by
    rintro r hr (rfl | rfl | rfl) <;> (unfold gain; rw [hr])
  cases hr : x.role with
  | leaf =>
    rw [hr] at h
    cases h
    have hw : weight (x.leaf :: us) = weight us + gain x := by
      unfold gain
      rw [hr, weight_cons, Nat.add_comm]
    exact ⟨hw.ge, fun b hb => ⟨hw, Option.some.inj hb⟩, fun hn => (nomatch hn)⟩
  | operation o =>
    rw [hr] at h
    dsimp only at h
    split at h
    next hle =>
      cases h
      have hw := weight_texts hr hle
      have htop : topSigned (o.texts x.parm us) = isSigned (o.render x.parm (us.take o.arity)) := rfl
      rw [isSigned_render x.parm o (List.length_take_of_le hle)] at htop
      refine ⟨by omega, ?_⟩
      by_cases hneg : ∃ n, o = .negate n
      · obtain ⟨n, rfl⟩ := hneg
        obtain ⟨h0, h1⟩ := residue_negate n hle
        dsimp only
        split
        next hs =>
          have hres := h1 hs
          exact ⟨fun b hb => (nomatch hb), fun _ => by omega⟩
        next hs =>
          have hres := h0 (Bool.eq_false_iff.2 hs)
          rw [hres] at hw
          exact ⟨fun b hb => ⟨hw, htop.trans (Option.some.inj hb)⟩, fun hn => (nomatch hn)⟩
      · have hne : ∀ n, o ≠ .negate n := fun n hn => hneg ⟨n, hn⟩
        rw [residue_eq_nil hne] at hw
        cases o with
        | negate n => exact absurd rfl (hne n)
        | _ => exact ⟨fun b hb => ⟨hw, htop.trans (Option.some.inj hb)⟩, fun hn => (nomatch hn)⟩
    next => cases h
  | push | pop | idle =>
    rw [hr] at h
    cases h
    rw [hidle hr (by simp)]
    exact ⟨Nat.le_refl _, fun b hb => ⟨rfl, Option.some.inj hb⟩, fun hn => (nomatch hn)⟩
  | flow => rw [hr] at h; cases h

/-- What is decompiled is never lighter than the code, and heavier once a text with a sign was negated;
until then it is known whether the last text has a sign. -/
theorem decompile_weight {xs : List Labelled} {ts : List String} (h : decompile xs = some ts) :
    (∀ b, follow sign false xs = some b → weight ts = potential xs ∧ topSigned ts = b) ∧
      (follow sign false xs = none → potential xs < weight ts) := by
  induction xs using List.reverseRecOn generalizing ts with
  | nil =>
    cases h
    exact ⟨fun b hb => ⟨rfl, Option.some.inj hb⟩, fun hn => (nomatch hn)⟩
  | append_singleton xs x ih =>
    obtain ⟨us, hus, hx⟩ := (follow_concat_eq_some recite []).1 h
    obtain ⟨hsome, hnone⟩ := ih hus
    obtain ⟨hle, heq, hlt⟩ := recite_weight hx
    rw [potential_concat, follow_concat]
    cases hs : follow sign false xs with
    | none =>
      have := hnone hs
      exact ⟨fun b hb => (nomatch hb), fun _ => by omega⟩
    | some b =>
      obtain ⟨hw, ht⟩ := hsome b hs
      rw [ht] at heq hlt
      rw [Option.bind_some, ← hw]
      exact ⟨heq, hlt⟩

/-! ## what is executed -/

theorem dropped_eq_some {α : Type} {n : Nat} {xs ys : List α} :
    dropped n xs = some ys ↔ n ≤ xs.length ∧ xs.drop n = ys := by
  unfold dropped
  split
  next h => simp [h]
  next h => simp [h]

/-- operands that all have texts -/
theorem textsOf?_eq_some {xs : List Operand} {vs : List String} :
    textsOf? xs = some vs ↔ xs = vs.map some := by
  induction xs generalizing vs with
  | nil => cases vs <;> simp [textsOf?]
  | cons x xs ih =>
    cases x with
    | none => cases vs <;> simp [textsOf?]
    | some t => cases vs <;> simp [textsOf?, ih, and_comm]

/-- a value without a text lies below a text: no operation can reach it, and no `pop` -/
def Stuck (xs : List Operand) : Prop := ∃ as bs, xs = as ++ none :: bs ∧ ∃ t, some t ∈ as

/-- as long as nothing is lost, the values that wait lie above texts, or one is stuck -/
def Even (l : List Labelled) (xs : List Operand) : Prop :=
  (∃ (n : Nat) (ts : List String), follow wait 0 l = some n ∧ xs = List.replicate n none ++ ts.map some) ∨ Stuck xs

theorem Stuck.cons {xs : List Operand} (h : Stuck xs) (x : Operand) : Stuck (x :: xs) := by
  obtain ⟨as, bs, rfl, t, ht⟩ := h
  exact ⟨x :: as, bs, rfl, t, List.mem_cons_of_mem x ht⟩

theorem stuck_cons_some {xs : List Operand} (h : none ∈ xs) (t : String) : Stuck (some t :: xs) := by
  obtain ⟨as, bs, rfl⟩ := List.append_of_mem h
  exact ⟨some t :: as, bs, rfl, t, List.mem_cons_self⟩

theorem not_stuck_singleton (t : String) : ¬ Stuck [some t] := by
  rintro ⟨as, bs, h, u, hu⟩
  have : (none : Operand) ∈ [some t] := h ▸ List.mem_append_right as List.mem_cons_self
  simp at this

theorem load_cons_some (t : String) (xs : List Operand) : load (some t :: xs) = t.length + 1 + load xs := rfl

theorem load_cons_none (xs : List Operand) : load (none :: xs) = load xs := rfl

theorem load_drop_le (n : Nat) (xs : List Operand) : load (xs.drop n) ≤ load xs := by
  conv_rhs => rw [← List.take_append_drop n xs, load_append]
  exact Nat.le_add_left _ _

theorem gain_pos {x : Labelled} {o : Operation} (hx : x.role = .operation o) : 0 < gain x := by
  have := o.arity_le_overhead x.parm
  unfold gain
  rw [hx]
  dsimp only
  omega

/-- an operation keeps the balance when all of its operands have texts, and loses weight otherwise -/
theorem exec_operation {x : Labelled} {o : Operation} (hx : x.role = .operation o) {xs ys : List Operand}
    (h : exec x xs = some ys) :
    (∃ vs, xs = vs.map some ++ xs.drop o.arity ∧ vs.length = o.arity ∧
      ys = some (o.render x.parm vs) :: xs.drop o.arity ∧ load ys = load xs + gain x) ∨
      load ys < load xs + gain x := by
  unfold exec at h
  rw [hx] at h
  obtain ⟨rest, hrest, rfl⟩ := Option.map_eq_some_iff.1 h
  obtain ⟨hle, rfl⟩ := dropped_eq_some.1 hrest
  cases hv : textsOf? (xs.take o.arity) with
  | none =>
    right
    rw [Option.map_none, load_cons_none]
    have := load_drop_le o.arity xs
    have := gain_pos hx
    omega
  | some vs =>
    left
    have htake := textsOf?_eq_some.1 hv
    have hlen : vs.length = o.arity := by
      rw [← List.length_map (f := some), ← htake, List.length_take_of_le hle]
    have hxs : xs = vs.map some ++ xs.drop o.arity := by
      rw [← htake, List.take_append_drop]
    refine ⟨vs, hxs, hlen, rfl, ?_⟩
    have hw := weight_render hx hlen
    rw [weight_cons] at hw
    change _ + 1 + 0 = _ at hw
    have hload : load xs = weight vs + load (xs.drop o.arity) := by
      conv_lhs => rw [hxs, load_append, load_map_some]
    rw [Option.map_some, load_cons_some]
    omega

/-- no step gains more than its instruction holds -/
theorem exec_load {x : Labelled} (hx : x.role ≠ .flow) {xs ys : List Operand} (h : exec x xs = some ys) :
    load ys ≤ load xs + gain x := by
  cases hr : x.role with
  | operation o =>
    rcases exec_operation hr h with ⟨vs, -, -, -, hload⟩ | hlt
    · exact hload.le
    · exact hlt.le
  | flow => exact absurd hr hx
  | leaf =>
    unfold exec at h
    rw [hr] at h
    cases h
    unfold gain
    rw [hr, load_cons_some, Nat.add_comm]
  | push | idle =>
    unfold exec at h
    rw [hr] at h
    cases h
    exact Nat.le_add_right _ _
  | pop =>
    unfold exec at h
    rw [hr] at h
    obtain ⟨-, rfl⟩ := dropped_eq_some.1 h
    exact (load_drop_le 1 xs).trans (Nat.le_add_right _ _)

/-- an operation on texts finds no value that waits -/
theorem even_operation {l : List Labelled} {x : Labelled} {o : Operation} (hr : x.role = .operation o)
    {xs : List Operand} {vs : List String} (hxs : xs = vs.map some ++ xs.drop o.arity)
    (hlen : vs.length = o.arity) (he : Even l xs) :
    Even (l ++ [x]) (some (o.render x.parm vs) :: xs.drop o.arity) := by
  unfold Even
  rw [follow_concat]
  rcases he with ⟨n, ts, hn, rfl⟩ | ⟨as, bs, rfl, -⟩
  · have hn0 : n = 0 := by
      cases vs with
      | nil => exact absurd hlen o.arity_pos.ne
      | cons v vs =>
        cases n with
        | zero => rfl
        | succ n => cases hxs
    subst hn0
    refine .inl ⟨0, o.render x.parm vs :: ts.drop o.arity, ?_, ?_⟩
    · rw [hn, Option.bind_some]
      unfold wait
      rw [hr]
      rfl
    · rw [List.map_cons, List.map_drop]
      rfl
  · refine .inr (stuck_cons_some ?_ _)
    have hmem : (none : Operand) ∈ as ++ none :: bs := List.mem_append_right as List.mem_cons_self
    rw [hxs] at hmem
    exact (List.mem_append.1 hmem).resolve_left (by simp)

/-- a `pop` that takes no text takes the value that was pushed last -/
theorem even_pop {l : List Labelled} {x : Labelled} (hr : x.role = .pop) {xs : List Operand}
    (he : Even l (none :: xs)) : Even (l ++ [x]) xs := by
  unfold Even
  rw [follow_concat]
  rcases he with ⟨n, ts, hn, hxs⟩ | ⟨as, bs, has, t, ht⟩
  · cases n with
    | zero => cases ts <;> cases hxs
    | succ n =>
      refine .inl ⟨n, ts, ?_, (List.cons.inj hxs).2⟩
      rw [hn, Option.bind_some]
      unfold wait
      rw [hr]
      rfl
  · cases as with
    | nil => cases ht
    | cons a as =>
      obtain ⟨rfl, rfl⟩ := List.cons.inj has
      exact .inr ⟨as, bs, rfl, t, (List.mem_cons.1 ht).resolve_left (by simp)⟩

/-- a step that loses nothing keeps the values that wait in order, or one is stuck -/
theorem exec_even {l : List Labelled} {x : Labelled} (hx : x.role ≠ .flow) {xs ys : List Operand}
    (h : exec x xs = some ys) (hload : load ys = load xs + gain x) (he : Even l xs) : Even (l ++ [x]) ys := by
  cases hr : x.role with
  | operation o =>
    rcases exec_operation hr h with ⟨vs, hxs, hlen, rfl, -⟩ | hlt
    · exact even_operation hr hxs hlen he
    · omega
  | flow => exact absurd hr hx
  | leaf =>
    unfold exec at h
    rw [hr] at h
    cases h
    unfold Even
    rw [follow_concat]
    rcases he with ⟨n, ts, hn, rfl⟩ | hs
    · rw [hn, Option.bind_some]
      cases n with
      | zero => exact .inl ⟨0, x.leaf :: ts, by unfold wait; rw [hr]; rfl, rfl⟩
      | succ n => exact .inr (stuck_cons_some (by simp) x.leaf)
    · exact .inr (hs.cons _)
  | push =>
    unfold exec at h
    rw [hr] at h
    cases h
    rcases he with ⟨n, ts, hn, rfl⟩ | hs
    · refine .inl ⟨n + 1, ts, ?_, rfl⟩
      rw [follow_concat, hn, Option.bind_some]
      unfold wait
      rw [hr]
    · exact .inr (hs.cons _)
  | idle =>
    unfold exec at h
    rw [hr] at h
    cases h
    rcases he with ⟨n, ts, hn, rfl⟩ | hs
    · refine .inl ⟨n, ts, ?_, rfl⟩
      rw [follow_concat, hn, Option.bind_some]
      unfold wait
      rw [hr]
    · exact .inr hs
  | pop =>
    unfold exec at h
    rw [hr] at h
    obtain ⟨hlen, rfl⟩ := dropped_eq_some.1 h
    obtain ⟨y, rest, rfl⟩ := List.exists_cons_of_length_pos hlen
    rw [List.drop_one, List.tail_cons] at hload ⊢
    cases y with
    | some t =>
      have hgain : gain x = 0 := by unfold gain; rw [hr]
      rw [load_cons_some] at hload
      omega
    | none => exact even_pop hr he

theorem role_ne_flow {x : Labelled} {us ts : List String} (h : recite x us = some ts) : x.role ≠ .flow := by
  intro hr
  unfold recite at h
  rw [hr] at h
  cases h

/-- What is executed is never heavier than the code, and lighter unless the values that wait lie above texts
or one is stuck. -/
theorem execute_load {l : List Labelled} {ts : List String} {xs : List Operand}
    (hd : decompile l = some ts) (h : execute l = some xs) :
    load xs ≤ potential l ∧ (load xs = potential l → Even l xs) := by
  induction l using List.reverseRecOn generalizing ts xs with
  | nil =>
    cases h
    exact ⟨Nat.le_refl _, fun _ => .inl ⟨0, [], rfl, rfl⟩⟩
  | append_singleton l x ih =>
    obtain ⟨us, hus, hx⟩ := (follow_concat_eq_some recite []).1 hd
    obtain ⟨ys, hys, hy⟩ := (follow_concat_eq_some exec []).1 h
    obtain ⟨hle, heven⟩ := ih hus hys
    have hflow := role_ne_flow hx
    have hstep := exec_load hflow hy
    rw [potential_concat]
    refine ⟨by omega, fun heq => ?_⟩
    exact exec_even hflow hy (by omega) (heven (by omega))

/-! ## agreement -/

/-- an operation that may be made leaves nothing below its result -/
theorem residue_of_sign {x : Labelled} {o : Operation} (hr : x.role = .operation o) {us : List String}
    (hle : o.arity ≤ us.length) {b : Bool} (h : sign x (topSigned us) = some b) :
    o.residue (us.take o.arity) = [] := by
  by_cases hneg : ∃ n, o = .negate n
  · obtain ⟨n, rfl⟩ := hneg
    refine (residue_negate n hle).1 ?_
    unfold sign at h
    rw [hr] at h
    dsimp only at h
    split at h
    next => cases h
    next hs => exact Bool.eq_false_iff.2 hs
  · exact residue_eq_nil (fun n hn => hneg ⟨n, hn⟩) _

/-- one step of both, with `m` values that wait before it and `n` behind it -/
theorem exec_of_recite {x : Labelled} {us ts : List String} {m n : Nat} {b : Bool}
    (hx : recite x us = some ts) (hw : wait x m = some n) (hs : sign x (topSigned us) = some b) :
    exec x (List.replicate m none ++ us.map some) = some (List.replicate n none ++ ts.map some) := by
  have hzero : ∀ {k : Nat}, (if m = 0 then some 0 else none) = some k → m = 0 ∧ k = 0 := fun {k} h => by
    split at h
    next h0 => exact ⟨h0, (Option.some.inj h).symm⟩
    next => cases h
  unfold recite at hx
  unfold wait at hw
  unfold exec
  cases hr : x.role with
  | leaf =>
    rw [hr] at hx hw
    cases hx
    obtain ⟨rfl, rfl⟩ := hzero hw
    rfl
  | operation o =>
    rw [hr] at hx hw
    obtain ⟨rfl, rfl⟩ := hzero hw
    dsimp only at hx
    split at hx
    next hle =>
      cases hx
      have hres := residue_of_sign hr hle hs
      have htake : textsOf? ((us.map some).take o.arity) = some (us.take o.arity) :=
        textsOf?_eq_some.2 List.map_take.symm
      have hdrop : dropped o.arity (us.map some) = some ((us.drop o.arity).map some) :=
        dropped_eq_some.2 ⟨by rwa [List.length_map], List.map_drop.symm⟩
      show (dropped o.arity (us.map some)).map _ = _
      rw [hdrop, Option.map_some]
      show some ((textsOf? ((us.map some).take o.arity)).map _ :: _) = _
      rw [htake, Operation.texts, hres]
      rfl
    next => cases hx
  | push =>
    rw [hr] at hx hw
    cases hx
    cases hw
    rfl
  | pop =>
    rw [hr] at hx hw
    cases hx
    cases m with
    | zero => cases hw
    | succ m =>
      cases hw
      exact dropped_eq_some.2 ⟨Nat.succ_pos _, rfl⟩
  | idle =>
    rw [hr] at hx hw
    cases hx
    cases hw
    rfl
  | flow => rw [hr] at hx; cases hx

/-- with settled pushes and single signs, the values that wait lie above the decompiled texts -/
theorem execute_of_decompile {l : List Labelled} {ts : List String} {n : Nat} {b : Bool}
    (hd : decompile l = some ts) (hw : follow wait 0 l = some n) (hs : follow sign false l = some b) :
    execute l = some (List.replicate n none ++ ts.map some) := by
  induction l using List.reverseRecOn generalizing ts n b with
  | nil =>
    cases hd
    cases hw
    rfl
  | append_singleton l x ih =>
    obtain ⟨us, hus, hx⟩ := (follow_concat_eq_some recite []).1 hd
    obtain ⟨m, hm, hwx⟩ := (follow_concat_eq_some wait 0).1 hw
    obtain ⟨c, hc, hsx⟩ := (follow_concat_eq_some sign false).1 hs
    have htop := ((decompile_weight hus).1 c hc).2
    rw [execute, follow_concat, show follow exec [] l = _ from ih hus hm hc, Option.bind_some]
    exact exec_of_recite hx hwx (htop ▸ hsx)

/-- Where one text is decompiled, execution leaves just this text exactly when the pushed values are settled
and no text with a sign is negated. -/
theorem execute_eq_iff {l : List Labelled} {t : String} (hd : decompile l = some [t]) :
    execute l = some [some t] ↔ Settled l ∧ SignedOnce l := by
  constructor
  · intro h
    obtain ⟨hle, heven⟩ := execute_load hd h
    obtain ⟨heq, hlt⟩ := decompile_weight hd
    have hload : load [some t] = weight [t] := rfl
    have hsign : follow sign false l ≠ none := fun hn => by
      have := hlt hn
      omega
    obtain ⟨b, hb⟩ := Option.ne_none_iff_exists'.1 hsign
    refine ⟨?_, Option.isSome_iff_exists.2 ⟨b, hb⟩⟩
    rcases heven (hload.trans (heq b hb).1) with ⟨n, ts, hn, hxs⟩ | hstuck
    · cases n with
      | zero => exact hn
      | succ n => cases hxs
    · exact absurd hstuck (not_stuck_singleton t)
  · rintro ⟨hw, hs⟩
    obtain ⟨b, hb⟩ := Option.isSome_iff_exists.1 hs
    exact execute_of_decompile hd hw hb

end Symbolic
end Disasm
