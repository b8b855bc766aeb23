import Mathlib
import Disasm.OperandStack
import Disasm.Proofs.Action

/-!
# Operations on a stack of texts

An operation takes a fixed number of operands and leaves one text.  A negation of a text with a sign
leaves that text without the sign as well, below its result.

* `Operation.arity`, `Operation.render`, `Operation.residue`  what is taken, the result and what is left
  below it;
* `perform_onto`  what an operation does to its operands, whatever lies below them;
* `perform_invalid`, `perform_valid`, `perform_short`  an operation on an invalid stack of texts, on one with
  enough operands and on one with too few.
-/

namespace Disasm

namespace Operation

/-- the number of operands that are taken -/
def arity : Operation → Nat
  | .unary _ | .negate _ | .arg => 1
  | .binary _ | .store _ | .copy => 2

theorem arity_pos (o : Operation) : 0 < o.arity := by
  cases o <;> exact Nat.succ_pos _

/-- the result over the operands, the one pushed last first; `parm` is the text of the parameter -/
def render (parm : String) : Operation → List String → String
  | .unary u, [v] => u.render v
  | .negate n, [v] => n.render v
  | .binary b, [r, l] => b.render l r
  | .store w, [r, l] => w.render l r
  | .arg, [r] => renderArg parm r
  | .copy, [r, l] => renderCopy l r parm
  | _, _ => ""

/-- what is left below the result -/
def residue : Operation → List String → List String
  | .negate _, [v] => (OperandStack.withoutSign v.toList).toList
  | _, _ => []

/-- the texts after an operation on some texts -/
def texts (parm : String) (o : Operation) (ts : List String) : List String :=
  o.render parm (ts.take o.arity) :: (o.residue (ts.take o.arity) ++ ts.drop o.arity)

end Operation

namespace OperandStack

open Disasm.Action

/-- a stack that holds texts -/
def ofTexts (ts : List String) (valid : Bool) : OperandStack := ⟨ts.map some, valid⟩

theorem markInvalid_ofTexts (ts : List String) (v : Bool) :
    (ofTexts ts v).markInvalid = ofTexts ts false := rfl

theorem pushed_ofTexts (t : String) (ts : List String) (v : Bool) :
    (ofTexts ts v).pushed (some t) = ofTexts (if v then t :: ts else ts) v := by
  cases v <;> rfl

theorem result_ofTexts (ts : List String) (v : Bool) :
    (ofTexts ts v).result =
      some (if v then (match ts with | [t] => t | _ => badSize) else noStatement) := by
  cases v with
  | false => rfl
  | true =>
    match ts with
    | [] => rfl
    | [_] => rfl
    | _ :: _ :: _ => rfl

theorem negate_of_ne {v : String} (hv : v ≠ "") (n : Negation) (xs : List Operand) (b : Bool) :
    negate n v ⟨xs, b⟩ =
      .ok () ⟨if b then some (n.render v) :: ((withoutSign v.toList).toList.map some ++ xs) else xs, b⟩ := by
  unfold negate
  cases hl : v.toList with
  | nil => exact absurd (String.toList_eq_nil_iff.1 hl) hv
  | cons c cs =>
    dsimp only
    cases withoutSign (c :: cs) with
    | none => cases b <;> rfl
    | some r => cases b <;> rfl

/-! ## operations -/

variable (parm : String) (o : Operation)

/-- nothing fails on an invalid stack, and nothing changes -/
theorem perform_invalid (ts : List String) :
    perform (some parm) o (ofTexts ts false) = .ok () (ofTexts ts false) := by
  cases o with
  | negate n => exact negate_of_ne (v := invalidPop) (by decide) n (ts.map some) false
  | _ => rfl

/-- an operation replaces its operands by its result and what is left below it; all else stays.  Only an empty text
has no negation. -/
theorem perform_onto {vs : List String} (h : vs.length = o.arity)
    (hne : ∀ n, o = .negate n → vs.head? ≠ some "") (rest : List Operand) :
    perform (some parm) o ⟨vs.map some ++ rest, true⟩ =
      .ok () ⟨some (o.render parm vs) :: ((o.residue vs).map some ++ rest), true⟩ := by
  cases o with
  | unary | arg =>
    obtain ⟨v, rfl⟩ := List.length_eq_one_iff.1 h
    rfl
  | negate n =>
    obtain ⟨v, rfl⟩ := List.length_eq_one_iff.1 h
    exact negate_of_ne (fun hv => hne n rfl (by rw [hv]; rfl)) n rest true
  | binary | store | copy =>
    obtain ⟨r, l, rfl⟩ := List.length_eq_two.1 h
    rfl

/-- with enough operands an operation leaves its texts; only an empty text has no negation -/
theorem perform_valid {ts : List String} (h : o.arity ≤ ts.length)
    (hne : ∀ n, o = .negate n → ts.head? ≠ some "") :
    perform (some parm) o (ofTexts ts true) = .ok () (ofTexts (o.texts parm ts) true) := by
  have htake : ∀ n, o = .negate n → (ts.take o.arity).head? ≠ some "" := by
    intro n hn
    rw [List.head?_take, if_neg o.arity_pos.ne']
    exact hne n hn
  have hperform := perform_onto parm o (List.length_take_of_le h) htake ((ts.drop o.arity).map some)
  rw [← List.map_append, List.take_append_drop] at hperform
  rw [ofTexts, hperform, ofTexts, Operation.texts, List.map_cons, List.map_append]

/-- with too few operands an operation fails -/
theorem perform_short {ts : List String} (h : ts.length < o.arity) :
    ∃ s, perform (some parm) o (ofTexts ts true) = .error .outOfBounds s := by
  cases o with
  | unary | negate | arg =>
    match ts, h with
    | [], _ => exact ⟨_, rfl⟩
  | binary | store | copy =>
    match ts, h with
    | [], _ => exact ⟨_, rfl⟩
    | [_], _ => exact ⟨_, rfl⟩

/-- what an operation leaves when it does not fail -/
theorem perform_eq_ok {ts : List String} {v : Bool} {s : OperandStack}
    (h : perform (some parm) o (ofTexts ts v) = .ok () s) :
    (v = true → o.arity ≤ ts.length) ∧ s = ofTexts (if v then o.texts parm ts else ts) v := by
  cases v with
  | false =>
    rw [perform_invalid] at h
    cases h
    exact ⟨fun h => absurd h Bool.false_ne_true, rfl⟩
  | true =>
    rcases Nat.lt_or_ge ts.length o.arity with hlt | hge
    · obtain ⟨s', hs⟩ := perform_short parm o hlt
      rw [hs] at h
      cases h
    · refine ⟨fun _ => hge, ?_⟩
      rw [perform_valid parm o hge] at h
      · cases h
        rfl
      · rintro n rfl hn
        obtain ⟨rest, rfl⟩ := List.head?_eq_some_iff.1 hn
        cases h

end OperandStack
end Disasm
