import Mathlib
import Disasm.Location
import Disasm.Proofs.Action

/-!
# Early ends and reports

* `Console.Tells`  the last thing on a console is a problem and its place;
* `Orderly a`  the action `a` never ends early but with such a report;
* `Reports a s crash`  the same of a run from the session `s`, but that in the case `crash`, and only then, the
  action goes out of bounds.  One lemma for each way of making an action.
-/

namespace Disasm

/-- the last thing on the console is a problem and its place -/
def Console.Tells (c : Console) : Prop :=
  ∃ (before : Console) (loc : Location) (why : String), c = before.report (loc.say why)

namespace Action

variable {σ τ α β : Type} {s : Session σ}

theorem bind_of_error {a : Action σ α} {f : α → Action σ β} {t : Session σ} {g : Fault} (h : a s = .error g t) :
    (a >>= f) s = .error g t := by
  rw [bind_apply, h]

/-- the action never ends early but with a report -/
def Orderly (a : Action σ α) : Prop := ∀ s f t, a s = .error f t → f = .stopped 1 ∧ t.console.Tells

/-- the action ends early with a report, but for the case `crash`, in which it goes out of bounds -/
structure Reports (a : Action σ α) (s : Session σ) (crash : Prop) : Prop where
  told : ∀ f t, a s = .error f t → (f = .stopped 1 ∧ t.console.Tells) ∨ f = .outOfBounds
  crash_iff : (∃ t, a s = .error .outOfBounds t) ↔ crash

namespace Orderly

theorem pure (x : α) : Orderly (Pure.pure x : Action σ α) := by
  intro s f t h
  cases h

theorem bind {a : Action σ α} {f : α → Action σ β} (ha : Orderly a) (hf : ∀ x, Orderly (f x)) :
    Orderly (a >>= f) := by
  intro s e u h
  cases hr : a s with
  | ok x t =>
    rw [bind_of_ok hr] at h
    exact hf x t e u h
  | error g t =>
    rw [bind_of_error hr] at h
    cases h
    exact ha s _ _ hr

theorem read : Orderly (Action.read : Action σ σ) := by
  intro s f t h
  cases h

theorem update (g : σ → σ) : Orderly (Action.update g) := by
  intro s f t h
  cases h

theorem warn (text : String) : Orderly (Action.warn text : Action σ Unit) := by
  intro s f t h
  cases h

theorem say (loc : Location) (why : String) : Orderly (stop (loc.say why) : Action σ α) := by
  intro s f t h
  cases h
  exact ⟨rfl, s.console, loc, why, rfl⟩

theorem ite {c : Prop} [Decidable c] {a b : Action σ α} (ha : Orderly a) (hb : Orderly b) :
    Orderly (if c then a else b) := by
  by_cases h : c
  · rw [if_pos h]; exact ha
  · rw [if_neg h]; exact hb

/-- a check that ends the work, in front of the rest of it -/
theorem check {c : Prop} [Decidable c] {loc : Location} {why : String} {b : Action σ β} (hb : Orderly b) :
    Orderly (if c then (stop (loc.say why) : Action σ PUnit) >>= fun _ => b else b) :=
  ite ((say loc why).bind fun _ => hb) hb

theorem reports {a : Action σ α} (h : Orderly a) : Reports a s False := by
  refine ⟨fun f t hr => .inl (h s f t hr), fun ⟨t, hr⟩ => ?_, False.elim⟩
  cases (h s _ t hr).1

end Orderly

namespace Reports

variable {crash : Prop}

theorem congr {a : Action σ α} {crash' : Prop} (h : Reports a s crash) (hiff : crash ↔ crash') : Reports a s crash' :=
  ⟨h.told, h.crash_iff.trans hiff⟩

/-- either part may go out of bounds, the second one where the first one has ended -/
theorem bind {a : Action σ α} {f : α → Action σ β} {crash' : α → Session σ → Prop} (ha : Reports a s crash)
    (hf : ∀ x t, a s = .ok x t → Reports (f x) t (crash' x t)) :
    Reports (a >>= f) s (crash ∨ ∃ x t, a s = .ok x t ∧ crash' x t) := by
  cases hr : a s with
  | ok x t =>
    have hx := hf x t hr
    refine ⟨fun e u h => ?_, ?_⟩
    · rw [bind_of_ok hr] at h
      exact hx.told e u h
    · rw [bind_of_ok hr, hx.crash_iff, ← ha.crash_iff, hr]
      simp
  | error g t =>
    refine ⟨fun e u h => ?_, ?_⟩
    · rw [bind_of_error hr] at h
      cases h
      exact ha.told _ _ hr
    · rw [bind_of_error hr, ← ha.crash_iff, hr]
      simp

/-- nothing behind the first part goes out of bounds -/
theorem andThen {a : Action σ α} {f : α → Action σ β} (ha : Reports a s crash)
    (hf : ∀ x t, a s = .ok x t → Reports (f x) t False) : Reports (a >>= f) s crash :=
  (ha.bind hf).congr (by simp)

/-- the first part is known to end without fault -/
theorem afterOk {a : Action σ α} {f : α → Action σ β} {x : α} {t : Session σ} (ha : a s = .ok x t)
    (hf : Reports (f x) t crash) : Reports (a >>= f) s crash := by
  constructor
  · rw [bind_of_ok ha]
    exact hf.told
  · rw [bind_of_ok ha]
    exact hf.crash_iff

theorem read {f : σ → Action σ β} (h : Reports (f s.state) s crash) :
    Reports ((Action.read : Action σ σ) >>= f) s crash :=
  afterOk rfl h

theorem ite {c : Prop} [Decidable c] {a b : Action σ α} (ha : c → Reports a s crash)
    (hb : ¬ c → Reports b s crash) : Reports (if c then a else b) s crash := by
  by_cases h : c
  · rw [if_pos h]; exact ha h
  · rw [if_neg h]; exact hb h

/-- a check that ends the work, in front of the rest of it -/
theorem check {c : Prop} [Decidable c] {loc : Location} {why : String} {b : Action σ β}
    (hb : ¬ c → Reports b s False) :
    Reports (if c then (stop (loc.say why) : Action σ PUnit) >>= fun _ => b else b) s False :=
  ite (fun _ => (Orderly.say loc why).reports.andThen fun _ _ h => by cases h) hb

theorem ofExcept {e : Except Fault α} (h : ∀ f, e = .error f ↔ f = .outOfBounds ∧ crash) :
    Reports (Action.ofExcept e : Action σ α) s crash := by
  cases e with
  | ok x =>
    refine ⟨fun f t hr => (by cases hr), ⟨fun ⟨t, hr⟩ => (by cases hr), fun hc => ?_⟩⟩
    have hnone := (h .outOfBounds).2 ⟨rfl, hc⟩
    cases hnone
  | error f =>
    obtain ⟨rfl, hc⟩ := (h f).1 rfl
    refine ⟨fun g t hr => ?_, ⟨fun _ => hc, fun _ => ⟨s, rfl⟩⟩⟩
    cases hr
    exact .inr rfl

/-- work on a part of the state -/
theorem within {get : τ → σ} {put : σ → τ → τ} {a : Action σ α} {s : Session τ}
    (h : Reports a ⟨get s.state, s.console⟩ crash) : Reports (Action.within get put a) s crash := by
  have hrun : ∀ f t, Action.within get put a s = .error f t ↔
      ∃ u, a ⟨get s.state, s.console⟩ = .error f u ∧ t = ⟨put u.state s.state, u.console⟩ := by
    intro f t
    unfold Action.within
    cases a ⟨get s.state, s.console⟩ with
    | ok x u =>
      constructor
      · intro h; cases h
      · rintro ⟨u, h, -⟩; cases h
    | error g u =>
      constructor
      · intro h
        cases h
        exact ⟨u, rfl, rfl⟩
      · rintro ⟨v, h, rfl⟩
        cases h
        rfl
  constructor
  · intro f t ht
    obtain ⟨u, hu, rfl⟩ := (hrun f t).1 ht
    exact h.told f u hu
  · rw [← h.crash_iff]
    constructor
    · rintro ⟨t, ht⟩
      obtain ⟨u, hu, -⟩ := (hrun _ t).1 ht
      exact ⟨u, hu⟩
    · rintro ⟨u, hu⟩
      exact ⟨_, (hrun _ _).2 ⟨u, hu, rfl⟩⟩

end Reports

/-- the action ends early with the fault `f` -/
def endsIn (f : Fault) (a : Action σ Unit) (s : Session σ) : Bool :=
  match a s with
  | .ok _ _ => false
  | .error g _ => g == f

theorem exists_of_endsIn {f : Fault} {a : Action σ Unit} (h : endsIn f a s = true) : ∃ t, a s = .error f t := by
  unfold endsIn at h
  split at h
  · cases h
  · next g t hr =>
    rw [eq_of_beq h] at hr
    exact ⟨t, hr⟩

end Action
end Disasm
