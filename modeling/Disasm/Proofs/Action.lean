import Mathlib
import Disasm.Action

/-!
# Runs of actions

* `bind_eq_ok_iff`  when a sequence of two computations gives a result;
* `bind_apply`, `bind_of_ok`, `bind_eq_ok`  what a sequence of two actions does;
* `Delivers a text x`, `Prints a text`  the action `a` prints a text, gives a result and does nothing else;
* `Keeps I P a`  the action `a` keeps the property `I` of the state, however it ends, and its result
  has the property `P` when it does not end early.  One lemma for each way of making an action;
* `Yields a s Q E`  what the action `a` makes of the session `s`: a result and a state with `Q`, or a fault
  and a state with `E`.  Again one lemma for each way of making an action.
-/

namespace Disasm

/-! ## sequences -/

theorem bind_eq_ok_iff {ε α β : Type} {x : Except ε α} {f : α → Except ε β} {b : β} :
    (x >>= f) = .ok b ↔ ∃ a, x = .ok a ∧ f a = .ok b := by
  cases x with
  | error e => exact ⟨fun h => (nomatch h), fun ⟨_, h, _⟩ => (nomatch h)⟩
  | ok a => exact ⟨fun h => ⟨a, rfl, h⟩, fun ⟨_, h, h'⟩ => by cases h; exact h'⟩

namespace Action

variable {ε ρ σ τ α β : Type}

theorem bind_apply (a : EStateM ε ρ α) (f : α → EStateM ε ρ β) (s : ρ) :
    (a >>= f) s = match a s with
      | .ok x t => f x t
      | .error e t => .error e t := by
  show EStateM.bind a f s = _
  unfold EStateM.bind
  cases a s <;> rfl

theorem bind_of_ok {a : EStateM ε ρ α} {f : α → EStateM ε ρ β} {s t : ρ} {x : α}
    (h : a s = .ok x t) : (a >>= f) s = f x t := by
  rw [bind_apply, h]

theorem bind_eq_ok {a : EStateM ε ρ α} {f : α → EStateM ε ρ β} {s u : ρ} {y : β}
    (h : (a >>= f) s = .ok y u) : ∃ x t, a s = .ok x t ∧ f x t = .ok y u := by
  rw [bind_apply] at h
  cases ha : a s with
  | ok x t => rw [ha] at h; exact ⟨x, t, rfl, h⟩
  | error e t => rw [ha] at h; cases h

theorem ofExcept_eq_ok {e : Except Fault α} {s t : Session σ} {x : α}
    (h : ofExcept e s = .ok x t) : e = .ok x ∧ t = s := by
  cases e with
  | ok y => cases h; exact ⟨rfl, rfl⟩
  | error f => cases h

theorem within_eq_ok {get : τ → σ} {put : σ → τ → τ} {a : Action σ α} {s t : Session τ} {x : α}
    (h : within get put a s = .ok x t) :
    ∃ u, a ⟨get s.state, s.console⟩ = .ok x u ∧ t = ⟨put u.state s.state, u.console⟩ := by
  unfold within at h
  cases ha : a ⟨get s.state, s.console⟩ with
  | ok y u => rw [ha] at h; cases h; exact ⟨u, rfl, rfl⟩
  | error f u => rw [ha] at h; cases h

/-! ## printing -/

/-- the action prints a text, gives a result and does nothing else -/
def Delivers (a : Action σ α) (text : String) (x : α) : Prop :=
  ∀ s, a s = .ok x { s with console := s.console.print text }

namespace Delivers

variable {a : Action σ α} {f : α → Action σ β} {t u : String} {x : α} {y : β}

theorem pure (x : α) : Delivers (Pure.pure x : Action σ α) "" x := by
  intro s
  show EStateM.Result.ok x s = _
  unfold Console.print
  rw [String.append_empty]

theorem print (text : String) : Delivers (Action.print text : Action σ Unit) text () := fun _ => rfl

theorem bind (ha : Delivers a t x) (hf : Delivers (f x) u y) : Delivers (a >>= f) (t ++ u) y := by
  intro s
  rw [bind_of_ok (ha s), hf]
  unfold Console.print
  rw [String.append_assoc]

/-- something is looked up, and then the text is printed -/
theorem after (ha : Delivers a "" x) (hf : Delivers (f x) u y) : Delivers (a >>= f) u y := by
  have hboth := ha.bind hf
  rwa [String.empty_append] at hboth

/-- the text is printed, and then something is looked up -/
theorem before (ha : Delivers a t x) (hf : Delivers (f x) "" y) : Delivers (a >>= f) t y := by
  have hboth := ha.bind hf
  rwa [String.append_empty] at hboth

theorem ofOption {fault : Fault} {o : Option α} (h : o = some x) :
    Delivers (Action.ofOption fault o : Action σ α) "" x := by
  rw [h]
  exact pure x

theorem ofExcept {e : Except Fault α} (h : e = .ok x) : Delivers (Action.ofExcept e : Action σ α) "" x := by
  rw [h]
  exact pure x

theorem orComplain {r : Except Interruption α} (h : r = .ok x) : Delivers (Action.orComplain r : Action σ α) "" x := by
  rw [h]
  exact pure x

end Delivers

/-- the action prints a text and does nothing else -/
def Prints (a : Action σ Unit) (text : String) : Prop := Delivers a text ()

namespace Prints

variable {a b : Action σ Unit} {t u : String}

theorem nothing : Prints (pure () : Action σ Unit) "" := Delivers.pure ()

theorem print (text : String) : Prints (Action.print text : Action σ Unit) text := Delivers.print text

theorem seq (ha : Prints a t) (hb : Prints b u) : Prints (a >>= fun _ => b) (t ++ u) := Delivers.bind ha hb

/-- a result that is there is no more than looked at -/
theorem ofExcept {e : Except Fault α} {x : α} {f : α → Action σ Unit} (he : e = .ok x) (hf : Prints (f x) t) :
    Prints (Action.ofExcept e >>= f) t := (Delivers.ofExcept he).after hf

end Prints

/-! ## properties that actions keep -/

/-- the action keeps the property `I` of the state, and its result has the property `P` -/
structure Keeps (I : σ → Prop) (P : α → Prop) (a : Action σ α) : Prop where
  run : ∀ s, I s.state → match a s with
    | .ok x t => I t.state ∧ P x
    | .error _ t => I t.state

namespace Keeps

variable {I : σ → Prop} {P : α → Prop} {Q : β → Prop}

theorem of_ok {a : Action σ α} (h : Keeps I P a) {s t : Session σ} {x : α} (hs : I s.state)
    (ha : a s = .ok x t) : I t.state ∧ P x := by
  have := h.run s hs
  rwa [ha] at this

theorem pure {x : α} (h : P x) : Keeps I P (Pure.pure x : Action σ α) :=
  ⟨fun _ hs => ⟨hs, h⟩⟩

theorem bind {a : Action σ α} {f : α → Action σ β} (ha : Keeps I P a)
    (hf : ∀ x, P x → Keeps I Q (f x)) : Keeps I Q (a >>= f) := by
  constructor
  intro s hs
  have h := ha.run s hs
  rw [bind_apply]
  cases he : a s with
  | ok x t =>
    rw [he] at h
    exact (hf x h.2).run t h.1
  | error e t =>
    rw [he] at h
    exact h

/-- work of which the result is not used -/
theorem andThen {a : Action σ α} {b : Action σ β} (ha : Keeps I (fun _ => True) a) (hb : Keeps I Q b) :
    Keeps I Q (a >>= fun _ => b) := ha.bind fun _ _ => hb

theorem ite {c : Prop} [Decidable c] {a b : Action σ α} (ha : c → Keeps I P a)
    (hb : ¬ c → Keeps I P b) : Keeps I P (if c then a else b) := by
  by_cases h : c
  · rw [if_pos h]; exact ha h
  · rw [if_neg h]; exact hb h

theorem read : Keeps I I (Action.read : Action σ σ) := ⟨fun _ hs => ⟨hs, hs⟩⟩

theorem update {f : σ → σ} (h : ∀ s, I s → I (f s)) : Keeps I (fun _ => True) (update f) :=
  ⟨fun s hs => ⟨h s.state hs, trivial⟩⟩

theorem onConsole (f : Console → Console) :
    Keeps I (fun _ => True) (onConsole f : Action σ Unit) := ⟨fun _ hs => ⟨hs, trivial⟩⟩

theorem warn (text : String) : Keeps I (fun _ => True) (warn text : Action σ Unit) := onConsole _

theorem report (text : String) : Keeps I (fun _ => True) (report text : Action σ Unit) := onConsole _

theorem fail (f : Fault) : Keeps I P (fail f : Action σ α) := ⟨fun _ hs => hs⟩

theorem stop (text : String) : Keeps I P (stop text : Action σ α) := ⟨fun _ hs => hs⟩

theorem orStop {a : Action σ α} (h : Keeps I P a) (text : String) : Keeps I P (orStop text a) := by
  constructor
  intro s hs
  have hrun := h.run s hs
  unfold Action.orStop
  cases ha : a s with
  | ok x t => rw [ha] at hrun; exact hrun
  | error f t => rw [ha] at hrun; exact hrun

/-- a check that ends the work, in front of the rest of it -/
theorem check {c : Prop} [Decidable c] {text : String} {b : Action σ β} (hb : ¬ c → Keeps I Q b) :
    Keeps I Q (if c then (Action.stop text : Action σ PUnit) >>= fun _ => b else b) :=
  ite (fun _ => (stop (P := fun _ => False) text).bind fun _ h => h.elim) hb

/-- a step that is made on a condition, in front of the rest of the work -/
theorem whenDone {c : Prop} [Decidable c] {a : Action σ PUnit} {b : Action σ β}
    (ha : Keeps I (fun _ => True) a) (hb : Keeps I Q b) :
    Keeps I Q (if c then a >>= fun _ => b else b) :=
  ite (fun _ => ha.andThen hb) fun _ => hb

theorem ofOption {f : Fault} {o : Option α} (h : ∀ x, o = some x → P x) :
    Keeps I P (ofOption f o : Action σ α) := by
  cases o with
  | none => exact ⟨fun _ hs => hs⟩
  | some x => exact ⟨fun _ hs => ⟨hs, h x rfl⟩⟩

theorem ofExcept {e : Except Fault α} (h : ∀ x, e = .ok x → P x) :
    Keeps I P (ofExcept e : Action σ α) := by
  cases e with
  | error f => exact ⟨fun _ hs => hs⟩
  | ok x => exact ⟨fun _ hs => ⟨hs, h x rfl⟩⟩

/-- work on a part of the state -/
theorem within {J : τ → Prop} {get : τ → σ} {put : σ → τ → τ} {a : Action σ α} (ha : Keeps I P a)
    (hget : ∀ t, J t → I (get t)) (hput : ∀ u t, I u → J t → J (put u t)) :
    Keeps J P (within get put a) := by
  constructor
  intro s hs
  have h := ha.run ⟨get s.state, s.console⟩ (hget _ hs)
  unfold Action.within
  cases he : a ⟨get s.state, s.console⟩ with
  | ok x u => rw [he] at h; exact ⟨hput _ _ h.1 hs, h.2⟩
  | error e u => rw [he] at h; exact hput _ _ h hs

end Keeps

/-! ## what becomes of one session -/

/-- the action ends with a result and a state that have `Q`, or with a fault and a state that have `E` -/
structure Yields (a : Action σ α) (s : Session σ) (Q : α → σ → Prop) (E : Fault → σ → Prop) : Prop where
  run : match a s with
    | .ok x t => Q x t.state
    | .error f t => E f t.state

namespace Yields

variable {Q : α → σ → Prop} {R : β → σ → Prop} {E : Fault → σ → Prop} {s : Session σ}

theorem of_ok {a : Action σ α} {t : Session σ} {x : α} (h : Yields a s Q E) (ha : a s = .ok x t) :
    Q x t.state := by
  have := h.run
  rwa [ha] at this

theorem of_error {a : Action σ α} {t : Session σ} {f : Fault} (h : Yields a s Q E)
    (ha : a s = .error f t) : E f t.state := by
  have := h.run
  rwa [ha] at this

theorem imp {a : Action σ α} {Q' : α → σ → Prop} {E' : Fault → σ → Prop} (h : Yields a s Q E)
    (hQ : ∀ x t, Q x t → Q' x t) (hE : ∀ f t, E f t → E' f t) : Yields a s Q' E' := by
  constructor
  cases ha : a s with
  | ok x t => exact hQ x t.state (h.of_ok ha)
  | error f t => exact hE f t.state (h.of_error ha)

theorem both {a : Action σ α} {Q' : α → σ → Prop} {E' : Fault → σ → Prop} (h : Yields a s Q E)
    (h' : Yields a s Q' E') : Yields a s (fun x t => Q x t ∧ Q' x t) (fun f t => E f t ∧ E' f t) := by
  constructor
  cases ha : a s with
  | ok x t => exact ⟨h.of_ok ha, h'.of_ok ha⟩
  | error f t => exact ⟨h.of_error ha, h'.of_error ha⟩

/-- a condition that holds of every result and of no fault decides whether there is one -/
theorem ok_iff {a : Action σ α} {c : Prop} (h : Yields a s (fun _ _ => c) (fun _ _ => ¬ c)) :
    (∃ x t, a s = .ok x t) ↔ c := by
  cases ha : a s with
  | ok x t => exact ⟨fun _ => h.of_ok ha, fun _ => ⟨x, t, rfl⟩⟩
  | error f t =>
    refine ⟨fun ⟨x, t, hx⟩ => ?_, fun hc => absurd hc (h.of_error ha)⟩
    cases hx

theorem pure {x : α} (h : Q x s.state) : Yields (Pure.pure x : Action σ α) s Q E := ⟨h⟩

theorem bind {a : Action σ α} {f : α → Action σ β}
    (h : Yields a s (fun x t => ∀ c, Yields (f x) ⟨t, c⟩ R E) E) : Yields (a >>= f) s R E := by
  constructor
  rw [bind_apply]
  cases ha : a s with
  | ok x t => exact (h.of_ok ha t.console).run
  | error e t => exact h.of_error ha

theorem read {f : σ → Action σ β} (h : Yields (f s.state) s R E) :
    Yields ((Action.read : Action σ σ) >>= f) s R E := ⟨h.run⟩

theorem ite {c : Prop} [Decidable c] {a b : Action σ α} (ha : c → Yields a s Q E)
    (hb : ¬ c → Yields b s Q E) : Yields (if c then a else b) s Q E := by
  by_cases h : c
  · rw [if_pos h]; exact ha h
  · rw [if_neg h]; exact hb h

theorem fail {f : Fault} (h : E f s.state) : Yields (fail f : Action σ α) s Q E := ⟨h⟩

theorem stop {text : String} (h : E (.stopped 1) s.state) : Yields (stop text : Action σ α) s Q E := ⟨h⟩

theorem orStop {a : Action σ α} (h : Yields a s Q fun _ t => E (.stopped 1) t) (text : String) :
    Yields (orStop text a) s Q E := by
  constructor
  unfold Action.orStop
  cases ha : a s with
  | ok x t => exact h.of_ok ha
  | error f t =>
    have hfault := h.of_error ha
    exact hfault

/-- a check that ends the work, in front of the rest of it -/
theorem check {c : Prop} [Decidable c] {text : String} {b : Action σ β} (he : c → E (.stopped 1) s.state)
    (hb : ¬ c → Yields b s R E) :
    Yields (if c then (Action.stop text : Action σ PUnit) >>= fun _ => b else b) s R E :=
  ite (fun hc => bind (stop (he hc))) hb

theorem update {f : σ → σ} {Q : PUnit → σ → Prop} (h : Q ⟨⟩ (f s.state)) : Yields (update f) s Q E := ⟨h⟩

theorem warn {text : String} {Q : Unit → σ → Prop} (h : Q () s.state) : Yields (warn text) s Q E := ⟨h⟩

theorem ofExcept {e : Except Fault α} (hok : ∀ x, e = .ok x → Q x s.state)
    (herror : ∀ f, e = .error f → E f s.state) : Yields (ofExcept e : Action σ α) s Q E := by
  cases e with
  | ok x => exact ⟨hok x rfl⟩
  | error f => exact ⟨herror f rfl⟩

/-- work on a part of the state -/
theorem within {get : τ → σ} {put : σ → τ → τ} {a : Action σ α} {s : Session τ} {Q : α → τ → Prop}
    {E : Fault → τ → Prop} (h : Yields a ⟨get s.state, s.console⟩ (fun x u => Q x (put u s.state))
      (fun f u => E f (put u s.state))) : Yields (within get put a) s Q E := by
  constructor
  unfold Action.within
  cases ha : a ⟨get s.state, s.console⟩ with
  | ok x u => exact h.of_ok ha
  | error f u => exact h.of_error ha

end Yields

/-- the action ends without fault, and the state behind it passes a test -/
def endsWith (a : Action σ Unit) (s : Session σ) (test : σ → Bool) : Bool :=
  match a s with
  | .ok _ t => test t.state
  | .error _ _ => false

theorem exists_of_endsWith {a : Action σ Unit} {s : Session σ} {test : σ → Bool}
    (h : endsWith a s test = true) : ∃ t, a s = .ok () t ∧ test t.state = true := by
  unfold endsWith at h
  split at h
  · next u t hr => exact ⟨t, hr, h⟩
  · cases h

end Action

end Disasm
