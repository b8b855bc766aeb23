/-!
# Patterns

A pattern is a row of parts.  A part takes characters from the front of a text and hands the rest on to the
parts behind it, which are given as `next`.  Where a part can take its characters in several ways it tries
them one after the other: when the parts behind it do not fit what is left, it gives the characters back
and takes the next way.  The first way that fits is the one that counts.

* `char`  one given character;
* `many`, `manyOne`  a run of characters, the longest first;
* `atMostOne`  one character, or else none;
* `few`  a run of characters, the shortest first.
-/

namespace Disasm.Pattern

variable {α : Type} {p : Char → Bool} {cs : List Char} {a : α}

def char (d : Char) (next : List Char → Option α) : List Char → Option α
  | [] => none
  | c :: cs => if c = d then next cs else none

/-- `next` is given the run too -/
def many (p : Char → Bool) (next : List Char → List Char → Option α) : List Char → Option α
  | [] => next [] []
  | c :: cs =>
    if p c then (many p (fun run => next (c :: run)) cs).or (next [] (c :: cs)) else next [] (c :: cs)

/-- a run that is not empty -/
def manyOne (p : Char → Bool) (next : List Char → List Char → Option α) : List Char → Option α
  | [] => none
  | c :: cs => if p c then many p (fun run => next (c :: run)) cs else none

def atMostOne (p : Char → Bool) (next : List Char → Option α) : List Char → Option α
  | [] => next []
  | c :: cs => if p c then (next cs).or (next (c :: cs)) else next (c :: cs)

def few (p : Char → Bool) (next : List Char → Option α) : List Char → Option α
  | [] => next []
  | c :: cs => (next (c :: cs)).or (if p c then few p next cs else none)

/-! ## what a part takes stands in front -/

theorem exists_of_char {d : Char} {next : List Char → Option α} (h : char d next cs = some a) :
    ∃ rest, cs = d :: rest ∧ next rest = some a := by
  cases cs with
  | nil => cases h
  | cons c cs =>
    rw [char] at h
    split at h
    next hc => exact ⟨cs, by rw [hc], h⟩
    next => cases h

theorem exists_of_many {next : List Char → List Char → Option α} (h : many p next cs = some a) :
    ∃ run rest, cs = run ++ rest ∧ next run rest = some a := by
  induction cs generalizing next with
  | nil => exact ⟨[], [], rfl, h⟩
  | cons c cs ih =>
    rw [many] at h
    split at h
    · rcases Option.or_eq_some_iff.1 h with hlong | ⟨-, hnone⟩
      · obtain ⟨run, rest, rfl, hnext⟩ := ih hlong
        exact ⟨c :: run, rest, rfl, hnext⟩
      · exact ⟨[], c :: cs, rfl, hnone⟩
    · exact ⟨[], c :: cs, rfl, h⟩

theorem exists_of_manyOne {next : List Char → List Char → Option α} (h : manyOne p next cs = some a) :
    ∃ run rest, cs = run ++ rest ∧ next run rest = some a := by
  cases cs with
  | nil => cases h
  | cons c cs =>
    rw [manyOne] at h
    split at h
    · obtain ⟨run, rest, rfl, hnext⟩ := exists_of_many h
      exact ⟨c :: run, rest, rfl, hnext⟩
    · cases h

section
variable {next : List Char → Option α}

theorem exists_of_atMostOne (h : atMostOne p next cs = some a) :
    ∃ run rest, cs = run ++ rest ∧ next rest = some a := by
  cases cs with
  | nil => exact ⟨[], [], rfl, h⟩
  | cons c cs =>
    rw [atMostOne] at h
    split at h
    · rcases Option.or_eq_some_iff.1 h with hone | ⟨-, hnone⟩
      · exact ⟨[c], cs, rfl, hone⟩
      · exact ⟨[], c :: cs, rfl, hnone⟩
    · exact ⟨[], c :: cs, rfl, h⟩

theorem exists_of_few (h : few p next cs = some a) : ∃ run rest, cs = run ++ rest ∧ next rest = some a := by
  induction cs with
  | nil => exact ⟨[], [], rfl, h⟩
  | cons c cs ih =>
    rw [few] at h
    rcases Option.or_eq_some_iff.1 h with hnone | ⟨-, hmore⟩
    · exact ⟨[], c :: cs, rfl, hnone⟩
    · split at hmore
      · obtain ⟨run, rest, rfl, hnext⟩ := ih hmore
        exact ⟨c :: run, rest, rfl, hnext⟩
      · cases hmore

end
end Disasm.Pattern
