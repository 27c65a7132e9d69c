import ClassRecovery.Proofs.SuffixRefinement

namespace ClassRecovery

/-!
# How many attempts a pass makes

A pass makes one attempt at each place of the list that it leaves, and no more.  That the
list does not grow without end is another matter.  An alternative that comes into the list
may have any length, and hold further guards with alternatives of their own, so neither
the list nor what is left of it gets shorter with every step.

The extent of the script pays for it.  It counts the statements in alternatives from the
beginning, and so a step that brings them into the list adds nothing: places that were
passed and extent that is still ahead are together never more than the extent of the
script.
-/

namespace Pass

/-- The pass that a number of steps lead to, where so many can be taken. -/
def after? (options : Options) : Nat → Pass → Option Pass
  | 0, pass => some pass
  | count + 1, pass => (pass.step? options).bind (after? options count)

theorem after?_add (options : Options) (first second : Nat) (pass : Pass) :
    after? options (first + second) pass =
      (after? options first pass).bind (after? options second) := by
  induction first generalizing pass with
  | zero =>
      rw [Nat.zero_add]
      rfl
  | succ count hypothesis =>
      rw [Nat.succ_add]
      change (pass.step? options).bind (after? options (count + second)) =
        ((pass.step? options).bind (after? options count)).bind (after? options second)
      rw [Option.bind_assoc]
      exact congrArg _ (funext hypothesis)

/-- So many steps can be taken as lead to the end of a pass. -/
theorem exists_after?_run (options : Options) (pass : Pass) :
    ∃ count, after? options count pass = some (pass.run options) := by
  induction pass using Pass.run.induct options with
  | case1 pass done => exact ⟨0, congrArg some (run_of_step?_eq_none done).symm⟩
  | case2 pass next step hypothesis =>
      rcases hypothesis with ⟨count, led⟩
      refine ⟨count + 1, ?_⟩
      rw [after?, step, run_of_step?_eq_some step]
      exact led

/-! ## What a step keeps in bounds -/

/-- After a number of attempts a pass has passed as many places, all of them in its list,
and what is ahead would not take it beyond a bound. -/
structure Bounded (bound count : Nat) (pass : Pass) : Prop where
  position : pass.position = count
  inside : pass.position ≤ pass.statements.length
  remaining : pass.position + pass.remaining ≤ bound

theorem Bounded.length_le {bound count : Nat} {pass : Pass} (bounded : Bounded bound count pass) :
    pass.statements.length ≤ bound := by
  have ahead := length_le_extent (pass.statements.drop pass.position)
  rw [List.length_drop] at ahead
  have enough := bounded.remaining
  rw [Pass.remaining] at enough
  omega

theorem lt_of_step? {options : Options} {pass next : Pass}
    (step : pass.step? options = some next) : pass.position < pass.statements.length := by
  apply Nat.lt_of_not_le
  intro outside
  cases ((step?_eq_none_iff options pass).mpr outside).symm.trans step

/-- A step passes one place, which is in the list that it leaves, and takes at least as much
from what is ahead. -/
theorem bounded_of_step? {options : Options} {bound count : Nat} {pass next : Pass}
    (step : pass.step? options = some next) (bounded : Bounded bound count pass) :
    Bounded bound (count + 1) next := by
  rcases settles_of_step? step with ⟨node, findings, settles⟩
  have shrinks := step?_remaining_lt step
  have before := bounded.remaining
  have passed := settles.position
  refine ⟨passed.trans (congrArg (· + 1) bounded.position), ?_, by omega⟩
  have length := congrArg List.length settles.settled
  simp only [settled, List.length_append, List.length_take, List.length_singleton] at length
  have here := lt_of_step? step
  omega

theorem bounded_of_after? {options : Options} {bound done count : Nat} {pass later : Pass}
    (led : after? options count pass = some later) (bounded : Bounded bound done pass) :
    Bounded bound (done + count) later := by
  induction count generalizing done pass with
  | zero =>
      cases led
      exact bounded
  | succ count hypothesis =>
      rcases Option.bind_eq_some_iff.mp led with ⟨next, step, rest⟩
      have whole := hypothesis rest (bounded_of_step? step bounded)
      rw [Nat.succ_add_eq_add_succ] at whole
      exact whole

theorem bounded_start (statements : List Node) :
    Bounded (extent statements) 0 { statements := statements } :=
  ⟨rfl, Nat.zero_le _, Nat.le_of_eq (Nat.zero_add _)⟩

end Pass

/-- A pass ends after as many attempts as there are statements in the list that it leaves.
After any smaller number it has come that far and can go on, and after a larger number
there is no pass.  At no time does the list have more statements than the script had
together with those in its alternatives. -/
theorem recover_attempts (options : Options) (statements : List Node) :
    (Pass.after? options (recover options statements).statements.length
        { statements := statements } = some (recover options statements) ∧
      (recover options statements).step? options = none) ∧
    (recover options statements).statements.length ≤ extent statements ∧
    ∀ count,
      (count < (recover options statements).statements.length →
        ∃ pass next, Pass.after? options count { statements := statements } = some pass ∧
          pass.step? options = some next ∧ pass.position = count ∧
          pass.statements.length ≤ extent statements) ∧
      ((recover options statements).statements.length < count →
        Pass.after? options count { statements := statements } = none) := by
  have ended : (recover options statements).step? options = none := Pass.step?_run options _
  rcases Pass.exists_after?_run options { statements := statements } with ⟨number, led⟩
  change Pass.after? options number _ = some (recover options statements) at led
  have bounded := Pass.bounded_of_after? led (Pass.bounded_start statements)
  -- The pass has come to the end of its list, so the places it has passed are all there are.
  have length : (recover options statements).statements.length = number := by
    have passed := (Pass.step?_eq_none_iff options _).mp ended
    have inside := bounded.inside
    have position := bounded.position
    omega
  rw [length]
  refine ⟨⟨led, ended⟩, length ▸ bounded.length_le, fun count => ⟨fun fewer => ?_, fun more => ?_⟩⟩
  · rcases Nat.exists_eq_add_of_lt fewer with ⟨rest, whole⟩
    rw [whole, Nat.add_assoc, Pass.after?_add] at led
    rcases Option.bind_eq_some_iff.mp led with ⟨pass, reached, onwards⟩
    rcases Option.bind_eq_some_iff.mp onwards with ⟨next, step, _⟩
    have there := Pass.bounded_of_after? reached (Pass.bounded_start statements)
    exact ⟨pass, next, reached, step, there.position.trans (Nat.zero_add count), there.length_le⟩
  · rcases Nat.exists_eq_add_of_lt more with ⟨rest, whole⟩
    rw [whole, Nat.add_assoc, Pass.after?_add, led]
    change ((recover options statements).step? options).bind (Pass.after? options rest) = none
    rw [ended]
    rfl

end ClassRecovery
