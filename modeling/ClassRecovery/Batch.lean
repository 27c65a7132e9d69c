import ClassRecovery.Pass

namespace ClassRecovery

/-!
# Scripts, alone and together

Scripts do not depend on one another, so a batch is nothing but a list of
separate passes, each with the result that it would have on its own.  What the
scripts share is the log.  Names of scripts are not checked to be different:
the diagnostics of two scripts of one name cannot be told apart in the log.
-/

structure Script where
  name : String
  statements : List Node

/-- A script after a pass, and what the pass had to say. -/
structure Outcome where
  script : Script
  report : Report
  notices : List Notice

namespace Outcome

/-- The diagnostics that the pass adds to a log, in order. -/
def diagnostics (outcome : Outcome) : List Diagnostic :=
  outcome.notices.filterMap (·.diagnostic? outcome.script.name)

end Outcome

/-- Recover the declarations in one script. -/
def Script.recover (options : Options) (script : Script) : Outcome :=
  let pass := ClassRecovery.recover options script.statements
  ⟨⟨script.name, pass.statements⟩, pass.report, pass.notices⟩

/-- Recover the declarations in every script, the outcomes in the order of the
scripts. -/
def recoverAll (options : Options) (scripts : List Script) : List Outcome :=
  scripts.map (·.recover options)

/-- A log of all diagnostics, those of earlier scripts first. -/
def logOf (outcomes : List Outcome) : DiagnosticLog :=
  ⟨outcomes.flatMap (·.diagnostics)⟩

/-- The notices of all scripts of one name, those of earlier scripts first. -/
def noticesFor (outcomes : List Outcome) (name : String) : List Notice :=
  (outcomes.filter (·.script.name == name)).flatMap (·.notices)

theorem diagnostics_script {outcome : Outcome} {diagnostic : Diagnostic}
    (member : diagnostic ∈ outcome.diagnostics) : diagnostic.script = outcome.script.name := by
  rcases List.mem_filterMap.mp member with ⟨notice, _, reported⟩
  cases notice with
  | rejected cause =>
      cases reported
      rfl
  | recognised name start stop => cases reported

/-- The diagnostics for a name come from the notices of the scripts of that name. -/
theorem forScript_logOf (outcomes : List Outcome) (name : String) :
    (logOf outcomes).forScript name =
      (noticesFor outcomes name).filterMap (·.diagnostic? name) := by
  rw [DiagnosticLog.forScript, logOf, noticesFor, List.filter_flatMap, List.filterMap_flatMap]
  induction outcomes with
  | nil => rfl
  | cons outcome rest hypothesis =>
      rw [List.flatMap_cons, hypothesis, List.filter_cons]
      by_cases same : outcome.script.name = name
      · have own : outcome.diagnostics.filter (·.script == name) = outcome.diagnostics :=
          List.filter_eq_self.mpr fun diagnostic member =>
            beq_iff_eq.mpr ((diagnostics_script member).trans same)
        rw [own, if_pos (beq_iff_eq.mpr same), List.flatMap_cons, Outcome.diagnostics, same]
      · have none : outcome.diagnostics.filter (·.script == name) = [] :=
          List.filter_eq_nil_iff.mpr fun diagnostic member found =>
            same ((diagnostics_script member).symm.trans (beq_iff_eq.mp found))
        rw [none, if_neg fun found => same (beq_iff_eq.mp found), List.nil_append]

end ClassRecovery
