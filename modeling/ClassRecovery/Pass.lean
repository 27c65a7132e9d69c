import ClassRecovery.Attempt
import ClassRecovery.Diagnostic

namespace ClassRecovery

/-!
# One pass over a script

A pass walks through a list of statements by index and makes one attempt at
each.  A recovered declaration takes the place of its statements at once, and
the pass goes on right behind it; the alternative of its guard, now part of the
list, is searched like everything else.

Every recognised declaration and every rejection leaves a notice.  The report
is counted separately while the pass goes on, and that it agrees with the
notices is a property of passes and not a definition.
-/

/-- How many attempts ended in which way. -/
structure Report where
  classes : Nat := 0
  interfaces : Nat := 0
  rejected : Nat := 0
deriving DecidableEq, Inhabited, Repr

namespace Report

def declarations (report : Report) : Nat :=
  report.classes + report.interfaces

def countRejection (report : Report) : Report :=
  { report with rejected := report.rejected + 1 }

def countDeclaration (report : Report) : Declaration → Report
  | .classDecl _ => { report with classes := report.classes + 1 }
  | .interfaceDecl _ => { report with interfaces := report.interfaces + 1 }

end Report

/-- How important a notice is to whoever follows a pass. -/
inductive Level where
  | error
  | warning
  | debug
deriving DecidableEq, Inhabited, Repr

def Level.name : Level → String
  | .error => "ERROR"
  | .warning => "WARN"
  | .debug => "DEBUG"

/-- What a pass tells about an attempt.  The indices of a declaration are those
of the first statement and of the class's guard just before they are replaced. -/
inductive Notice where
  | rejected (cause : Rejection)
  | recognised (name : String) (start stop : Nat)
deriving DecidableEq, Inhabited, Repr

namespace Notice

def level : Notice → Level
  | .rejected cause =>
      match cause.severity with
      | .severe => .error
      | .warning => .warning
  | .recognised .. => .debug

def message : Notice → String
  | .rejected cause => cause.report
  | .recognised .. => "recognised declaration"

/-- Only rejections are reported as diagnostics. -/
def diagnostic? (script : String) : Notice → Option Diagnostic
  | .rejected cause => some (cause.diagnostic script)
  | .recognised .. => none

end Notice

/-- A pass between two attempts.  The next one is made at `position`. -/
structure Pass where
  statements : List Node
  position : Nat := 0
  report : Report := {}
  notices : List Notice := []

namespace Pass

/-- The attempt that comes next. -/
def attempt (options : Options) (pass : Pass) : Attempt :=
  Attempt.atIndex options pass.statements pass.position

/-- It looks only at what has not been passed yet. -/
theorem attempt_eq (options : Options) (pass : Pass) :
    pass.attempt options = Attempt.ofStatements options (pass.statements.drop pass.position) :=
  Attempt.atIndex_eq options pass.statements pass.position

/-- Leave one notice, and count it. -/
def reject (pass : Pass) (cause : Rejection) : Pass :=
  { pass with
    report := pass.report.countRejection
    notices := pass.notices ++ [.rejected cause] }

/-- Replace the statements up to a guard by the declaration recovered from them.
The splice is always in bounds, since the guard is one of the statements. -/
def replace (pass : Pass) (offset : Nat) (declaration : Declaration) (alternative : List Node) :
    Pass :=
  let stop := pass.position + offset
  let spliced :=
    spliceDeclaration pass.statements pass.position stop declaration.toNode alternative
  { pass with
    statements := spliced.getD pass.statements
    report := pass.report.countDeclaration declaration
    notices := pass.notices ++ [.recognised declaration.qualifiedName pass.position stop] }

def moveOn (pass : Pass) : Pass :=
  { pass with position := pass.position + 1 }

/-- Make one attempt, and act on it.  A pass that has reached the end of the list
takes no further step. -/
def step? (options : Options) (pass : Pass) : Option Pass :=
  if pass.position < pass.statements.length then
    some <| moveOn <| match pass.attempt options with
      | .noMatch => pass
      | .rejected cause => pass.reject cause
      | .recognised offset declaration alternative => pass.replace offset declaration alternative
  else none

/-! ## Every pass comes to an end -/

/-- The extent of what has not been passed yet. -/
def remaining (pass : Pass) : Nat :=
  extent (pass.statements.drop pass.position)

theorem moveOn_remaining_lt {pass : Pass} (inside : pass.position < pass.statements.length) :
    pass.moveOn.remaining < pass.remaining := by
  have positive := pass.statements[pass.position].extent_pos
  simp only [remaining, moveOn, List.drop_eq_getElem_cons inside, extent]
  omega

/-- What a list becomes when a declaration is put into it. -/
theorem replace_statements {options : Options} {pass : Pass} {offset : Nat}
    {declaration : Declaration} {alternative : List Node}
    (success : pass.attempt options = .recognised offset declaration alternative) :
    (pass.replace offset declaration alternative).statements =
      pass.statements.take pass.position ++ declaration.toNode ::
        Attempt.behind (pass.statements.drop pass.position) offset alternative := by
  have bound := Attempt.offset_lt_length ((attempt_eq options pass).symm.trans success)
  rw [List.length_drop] at bound
  have inside : pass.position + offset < pass.statements.length := by omega
  rw [replace, spliceDeclaration_eq declaration.toNode alternative
    (Nat.le_add_right pass.position offset) inside, Option.getD_some, Attempt.behind_eq,
    List.drop_drop, Nat.add_assoc]

theorem replace_remaining_lt {options : Options} {pass : Pass} {offset : Nat}
    {declaration : Declaration} {alternative : List Node}
    (inside : pass.position < pass.statements.length)
    (success : pass.attempt options = .recognised offset declaration alternative) :
    (pass.replace offset declaration alternative).moveOn.remaining < pass.remaining := by
  have front : (pass.statements.take pass.position).length = pass.position :=
    List.length_take_of_le (Nat.le_of_lt inside)
  have position : (pass.replace offset declaration alternative).position = pass.position := rfl
  have left : (pass.replace offset declaration alternative).moveOn.remaining =
      extent (Attempt.behind (pass.statements.drop pass.position) offset alternative) := by
    simp only [remaining, moveOn, position, replace_statements success]
    rw [← List.drop_drop, List.drop_left' front]
    rfl
  rw [left, remaining]
  exact Attempt.extent_behind_lt ((attempt_eq options pass).symm.trans success)

theorem step?_remaining_lt {options : Options} {pass next : Pass}
    (step : pass.step? options = some next) : next.remaining < pass.remaining := by
  unfold step? at step
  split at step
  · next inside =>
      cases step
      split
      · exact moveOn_remaining_lt inside
      · next cause _ =>
          have shorter : (pass.reject cause).moveOn.remaining < (pass.reject cause).remaining :=
            moveOn_remaining_lt inside
          exact shorter
      · next success => exact replace_remaining_lt inside success
  · cases step

/-- Take steps until there are none. -/
def run (options : Options) (pass : Pass) : Pass :=
  match _ : pass.step? options with
  | none => pass
  | some next => next.run options
termination_by pass.remaining
decreasing_by exact step?_remaining_lt (by assumption)

end Pass

/-- Recover the declarations in a list of statements. -/
def recover (options : Options) (statements : List Node) : Pass :=
  Pass.run options { statements := statements }

end ClassRecovery
