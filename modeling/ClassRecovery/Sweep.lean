import ClassRecovery.Pass

namespace ClassRecovery

/-!
# Recovery without an index

A sweep recovers the same declarations as a pass, but it is a function on what
is left of a script and not a walk through a list that changes under the walk.
Whatever stands before the current statement is settled and plays no part; the
alternative of a recovered class simply goes in front of the rest.

This is the reading on which the behaviour of whole scripts is reasoned about.
-/

/-- What came of an attempt that there is something to say about. -/
inductive Finding where
  | rejected (cause : Rejection)
  | declared (declaration : Declaration)

/-- A finding, in the account of a report. -/
def Report.count (report : Report) : Finding → Report
  | .rejected _ => report.countRejection
  | .declared declaration => report.countDeclaration declaration

/-- Only a rejection is reported as a diagnostic. -/
def Finding.diagnostic? (script : String) : Finding → Option Diagnostic
  | .rejected cause => some (cause.diagnostic script)
  | .declared _ => none

def Finding.declaration? : Finding → Option Declaration
  | .rejected _ => none
  | .declared declaration => some declaration

/-- The statements that a sweep leaves, and its findings in their order. -/
structure Sweep where
  statements : List Node
  findings : List Finding

namespace Sweep

def leave (node : Node) (sweep : Sweep) : Sweep :=
  ⟨node :: sweep.statements, sweep.findings⟩

def find (finding : Finding) (sweep : Sweep) : Sweep :=
  ⟨sweep.statements, finding :: sweep.findings⟩

/-- Recover the declarations in what is left of a script. -/
def ofStatements (options : Options) : List Node → Sweep
  | [] => ⟨[], []⟩
  | node :: rest =>
      match _ : Attempt.ofStatements options (node :: rest) with
      | .noMatch => (ofStatements options rest).leave node
      | .rejected cause => ((ofStatements options rest).leave node).find (.rejected cause)
      | .recognised offset declaration alternative =>
          ((ofStatements options (Attempt.behind (node :: rest) offset alternative)).leave
            declaration.toNode).find (.declared declaration)
termination_by statements => extent statements
decreasing_by
  · have positive := node.extent_pos
    rw [extent]
    omega
  · have positive := node.extent_pos
    rw [extent]
    omega
  · exact Attempt.extent_behind_lt (by assumption)

section Equations

variable {options : Options} {node : Node} {rest : List Node}

theorem ofStatements_nil : ofStatements options [] = ⟨[], []⟩ := by
  rw [ofStatements]

theorem ofStatements_of_noMatch
    (attempt : Attempt.ofStatements options (node :: rest) = .noMatch) :
    ofStatements options (node :: rest) = (ofStatements options rest).leave node := by
  rw [ofStatements]
  split
  · rfl
  · next other => cases attempt.symm.trans other
  · next other => cases attempt.symm.trans other

theorem ofStatements_of_rejected {cause : Rejection}
    (attempt : Attempt.ofStatements options (node :: rest) = .rejected cause) :
    ofStatements options (node :: rest) =
      ((ofStatements options rest).leave node).find (.rejected cause) := by
  rw [ofStatements]
  split
  · next other => cases attempt.symm.trans other
  · next same =>
      cases attempt.symm.trans same
      rfl
  · next other => cases attempt.symm.trans other

theorem ofStatements_of_recognised {offset : Nat} {declaration : Declaration}
    {alternative : List Node}
    (attempt : Attempt.ofStatements options (node :: rest) =
      .recognised offset declaration alternative) :
    ofStatements options (node :: rest) =
      ((ofStatements options (Attempt.behind (node :: rest) offset alternative)).leave
        declaration.toNode).find (.declared declaration) := by
  rw [ofStatements]
  split
  · next other => cases attempt.symm.trans other
  · next other => cases attempt.symm.trans other
  · next same =>
      cases attempt.symm.trans same
      rfl

end Equations

def report (sweep : Sweep) : Report :=
  sweep.findings.foldl Report.count {}

/-- The diagnostics of the rejected attempts. -/
def diagnostics (script : String) (sweep : Sweep) : List Diagnostic :=
  sweep.findings.filterMap (·.diagnostic? script)

/-- The declarations that were recovered. -/
def declarations (sweep : Sweep) : List Declaration :=
  sweep.findings.filterMap (·.declaration?)

end Sweep

end ClassRecovery
