import ClassRecovery.Sweep
import Mathlib.Logic.Relation

namespace ClassRecovery

/-!
# A pass finds what a sweep finds

A pass changes the list that it walks through, and a sweep has no list to
change.  To compare the two, a pass is cut at its position: what stands before
it is settled and will not be touched again, and what is left is just what a
sweep would be given.  Each step moves one statement from the second part to the
first, and a step of the sweep on the second part accounts for all of it.

The comparison covers the statements, the report and the diagnostics, but not
the indices in the notices, of which a sweep knows nothing.
-/

namespace Pass

/-- What has been passed. -/
def settled (pass : Pass) : List Node :=
  pass.statements.take pass.position

/-- What is left to be searched. -/
def ahead (pass : Pass) : List Node :=
  pass.statements.drop pass.position

theorem settled_append_ahead (pass : Pass) : pass.settled ++ pass.ahead = pass.statements :=
  List.take_append_drop pass.position pass.statements

/-- The pass `later` comes out of the pass `earlier` by some number of steps. -/
def Leads (options : Options) : Pass → Pass → Prop :=
  Relation.ReflTransGen fun earlier later => earlier.step? options = some later

/-! ## What one step settles -/

/-- Moving on settles the statement at the position as it is. -/
theorem moveOn_split {pass : Pass} {node : Node} {rest : List Node}
    (ahead : pass.ahead = node :: rest) :
    pass.moveOn.settled = pass.settled ++ [node] ∧ pass.moveOn.ahead = rest := by
  have here : pass.statements[pass.position]? = some node := by
    rw [← List.head?_drop]
    exact congrArg List.head? ahead
  constructor
  · change pass.statements.take (pass.position + 1) = pass.statements.take pass.position ++ [node]
    rw [List.take_add_one, here]
    rfl
  · change pass.statements.drop (pass.position + 1) = rest
    rw [← List.drop_drop]
    exact congrArg (List.drop 1) ahead

/-- A recognised declaration is settled in the place of its statements. -/
theorem replace_split {options : Options} {pass : Pass} {offset : Nat}
    {declaration : Declaration} {alternative : List Node}
    (success : pass.attempt options = .recognised offset declaration alternative) :
    (pass.replace offset declaration alternative).moveOn.settled =
        pass.settled ++ [declaration.toNode] ∧
      (pass.replace offset declaration alternative).moveOn.ahead =
        Attempt.behind pass.ahead offset alternative := by
  have bound := Attempt.offset_lt_length ((attempt_eq options pass).symm.trans success)
  rw [List.length_drop] at bound
  have front : (pass.statements.take pass.position).length = pass.position :=
    List.length_take_of_le (by omega)
  have ahead : (pass.replace offset declaration alternative).ahead =
      declaration.toNode :: Attempt.behind pass.ahead offset alternative := by
    change (pass.replace offset declaration alternative).statements.drop pass.position = _
    rw [replace_statements success]
    exact List.drop_left' front
  have settled : (pass.replace offset declaration alternative).settled = pass.settled := by
    change (pass.replace offset declaration alternative).statements.take pass.position = _
    rw [replace_statements success]
    exact List.take_left' front
  have moved := moveOn_split ahead
  rw [settled] at moved
  exact moved

/-- The statement that a step settles and what it finds out, from the side of the
sweep.  At most one finding comes of a step. -/
structure Settles (options : Options) (pass next : Pass) (node : Node)
    (findings : List Finding) : Prop where
  position : next.position = pass.position + 1
  settled : next.settled = pass.settled ++ [node]
  ahead : Sweep.ofStatements options pass.ahead =
    ⟨node :: (Sweep.ofStatements options next.ahead).statements,
      findings ++ (Sweep.ofStatements options next.ahead).findings⟩
  report : next.report = findings.foldl Report.count pass.report
  diagnostics : ∀ script, next.notices.filterMap (·.diagnostic? script) =
    pass.notices.filterMap (·.diagnostic? script) ++ findings.filterMap (·.diagnostic? script)

theorem ahead_of_lt {pass : Pass} (inside : pass.position < pass.statements.length) :
    ∃ node rest, pass.ahead = node :: rest :=
  ⟨_, _, List.drop_eq_getElem_cons inside⟩

theorem settles_of_step? {options : Options} {pass next : Pass}
    (step : pass.step? options = some next) :
    ∃ node findings, Settles options pass next node findings := by
  unfold step? at step
  split at step
  · next inside =>
      cases step
      rcases ahead_of_lt inside with ⟨node, rest, ahead⟩
      have attempt : pass.attempt options = Attempt.ofStatements options (node :: rest) := by
        rw [attempt_eq]
        exact congrArg _ ahead
      split
      · next noMatch =>
          have moved := moveOn_split ahead
          refine ⟨node, [], rfl, moved.1, ?_, rfl, fun script => (List.append_nil _).symm⟩
          rw [moved.2, ahead, Sweep.ofStatements_of_noMatch (attempt.symm.trans noMatch)]
          rfl
      · next cause rejected =>
          have same : (pass.reject cause).ahead = node :: _ := ahead
          have moved := moveOn_split same
          refine ⟨node, [.rejected cause], rfl, moved.1, ?_, rfl,
            fun script => List.filterMap_append⟩
          rw [moved.2, ahead, Sweep.ofStatements_of_rejected (attempt.symm.trans rejected)]
          rfl
      · next offset declaration alternative recognised =>
          have replaced := replace_split recognised
          refine ⟨declaration.toNode, [.declared declaration], rfl, replaced.1, ?_, rfl,
            fun script => List.filterMap_append⟩
          rw [replaced.2, ahead,
            Sweep.ofStatements_of_recognised (attempt.symm.trans recognised)]
          rfl
  · cases step

/-- No step is left exactly when everything has been passed. -/
theorem step?_eq_none_iff (options : Options) (pass : Pass) :
    pass.step? options = none ↔ pass.statements.length ≤ pass.position := by
  unfold step?
  split
  · next inside => exact iff_of_false (by intro done; cases done) (Nat.not_le_of_lt inside)
  · next outside => exact iff_of_true rfl (Nat.le_of_not_lt outside)

/-! ## What a whole pass settles -/

theorem run_of_step?_eq_none {options : Options} {pass : Pass}
    (done : pass.step? options = none) : pass.run options = pass := by
  rw [run]
  split
  · rfl
  · next step => cases done.symm.trans step

theorem run_of_step?_eq_some {options : Options} {pass next : Pass}
    (step : pass.step? options = some next) : pass.run options = next.run options := by
  rw [run]
  split
  · next done => cases step.symm.trans done
  · next same =>
      cases step.symm.trans same
      rfl

theorem step?_run (options : Options) (pass : Pass) : (pass.run options).step? options = none := by
  induction pass using Pass.run.induct options with
  | case1 pass done => rw [run_of_step?_eq_none done, done]
  | case2 pass next step hypothesis => rw [run_of_step?_eq_some step, hypothesis]

/-- The rest of a pass adds to what is settled, counted and reported just what a
sweep makes of the statements ahead. -/
theorem run_eq_sweep (options : Options) (pass : Pass) :
    (pass.run options).statements =
        pass.settled ++ (Sweep.ofStatements options pass.ahead).statements ∧
      (pass.run options).report =
        (Sweep.ofStatements options pass.ahead).findings.foldl Report.count pass.report ∧
      ∀ script, (pass.run options).notices.filterMap (·.diagnostic? script) =
        pass.notices.filterMap (·.diagnostic? script) ++
          (Sweep.ofStatements options pass.ahead).findings.filterMap (·.diagnostic? script) := by
  induction pass using Pass.run.induct options with
  | case1 pass done =>
      have ahead : pass.ahead = [] :=
        List.drop_eq_nil_of_le ((step?_eq_none_iff options pass).mp done)
      have whole := pass.settled_append_ahead
      rw [run_of_step?_eq_none done, ← whole, ahead, Sweep.ofStatements_nil]
      exact ⟨rfl, rfl, fun script => (List.append_nil _).symm⟩
  | case2 pass next step hypothesis =>
      rcases settles_of_step? step with ⟨node, findings, settles⟩
      rcases hypothesis with ⟨statements, report, diagnostics⟩
      rw [run_of_step?_eq_some step, settles.ahead]
      refine ⟨?_, ?_, ?_⟩
      · rw [statements, settles.settled, List.append_assoc, List.singleton_append]
      · rw [report, settles.report, List.foldl_append]
      · intro script
        rw [diagnostics script, settles.diagnostics script, List.filterMap_append,
          List.append_assoc]

theorem leads_run (options : Options) (pass : Pass) : Leads options pass (pass.run options) := by
  induction pass using Pass.run.induct options with
  | case1 pass done =>
      rw [run_of_step?_eq_none done]
      exact Relation.ReflTransGen.refl
  | case2 pass next step hypothesis =>
      rw [run_of_step?_eq_some step]
      exact Relation.ReflTransGen.head step hypothesis

/-- Steps have no choice, so every pass on the way ends in the same way. -/
theorem run_of_leads {options : Options} {earlier later : Pass}
    (leads : Leads options earlier later) : later.run options = earlier.run options := by
  induction leads with
  | refl => rfl
  | tail _ step hypothesis => exact (run_of_step?_eq_some step).symm.trans hypothesis

/-- The statement at the position may be replaced, but nothing in front of it. -/
theorem take_of_step? {options : Options} {pass next : Pass}
    (step : pass.step? options = some next) :
    next.statements.take pass.position = pass.settled := by
  rcases settles_of_step? step with ⟨node, findings, settles⟩
  have inside : pass.position < pass.statements.length := by
    apply Nat.lt_of_not_le
    intro outside
    cases ((step?_eq_none_iff options pass).mpr outside).symm.trans step
  have length : pass.settled.length = pass.position :=
    List.length_take_of_le (Nat.le_of_lt inside)
  have front : (next.statements.take (pass.position + 1)).take pass.position =
      next.statements.take pass.position := by
    rw [List.take_take, Nat.min_eq_left (Nat.le_succ _)]
  have cut := congrArg (List.take pass.position) settles.settled
  rw [List.take_left' length, settled, settles.position, front] at cut
  exact cut

/-- Later steps leave alone all that has been passed. -/
theorem take_of_leads {options : Options} {earlier later : Pass}
    (leads : Leads options earlier later) :
    earlier.position ≤ later.position ∧
      later.statements.take earlier.position = earlier.settled := by
  induction leads with
  | refl => exact ⟨Nat.le_refl _, rfl⟩
  | @tail middle next _ step hypothesis =>
      rcases settles_of_step? step with ⟨node, findings, settles⟩
      have moved : earlier.position ≤ next.position := by
        rw [settles.position]
        exact Nat.le_succ_of_le hypothesis.1
      refine ⟨moved, ?_⟩
      have kept := congrArg (List.take earlier.position) (take_of_step? step)
      rw [settled, List.take_take, List.take_take, Nat.min_eq_left hypothesis.1] at kept
      exact kept.trans hypothesis.2

end Pass

/-! ## What a sweep leaves as it is -/

/-- A recognised declaration stands where a guard stood. -/
theorem Attempt.head_of_recognised {options : Options} {node : Node} {rest : List Node}
    {offset : Nat} {declaration : Declaration} {alternative : List Node}
    (success : Attempt.ofStatements options (node :: rest) =
      .recognised offset declaration alternative) :
    ∃ tested body otherwise, node = .branch (.not tested) body otherwise := by
  apply Classical.byContradiction
  intro noGuard
  have nothing : ofStatements options (node :: rest) = .noMatch :=
    ofStatements_of_not_guard options fun tested body otherwise found =>
      noGuard ⟨tested, body, otherwise, Option.some.inj found⟩
  cases nothing.symm.trans success

namespace Report

theorem declarations_foldl_count (report : Report) (findings : List Finding) :
    (findings.foldl Report.count report).declarations =
      report.declarations + (findings.filterMap (·.declaration?)).length := by
  induction findings generalizing report with
  | nil => rfl
  | cons finding rest hypothesis =>
      rw [List.foldl_cons, hypothesis]
      cases finding with
      | rejected cause => rfl
      | declared declaration =>
          have length : ((Finding.declared declaration :: rest).filterMap
              (·.declaration?)).length = (rest.filterMap (·.declaration?)).length + 1 := rfl
          rw [length]
          cases declaration <;> simp only [count, countDeclaration, Report.declarations] <;> omega

end Report

namespace Sweep

theorem declarations_report (sweep : Sweep) :
    sweep.report.declarations = sweep.declarations.length := by
  rw [report, Report.declarations_foldl_count]
  exact Nat.zero_add _

/-- Only declarations change a script. -/
theorem statements_eq_iff (options : Options) (statements : List Node) :
    (ofStatements options statements).statements = statements ↔
      (ofStatements options statements).declarations = [] := by
  induction statements using Sweep.ofStatements.induct options with
  | case1 => rw [ofStatements_nil]; exact iff_of_true rfl rfl
  | case2 node rest noMatch hypothesis =>
      rw [ofStatements_of_noMatch noMatch]
      exact List.cons_inj_right node |>.trans hypothesis
  | case3 node rest cause rejected hypothesis =>
      rw [ofStatements_of_rejected rejected]
      exact List.cons_inj_right node |>.trans hypothesis
  | case4 node rest offset declaration alternative recognised _ =>
      rw [ofStatements_of_recognised recognised]
      rcases Attempt.head_of_recognised recognised with ⟨tested, body, otherwise, guard⟩
      apply iff_of_false
      · intro same
        have head : declaration.toNode = node := (List.cons.inj same).1
        rw [guard] at head
        cases declaration <;> cases head
      · intro none
        cases none

end Sweep

/-! ## Whole scripts -/

theorem recover_statements (options : Options) (statements : List Node) :
    (recover options statements).statements = (Sweep.ofStatements options statements).statements :=
  (Pass.run_eq_sweep options { statements := statements }).1

theorem recover_report (options : Options) (statements : List Node) :
    (recover options statements).report = (Sweep.ofStatements options statements).report :=
  (Pass.run_eq_sweep options { statements := statements }).2.1

theorem recover_diagnostics (options : Options) (statements : List Node) (script : String) :
    (recover options statements).notices.filterMap (·.diagnostic? script) =
      (Sweep.ofStatements options statements).diagnostics script :=
  (Pass.run_eq_sweep options { statements := statements }).2.2 script

/-- A pass through a script finds and leaves what a sweep does.  An attempt at an
index depends on the statements from there on and on no others, what has been
passed stays as it is to the end, and the script changes exactly when something
was declared. -/
theorem recover_refines_sweep (options : Options) (script : String) (statements : List Node) :
    ((recover options statements).statements =
        (Sweep.ofStatements options statements).statements ∧
      (recover options statements).report = (Sweep.ofStatements options statements).report ∧
      (recover options statements).notices.filterMap (·.diagnostic? script) =
        (Sweep.ofStatements options statements).diagnostics script) ∧
    (∀ (list : List Node) (index : Nat),
      Attempt.atIndex options list index = Attempt.ofStatements options (list.drop index)) ∧
    (∀ pass, Pass.Leads options { statements := statements } pass →
      Pass.Leads options pass (recover options statements) ∧
        ∀ later, Pass.Leads options pass later →
          later.statements.take pass.position = pass.statements.take pass.position) ∧
    ((recover options statements).statements = statements ↔
      (recover options statements).report.declarations = 0) := by
  refine ⟨⟨recover_statements options statements, recover_report options statements,
    recover_diagnostics options statements script⟩, Attempt.atIndex_eq options, ?_, ?_⟩
  · intro pass reached
    have final : recover options statements = pass.run options := (Pass.run_of_leads reached).symm
    constructor
    · rw [final]
      exact Pass.leads_run options pass
    · intro later leads
      exact (Pass.take_of_leads leads).2
  · rw [recover_statements, recover_report, Sweep.declarations_report, List.length_eq_zero_iff]
    exact Sweep.statements_eq_iff options statements

end ClassRecovery
