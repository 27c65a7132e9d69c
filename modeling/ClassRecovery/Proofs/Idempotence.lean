import ClassRecovery.Batch
import ClassRecovery.Proofs.SuffixRefinement

namespace ClassRecovery

/-!
# A second pass finds nothing new

An attempt looks ahead, so a declaration recovered behind a statement could in
principle change what comes of an attempt at the statement.  It does not, since
a chain of guards is left alone as far as an attempt follows it: only its first
guard tests a member of the root namespace, and a declaration is only ever
recovered where such a guard stands.  At the statement where a chain breaks off
there may be a declaration later on, but a chain cannot go on there either.

So a sweep of what a sweep left behind repeats its rejections, one by one, and
changes nothing.
-/

namespace Attempt

/-- No attempt starts at a guard that continues a chain: the path that is tested
there is too long. -/
theorem ofStatements_of_deep_guard (options : Options) {reached : Path} {tested : Node}
    {name : String} (hasName : tested.memberOf? reached = some name) (deep : 2 ≤ reached.length)
    (body alternative rest : List Node) :
    ofStatements options (.branch (.not tested) body alternative :: rest) = .noMatch := by
  have path := (Node.memberOf?_eq_some_iff reached tested name).mp hasName
  have noName : tested.memberOf? [options.rootNamespace] = none := by
    cases short : tested.memberOf? [options.rootNamespace] with
    | none => rfl
    | some other =>
        have same := path.symm.trans ((Node.memberOf?_eq_some_iff _ _ _).mp short)
        have length := congrArg List.length (Option.some.inj same)
        simp only [List.length_append, List.length_cons, List.length_nil] at length
        omega
  rw [ofStatements, Site.find?, Site.follow_of_memberOf?_eq_none noName]

end Attempt

namespace Sweep

/-- A sweep keeps the first statement, or it puts a declaration in the place of a
guard. -/
theorem ofStatements_head (options : Options) (node : Node) (rest : List Node) :
    (ofStatements options (node :: rest)).statements.head? = some node ∨
      ∃ declaration : Declaration,
        (ofStatements options (node :: rest)).statements.head? = some declaration.toNode ∧
          ∃ tested body alternative, node = .branch (.not tested) body alternative := by
  cases attempt : Attempt.ofStatements options (node :: rest) with
  | noMatch => rw [ofStatements_of_noMatch attempt]; exact Or.inl rfl
  | rejected cause => rw [ofStatements_of_rejected attempt]; exact Or.inl rfl
  | recognised offset declaration alternative =>
      rw [ofStatements_of_recognised attempt]
      exact Or.inr ⟨declaration, rfl, Attempt.head_of_recognised attempt⟩

theorem head_eq_pop_iff (options : Options) (statements : List Node) :
    (ofStatements options statements).statements.head? = some .pop ↔
      statements.head? = some .pop := by
  cases statements with
  | nil => rw [ofStatements_nil]
  | cons node rest =>
      rcases ofStatements_head options node rest with kept | ⟨declaration, declared, guard⟩
      · rw [kept, List.head?_cons]
      · rcases guard with ⟨tested, body, alternative, rfl⟩
        rw [declared, List.head?_cons]
        apply iff_of_false
        · cases declaration <;> intro pop <;> cases pop
        · intro pop
          cases pop

/-- A chain that breaks off at a statement breaks off there after a sweep. -/
theorem follow_sweep_of_broken {options : Options} {reached : Path} {offset : Nat} {node : Node}
    {rest : List Node} (broken : ∀ rest, Site.follow reached offset (node :: rest) = none) :
    Site.follow reached offset (ofStatements options (node :: rest)).statements = none := by
  rcases ofStatements_head options node rest with kept | ⟨declaration, declared, _⟩
  · rcases List.head?_eq_some_iff.mp kept with ⟨after, left⟩
    rw [left]
    exact broken after
  · apply Site.follow_of_not_guard
    intro tested body alternative guard
    cases declaration <;> cases declared.symm.trans guard

/-- A guard continues a chain when it tests a member of what the chain has
reached. -/
def Continues (reached : Path) (node : Node) : Prop :=
  ∃ tested body alternative name,
    node = .branch (.not tested) body alternative ∧ tested.memberOf? reached = some name

theorem follow_of_not_continues {reached : Path} {node : Node} (stops : ¬ Continues reached node)
    (offset : Nat) (rest : List Node) : Site.follow reached offset (node :: rest) = none := by
  by_cases guard : ∃ tested body alternative, node = .branch (.not tested) body alternative
  · rcases guard with ⟨tested, body, alternative, rfl⟩
    cases hasName : tested.memberOf? reached with
    | none => exact Site.follow_of_memberOf?_eq_none hasName
    | some name => exact absurd ⟨tested, body, alternative, name, rfl, hasName⟩ stops
  · apply Site.follow_of_not_guard
    intro tested body alternative found
    exact guard ⟨tested, body, alternative, Option.some.inj found⟩

/-- Sweeping what stands behind a guard of a chain changes nothing, as long as it
changes nothing for the rest of the chain. -/
theorem follow_guard_sweep {options : Options} {reached : Path} {tested : Node} {name : String}
    {rest : List Node} (hasName : tested.memberOf? reached = some name)
    (deeper : ∀ offset left, left <:+ rest →
      Site.follow (reached ++ [name]) offset (ofStatements options left).statements =
        Site.follow (reached ++ [name]) offset left)
    (offset : Nat) (body alternative : List Node) :
    Site.follow reached offset
        (.branch (.not tested) body alternative :: (ofStatements options rest).statements) =
      Site.follow reached offset (.branch (.not tested) body alternative :: rest) := by
  cases creates : createsNamespace (reached ++ [name]) body with
  | false =>
      rw [Site.follow_of_not_creates hasName creates, Site.follow_of_not_creates hasName creates]
  | true =>
      by_cases popped : rest.head? = some .pop
      · rcases List.head?_eq_some_iff.mp popped with ⟨after, rfl⟩
        have pop : Attempt.ofStatements options (.pop :: after) = .noMatch :=
          Attempt.ofStatements_of_not_guard options fun _ _ _ found => by cases found
        rw [ofStatements_of_noMatch pop, Site.follow_of_creates_pop hasName creates]
        exact (Site.follow_of_creates_pop hasName creates).trans
          (deeper (offset + 2) after (List.suffix_cons _ _))
      · rw [Site.follow_of_creates hasName creates popped,
          Site.follow_of_creates hasName creates (mt (head_eq_pop_iff options rest).mp popped)]
        exact deeper (offset + 1) rest List.suffix_rfl

/-- A chain that has left the root namespace leads to the same class, or to none,
whether or not the statements that it has not reached yet were swept. -/
theorem follow_sweep (options : Options) (reached : Path) (offset : Nat)
    (statements : List Node) (deep : 2 ≤ reached.length) :
    Site.follow reached offset (ofStatements options statements).statements =
      Site.follow reached offset statements := by
  cases statements with
  | nil => rw [ofStatements_nil]
  | cons node rest =>
      by_cases continues : Continues reached node
      · rcases continues with ⟨tested, body, alternative, name, rfl, hasName⟩
        have guard := Attempt.ofStatements_of_deep_guard options hasName deep body alternative rest
        have deeper : 2 ≤ (reached ++ [name]).length := by
          rw [List.length_append]
          omega
        rw [ofStatements_of_noMatch guard]
        exact follow_guard_sweep hasName
          (fun offset left shorter => follow_sweep options (reached ++ [name]) offset left deeper)
          offset body alternative
      · rw [follow_sweep_of_broken (follow_of_not_continues continues offset),
          follow_of_not_continues continues]
termination_by statements.length
decreasing_by exact Nat.lt_succ_of_le shorter.length_le

/-- An attempt comes out the same when everything behind its first statement was
swept. -/
theorem attempt_sweep (options : Options) (node : Node) (rest : List Node) :
    Attempt.ofStatements options (node :: (ofStatements options rest).statements) =
      Attempt.ofStatements options (node :: rest) := by
  have same : Site.find? options (node :: (ofStatements options rest).statements) =
      Site.find? options (node :: rest) := by
    by_cases continues : Continues [options.rootNamespace] node
    · rcases continues with ⟨tested, body, alternative, name, rfl, hasName⟩
      exact follow_guard_sweep hasName
        (fun offset left _ => follow_sweep options _ offset left (Nat.le_refl 2)) 0 body alternative
    · exact (follow_of_not_continues continues 0 _).trans
        (follow_of_not_continues continues 0 rest).symm
  rw [Attempt.ofStatements, Attempt.ofStatements, same]

/-- A second sweep repeats the rejections of the first. -/
theorem ofStatements_statements (options : Options) (statements : List Node) :
    ofStatements options (ofStatements options statements).statements =
      ⟨(ofStatements options statements).statements,
        (ofStatements options statements).findings.filter (·.declaration?.isNone)⟩ := by
  induction statements using Sweep.ofStatements.induct options with
  | case1 => rw [ofStatements_nil, ofStatements_nil]; rfl
  | case2 node rest noMatch hypothesis =>
      rw [ofStatements_of_noMatch noMatch]
      have again := (attempt_sweep options node rest).trans noMatch
      rw [leave, ofStatements_of_noMatch again, hypothesis]
      rfl
  | case3 node rest cause rejected hypothesis =>
      rw [ofStatements_of_rejected rejected]
      have again := (attempt_sweep options node rest).trans rejected
      simp only [find, leave]
      rw [ofStatements_of_rejected again, hypothesis]
      rfl
  | case4 node rest offset declaration alternative recognised hypothesis =>
      rw [ofStatements_of_recognised recognised]
      have again : ∀ rest,
          Attempt.ofStatements options (declaration.toNode :: rest) = .noMatch := by
        intro rest
        apply Attempt.ofStatements_of_not_guard
        intro tested body otherwise guard
        cases declaration <;> cases guard
      simp only [find, leave]
      rw [ofStatements_of_noMatch (again _), hypothesis]
      rfl

theorem diagnostics_filter (script : String) (findings : List Finding) :
    (findings.filter (·.declaration?.isNone)).filterMap (·.diagnostic? script) =
      findings.filterMap (·.diagnostic? script) := by
  induction findings with
  | nil => rfl
  | cons finding rest hypothesis =>
      cases finding with
      | rejected cause => exact congrArg (cause.diagnostic script :: ·) hypothesis
      | declared declaration => exact hypothesis

/-- Without its declarations a list of findings counts as many rejections. -/
theorem report_filter (findings : List Finding) (report other : Report)
    (same : report.rejected = other.rejected) :
    (findings.filter (·.declaration?.isNone)).foldl Report.count report =
      { report with rejected := (findings.foldl Report.count other).rejected } := by
  induction findings generalizing report other with
  | nil => rw [List.foldl_nil, ← same]; rfl
  | cons finding rest hypothesis =>
      cases finding with
      | rejected cause =>
          exact hypothesis report.countRejection other.countRejection (congrArg (· + 1) same)
      | declared declaration =>
          have kept : (other.countDeclaration declaration).rejected = other.rejected := by
            cases declaration <;> rfl
          exact hypothesis report (other.countDeclaration declaration) (same.trans kept.symm)

end Sweep

/-- A second pass over a script changes nothing and declares nothing.  It rejects
as often as the first, and reports the same diagnostics in the same order. -/
theorem Script.recover_recover (options : Options) (script : Script) :
    ((script.recover options).script.recover options).script =
        (script.recover options).script ∧
      ((script.recover options).script.recover options).report =
        { classes := 0, interfaces := 0, rejected := (script.recover options).report.rejected } ∧
      ((script.recover options).script.recover options).diagnostics =
        (script.recover options).diagnostics := by
  have again := Sweep.ofStatements_statements options script.statements
  have left : (script.recover options).script =
      ⟨script.name, (Sweep.ofStatements options script.statements).statements⟩ :=
    congrArg (Script.mk script.name) (recover_statements options script.statements)
  rw [left]
  refine ⟨?_, ?_, ?_⟩
  · refine congrArg (Script.mk script.name) ?_
    rw [recover_statements, again]
  · have counted : ∀ statements, (Script.recover options ⟨script.name, statements⟩).report =
        (Sweep.ofStatements options statements).report := recover_report options
    rw [counted, again]
    refine (Sweep.report_filter _ {} {} rfl).trans ?_
    rw [← Sweep.report, ← recover_report]
    rfl
  · have reported : ∀ statements,
        (Script.recover options ⟨script.name, statements⟩).diagnostics =
          (Sweep.ofStatements options statements).diagnostics script.name :=
      fun statements => recover_diagnostics options statements script.name
    rw [reported, again, reported]
    exact Sweep.diagnostics_filter script.name _

end ClassRecovery
