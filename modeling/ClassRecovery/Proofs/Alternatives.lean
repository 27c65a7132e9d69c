import ClassRecovery.Proofs.GuardChains
import ClassRecovery.Proofs.SuffixRefinement

namespace ClassRecovery

/-!
# What becomes of the alternatives of guards

A recognised declaration takes the place of a whole chain of guards, and each guard
of the chain may have an alternative.  Only the alternative of the last guard is put
behind the declaration.  What the guards of packages have to run instead is gone with
them, so a replacement keeps everything exactly when those guards have nothing.

The alternative that is kept is then searched like the statements behind it, by the
same pass.  It stays as it is as long as the pass recognises nothing at its statements,
and no longer: a guard among them gives way to its declaration in turn.
-/

open Chain

/-- What a conditional runs when its condition does not hold. -/
def Node.alternative : Node → List Node
  | .branch _ _ onFalse => onFalse
  | _ => []

/-- The statements in the alternatives of a list of statements, in their order. -/
def alternatives (statements : List Node) : List Node :=
  statements.flatMap Node.alternative

/-! ## One replacement -/

namespace Pass

/-- The statements that a replacement takes away are the guards of packages and the
guard of the class.  The alternative of the latter is all that is put back, and it is
everything that the alternatives of these guards held exactly when the guards of
packages have none. -/
theorem replace_alternatives {options : Options} {pass : Pass} {offset : Nat}
    {declaration : Declaration} {alternative : List Node}
    (success : pass.attempt options = .recognised offset declaration alternative) :
    ∃ package guards guard after,
      pass.ahead = guards ++ guard :: after ∧ guards.length = offset ∧
        PackageGuards [options.rootNamespace] package guards ∧
        guard.alternative = alternative ∧
        (pass.replace offset declaration alternative).statements =
          pass.settled ++ declaration.toNode :: (alternative ++ dropPop after) ∧
        (alternatives (guards ++ [guard]) = alternative ↔
          ∀ other ∈ guards, other.alternative = []) := by
  rcases Attempt.opens_of_recognised ((attempt_eq options pass).symm.trans success) with
    ⟨path, body, opens, _, _⟩
  cases opens with
  | @intro package name guards after guard split place named packages tests noCreation =>
      have own : guard.alternative = alternative := by
        cases tests
        rfl
      have behind : pass.ahead.drop (offset + 1) = after := by
        have length : (guards ++ [guard]).length = offset + 1 := by
          rw [List.length_append, List.length_singleton, place]
        rw [ahead, split, List.append_cons, List.drop_left' length]
      refine ⟨package, guards, guard, after, split, place.symm, packages, own, ?_, ?_⟩
      · rw [replace_statements success, Attempt.behind_eq]
        exact congrArg (fun rest => pass.settled ++ declaration.toNode ::
          (alternative ++ dropPop rest)) behind
      · have all : alternatives (guards ++ [guard]) = alternatives guards ++ alternative := by
          rw [alternatives, List.flatMap_append, List.flatMap_singleton, own]
          rfl
        rw [all, List.append_left_eq_self]
        exact List.flatMap_eq_nil_iff

end Pass

/-- The guard that assigns a value to a member of an object where there is none, with
something to run where there is one. -/
def guardOf (object : Node) (name : String) (value : Node) (alternative : List Node) : Node :=
  .branch (.not (.memberNamed object name)) [.assignMember object name value] alternative

/-- The interface of a path, with no ancestors. -/
def bareInterface (name : Node) (path : Path) : Declaration :=
  .interfaceDecl ⟨name, path, []⟩

/-- An interface in a package.  The guard of the package has an alternative. -/
def packagedScript : List Node :=
  [guardOf (.variableNamed "_global") "a" (.construct "Object" []) [.unresolved "kept"],
    guardOf (.memberNamed (.variableNamed "_global") "a") "I" (.function .empty) []]

def packagedInterface : Declaration :=
  bareInterface (.memberNamed (.variableNamed "a") "I") ["a", "I"]

theorem attempt_packagedScript :
    Attempt.ofStatements {} packagedScript = .recognised 1 packagedInterface [] := rfl

theorem replace_alternatives_packagedScript :
    ({ statements := packagedScript } : Pass).attempt {} = .recognised 1 packagedInterface [] ∧
      ∃ package guards guard after,
        packagedScript = guards ++ guard :: after ∧ guards.length = 1 ∧
          PackageGuards ["_global"] package guards ∧ guard.alternative = [] ∧
          (({ statements := packagedScript } : Pass).replace 1 packagedInterface []).statements =
            packagedInterface.toNode :: dropPop after ∧
          (alternatives (guards ++ [guard]) = [] ↔ ∀ other ∈ guards, other.alternative = []) := by
  have success := (Pass.attempt_eq {} { statements := packagedScript }).trans attempt_packagedScript
  exact ⟨success, Pass.replace_alternatives success⟩

/-- The alternative of a package's guard is lost: the statement in it is nowhere in what
recovery leaves, though the whole chain gave way to a declaration. -/
theorem packagedScript_alternative_lost :
    .unresolved "kept" ∈ alternatives packagedScript ∧
      (recover {} packagedScript).report.declarations = 1 ∧
      .unresolved "kept" ∉ (recover {} packagedScript).statements := by
  have swept : Sweep.ofStatements {} packagedScript =
      ⟨[packagedInterface.toNode], [.declared packagedInterface]⟩ := by
    refine (Sweep.ofStatements_of_recognised attempt_packagedScript).trans ?_
    change ((Sweep.ofStatements {} []).leave packagedInterface.toNode).find _ = _
    rw [Sweep.ofStatements_nil]
    rfl
  refine ⟨List.mem_cons_self, ?_, ?_⟩
  · rw [recover_report, swept]
    rfl
  · rw [recover_statements, swept]
    intro member
    cases List.mem_singleton.mp member

/-! ## The rest of the pass -/

namespace Pass

/-- The attempt that comes next is a success. -/
def Recognises (options : Options) (pass : Pass) : Prop :=
  ∃ offset declaration alternative,
    pass.attempt options = .recognised offset declaration alternative

theorem inside_of_ahead {pass : Pass} {node : Node} {rest : List Node}
    (ahead : pass.ahead = node :: rest) : pass.position < pass.statements.length := by
  apply Nat.lt_of_not_le
  intro outside
  cases ahead.symm.trans (List.drop_eq_nil_of_le outside)

theorem attempt_of_ahead (options : Options) {pass : Pass} {node : Node} {rest : List Node}
    (ahead : pass.ahead = node :: rest) :
    pass.attempt options = Attempt.ofStatements options (node :: rest) := by
  rw [attempt_eq]
  exact congrArg _ ahead

/-- Where nothing is recognised, the pass moves on and the statement stays. -/
theorem step?_of_not_recognises {options : Options} {pass : Pass} {node : Node}
    {rest : List Node} (ahead : pass.ahead = node :: rest)
    (nothing : ¬ pass.Recognises options) :
    ∃ next, pass.step? options = some next ∧ next.position = pass.position + 1 ∧
      next.ahead = rest := by
  have inside := inside_of_ahead ahead
  cases attempt : pass.attempt options with
  | noMatch =>
      refine ⟨pass.moveOn, ?_, rfl, (moveOn_split ahead).2⟩
      rw [step?, if_pos inside, attempt]
  | rejected cause =>
      have same : (pass.reject cause).ahead = node :: rest := ahead
      refine ⟨(pass.reject cause).moveOn, ?_, rfl, (moveOn_split same).2⟩
      rw [step?, if_pos inside, attempt]
  | recognised offset declaration alternative =>
      exact absurd ⟨offset, declaration, alternative, attempt⟩ nothing

theorem sweep_of_not_recognises {options : Options} {pass : Pass} {node : Node}
    {rest : List Node} (ahead : pass.ahead = node :: rest)
    (nothing : ¬ pass.Recognises options) :
    (Sweep.ofStatements options pass.ahead).statements =
      node :: (Sweep.ofStatements options rest).statements := by
  rw [ahead]
  cases found : Attempt.ofStatements options (node :: rest) with
  | noMatch => rw [Sweep.ofStatements_of_noMatch found]; rfl
  | rejected cause => rw [Sweep.ofStatements_of_rejected found]; rfl
  | recognised offset declaration alternative =>
      have success := (attempt_of_ahead options ahead).trans found
      exact absurd ⟨offset, declaration, alternative, success⟩ nothing

/-- Where something is recognised, a declaration comes to stand first, and it is not the
statement that stood there. -/
theorem sweep_of_recognises {options : Options} {pass : Pass} {node : Node}
    {rest : List Node} (ahead : pass.ahead = node :: rest)
    (success : pass.Recognises options) :
    (Sweep.ofStatements options pass.ahead).statements.head? ≠ some node := by
  rcases success with ⟨offset, declaration, alternative, success⟩
  have found := (attempt_of_ahead options ahead).symm.trans success
  rcases Attempt.head_of_recognised found with ⟨tested, body, otherwise, rfl⟩
  rw [ahead, Sweep.ofStatements_of_recognised found]
  intro same
  cases declaration <;> cases same

/-- Statements ahead of a pass come out of it unchanged and in their place exactly when
the pass recognises nothing at any of them. -/
theorem prefix_sweep_iff (options : Options) (front : List Node) (pass : Pass)
    (rest : List Node) (ahead : pass.ahead = front ++ rest) :
    front <+: (Sweep.ofStatements options pass.ahead).statements ↔
      ∀ later, Leads options pass later → later.position < pass.position + front.length →
        ¬ later.Recognises options := by
  -- Where nothing is recognised, the pass that comes next has one statement less to
  -- keep, and it leads wherever this one leads except to this one itself.
  induction front generalizing pass with
  | nil =>
      refine iff_of_true List.nil_prefix fun later leads before => ?_
      exact absurd (take_of_leads leads).1 (Nat.not_le_of_lt before)
  | cons node front hypothesis =>
      have length : (node :: front).length = front.length + 1 := List.length_cons
      by_cases success : pass.Recognises options
      · apply iff_of_false
        · rintro ⟨more, whole⟩
          apply sweep_of_recognises ahead success
          rw [← whole]
          rfl
        · intro nothing
          exact nothing pass .refl (by omega) success
      · rcases step?_of_not_recognises ahead success with ⟨next, step, position, left⟩
        rw [sweep_of_not_recognises ahead success, List.cons_prefix_cons, ← left,
          and_iff_right rfl, hypothesis next left]
        constructor
        · intro nothing later leads before
          rcases Relation.ReflTransGen.cases_head leads with rfl | ⟨middle, first, leads⟩
          · exact success
          · cases step.symm.trans first
            exact nothing later leads (by omega)
        · intro nothing later leads before
          exact nothing later (.head step leads) (by omega)

/-! ## The alternative that is kept -/

/-- A pass leaves the declaration in the place where it recognised it, and behind that
whatever a sweep leaves of the alternative and of the statements behind the guard. -/
theorem drop_run_of_recognised {options : Options} {pass : Pass} {offset : Nat}
    {declaration : Declaration} {alternative : List Node}
    (success : pass.attempt options = .recognised offset declaration alternative) :
    (pass.run options).statements.drop pass.position =
      declaration.toNode :: (Sweep.ofStatements options
        (pass.replace offset declaration alternative).moveOn.ahead).statements := by
  have bound := Attempt.offset_lt_length ((attempt_eq options pass).symm.trans success)
  rw [List.length_drop] at bound
  have inside : pass.position < pass.statements.length := by omega
  rcases ahead_of_lt inside with ⟨node, rest, ahead⟩
  have found := (attempt_of_ahead options ahead).symm.trans success
  have length : pass.settled.length = pass.position :=
    List.length_take_of_le (Nat.le_of_lt inside)
  rw [(run_eq_sweep options pass).1, List.drop_left' length, (replace_split success).2, ahead,
    Sweep.ofStatements_of_recognised found]
  rfl

/-- A recognised declaration keeps its place to the end of the pass.  Any number of the
statements that its guard would run instead stand right behind it in the end, unchanged
and in their order, exactly when the pass recognises nothing at any of these later on. -/
theorem prefix_alternative_iff {options : Options} {statements : List Node} {pass : Pass}
    {offset : Nat} {declaration : Declaration} {alternative : List Node}
    (reached : Leads options { statements := statements } pass)
    (success : pass.attempt options = .recognised offset declaration alternative) :
    (recover options statements).statements[pass.position]? = some declaration.toNode ∧
      ∀ front, front <+: alternative →
        (front <+: (recover options statements).statements.drop (pass.position + 1) ↔
          ∀ later, Leads options (pass.replace offset declaration alternative).moveOn later →
            later.position < pass.position + 1 + front.length →
              ¬ later.Recognises options) := by
  have final : recover options statements = pass.run options := (run_of_leads reached).symm
  have left := drop_run_of_recognised success
  rw [final]
  constructor
  · rw [← List.head?_drop, left]
    rfl
  · rintro front ⟨more, rfl⟩
    have behind : (pass.run options).statements.drop (pass.position + 1) =
        (Sweep.ofStatements options
          (pass.replace offset declaration (front ++ more)).moveOn.ahead).statements := by
      rw [← List.drop_drop, left]
      rfl
    rw [behind]
    have split := (replace_split success).2.trans (List.append_assoc front more _)
    exact prefix_sweep_iff options front _ _ split

end Pass

def innerGuard : Node :=
  guardOf (.variableNamed "_global") "J" (.function .empty) []

/-- A statement, and the guard of an interface. -/
def nestedAlternative : List Node :=
  [.unresolved "kept", innerGuard]

/-- An interface whose guard has the guard of another interface in its alternative. -/
def nestedScript : List Node :=
  [guardOf (.variableNamed "_global") "I" (.function .empty) nestedAlternative]

theorem attempt_nestedScript :
    Attempt.ofStatements {} nestedScript =
      .recognised 0 (bareInterface (.variableNamed "I") ["I"]) nestedAlternative := rfl

theorem prefix_alternative_iff_nestedScript :
    ({ statements := nestedScript } : Pass).attempt {} =
        .recognised 0 (bareInterface (.variableNamed "I") ["I"]) nestedAlternative ∧
      (recover {} nestedScript).statements[0]? =
        some (bareInterface (.variableNamed "I") ["I"]).toNode ∧
      ∀ front, front <+: nestedAlternative →
        (front <+: (recover {} nestedScript).statements.drop 1 ↔
          ∀ later, Pass.Leads {} (({ statements := nestedScript } : Pass).replace 0
              (bareInterface (.variableNamed "I") ["I"]) nestedAlternative).moveOn later →
            later.position < 1 + front.length → ¬ later.Recognises {}) := by
  have success := (Pass.attempt_eq {} { statements := nestedScript }).trans attempt_nestedScript
  exact ⟨success, Pass.prefix_alternative_iff .refl success⟩

/-- A guard in an alternative that is kept gives way to its own declaration, so the
alternative does not stand behind the first one in the end. -/
theorem nestedScript_alternative_rewritten :
    ({} : Options).preserveAlternative = true ∧
      ({ statements := nestedScript } : Pass).attempt {} =
        .recognised 0 (bareInterface (.variableNamed "I") ["I"]) nestedAlternative ∧
      ¬ nestedAlternative <+: (recover {} nestedScript).statements.drop 1 := by
  have success := (Pass.attempt_eq {} { statements := nestedScript }).trans attempt_nestedScript
  have kept : Attempt.ofStatements {} [.unresolved "kept", innerGuard] = .noMatch := rfl
  have inner : Attempt.ofStatements {} [innerGuard] =
      .recognised 0 (bareInterface (.variableNamed "J") ["J"]) [] := rfl
  have left : (recover {} nestedScript).statements.drop 1 =
      .unresolved "kept" :: (Sweep.ofStatements {} [innerGuard]).statements := by
    rw [recover_statements, nestedScript, Sweep.ofStatements_of_recognised attempt_nestedScript]
    exact congrArg Sweep.statements (Sweep.ofStatements_of_noMatch kept)
  refine ⟨rfl, success, ?_⟩
  rw [left, Sweep.ofStatements_of_recognised inner]
  rintro ⟨more, whole⟩
  cases whole

end ClassRecovery
