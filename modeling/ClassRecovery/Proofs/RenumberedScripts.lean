import ClassRecovery.Idiom
import ClassRecovery.Proofs.RenumberedBodies
import ClassRecovery.Proofs.SuffixRefinement
import Mathlib.Data.UInt

namespace ClassRecovery

/-!
# Scripts under other register numbers

Chains of guards are found by paths alone, and no path goes through a register, so the
same attempts are made under any numbers.  With bodies that are read to the same effect,
each step of a pass under other numbers is the renumbered step, and the whole pass the
renumbered pass.

What is counted and how serious a rejection is has no number in it.  There a script and
its renumbering cannot be told apart.
-/

/-! ## Chains of guards -/

section Chains

variable (number : UInt32 → UInt32)

theorem createsNamespace_renumber (tested : Path) (body : List Node) :
    createsNamespace tested (renumberNodes number body) = createsNamespace tested body := by
  rcases body with _ | ⟨write, _ | ⟨more, rest⟩⟩
  · rfl
  · have newObject (value : Node) : (value.renumber number).isNewObject = value.isNewObject := by
      cases value <;> rfl
    simp only [renumberNodes, createsNamespace, Node.writtenValue?_renumber,
      Node.writePath?_renumber, Option.map_map, Function.comp_def, newObject]
  · rfl

theorem head?_renumberNodes_ne_pop {statements : List Node}
    (noPop : statements.head? ≠ some .pop) :
    (renumberNodes number statements).head? ≠ some .pop := by
  intro popped
  cases statements with
  | nil => cases popped
  | cons statement rest =>
      cases statement with
      | pop => exact noPop rfl
      | _ => cases popped

theorem Site.follow_renumber (reached : Path) (offset : Nat) (statements : List Node) :
    follow reached offset (renumberNodes number statements) =
      (follow reached offset statements).map (Site.renumber number) := by
  induction reached, offset, statements using follow.induct with
  | case1 reached offset tested body alternative rest noName =>
      have noName' := (tested.memberOf?_renumber number reached).trans noName
      rw [follow_of_memberOf?_eq_none noName]
      exact follow_of_memberOf?_eq_none noName'
  | case2 reached offset tested body alternative name hasName creates rest hypothesis =>
      have hasName' := (tested.memberOf?_renumber number reached).trans hasName
      have creates' := (createsNamespace_renumber number _ body).trans creates
      rw [follow_of_creates_pop hasName creates, ← hypothesis]
      exact follow_of_creates_pop hasName' creates'
  | case3 reached offset tested body alternative name hasName creates rest noPop hypothesis =>
      have hasName' := (tested.memberOf?_renumber number reached).trans hasName
      have creates' := (createsNamespace_renumber number _ body).trans creates
      have unpopped : rest.head? ≠ some .pop := head?_ne_some_of_ne_cons noPop
      rw [follow_of_creates hasName creates unpopped, ← hypothesis]
      exact follow_of_creates hasName' creates' (head?_renumberNodes_ne_pop number unpopped)
  | case4 reached offset tested body alternative rest name hasName creates =>
      have hasName' := (tested.memberOf?_renumber number reached).trans hasName
      have creates' := (createsNamespace_renumber number (reached ++ [name]) body).trans
        (Bool.eq_false_iff.mpr creates)
      rw [follow_of_not_creates hasName (Bool.eq_false_iff.mpr creates)]
      exact follow_of_not_creates hasName' creates'
  | case5 statements reached offset noGuard =>
      cases statements with
      | nil => rfl
      | cons statement rest =>
          cases statement with
          | branch condition body alternative =>
              cases condition with
              | not tested => exact (noGuard tested body alternative rest rfl).elim
              | _ => rfl
          | _ => rfl

end Chains

/-! ## One attempt -/

section Splice

variable (number : UInt32 → UInt32)

theorem dropPop_renumber (statements : List Node) :
    dropPop (renumberNodes number statements) = renumberNodes number (dropPop statements) := by
  cases statements with
  | nil => rfl
  | cons statement rest => cases statement <;> rfl

theorem take_renumberNodes (statements : List Node) (count : Nat) :
    (renumberNodes number statements).take count =
      renumberNodes number (statements.take count) := by
  simp only [renumberNodes_eq_map, List.map_take]

theorem drop_renumberNodes (statements : List Node) (count : Nat) :
    (renumberNodes number statements).drop count =
      renumberNodes number (statements.drop count) := by
  simp only [renumberNodes_eq_map, List.map_drop]

theorem replaceRange_renumber (statements : List Node) (start stop : Nat) (nodes : List Node) :
    replaceRange (renumberNodes number statements) start stop (renumberNodes number nodes) =
      (replaceRange statements start stop nodes).map (renumberNodes number) := by
  simp only [replaceRange, length_renumberNodes, take_renumberNodes, drop_renumberNodes,
    ← renumberNodes_append, apply_ite (Option.map (renumberNodes number)), Option.map_some,
    Option.map_none]

theorem spliceDeclaration_renumber (statements : List Node) (start stop : Nat)
    (declaration : Node) (alternative : List Node) :
    spliceDeclaration (renumberNodes number statements) start stop
        (declaration.renumber number) (renumberNodes number alternative) =
      (spliceDeclaration statements start stop declaration alternative).map
        (renumberNodes number) := by
  have replaced := replaceRange_renumber number statements start stop [declaration]
  simp only [renumberNodes] at replaced
  simp only [spliceDeclaration, replaced, Option.map_map, Function.comp_def,
    renumberNodes_append, take_renumberNodes, drop_renumberNodes, dropPop_renumber]

end Splice

namespace Declaration

variable (number : UInt32 → UInt32) (declaration : Declaration)

theorem toNode_renumber :
    (declaration.renumber number).toNode = declaration.toNode.renumber number := by
  cases declaration <;> rfl

/-- A declaration keeps its name, and the kind that it is counted as. -/
theorem qualifiedName_renumber :
    (declaration.renumber number).qualifiedName = declaration.qualifiedName := by
  cases declaration with
  | classDecl declaration => cases declaration; rfl
  | interfaceDecl declaration => cases declaration; rfl

theorem countDeclaration_renumber (report : Report) :
    report.countDeclaration (declaration.renumber number) =
      report.countDeclaration declaration := by
  cases declaration <;> rfl

end Declaration

/-! ## Steps and passes -/

section Passes

variable {number : UInt32 → UInt32} (injective : Function.Injective number)
include injective

namespace Attempt

theorem ofSite_renumber (options : Options) (site : Site) :
    ofSite options (site.renumber number) = (ofSite options site).renumber number := by
  simp only [ofSite, Site.renumber, isEmpty_renumberNodes, ofBody_renumber injective]
  split
  · rfl
  · cases Declaration.ofBody options site.path site.body <;> rfl

theorem ofStatements_renumber (options : Options) (statements : List Node) :
    ofStatements options (renumberNodes number statements) =
      (ofStatements options statements).renumber number := by
  rw [ofStatements, Site.find?, Site.follow_renumber, ofStatements, Site.find?]
  cases Site.follow [options.rootNamespace] 0 statements with
  | none => rfl
  | some site => exact ofSite_renumber injective options site

end Attempt

namespace Pass

theorem attempt_renumber (options : Options) (pass : Pass) :
    (pass.renumber number).attempt options = (pass.attempt options).renumber number := by
  rw [attempt_eq, attempt_eq, ← Attempt.ofStatements_renumber injective, ← drop_renumberNodes]
  rfl

omit injective in
theorem replace_renumber (pass : Pass) (offset : Nat) (declaration : Declaration)
    (alternative : List Node) :
    (pass.renumber number).replace offset (declaration.renumber number)
        (renumberNodes number alternative) =
      (pass.replace offset declaration alternative).renumber number := by
  simp only [replace, renumber, Declaration.toNode_renumber, spliceDeclaration_renumber,
    Declaration.qualifiedName_renumber, Declaration.countDeclaration_renumber, List.map_append,
    List.map_cons, List.map_nil, Notice.renumber, Option.getD_map]

omit injective in
theorem reject_renumber (pass : Pass) (cause : Rejection) :
    (pass.renumber number).reject (cause.renumber number) =
      (pass.reject cause).renumber number := by
  simp only [reject, renumber, List.map_append, List.map_cons, List.map_nil, Notice.renumber]

/-- A step under other numbers is the renumbered step. -/
theorem step?_renumber (options : Options) (pass : Pass) :
    (pass.renumber number).step? options = (pass.step? options).map (renumber number) := by
  have length : (pass.renumber number).statements.length = pass.statements.length :=
    length_renumberNodes number pass.statements
  have position : (pass.renumber number).position = pass.position := rfl
  simp only [step?, length, position, attempt_renumber injective]
  split
  · refine congrArg some ?_
    cases pass.attempt options with
    | noMatch => rfl
    | rejected cause => exact congrArg moveOn (pass.reject_renumber cause)
    | recognised offset declaration alternative =>
        exact congrArg moveOn (pass.replace_renumber offset declaration alternative)
  · rfl

/-- Each step is matched by one step, so both passes come to their end together. -/
theorem run_renumber (options : Options) (pass : Pass) :
    (pass.renumber number).run options = (pass.run options).renumber number := by
  induction pass using Pass.run.induct options with
  | case1 pass done =>
      have done' := (step?_renumber injective options pass).trans (congrArg _ done)
      rw [run_of_step?_eq_none done, run_of_step?_eq_none done']
  | case2 pass next step hypothesis =>
      have step' := (step?_renumber injective options pass).trans (congrArg _ step)
      rw [run_of_step?_eq_some step, ← hypothesis, run_of_step?_eq_some step']

end Pass

/-! ## Whole scripts -/

omit injective in
/-- Renumbered notices are as many as the notices themselves, and as serious one by one. -/
theorem severities_renumber (script : String) (notices : List Notice) :
    ((notices.map (·.renumber number)).filterMap (·.diagnostic? script)).map (·.severity) =
      (notices.filterMap (·.diagnostic? script)).map (·.severity) := by
  induction notices with
  | nil => rfl
  | cons notice rest hypothesis =>
      cases notice with
      | rejected cause =>
          exact congrArg₂ List.cons (cause.form_renumber number).2 hypothesis
      | recognised name start stop => exact hypothesis

/-- Register numbers have no meaning beyond which operands share one.  A script under
other numbers leaves the same statements under them, with the same report and with
diagnostics that are as serious one by one; and a body under other numbers is read as the
same declaration under them, or is rejected in the same form. -/
theorem recover_renumber (options : Options) (statements : List Node) (path : Path)
    (parts : List Node) :
    (recover options (renumberNodes number statements)).statements =
        renumberNodes number (recover options statements).statements ∧
      (recover options (renumberNodes number statements)).report =
        (recover options statements).report ∧
      (∀ script,
        ((recover options (renumberNodes number statements)).notices.filterMap
            (·.diagnostic? script)).map (·.severity) =
          ((recover options statements).notices.filterMap
            (·.diagnostic? script)).map (·.severity)) ∧
      match Declaration.ofBody options path parts with
      | .ok declaration =>
          Declaration.ofBody options path (renumberNodes number parts) =
            .ok (declaration.renumber number)
      | .error cause => ∃ other,
          Declaration.ofBody options path (renumberNodes number parts) = .error other ∧
            other.form = cause.form := by
  have whole : recover options (renumberNodes number statements) =
      (recover options statements).renumber number :=
    Pass.run_renumber injective options { statements := statements }
  rw [whole, ofBody_renumber injective]
  refine ⟨rfl, rfl, fun script => severities_renumber script _, ?_⟩
  cases Declaration.ofBody options path parts with
  | ok declaration => rfl
  | error cause => exact ⟨cause.renumber number, rfl, (cause.form_renumber number).1⟩

end Passes

/-- Exchanges the first and the second register, and all others in pairs as well. -/
def exchanged (register : UInt32) : UInt32 :=
  register ^^^ 3

theorem exchanged_involutive : Function.Involutive exchanged := by
  intro register
  rw [exchanged, exchanged, UInt32.xor_assoc, UInt32.xor_self, UInt32.xor_zero]

/-- A class with a static field and a property, in the registers that are exchanged. -/
def counterClass : Idiom.ClassSource where
  placement := ⟨[("a", true)], "Counter", true⟩
  superclass := none
  prototypeRegister := 1
  classRegister := 2
  distinct := by decide
  construct := .empty
  members := [.write .classObject (.operand none) (.string "total") (.integer 0)]
  calls := [.property "count" .prototypeObject (.operand none) (.method (.operand none))
    (.placeholder none) false]

/-- The guards of the class and its body, as the compiler writes them. -/
def counterScript : List Node :=
  Idiom.guarded {} counterClass.placement (counterClass.body {})

theorem recover_renumber_counterScript :
    Function.Injective exchanged ∧
      (recover {} (renumberNodes exchanged counterScript)).statements =
          renumberNodes exchanged (recover {} counterScript).statements ∧
        (recover {} (renumberNodes exchanged counterScript)).report =
          (recover {} counterScript).report ∧
        (∀ script,
          ((recover {} (renumberNodes exchanged counterScript)).notices.filterMap
              (·.diagnostic? script)).map (·.severity) =
            ((recover {} counterScript).notices.filterMap
              (·.diagnostic? script)).map (·.severity)) ∧
        Declaration.ofBody {} ["a", "Counter"]
            (renumberNodes exchanged (counterClass.body {})) =
          .ok (.classDecl (counterClass.declaration.renumber exchanged)) :=
  ⟨exchanged_involutive.injective,
    recover_renumber exchanged_involutive.injective {} counterScript ["a", "Counter"]
      (counterClass.body {})⟩

end ClassRecovery
