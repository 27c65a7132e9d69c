import ClassRecovery.Batch
import ClassRecovery.Idiom
import ClassRecovery.Proofs.GuardChains
import ClassRecovery.Proofs.InterfaceGrammar
import ClassRecovery.Proofs.SuffixRefinement

namespace ClassRecovery

/-!
# Recovery undoes compilation

The compiler's statements for a class derive from the grammar of bodies, and so
recovery reads back the very class that was described.  What is left to show is
that the guards around a body lead to it, and that recovery goes on right behind
the last of them, whatever stands there.

Nothing is assumed of names.  A package may have the name of the root namespace,
and a class that of the prototype member.
-/

open Grammar

namespace Idiom

/-! ## Reads and writes below the root -/

theorem path?_globalRead (options : Options) (path : Path) :
    (globalRead options path).path? = some (options.rootNamespace :: path) :=
  Node.path?_foldl_memberNamed (.variableNamed options.rootNamespace) path

theorem reads_globalRead (options : Options) (path : Path) :
    Reads options path (globalRead options path) :=
  ⟨_, path?_globalRead options path, Path.withoutRoot_cons_self options.rootNamespace path⟩

theorem writePath?_globalWrite (options : Options) (package : Path) (name : String)
    (value : Node) :
    (globalWrite options package name value).writePath? =
      some (options.rootNamespace :: (package ++ [name])) := by
  have object := path?_globalRead options package
  simp only [globalWrite, Node.assignMember, Node.writePath?, Node.string, Node.text?, object,
    List.cons_append]

theorem assigns_globalWrite (options : Options) (package : Path) (name : String) (value : Node) :
    Assigns options (package ++ [name]) (globalWrite options package name value) :=
  ⟨_, writePath?_globalWrite options package name value, Path.withoutRoot_cons_self _ _⟩

/-- In source code the root is left out. -/
theorem withoutRoot_globalRead (options : Options) (package : Path) (name : String) :
    (globalRead options (package ++ [name])).withoutRoot options.rootNamespace =
      sourceName name package := by
  have nonempty : package ++ [name] ≠ [] :=
    List.append_ne_nil_of_right_ne_nil _ (List.cons_ne_nil _ _)
  have chain := (reads_globalRead options (package ++ [name])).ofPath?_withoutRoot nonempty
  have both := (ofPath?_sourceName package name).symm.trans chain
  exact (Option.some.inj both).symm

/-- A name of source code is read as it stands unless it begins with the name of the
root. -/
theorem reads_sourceName {options : Options} {package : Path} {name : String}
    (other : (package ++ [name]).head? ≠ some options.rootNamespace) :
    Reads options (package ++ [name]) (sourceName name package) := by
  have hasPath := Node.path?_of_ofPath? (ofPath?_sourceName package name)
  exact ⟨_, hasPath, Path.withoutRoot_of_head?_ne other⟩

/-! ## Bodies of classes -/

namespace ClassSource

/-- The roles of the two registers once they are bound. -/
def roles (source : ClassSource) : Roles :=
  ⟨some source.classRegister, some source.prototypeRegister⟩

theorem roleOf_registerFor (source : ClassSource) (role : Role) :
    source.roles.roleOf (source.registerFor role) = some role := by
  cases role with
  | classObject => exact if_pos rfl
  | prototypeObject =>
      have other : some source.classRegister ≠ some source.prototypeRegister :=
        fun same => source.distinct (Option.some.inj same).symm
      exact (if_neg other).trans (if_pos rfl)

theorem superclassClause_extendsStatements (options : Options) (source : ClassSource) :
    SuperclassClause options (source.extendsStatements options)
      (source.superclass.map fun (_, package, name) => sourceName name package) := by
  unfold extendsStatements
  rcases source.superclass with _ | ⟨subclass, package, name⟩
  · exact .absent
  · have fits : SuperclassClause options [_] _ :=
      .present subclass (globalRead options (package ++ [name]))
    rw [withoutRoot_globalRead] at fits
    exact fits

theorem bindingStatement_binding (options : Options) (source : ClassSource)
    (superclass : Option Node) :
    BindingStatement options source.placement.path superclass [source.binding options]
      ⟨source.roles, some source.construct, superclass⟩ :=
  .present source.distinct
    (assigns_globalWrite options source.placement.packagePath source.placement.name _)
    (.toMember _ _ _)

/-- A description and the grammar agree about the member that is written. -/
theorem flaggedMember?_write (role : Role) (read : RegisterRead) (name value : Node) :
    ∃ member, WrittenMember name value member ∧
      flaggedMember? (.write role read name value) =
        some (member, decide (role = .classObject)) := by
  cases value with
  | function function => exact ⟨_, .function function, rfl⟩
  | _ =>
      refine ⟨_, .other fun function same => ?_, rfl⟩
      cases same

/-- Members are written through registers that are known already, so nothing more
is learnt from them. -/
theorem memberStatements_map (options : Options) (source : ClassSource)
    (construct : Option FunctionLiteral) (superclass : Option Node)
    (members : List MemberStatement) :
    MemberStatements options source.placement.path ⟨source.roles, construct, superclass⟩
      (members.map source.memberStatement) (members.flatMap interfacesOf)
      (members.filterMap flaggedMember?) ⟨source.roles, construct, superclass⟩ := by
  induction members with
  | nil => exact .nil _
  | cons member rest hypothesis =>
      cases member with
      | implements subclass interfaces => exact .implements subclass interfaces hypothesis
      | write role read name value =>
          rcases flaggedMember?_write role read name value with ⟨member, adds, flagged⟩
          rw [List.filterMap_cons_some flagged]
          exact .write (read.readsRegister_node _) (source.roleOf_registerFor role) adds hypothesis

theorem accessorValue_node (register : UInt32) (method : String) (accessor : AccessorSource) :
    AccessorValue register method (accessor.node register method) accessor.present := by
  cases accessor with
  | method read => exact .method (read.readsRegister_node register)
  | placeholder inferredName => exact .placeholder inferredName

theorem reads_prototypeRead (options : Options) (source : ClassSource) (fromRoot : Bool) :
    Reads options (source.placement.path ++ [options.prototypeMember])
      (source.prototypeRead options fromRoot) := by
  unfold prototypeRead
  split
  · exact reads_globalRead options _
  · next other =>
      apply reads_sourceName
      intro first
      rcases List.exists_cons_of_ne_nil source.placement.path_ne_nil with ⟨head, rest, whole⟩
      rw [whole] at first other
      apply other
      rw [Bool.or_eq_true, beq_iff_eq]
      exact Or.inr first

theorem callStatement_pushedIf {options : Options} {path : Path} {roles : Roles} {call : Node}
    {properties : List Property} (derives : Grammar.Call options path roles call properties)
    (pushed : Bool) : CallStatement options path roles (pushedIf pushed call) properties := by
  cases pushed with
  | false => exact .bare derives
  | true => exact .pushed derives

theorem callStatements_map (options : Options) (source : ClassSource) (calls : List Call) :
    CallStatements options source.placement.path source.roles
      (calls.map (source.callStatement options)) (calls.filterMap property?) := by
  induction calls with
  | nil => exact .nil
  | cons call rest hypothesis =>
      cases call with
      | property name role read getter setter pushed =>
          have derives : Grammar.Call options source.placement.path source.roles _ _ :=
            .property (read.readsRegister_node _) (source.roleOf_registerFor role)
              (accessorValue_node _ (options.getterPrefix ++ name) getter)
              (accessorValue_node _ (options.setterPrefix ++ name) setter)
          exact .cons (callStatement_pushedIf derives pushed) hypothesis
      | hideMembers fromRoot pushed =>
          have derives : Grammar.Call options source.placement.path source.roles _ _ :=
            .hideMembers (source.reads_prototypeRead options fromRoot)
          exact .cons (callStatement_pushedIf derives pushed) hypothesis

/-- The statements that the compiler writes for a class derive from the grammar. -/
theorem classBody_body (options : Options) (source : ClassSource) :
    ClassBody options source.placement.path (source.body options) source.declaration := by
  have clauseFits := source.superclassClause_extendsStatements options
  have bindingFits := source.bindingStatement_binding options
    (source.superclass.map fun (_, package, name) => sourceName name package)
  have membersFit := source.memberStatements_map options (some source.construct)
    (source.superclass.map fun (_, package, name) => sourceName name package) source.members
  have callsFit := source.callStatements_map options source.calls
  have named := ofPath?_sourceName source.placement.packagePath source.placement.name
  have body := ClassBody.intro clauseFits bindingFits membersFit callsFit rfl named
    List.getLast?_concat
  rw [List.append_assoc, List.append_assoc] at body
  exact body

theorem body_ne_nil (options : Options) (source : ClassSource) : source.body options ≠ [] :=
  List.append_ne_nil_of_right_ne_nil _ (List.cons_ne_nil _ _)

theorem ofBody_body (options : Options) (source : ClassSource) :
    Declaration.ofBody options source.placement.path (source.body options) =
      .ok (.classDecl source.declaration) :=
  ofBody_of_classBody source.placement.path_ne_nil (source.body_ne_nil options)
    (source.classBody_body options)

/-- The body of a class cannot be taken for that of a package. -/
theorem createsNamespace_body (options : Options) (source : ClassSource) (tested : Path) :
    createsNamespace tested (source.body options) = false := by
  unfold body extendsStatements
  cases source.superclass with
  | some clause => rfl
  | none =>
      cases source.members.map source.memberStatement ++
        source.calls.map (source.callStatement options) with
      | nil => rfl
      | cons statement rest => rfl

end ClassSource

/-! ## Bodies of interfaces -/

namespace InterfaceSource

theorem implementsClauses_ancestors (ancestors : List (Node × List Node)) :
    ImplementsClauses
      (ancestors.map fun (subclass, interfaces) => .implementsClause subclass interfaces)
      (ancestors.flatMap (·.2)) := by
  induction ancestors with
  | nil => exact .nil
  | cons ancestor rest hypothesis => exact .cons ancestor.1 ancestor.2 hypothesis

/-- An interface is written to below the root, so the object of the write is never
taken for a register. -/
theorem not_readsRegister_globalRead (options : Options) (path : Path) (register : UInt32)
    (carried : Option Node) : ¬ (globalRead options path).ReadsRegister register carried := by
  have hasPath := path?_globalRead options path
  generalize globalRead options path = object at hasPath
  intro reads
  cases reads <;> cases hasPath

theorem interfaceBody_body (options : Options) (source : InterfaceSource) :
    InterfaceBody options source.placement.path (source.body options) source.declaration := by
  have write : InterfaceWrite options source.placement.path
      (globalWrite options source.placement.packagePath source.placement.name
        (emptyFunction source.inferredName)) :=
    { direct := .ofMember _ _ (not_readsRegister_globalRead options _)
      assigns := assigns_globalWrite options _ _ _
      creates := ⟨source.inferredName, .toMember _ _ _⟩ }
  have opens : Opening options source.placement.path [] {} [] [] :=
    .intro .absent .absent (.nil _)
  exact .intro opens write (implementsClauses_ancestors source.ancestors)
    (ofPath?_sourceName source.placement.packagePath source.placement.name)

theorem ofBody_body (options : Options) (source : InterfaceSource) :
    Declaration.ofBody options source.placement.path (source.body options) =
      .ok (.interfaceDecl source.declaration) :=
  ofBody_of_interfaceBody source.placement.path_ne_nil (source.interfaceBody_body options)

theorem createsNamespace_body (options : Options) (source : InterfaceSource) (tested : Path) :
    createsNamespace tested (source.body options) = false := by
  unfold body
  cases source.ancestors.map fun (subclass, interfaces) =>
      Node.implementsClause subclass interfaces with
  | nil => rfl
  | cons clause rest => rfl

end InterfaceSource

/-! ## Guards -/

theorem creates_globalWrite (options : Options) (parent : Path) (name : String) :
    Chain.Creates (options.rootNamespace :: (parent ++ [name]))
      [globalWrite options parent name (.construct "Object" [])] :=
  ⟨_, _, _, rfl, .toMember _ _ _, writePath?_globalWrite options parent name _⟩

/-- The guards that the compiler writes for a package are the guards of a chain. -/
theorem packageGuards_chain (options : Options) (parent : Path)
    (package : List (String × Bool)) :
    Chain.PackageGuards (options.rootNamespace :: parent) (package.map (·.1))
      (packageGuards options parent package) := by
  -- Every guard moves on to a member of its parent, so the parent is left open.
  induction package generalizing parent with
  | nil => exact .nil _
  | cons guard package hypothesis =>
      rcases guard with ⟨name, discarded⟩
      have atMostOne : discard discarded = [] ∨ discard discarded = [.pop] := by
        cases discarded with
        | true => exact Or.inr rfl
        | false => exact Or.inl rfl
      exact .cons (.intro (path?_globalRead options (parent ++ [name])))
        (creates_globalWrite options parent name) atMostOne (hypothesis (parent ++ [name]))

section Guarded

variable {options : Options} {placement : Placement} {body : List Node}
  {declaration : Declaration}

/-- A body inside its guards is found as the body of the class at their path. -/
theorem find?_guarded
    (noCreation : createsNamespace (options.rootNamespace :: placement.path) body = false)
    (rest : List Node) :
    Site.find? options (guarded options placement body ++ rest) =
      some ⟨placement.path, (packageGuards options [] placement.package).length, body, []⟩ := by
  have ofClass : ¬ Chain.Creates (options.rootNamespace :: placement.path) body :=
    mt (createsNamespace_eq_true_iff _ _).mpr (Bool.eq_false_iff.mp noCreation)
  apply (Site.find?_eq_some_iff _ _ _).mpr
  rw [guarded, List.append_assoc, List.cons_append]
  exact .intro rfl rfl rfl (packageGuards_chain options [] placement.package)
    (.intro (path?_globalRead options placement.path)) ofClass

theorem attempt_guarded
    (noCreation : createsNamespace (options.rootNamespace :: placement.path) body = false)
    (declares : Declaration.ofBody options placement.path body = .ok declaration)
    (rest : List Node) :
    Attempt.ofStatements options (guarded options placement body ++ rest) =
      .recognised (packageGuards options [] placement.package).length declaration [] := by
  rw [Attempt.ofStatements, find?_guarded noCreation]
  simp only [Attempt.ofSite, declares]
  rfl

/-- Recovery goes on behind the guards, and behind the value that is discarded there. -/
theorem behind_guarded (options : Options) (placement : Placement) (body : List Node)
    {rest : List Node} (noPop : rest.head? ≠ some .pop) :
    Attempt.behind (guarded options placement body ++ rest)
      (packageGuards options [] placement.package).length [] = rest := by
  have front : (packageGuards options [] placement.package ++
      [Node.branch (.not (globalRead options placement.path)) body []]).length =
        (packageGuards options [] placement.package).length + 1 := List.length_append
  have whole : guarded options placement body ++ rest =
      (packageGuards options [] placement.package ++
        [Node.branch (.not (globalRead options placement.path)) body []]) ++
          (discard placement.discarded ++ rest) := by
    rw [guarded]
    simp only [List.append_assoc, List.cons_append, List.nil_append]
  rw [Attempt.behind_eq, whole, List.drop_left' front, List.nil_append]
  cases placement.discarded with
  | true => rfl
  | false => exact dropPop_of_head?_ne_pop noPop

/-- The declaration takes the place of everything that the compiler wrote for it. -/
theorem sweep_guarded
    (noCreation : createsNamespace (options.rootNamespace :: placement.path) body = false)
    (declares : Declaration.ofBody options placement.path body = .ok declaration)
    {rest : List Node} (noPop : rest.head? ≠ some .pop) :
    Sweep.ofStatements options (guarded options placement body ++ rest) =
      ((Sweep.ofStatements options rest).leave declaration.toNode).find
        (.declared declaration) := by
  have attempt := attempt_guarded noCreation declares rest
  have behind := behind_guarded options placement body noPop
  cases whole : guarded options placement body ++ rest with
  | nil =>
      rw [whole] at attempt
      cases attempt
  | cons node others =>
      rw [whole] at attempt behind
      rw [Sweep.ofStatements_of_recognised attempt, behind]

end Guarded

/-! ## Whole scripts -/

namespace Element

/-- No element begins with a discarded value. -/
theorem head?_statements (options : Options) (element : Element) (rest : List Node) :
    (element.statements options ++ rest).head? ≠ some .pop := by
  have guardsFirst : ∀ (placement : Placement) (body : List Node),
      (guarded options placement body ++ rest).head? ≠ some .pop := by
    intro placement body
    rw [guarded, List.append_assoc]
    apply (packageGuards_chain options [] placement.package).head?_append_ne_pop
    intro pop
    cases pop
  cases element with
  | ofClass source => exact guardsFirst source.placement (source.body options)
  | ofInterface source => exact guardsFirst source.placement (source.body options)
  | plain statement apart =>
      intro pop
      cases pop
      cases apart

/-- Nothing is attempted at a plain statement. -/
theorem attempt_plain (options : Options) {statement : Node} (apart : isPlain statement = true)
    (rest : List Node) : Attempt.ofStatements options (statement :: rest) = .noMatch := by
  apply Attempt.ofStatements_of_not_guard
  intro tested body alternative guard
  cases guard
  cases apart

/-- The findings of a sweep through the elements. -/
def findings (elements : List Element) : List Finding :=
  (elements.filterMap (·.declaration?)).map Finding.declared

/-- Recovery replaces each element on its own. -/
theorem sweep_elements (options : Options) (elements : List Element) :
    Sweep.ofStatements options (compile options elements) =
      ⟨elements.map (·.recovered), findings elements⟩ := by
  induction elements with
  | nil => exact Sweep.ofStatements_nil
  | cons element elements hypothesis =>
      have noPop : (compile options elements).head? ≠ some .pop := by
        cases elements with
        | nil =>
            intro pop
            cases pop
        | cons next others => exact next.head?_statements options (compile options others)
      have split : compile options (element :: elements) =
          element.statements options ++ compile options elements := List.flatMap_cons
      rw [split]
      cases element with
      | ofClass source =>
          rw [statements, sweep_guarded (source.createsNamespace_body options _)
            (source.ofBody_body options) noPop, hypothesis]
          rfl
      | ofInterface source =>
          rw [statements, sweep_guarded (source.createsNamespace_body options _)
            (source.ofBody_body options) noPop, hypothesis]
          rfl
      | plain statement apart =>
          rw [statements, List.singleton_append,
            Sweep.ofStatements_of_noMatch (attempt_plain options apart _), hypothesis]
          rfl

theorem foldl_count_findings (elements : List Element) (report : Report) :
    (findings elements).foldl Report.count report =
      { classes := report.classes + elements.countP (·.isClass)
        interfaces := report.interfaces + elements.countP (·.isInterface)
        rejected := report.rejected } := by
  induction elements generalizing report with
  | nil => rfl
  | cons element elements hypothesis =>
      cases element with
      | ofClass source =>
          refine (hypothesis (report.countDeclaration (.classDecl source.declaration))).trans ?_
          rw [List.countP_cons_of_pos rfl, List.countP_cons_of_neg Bool.false_ne_true,
            Nat.add_comm _ 1, ← Nat.add_assoc]
          rfl
      | ofInterface source =>
          refine (hypothesis (report.countDeclaration (.interfaceDecl source.declaration))).trans ?_
          rw [List.countP_cons_of_neg Bool.false_ne_true, List.countP_cons_of_pos rfl,
            Nat.add_comm _ 1, ← Nat.add_assoc]
          rfl
      | plain statement apart => exact hypothesis report

/-- Declarations are no matter for diagnostics. -/
theorem diagnostics_findings (script : String) (elements : List Element) :
    (findings elements).filterMap (·.diagnostic? script) = [] := by
  rw [findings, List.filterMap_map]
  exact List.filterMap_eq_nil_iff.mpr fun declaration _ => rfl

end Element

end Idiom

/-- Recovery undoes compilation.  Of a script that was compiled from classes, from
interfaces and from statements of other kinds, it leaves just one node for each of
them, it counts them, and it has nothing to object to. -/
theorem Script.recover_compiled (options : Options) (name : String)
    (elements : List Idiom.Element) :
    (Script.recover options ⟨name, Idiom.compile options elements⟩).script =
        ⟨name, elements.map (·.recovered)⟩ ∧
      (Script.recover options ⟨name, Idiom.compile options elements⟩).report =
        { classes := elements.countP (·.isClass)
          interfaces := elements.countP (·.isInterface)
          rejected := 0 } ∧
      (Script.recover options ⟨name, Idiom.compile options elements⟩).diagnostics = [] := by
  have swept := Idiom.Element.sweep_elements options elements
  refine ⟨?_, ?_, ?_⟩
  · refine congrArg (Script.mk name) ?_
    rw [recover_statements, swept]
  · refine (recover_report options _).trans ?_
    rw [swept, Sweep.report, Idiom.Element.foldl_count_findings, Nat.zero_add, Nat.zero_add]
  · refine (recover_diagnostics options _ name).trans ?_
    rw [swept]
    exact Idiom.Element.diagnostics_findings name elements

end ClassRecovery
