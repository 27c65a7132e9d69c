import ClassRecovery.Proofs.ClassGrammar

namespace ClassRecovery

/-!
# Interfaces are told apart by one write

Where members are expected, a write that is not through a register ends the class
and begins an interface.  Such a write decides the matter in both directions: the
grammar of classes has no place for it, and the grammar of interfaces asks for
it.  Behind it only implemented interfaces are read, so a body is accepted as an
interface exactly when the grammar of interfaces derives it.
-/

open Grammar

/-! ## The write and what stands behind it -/

/-- An interface's function has no name, no parameters and no body, and all that is left
open is the name that was inferred for it. -/
theorem checkInterfaceFunction_eq_ok_iff (value : Option Node) (done : Unit) :
    checkInterfaceFunction value = .ok done ↔
      ∃ inferredName, value = some (.function ⟨"", [], [], inferredName⟩) := by
  unfold checkInterfaceFunction
  constructor
  · intro checked
    split at checked
    · next function =>
        rcases function with ⟨name, params, body, inferredName⟩
        refine ⟨inferredName, ?_⟩
        split at checked
        · cases checked
        · next unnamed =>
            split at checked
            · cases checked
            · next noBody =>
                split at checked
                · cases checked
                · next noParams =>
                    simp only [ne_eq, Decidable.not_not, Bool.not_eq_true', Bool.not_eq_false,
                      List.isEmpty_iff] at unnamed noBody noParams
                    rw [unnamed, noBody, noParams]
    · cases checked
    · cases checked
  · rintro ⟨inferredName, rfl⟩
    rfl

theorem implementedBy_eq_ok_iff (statements interfaces : List Node) :
    implementedBy statements = .ok interfaces ↔ ImplementsClauses statements interfaces := by
  constructor
  · intro read
    induction statements using implementedBy.induct generalizing interfaces with
    | case1 =>
        cases read
        exact .nil
    | case2 subclass more rest hypothesis =>
        rcases (bind_eq_ok_iff _ _ _).mp read with ⟨others, readRest, same⟩
        cases same
        exact .cons subclass more (hypothesis others readRest)
    | case3 other rest noClause =>
        rw [implementedBy] at read
        · cases read
        · exact noClause
  · intro fits
    induction fits with
    | nil => rfl
    | cons subclass more others hypothesis =>
        exact (bind_eq_ok_iff _ _ _).mpr ⟨_, hypothesis, rfl⟩

/-- Besides its ancestors an interface has the name that its write assigns to, which
is the name of the path. -/
theorem readInterface_eq_ok_iff (options : Options) {path : Path} (nonempty : path ≠ [])
    (before : List Node) (write : Node) (rest : List Node) (declaration : InterfaceDecl) :
    readInterface options path before write rest = .ok declaration ↔
      Assigns options path write ∧
        (∃ inferredName, write.Writes (.function ⟨"", [], [], inferredName⟩)) ∧
        ∃ name behind, Node.ofPath? path = some name ∧ ImplementsClauses rest behind ∧
          declaration = ⟨name, path, before ++ behind⟩ := by
  constructor
  · intro read
    unfold readInterface at read
    split at read
    · next found target hasPath hasTarget =>
        split at read
        · next same =>
            rcases (bind_eq_ok_iff _ _ _).mp read with ⟨done, checked, read⟩
            rcases (bind_eq_ok_iff _ _ _).mp read with ⟨behind, readRest, finished⟩
            cases finished
            have assigns : Assigns options path write := ⟨found, hasPath, same⟩
            rcases (checkInterfaceFunction_eq_ok_iff _ _).mp checked with ⟨inferredName, written⟩
            exact ⟨assigns, ⟨inferredName, (write.writtenValue?_eq_some_iff _).mp written⟩, _,
              behind, assigns.ofPath?_target hasTarget nonempty,
              (implementedBy_eq_ok_iff _ _).mp readRest, rfl⟩
        · cases read
    · cases read
  · rintro ⟨assigns, ⟨inferredName, creates⟩, name, behind, named, clauses, rfl⟩
    have checked := (checkInterfaceFunction_eq_ok_iff write.writtenValue? ()).mpr
      ⟨inferredName, (write.writtenValue?_eq_some_iff _).mpr creates⟩
    have readRest := (implementedBy_eq_ok_iff rest behind).mpr clauses
    rcases assigns with ⟨found, hasPath, same⟩
    cases hasTarget : write.target? with
    | none =>
        rw [Node.writePath?_eq_bind_target?, hasTarget] at hasPath
        cases hasPath
    | some target =>
        have chain := (Assigns.ofPath?_target ⟨found, hasPath, same⟩ hasTarget nonempty).symm.trans
          named
        simp only [readInterface, hasPath, hasTarget, if_pos same]
        rw [Option.some.inj chain]
        exact (bind_eq_ok_iff _ _ _).mpr ⟨(), checked,
          (bind_eq_ok_iff _ _ _).mpr ⟨behind, readRest, rfl⟩⟩

/-! ## Direct writes among the members -/

theorem Grammar.DirectWrite.not_readsRegister {object name value : Node}
    (direct : DirectWrite (.setMember object name value)) (register : UInt32)
    (carried : Option Node) : ¬ object.ReadsRegister register carried := by
  cases direct with
  | ofMember _ _ unregistered => exact unregistered register carried

/-- Where members are expected, a direct write is read as the beginning of an
interface. -/
theorem takeMembers_of_directWrite (options : Options) (path : Path) (draft : Draft)
    {write : Node} (direct : DirectWrite write) (rest : List Node)
    (declaration : InterfaceDecl) :
    takeMembers options path draft (write :: rest) = .ok (.interface declaration) ↔
      readInterface options path draft.interfaces write rest = .ok declaration := by
  have finish : ∀ reading : Except Rejection InterfaceDecl,
      (reading >>= fun declaration => Except.ok (Members.interface declaration)) =
          .ok (.interface declaration) ↔ reading = .ok declaration := by
    intro reading
    constructor
    · intro read
      rcases (bind_eq_ok_iff _ _ _).mp read with ⟨found, same, wrapped⟩
      cases wrapped
      exact same
    · intro read
      exact (bind_eq_ok_iff _ _ _).mpr ⟨declaration, read, rfl⟩
  cases direct with
  | @ofMember object name value unregistered =>
      rw [takeMembers, object.registerBinding?_eq_none_iff.mpr unregistered]
      exact finish _
  | ofVariable name value =>
      rw [takeMembers]
      exact finish _

/-- Only a direct write leads to an interface where no member stands. -/
theorem directWrite_of_stopped {options : Options} {path : Path} {draft : Draft}
    {parts : List Node} {declaration : InterfaceDecl}
    (others : ∀ statement, parts.head? = some statement → statement.isMemberStatement = false)
    (taken : takeMembers options path draft parts = .ok (.interface declaration)) :
    ∃ write rest, parts = write :: rest ∧ DirectWrite write := by
  rw [takeMembers.eq_def] at taken
  split at taken
  · next object name value rest =>
      split at taken
      · next register carried through =>
          have other := others _ rfl
          rw [Node.isMemberStatement, through] at other
          cases other
      · next none =>
          have unregistered := object.registerBinding?_eq_none_iff.mp none
          exact ⟨_, rest, rfl, .ofMember name value unregistered⟩
  · next name value rest => exact ⟨_, rest, rfl, .ofVariable name value⟩
  · cases others _ rfl
  · cases taken

theorem not_directWrite_of_memberStatements {options : Options} {path : Path}
    {before behind : Knowledge} {statements interfaces : List Node}
    {members : List (Member × Bool)}
    (derives : MemberStatements options path before statements interfaces members behind) :
    ∀ statement ∈ statements, ¬ DirectWrite statement := by
  induction derives with
  | nil knowledge => exact fun _ member => absurd member List.not_mem_nil
  | implements subclass more others hypothesis =>
      refine List.forall_mem_cons.mpr ⟨?_, hypothesis⟩
      intro direct
      cases direct
  | write through known adds others hypothesis =>
      exact List.forall_mem_cons.mpr
        ⟨fun direct => direct.not_readsRegister _ _ through, hypothesis⟩
  | learn through unknown carries adds others hypothesis =>
      exact List.forall_mem_cons.mpr
        ⟨fun direct => direct.not_readsRegister _ _ through, hypothesis⟩

/-- The body of a class has no write that is not through a register. -/
theorem not_directWrite_of_classBody {options : Options} {path : Path} {parts : List Node}
    {declaration : ClassDecl} (body : ClassBody options path parts declaration) :
    ∀ statement ∈ parts, ¬ DirectWrite statement := by
  cases body with
  | intro clauseFits bindingFits membersFit callsFit constructs named ends =>
      intro statement member direct
      simp only [List.mem_append] at member
      rcases member with ((inClause | inBinding) | inMembers) | inCalls
      · cases clauseFits with
        | absent => cases inClause
        | present subclass superclass =>
            cases List.mem_singleton.mp inClause
            cases direct
      · cases bindingFits with
        | absent => cases inBinding
        | present distinct assigns creates =>
            cases List.mem_singleton.mp inBinding
            cases direct
      · exact not_directWrite_of_memberStatements membersFit statement inMembers direct
      · have kinds := kind_of_callStatements callsFit statement inCalls
        cases direct <;> rcases kinds with kind | kind | kind <;> cases kind

theorem interfaceWrite_mem_of_interfaceBody {options : Options} {path : Path} {parts : List Node}
    {declaration : InterfaceDecl} (body : InterfaceBody options path parts declaration) :
    ∃ write ∈ parts, InterfaceWrite options path write := by
  cases body with
  | intro opens writeFits clausesFit named =>
      exact ⟨_, List.mem_append_left _ (List.mem_append_right _ List.mem_cons_self), writeFits⟩

/-! ## Whole bodies -/

theorem kind_of_implementsClauses {statements interfaces : List Node}
    (fits : ImplementsClauses statements interfaces) :
    ∀ statement ∈ statements, statement.kind = .implementsClause := by
  induction fits with
  | nil => exact fun _ member => absurd member List.not_mem_nil
  | cons subclass more others hypothesis => exact List.forall_mem_cons.mpr ⟨rfl, hypothesis⟩

theorem interfaceBody_of_ofBody {options : Options} {path : Path} {parts : List Node}
    {declaration : InterfaceDecl}
    (accepted : Declaration.ofBody options path parts = .ok (.interfaceDecl declaration)) :
    path ≠ [] ∧ InterfaceBody options path parts declaration := by
  rcases (ofBody_eq_ok_iff _ _ _ _).mp accepted with
    ⟨nonempty, _, start, left, read, bound, taken, declares⟩
  refine ⟨nonempty, ?_⟩
  rcases opening_of_read nonempty bound taken with
    ⟨opening, rest, finish, before, added, after, split, opens, held, stopped, others⟩
  cases declares with
  | interface declaration =>
      rcases directWrite_of_stopped others stopped with ⟨write, clauses, rfl, direct⟩
      have readWrite := (takeMembers_of_directWrite _ _ _ direct _ _).mp stopped
      rcases (readInterface_eq_ok_iff options nonempty _ _ _ _).mp readWrite with
        ⟨assigns, creates, name, behind, named, clausesFit, rfl⟩
      have whole : parts = opening ++ [write] ++ clauses := by
        rw [split, List.append_assoc, List.singleton_append]
      rw [whole, held.interfaces]
      exact .intro opens ⟨direct, assigns, creates⟩ clausesFit named

theorem ofBody_of_interfaceBody {options : Options} {path : Path} {parts : List Node}
    {declaration : InterfaceDecl} (nonempty : path ≠ [])
    (body : InterfaceBody options path parts declaration) :
    Declaration.ofBody options path parts = .ok (.interfaceDecl declaration) := by
  apply (ofBody_eq_ok_iff _ _ _ _).mpr
  cases body with
  | @intro opening clauses before behind write name finish added opens writeFits clausesFit
      named =>
      have others : ∀ statement ∈ write :: clauses,
          statement.kind ≠ .extendsClause ∧ statement.kind ≠ .storeRegister := by
        refine List.forall_mem_cons.mpr ⟨?_, ?_⟩
        · cases writeFits.direct <;> exact ⟨NodeKind.noConfusion, NodeKind.noConfusion⟩
        · intro statement member
          rw [kind_of_implementsClauses clausesFit statement member]
          exact ⟨NodeKind.noConfusion, NodeKind.noConfusion⟩
      rcases read_of_opening opens nonempty others with
        ⟨start, left, after, bound, held, passes⟩
      have readWrite := (readInterface_eq_ok_iff options nonempty after.interfaces write clauses
        ⟨name, path, after.interfaces ++ behind⟩).mpr
          ⟨writeFits.assigns, writeFits.creates, name, behind, named, clausesFit, rfl⟩
      have taken := passes.trans
        ((takeMembers_of_directWrite options path after writeFits.direct clauses _).mpr readWrite)
      rw [List.append_assoc, List.singleton_append, ← held.interfaces]
      have someParts : opening ++ write :: clauses ≠ [] :=
        List.append_ne_nil_of_right_ne_nil _ (List.cons_ne_nil _ _)
      exact ⟨nonempty, someParts, start, left, _, bound, taken, .interface _⟩

/-- A body is accepted as an interface exactly when the grammar derives it, and then
it is the interface of the derivation.  With a write that is not through a register
a body is never a class, and without the write of an interface it is never an
interface. -/
theorem ofBody_eq_interfaceDecl_iff (options : Options) (path : Path) (parts : List Node) :
    (∀ declaration, Declaration.ofBody options path parts = .ok (.interfaceDecl declaration) ↔
      path ≠ [] ∧ InterfaceBody options path parts declaration) ∧
    ((∃ write ∈ parts, DirectWrite write) →
      ∀ declaration, Declaration.ofBody options path parts ≠ .ok (.classDecl declaration)) ∧
    ((∀ write ∈ parts, ¬ InterfaceWrite options path write) →
      ∀ declaration, Declaration.ofBody options path parts ≠ .ok (.interfaceDecl declaration)) := by
  refine ⟨?_, ?_, ?_⟩
  · intro declaration
    exact ⟨interfaceBody_of_ofBody, fun body => ofBody_of_interfaceBody body.1 body.2⟩
  · rintro ⟨write, member, direct⟩ declaration accepted
    have body := (classBody_of_ofBody accepted).2.2
    exact not_directWrite_of_classBody body write member direct
  · intro none declaration accepted
    rcases interfaceWrite_mem_of_interfaceBody (interfaceBody_of_ofBody accepted).2 with
      ⟨write, member, fits⟩
    exact none write member fits

end ClassRecovery
