import ClassRecovery.Idiom
import ClassRecovery.Proofs.InterfaceGrammar

namespace ClassRecovery

/-!
# What an interface keeps of its body

What stands in front of the write of an interface is read as the opening of a class, for
at that point nothing tells the two apart.  A superclass, the binding of the registers
and members are taken in as they would be for a class, and an interface has no place for
any of them.  They are not held against it either: the same interface is declared by what
is left of the body without them.

Behind the write only clauses for ancestors pass.  So a body declares more than its
interface says exactly when a superclass or a member stands in front of the write.
-/

open Grammar

namespace Node

/-- The statements that an interface is made of: its own write, which is not through a
register, and the clauses for its ancestors. -/
def isInterfaceStatement : Node → Bool
  | .setMember object _ _ => object.registerBinding?.isNone
  | .setVariable .. => true
  | .implementsClause .. => true
  | _ => false

/-- The statements that name a superclass or write a member through a register. -/
def isClassStatement : Node → Bool
  | .extendsClause .. => true
  | .setMember object _ _ => object.registerBinding?.isSome
  | _ => false

/-- The interfaces that a clause names. -/
def implemented : Node → List Node
  | .implementsClause _ interfaces => interfaces
  | _ => []

end Node

/-! ## One statement -/

theorem isClassStatement_of_directWrite {write : Node} (direct : DirectWrite write) :
    write.isClassStatement = false := by
  cases direct with
  | @ofMember object name value unregistered =>
      rw [Node.isClassStatement, object.registerBinding?_eq_none_iff.mpr unregistered]
      rfl
  | ofVariable name value => rfl

theorem isInterfaceStatement_of_directWrite {write : Node} (direct : DirectWrite write) :
    write.isInterfaceStatement = true ∧ write.implemented = [] := by
  cases direct with
  | @ofMember object name value unregistered =>
      rw [Node.isInterfaceStatement, object.registerBinding?_eq_none_iff.mpr unregistered]
      exact ⟨rfl, rfl⟩
  | ofVariable name value => exact ⟨rfl, rfl⟩

theorem isClassStatement_of_kind {statement : Node} (kind : statement.kind = .implementsClause) :
    statement.isClassStatement = false ∧ statement.isInterfaceStatement = true := by
  cases statement with
  | implementsClause subclass interfaces => exact ⟨rfl, rfl⟩
  | _ => cases kind

theorem isInterfaceStatement_of_readsRegister {object : Node} {register : UInt32}
    {carried : Option Node} (through : object.ReadsRegister register carried)
    (name value : Node) : (Node.setMember object name value).isInterfaceStatement = false := by
  rw [Node.isInterfaceStatement, (object.registerBinding?_eq_some_iff _ _).mpr through]
  rfl

theorem isClassStatement_of_readsRegister {object : Node} {register : UInt32}
    {carried : Option Node} (through : object.ReadsRegister register carried)
    (name value : Node) : (Node.setMember object name value).isClassStatement = true := by
  rw [Node.isClassStatement, (object.registerBinding?_eq_some_iff _ _).mpr through]
  rfl

/-! ## The parts of a body -/

/-- Members come and go with what is known, but clauses for ancestors fit anywhere. -/
theorem memberStatements_filter {options : Options} {path : Path} {before behind : Knowledge}
    {statements interfaces : List Node} {members : List (Member × Bool)}
    (derives : MemberStatements options path before statements interfaces members behind)
    (knowledge : Knowledge) :
    MemberStatements options path knowledge (statements.filter (·.isInterfaceStatement))
      interfaces [] knowledge := by
  induction derives with
  | nil => exact .nil knowledge
  | implements subclass more others hypothesis => exact .implements subclass more hypothesis
  | write through known adds others hypothesis =>
      rw [List.filter_cons_of_neg (Bool.eq_false_iff.mp
        (isInterfaceStatement_of_readsRegister through _ _))]
      exact hypothesis
  | learn through unknown carries adds others hypothesis =>
      rw [List.filter_cons_of_neg (Bool.eq_false_iff.mp
        (isInterfaceStatement_of_readsRegister through _ _))]
      exact hypothesis

theorem implemented_of_memberStatements {options : Options} {path : Path}
    {before behind : Knowledge} {statements interfaces : List Node}
    {members : List (Member × Bool)}
    (derives : MemberStatements options path before statements interfaces members behind) :
    statements.flatMap (·.implemented) = interfaces := by
  induction derives with
  | nil => rfl
  | implements subclass more others hypothesis => exact congrArg (more ++ ·) hypothesis
  | write through known adds others hypothesis => exact hypothesis
  | learn through unknown carries adds others hypothesis => exact hypothesis

theorem isClassStatement_of_memberStatements {options : Options} {path : Path}
    {before behind : Knowledge} {statements interfaces : List Node}
    {members : List (Member × Bool)}
    (derives : MemberStatements options path before statements interfaces members behind) :
    ∀ statement ∈ statements,
      statement.isClassStatement = true ∨ statement.kind = .implementsClause := by
  induction derives with
  | nil => exact fun _ member => absurd member List.not_mem_nil
  | implements subclass more others hypothesis =>
      exact List.forall_mem_cons.mpr ⟨Or.inr rfl, hypothesis⟩
  | write through known adds others hypothesis =>
      exact List.forall_mem_cons.mpr
        ⟨Or.inl (isClassStatement_of_readsRegister through _ _), hypothesis⟩
  | learn through unknown carries adds others hypothesis =>
      exact List.forall_mem_cons.mpr
        ⟨Or.inl (isClassStatement_of_readsRegister through _ _), hypothesis⟩

theorem implemented_of_implementsClauses {statements interfaces : List Node}
    (fits : ImplementsClauses statements interfaces) :
    statements.flatMap (·.implemented) = interfaces := by
  induction fits with
  | nil => rfl
  | cons subclass more others hypothesis => exact congrArg (more ++ ·) hypothesis

theorem filter_of_implementsClauses {statements interfaces : List Node}
    (fits : ImplementsClauses statements interfaces) :
    statements.filter (·.isInterfaceStatement) = statements :=
  List.filter_eq_self.mpr fun statement member =>
    (isClassStatement_of_kind (kind_of_implementsClauses fits statement member)).2

/-- Of an opening only the clauses for ancestors count. -/
theorem opening_filter {options : Options} {path : Path} {opening interfaces : List Node}
    {finish : Knowledge} {added : List (Member × Bool)}
    (opens : Opening options path opening finish interfaces added) :
    Opening options path (opening.filter (·.isInterfaceStatement)) {} interfaces [] ∧
      opening.flatMap (·.implemented) = interfaces := by
  cases opens with
  | @intro clause binding members interfaces superclass start finish added clauseFits bindingFits
      membersFit =>
      have noClause : clause.filter (·.isInterfaceStatement) = [] ∧
          clause.flatMap (·.implemented) = [] := by
        cases clauseFits <;> exact ⟨rfl, rfl⟩
      have noBinding : binding.filter (·.isInterfaceStatement) = [] ∧
          binding.flatMap (·.implemented) = [] := by
        cases bindingFits <;> exact ⟨rfl, rfl⟩
      rw [List.filter_append, List.filter_append, List.flatMap_append, List.flatMap_append,
        noClause.1, noClause.2, noBinding.1, noBinding.2]
      exact ⟨.intro .absent .absent (memberStatements_filter membersFit {}),
        implemented_of_memberStatements membersFit⟩

/-! ## Whole bodies -/

theorem interfaceBody_filter {options : Options} {path : Path} {parts : List Node}
    {declaration : InterfaceDecl} (body : InterfaceBody options path parts declaration) :
    InterfaceBody options path (parts.filter (·.isInterfaceStatement)) declaration ∧
      declaration.superinterfaces = parts.flatMap (·.implemented) := by
  cases body with
  | @intro opening clauses before behind write name finish added opens writeFits clausesFit
      named =>
      have kept := isInterfaceStatement_of_directWrite writeFits.direct
      have own : [write].filter (·.isInterfaceStatement) = [write] :=
        List.filter_cons_of_pos kept.1
      have none : [write].flatMap (·.implemented) = [] :=
        (List.flatMap_singleton _ write).trans kept.2
      constructor
      · rw [List.filter_append, List.filter_append, own, filter_of_implementsClauses clausesFit]
        exact .intro (opening_filter opens).1 writeFits clausesFit named
      · rw [List.flatMap_append, List.flatMap_append, none, List.append_nil,
          (opening_filter opens).2, implemented_of_implementsClauses clausesFit]

/-- Without a superclass and without members a body has nothing in front of its write but
the binding of the registers and clauses for ancestors. -/
theorem interfaceBody_split {options : Options} {path : Path} {parts : List Node}
    {declaration : InterfaceDecl} (body : InterfaceBody options path parts declaration)
    (bare : ∀ statement ∈ parts, statement.isClassStatement = false) :
    ∃ binding start before write behind, parts = binding ++ before ++ [write] ++ behind ∧
      BindingStatement options path none binding start ∧ InterfaceWrite options path write ∧
        ∀ statement ∈ before ++ behind, statement.kind = .implementsClause := by
  cases body with
  | @intro opening clauses before behind write name finish added opens writeFits clausesFit
      named =>
      cases opens with
      | @intro clause binding members interfaces superclass start finish added clauseFits
          bindingFits membersFit =>
          cases clauseFits with
          | present subclass superclass =>
              cases bare _ List.mem_cons_self
          | absent =>
              refine ⟨binding, start, members, write, clauses, rfl, bindingFits, writeFits, ?_⟩
              intro statement member
              rcases List.mem_append.mp member with inMembers | inClauses
              · rcases isClassStatement_of_memberStatements membersFit statement inMembers with
                  lost | kind
                · have inParts : statement ∈ [] ++ binding ++ members ++ [write] ++ clauses := by
                    simp only [List.mem_append, inMembers, or_true, true_or]
                  cases lost.symm.trans (bare statement inParts)
                · exact kind
              · exact kind_of_implementsClauses clausesFit statement inClauses

theorem isClassStatement_of_split {options : Options} {path : Path}
    {binding before behind : List Node} {write : Node} {start : Knowledge}
    (bindingFits : BindingStatement options path none binding start)
    (writeFits : InterfaceWrite options path write)
    (clauses : ∀ statement ∈ before ++ behind, statement.kind = .implementsClause) :
    ∀ statement ∈ binding ++ before ++ [write] ++ behind,
      statement.isClassStatement = false := by
  intro statement member
  simp only [List.mem_append] at member
  rcases member with ((inBinding | inBefore) | isWrite) | inBehind
  · cases bindingFits with
    | absent => cases inBinding
    | present distinct assigns creates => rw [List.mem_singleton.mp inBinding]; rfl
  · exact (isClassStatement_of_kind (clauses statement (List.mem_append_left _ inBefore))).1
  · rw [List.mem_singleton.mp isWrite]
    exact isClassStatement_of_directWrite writeFits.direct
  · exact (isClassStatement_of_kind (clauses statement (List.mem_append_right _ inBehind))).1

/-- An accepted interface is declared by its own write and the clauses for its ancestors
alone: the body without its other statements declares the same, and the ancestors are
those of all the clauses.  Behind the write there are no other statements.  In front of
it the body names no superclass and writes no member exactly when it has nothing there
but clauses for ancestors, and the binding of the registers at its beginning. -/
theorem ofBody_filter_isInterfaceStatement {options : Options} {path : Path}
    {parts : List Node} {declaration : InterfaceDecl}
    (accepted : Declaration.ofBody options path parts = .ok (.interfaceDecl declaration)) :
    Declaration.ofBody options path (parts.filter (·.isInterfaceStatement)) =
        .ok (.interfaceDecl declaration) ∧
      declaration.superinterfaces = parts.flatMap (·.implemented) ∧
      (∃ front write behind, parts = front ++ [write] ++ behind ∧
        InterfaceWrite options path write ∧
        ∀ statement ∈ behind, statement.kind = .implementsClause) ∧
      ((∀ statement ∈ parts, statement.isClassStatement = false) ↔
        ∃ binding start before write behind, parts = binding ++ before ++ [write] ++ behind ∧
          BindingStatement options path none binding start ∧
          InterfaceWrite options path write ∧
          ∀ statement ∈ before ++ behind, statement.kind = .implementsClause) := by
  rcases interfaceBody_of_ofBody accepted with ⟨nonempty, body⟩
  have kept := interfaceBody_filter body
  refine ⟨ofBody_of_interfaceBody nonempty kept.1, kept.2, ?_, interfaceBody_split body, ?_⟩
  · cases body with
    | intro opens writeFits clausesFit named =>
        exact ⟨_, _, _, rfl, writeFits, kind_of_implementsClauses clausesFit⟩
  · rintro ⟨binding, start, before, write, behind, rfl, bindingFits, writeFits, clauses⟩
    exact isClassStatement_of_split bindingFits writeFits clauses

/-- A superclass, a constructor and a method, all in front of the write of an interface. -/
def overfullBody : List Node :=
  [.extendsClause (Idiom.globalRead {} ["I"]) (Idiom.globalRead {} ["Base"]),
    .storeRegister 1 (.memberNamed
      (.temporaryRegister 2
        (Idiom.globalWrite {} [] "I" (.storeRegister 2 (.function .empty)))) "prototype"),
    .assignMember (.register 1) "run" (.function (.anonymous [] [.unresolved "go()"])),
    Idiom.globalWrite {} [] "I" (Idiom.emptyFunction none),
    .implementsClause (Idiom.globalRead {} ["I"]) [.variableNamed "J"]]

def overfullInterface : InterfaceDecl :=
  ⟨.variableNamed "I", ["I"], [.variableNamed "J"]⟩

theorem ofBody_overfullBody :
    Declaration.ofBody {} ["I"] overfullBody = .ok (.interfaceDecl overfullInterface) := rfl

theorem ofBody_filter_overfullBody :
    Declaration.ofBody {} ["I"] overfullBody = .ok (.interfaceDecl overfullInterface) ∧
      Declaration.ofBody {} ["I"] (overfullBody.filter (·.isInterfaceStatement)) =
          .ok (.interfaceDecl overfullInterface) ∧
        overfullInterface.superinterfaces = overfullBody.flatMap (·.implemented) ∧
        (∃ front write behind, overfullBody = front ++ [write] ++ behind ∧
          InterfaceWrite {} ["I"] write ∧
          ∀ statement ∈ behind, statement.kind = .implementsClause) ∧
        ((∀ statement ∈ overfullBody, statement.isClassStatement = false) ↔
          ∃ binding start before write behind,
            overfullBody = binding ++ before ++ [write] ++ behind ∧
              BindingStatement {} ["I"] none binding start ∧ InterfaceWrite {} ["I"] write ∧
              ∀ statement ∈ before ++ behind, statement.kind = .implementsClause) :=
  ⟨ofBody_overfullBody, ofBody_filter_isInterfaceStatement ofBody_overfullBody⟩

/-- The superclass and the method are gone: the body is accepted as an interface, and they
are no part of what it declares. -/
theorem overfullBody_members_lost :
    Declaration.ofBody {} ["I"] overfullBody =
        .ok (.interfaceDecl ⟨.variableNamed "I", ["I"], [.variableNamed "J"]⟩) ∧
      (∃ clause ∈ overfullBody, clause.kind = .extendsClause) ∧
      ∃ object name value register carried, .setMember object name value ∈ overfullBody ∧
        object.registerBinding? = some (register, carried) :=
  ⟨ofBody_overfullBody, ⟨_, List.mem_cons_self, rfl⟩, _, _, _, 1, none,
    List.mem_cons_of_mem _ (List.mem_cons_of_mem _ List.mem_cons_self), rfl⟩

end ClassRecovery
