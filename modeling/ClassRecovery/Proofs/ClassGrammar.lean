import ClassRecovery.Proofs.TrailingCalls

namespace ClassRecovery

/-!
# Bodies are read as the grammar says

A reader keeps a draft where the grammar speaks of what is known and what is
added.  The two are tied together here part by part, and then for whole bodies:
a body is accepted as a class exactly when the grammar derives it, and the class
is the one that the derivation describes.

The reader also learns the name of the class, several times over in some bodies.
It can only ever learn the chain that reads the path, so the grammar does not
mention it.
-/

open Grammar

/-! ## Drafts and what they know -/

namespace Draft

/-- What a draft knows of the objects of the class. -/
def knowledge (draft : Draft) : Knowledge :=
  ⟨draft.roles, draft.construct, draft.superclass⟩

/-- A draft has not learnt any other name than that of the path. -/
def Named (path : Path) (draft : Draft) : Prop :=
  draft.name = none ∨ draft.name = Node.ofPath? path

/-- A draft after statements that add interfaces and members, but no properties. -/
structure Grows (path : Path) (draft : Draft) (behind : Knowledge) (interfaces : List Node)
    (members : List (Member × Bool)) (after : Draft) : Prop where
  knowledge : after.knowledge = behind
  interfaces : after.interfaces = draft.interfaces ++ interfaces
  members : after.members = draft.members ++ members
  properties : after.properties = draft.properties
  named : draft.Named path → after.Named path

namespace Grows

theorem refl (path : Path) (draft : Draft) : Grows path draft draft.knowledge [] [] draft :=
  ⟨rfl, (List.append_nil _).symm, (List.append_nil _).symm, rfl, id⟩

theorem trans {path : Path} {draft middle after : Draft} {between behind : Knowledge}
    {interfaces more : List Node} {members others : List (Member × Bool)}
    (first : Grows path draft between interfaces members middle)
    (second : Grows path middle behind more others after) :
    Grows path draft behind (interfaces ++ more) (members ++ others) after where
  knowledge := second.knowledge
  interfaces := by rw [second.interfaces, first.interfaces, List.append_assoc]
  members := by rw [second.members, first.members, List.append_assoc]
  properties := second.properties.trans first.properties
  named := second.named ∘ first.named

end Grows

/-- A draft holds what the opening of a body has said, and nothing else. -/
structure Holds (path : Path) (finish : Knowledge) (interfaces : List Node)
    (members : List (Member × Bool)) (draft : Draft) : Prop where
  knowledge : draft.knowledge = finish
  interfaces : draft.interfaces = interfaces
  members : draft.members = members
  properties : draft.properties = []
  named : draft.Named path

/-- A draft of nothing but a superclass holds all that it has grown by. -/
theorem Grows.holds {path : Path} {superclass : Option Node} {finish : Knowledge}
    {interfaces : List Node} {members : List (Member × Bool)} {after : Draft}
    (grown : Grows path { superclass := superclass } finish interfaces members after) :
    Holds path finish interfaces members after where
  knowledge := grown.knowledge
  interfaces := grown.interfaces
  members := grown.members
  properties := grown.properties
  named := grown.named (Or.inl rfl)

theorem Named.or_eq {path : Path} {draft : Draft} (named : draft.Named path) :
    draft.name.or (Node.ofPath? path) = Node.ofPath? path := by
  rcases named with none | same
  · rw [none, Option.none_or]
  · rw [same, Option.or_self]

/-! ## One member -/

theorem writtenMember_iff (name value : Node) (member : Member) :
    WrittenMember name value member ↔ member = memberOf name value := by
  constructor
  · intro adds
    cases adds with
    | function function => rw [memberOf, function.namedAs_eq]
    | other noFunction =>
        cases value with
        | function function => exact absurd rfl (noFunction function)
        | _ => rfl
  · rintro rfl
    cases value with
    | function function =>
        rw [memberOf, function.namedAs_eq]
        exact .function function
    | _ =>
        refine .other fun function same => ?_
        cases same

theorem knowledge_applyBinding (draft : Draft) (register : UInt32) (binding : Binding) :
    (draft.applyBinding (draft.roles.set register binding.role) binding).knowledge =
      draft.knowledge.learn register binding := by
  cases binding <;> rfl

/-- A binding brings no name but that of the path. -/
theorem named_applyBinding {options : Options} {path : Path} {register : UInt32}
    {carried : Option Node} {binding : Binding}
    (carries : Carries options path register carried binding) (nonempty : path ≠ [])
    (draft : Draft) (roles : Roles) : (draft.applyBinding roles binding).Named path := by
  apply Or.inr
  cases carries with
  | classObject construct other reads => exact (reads.ofPath?_withoutRoot nonempty).symm
  | prototypeObject constructed reads => exact (reads.ofPath?_withoutRoot nonempty).symm

/-- The role of a register is what is known, or what the carried value says where
nothing is known. -/
theorem resolveRole_eq_ok_iff (options : Options) (path : Path) (draft : Draft)
    (register : UInt32) (carried : Option Node) (resolved : Role × Draft) :
    draft.resolveRole options path register carried = .ok resolved ↔
      (draft.roles.roleOf register = some resolved.1 ∧ resolved.2 = draft) ∨
      (draft.roles.roleOf register = none ∧ ∃ binding,
        Carries options path register carried binding ∧ resolved.1 = binding.role ∧
          resolved.2 = draft.applyBinding (draft.roles.set register binding.role) binding) := by
  unfold resolveRole
  cases known : draft.roles.roleOf register with
  | some role =>
      constructor
      · intro same
        cases same
        exact Or.inl ⟨rfl, rfl⟩
      · rintro (⟨same, rest⟩ | ⟨impossible, _⟩)
        · cases same
          rw [← rest]
        · cases impossible
  | none =>
      constructor
      · intro derived
        rcases (bind_eq_ok_iff _ _ _).mp derived with ⟨⟨binding, roles⟩, learnt, finished⟩
        rcases (Roles.derive_eq_ok_iff _ _ _ _ _ _ _).mp learnt with ⟨carries, assigned⟩
        rw [Roles.assign_of_unknown known] at assigned
        cases assigned
        cases finished
        exact Or.inr ⟨rfl, binding, carries, rfl, rfl⟩
      · rintro (⟨impossible, _⟩ | ⟨_, binding, carries, role, rest⟩)
        · cases impossible
        · have learnt := (Roles.derive_eq_ok_iff options path draft.roles _ register carried
            binding).mpr ⟨carries, Roles.assign_of_unknown known binding.role⟩
          exact (bind_eq_ok_iff _ _ _).mpr
            ⟨_, learnt, congrArg Except.ok (Prod.ext role.symm rest.symm)⟩

/-- A draft with one more member. -/
def withMember (draft : Draft) (name value : Node) (role : Role) : Draft :=
  { draft with members := draft.members ++ [(memberOf name value, decide (role = .classObject))] }

theorem addMember_eq_ok_iff (options : Options) (path : Path) (draft after : Draft)
    (register : UInt32) (carried : Option Node) (name value : Node) :
    draft.addMember options path register carried name value = .ok after ↔
      (∃ role, draft.roles.roleOf register = some role ∧ after = draft.withMember name value role) ∨
      (draft.roles.roleOf register = none ∧ ∃ binding,
        Carries options path register carried binding ∧
          after = (draft.applyBinding (draft.roles.set register binding.role) binding).withMember
            name value binding.role) := by
  constructor
  · intro added
    rcases (bind_eq_ok_iff _ _ _).mp added with ⟨⟨role, middle⟩, resolved, finished⟩
    cases finished
    rcases (resolveRole_eq_ok_iff _ _ _ _ _ _).mp resolved with
      ⟨known, same⟩ | ⟨unknown, binding, carries, hasRole, learnt⟩
    · cases same
      exact Or.inl ⟨role, known, rfl⟩
    · cases hasRole
      cases learnt
      exact Or.inr ⟨unknown, binding, carries, rfl⟩
  · rintro (⟨role, known, rfl⟩ | ⟨unknown, binding, carries, rfl⟩)
    · exact (bind_eq_ok_iff _ _ _).mpr
        ⟨(role, draft), (resolveRole_eq_ok_iff _ _ _ _ _ _).mpr (Or.inl ⟨known, rfl⟩), rfl⟩
    · exact (bind_eq_ok_iff _ _ _).mpr ⟨(binding.role, _),
        (resolveRole_eq_ok_iff _ _ _ _ _ _).mpr (Or.inr ⟨unknown, binding, carries, rfl, rfl⟩), rfl⟩

theorem grows_withMember (path : Path) (draft : Draft) (name value : Node) (role : Role) :
    Grows path draft draft.knowledge [] [(memberOf name value, decide (role = .classObject))]
      (draft.withMember name value role) :=
  ⟨rfl, (List.append_nil _).symm, rfl, rfl, id⟩

theorem grows_applyBinding {options : Options} {path : Path} {register : UInt32}
    {carried : Option Node} {binding : Binding}
    (carries : Carries options path register carried binding) (nonempty : path ≠ [])
    (draft : Draft) :
    Grows path draft (draft.knowledge.learn register binding) [] []
      (draft.applyBinding (draft.roles.set register binding.role) binding) where
  knowledge := knowledge_applyBinding draft register binding
  interfaces := by cases binding <;> exact (List.append_nil _).symm
  members := by cases binding <;> exact (List.append_nil _).symm
  properties := by cases binding <;> rfl
  named := fun _ => named_applyBinding carries nonempty draft _

theorem grows_addInterfaces (path : Path) (draft : Draft) (interfaces : List Node) :
    Grows path draft draft.knowledge interfaces [] (draft.addInterfaces interfaces) :=
  ⟨rfl, rfl, (List.append_nil _).symm, rfl, id⟩

end Draft

/-! ## Members in a row -/

/-- Whether a statement belongs to the members of a body: a write through a register,
or an implemented interface. -/
def Node.isMemberStatement : Node → Bool
  | .setMember object _ _ => object.registerBinding?.isSome
  | .implementsClause .. => true
  | _ => false

/-- Reading passes the members that the grammar derives, and goes on behind them
with a draft that has grown by them. -/
theorem takeMembers_append {options : Options} {path : Path} {before behind : Knowledge}
    {statements interfaces : List Node} {members : List (Member × Bool)}
    (derives : MemberStatements options path before statements interfaces members behind)
    (nonempty : path ≠ []) (draft : Draft) (same : draft.knowledge = before) :
    ∃ after, draft.Grows path behind interfaces members after ∧
      ∀ rest, takeMembers options path draft (statements ++ rest) =
        takeMembers options path after rest := by
  induction derives generalizing draft with
  | nil knowledge =>
      subst same
      exact ⟨draft, .refl path draft, fun rest => rfl⟩
  | implements subclass more others hypothesis =>
      rcases hypothesis (draft.addInterfaces more) same with ⟨after, grows, passes⟩
      exact ⟨after, (Draft.grows_addInterfaces path draft more).trans grows, passes⟩
  | @write before behind statements interfaces members object register carried role name value
      member through known adds others hypothesis =>
      subst same
      cases (Draft.writtenMember_iff name value member).mp adds
      have found := (object.registerBinding?_eq_some_iff register carried).mpr through
      have added := (Draft.addMember_eq_ok_iff options path draft _ register carried name value).mpr
        (Or.inl ⟨role, known, rfl⟩)
      rcases hypothesis (draft.withMember name value role) rfl with ⟨after, grows, passes⟩
      refine ⟨after, (Draft.grows_withMember path draft name value role).trans grows, ?_⟩
      intro rest
      rw [List.cons_append, takeMembers, found]
      dsimp only
      rw [added]
      exact passes rest
  | @learn before behind statements interfaces members object register carried binding name value
      member through unknown carries adds others hypothesis =>
      subst same
      cases (Draft.writtenMember_iff name value member).mp adds
      have found := (object.registerBinding?_eq_some_iff register carried).mpr through
      have added := (Draft.addMember_eq_ok_iff options path draft _ register carried name value).mpr
        (Or.inr ⟨unknown, binding, carries, rfl⟩)
      have learnt := Draft.grows_applyBinding carries nonempty draft
      have written := Draft.grows_withMember path
        (draft.applyBinding (draft.roles.set register binding.role) binding) name value binding.role
      rcases hypothesis _ (written.knowledge.trans learnt.knowledge) with ⟨after, grows, passes⟩
      refine ⟨after, (learnt.trans written).trans grows, ?_⟩
      intro rest
      rw [List.cons_append, takeMembers, found]
      dsimp only
      rw [added]
      exact passes rest

/-- What is read begins with members that the grammar derives, and the next statement
is not one of them. -/
def SplitsMembers (options : Options) (path : Path) (draft : Draft) (parts : List Node)
    (read : Members) : Prop :=
  ∃ statements rest interfaces members behind after,
    parts = statements ++ rest ∧
      MemberStatements options path draft.knowledge statements interfaces members behind ∧
      draft.Grows path behind interfaces members after ∧
      takeMembers options path after rest = .ok read ∧
      ∀ statement, rest.head? = some statement → statement.isMemberStatement = false

/-- Where no member stands, the derivation is empty. -/
theorem splitsMembers_of_stopped {options : Options} {path : Path} {draft : Draft}
    {parts : List Node} {read : Members}
    (taken : takeMembers options path draft parts = .ok read)
    (others : ∀ statement, parts.head? = some statement → statement.isMemberStatement = false) :
    SplitsMembers options path draft parts read :=
  ⟨[], parts, [], [], draft.knowledge, draft, rfl, .nil _, .refl path draft, taken, others⟩

theorem takeMembers_split {options : Options} {path : Path} {draft : Draft} {parts : List Node}
    {read : Members} (nonempty : path ≠ [])
    (taken : takeMembers options path draft parts = .ok read) :
    SplitsMembers options path draft parts read := by
  induction draft, parts using takeMembers.induct with
  | case1 draft object name value rest register carried through hypothesis =>
      rw [takeMembers, through] at taken
      have reads := (object.registerBinding?_eq_some_iff register carried).mp through
      have adds := (Draft.writtenMember_iff name value _).mpr rfl
      rcases (bind_eq_ok_iff _ _ _).mp taken with ⟨next, added, taken⟩
      rcases hypothesis next taken with
        ⟨statements, left, interfaces, members, behind, after, whole, derives, grows, others⟩
      rcases (Draft.addMember_eq_ok_iff _ _ _ _ _ _ _ _).mp added with
        ⟨role, known, rfl⟩ | ⟨unknown, binding, carries, rfl⟩
      · refine ⟨.setMember object name value :: statements, left, interfaces, _, behind, after, ?_,
          .write reads known adds derives,
          (Draft.grows_withMember path draft name value role).trans grows, others⟩
        rw [whole, List.cons_append]
      · have learnt := Draft.grows_applyBinding carries nonempty draft
        have written := Draft.grows_withMember path
          (draft.applyBinding (draft.roles.set register binding.role) binding) name value
          binding.role
        rw [written.knowledge, learnt.knowledge] at derives
        refine ⟨.setMember object name value :: statements, left, interfaces, _, behind, after, ?_,
          .learn reads unknown carries adds derives,
          (learnt.trans written).trans grows, others⟩
        rw [whole, List.cons_append]
  | case2 draft object name value rest through =>
      refine splitsMembers_of_stopped taken fun statement first => ?_
      cases first
      rw [Node.isMemberStatement, through]
      rfl
  | case3 draft name value rest =>
      refine splitsMembers_of_stopped taken fun statement first => ?_
      cases first
      rfl
  | case4 draft subclass more rest hypothesis =>
      rcases hypothesis taken with
        ⟨statements, left, interfaces, members, behind, after, whole, derives, grows, others⟩
      refine ⟨.implementsClause subclass more :: statements, left, more ++ interfaces, members,
        behind, after, ?_, .implements subclass more derives,
        (Draft.grows_addInterfaces path draft more).trans grows, others⟩
      rw [whole, List.cons_append]
  | case5 draft parts noMember noVariable noClause =>
      refine splitsMembers_of_stopped taken fun statement first => ?_
      rcases List.head?_eq_some_iff.mp first with ⟨rest, whole⟩
      cases statement with
      | setMember object name value => exact absurd whole (noMember object name value rest)
      | implementsClause subclass more => exact absurd whole (noClause subclass more rest)
      | _ => rfl

/-- Where no member stands, only calls can follow in a class. -/
theorem takeMembers_stopped {options : Options} {path : Path} {draft after : Draft}
    {parts rest : List Node}
    (others : ∀ statement, parts.head? = some statement → statement.isMemberStatement = false)
    (taken : takeMembers options path draft parts = .ok (.calls after rest)) :
    draft = after ∧ parts = rest := by
  rw [takeMembers.eq_def] at taken
  split at taken
  · next object name value rest =>
      split at taken
      · next register carried through =>
          have other := others _ rfl
          rw [Node.isMemberStatement, through] at other
          cases other
      · rcases (bind_eq_ok_iff _ _ _).mp taken with ⟨declaration, _, finished⟩
        cases finished
  · rcases (bind_eq_ok_iff _ _ _).mp taken with ⟨declaration, _, finished⟩
    cases finished
  · cases others _ rfl
  · cases taken
    exact ⟨rfl, rfl⟩

/-! ## The parts in front of the members -/

theorem takeSuperclass_split (options : Options) (parts : List Node) :
    ∃ clause, parts = clause ++ (takeSuperclass options parts).2 ∧
      SuperclassClause options clause (takeSuperclass options parts).1 := by
  unfold takeSuperclass
  split
  · next subclass superclass rest =>
      exact ⟨[.extendsClause subclass superclass], rfl, .present subclass superclass⟩
  · exact ⟨[], rfl, .absent⟩

theorem takeSuperclass_append {options : Options} {clause rest : List Node}
    {superclass : Option Node} (fits : SuperclassClause options clause superclass)
    (others : ∀ statement ∈ rest, statement.kind ≠ .extendsClause) :
    takeSuperclass options (clause ++ rest) = (superclass, rest) := by
  cases fits with
  | present subclass superclass => rfl
  | absent =>
      rw [List.nil_append]
      unfold takeSuperclass
      split
      · exact absurd rfl (others _ List.mem_cons_self)
      · rfl

theorem bindBoth_eq_ok_iff (options : Options) (path : Path) (superclass : Option Node)
    (prototypeRegister : UInt32) (value : Node) (after : Draft) :
    Draft.bindBoth options path { superclass := superclass } prototypeRegister value = .ok after ↔
      ∃ classRegister stored write construct target,
        value = .memberNamed (.temporaryRegister classRegister write) options.prototypeMember ∧
        Assigns options path write ∧
        write.Writes (.storeRegister stored (.function construct)) ∧
        write.target? = some target ∧
        prototypeRegister ≠ classRegister ∧
        after =
          { roles := ⟨some classRegister, some prototypeRegister⟩
            name := some (target.withoutRoot options.rootNamespace)
            superclass := superclass
            construct := some construct } := by
  constructor
  · intro bound
    rcases (bind_eq_ok_iff _ _ _).mp bound with ⟨⟨register, write⟩, shape, bound⟩
    rcases (bind_eq_ok_iff _ _ _).mp bound with ⟨⟨name, construct⟩, created, bound⟩
    rcases (bind_eq_ok_iff _ _ _).mp bound with ⟨first, assigned, bound⟩
    rcases (bind_eq_ok_iff _ _ _).mp bound with ⟨roles, both, finished⟩
    rcases (createdClass_eq_ok_iff _ _ _ _).mp created with
      ⟨assigns, ⟨stored, written⟩, target, hasTarget, named⟩
    rcases (Roles.assign_both_eq_ok_iff register prototypeRegister roles).mp
      ((bind_eq_ok_iff _ _ _).mpr ⟨first, assigned, both⟩) with ⟨distinct, rfl⟩
    cases finished
    cases named
    exact ⟨register, stored, write, construct, target,
      (classRegister_eq_ok_iff options value (register, write)).mp shape, assigns, written,
      hasTarget, distinct, rfl⟩
  · rintro ⟨register, stored, write, construct, target, shape, assigns, written, hasTarget,
      distinct, rfl⟩
    have created := (createdClass_eq_ok_iff options path write (_, construct)).mpr
      ⟨assigns, ⟨stored, written⟩, target, hasTarget, rfl⟩
    rcases (bind_eq_ok_iff _ _ _).mp ((Roles.assign_both_eq_ok_iff register prototypeRegister
      _).mpr ⟨distinct, rfl⟩) with ⟨first, assigned, both⟩
    exact (bind_eq_ok_iff _ _ _).mpr ⟨(register, write),
      (classRegister_eq_ok_iff options value (register, write)).mpr shape,
      (bind_eq_ok_iff _ _ _).mpr ⟨_, created, (bind_eq_ok_iff _ _ _).mpr ⟨first, assigned,
        (bind_eq_ok_iff _ _ _).mpr ⟨_, both, rfl⟩⟩⟩⟩

theorem takeBinding_split {options : Options} {path : Path} {superclass : Option Node}
    {parts : List Node} {taken : Draft × List Node} (nonempty : path ≠ [])
    (read : takeBinding options path { superclass := superclass } parts = .ok taken) :
    ∃ binding, parts = binding ++ taken.2 ∧
      BindingStatement options path superclass binding taken.1.knowledge ∧
      Draft.Grows path { superclass := superclass } taken.1.knowledge [] [] taken.1 := by
  unfold takeBinding at read
  split at read
  · next register value rest =>
      rcases (bind_eq_ok_iff _ _ _).mp read with ⟨draft, bound, finished⟩
      rcases (bindBoth_eq_ok_iff _ _ _ _ _ _).mp bound with ⟨classRegister, stored, write,
        construct, target, rfl, assigns, written, hasTarget, distinct, rfl⟩
      cases finished
      refine ⟨[_], rfl, .present distinct assigns written, rfl, rfl, rfl, rfl, fun _ => Or.inr ?_⟩
      exact (assigns.ofPath?_target hasTarget nonempty).symm
  · cases read
    exact ⟨[], rfl, .absent, .refl _ _⟩

theorem takeBinding_append {options : Options} {path : Path} {superclass : Option Node}
    {binding rest : List Node} {start : Knowledge} (nonempty : path ≠ [])
    (fits : BindingStatement options path superclass binding start)
    (others : ∀ statement ∈ rest, statement.kind ≠ .storeRegister) :
    ∃ draft, Draft.Grows path { superclass := superclass } start [] [] draft ∧
      takeBinding options path { superclass := superclass } (binding ++ rest) =
        .ok (draft, rest) := by
  cases fits with
  | absent =>
      refine ⟨{ superclass := superclass }, .refl _ _, ?_⟩
      rw [List.nil_append]
      unfold takeBinding
      split
      · exact absurd rfl (others _ List.mem_cons_self)
      · rfl
  | @present prototypeRegister classRegister stored write construct distinct assigns written =>
      cases hasTarget : write.target? with
      | none =>
          rcases assigns with ⟨found, hasPath, _⟩
          rw [Node.writePath?_eq_bind_target?, hasTarget] at hasPath
          cases hasPath
      | some target =>
          have bound := (bindBoth_eq_ok_iff options path superclass prototypeRegister _ _).mpr
            ⟨classRegister, stored, write, construct, target, rfl, assigns, written, hasTarget,
              distinct, rfl⟩
          refine ⟨_, ?_, (bind_eq_ok_iff _ _ _).mpr ⟨_, bound, rfl⟩⟩
          refine ⟨rfl, rfl, rfl, rfl, fun _ => Or.inr ?_⟩
          exact (assigns.ofPath?_target hasTarget nonempty).symm

/-! ## The finished class -/

theorem finish_eq_ok_iff (path : Path) (draft : Draft) (declaration : ClassDecl) :
    draft.finish path = .ok declaration ↔
      ∃ construct last name, draft.construct = some construct ∧ path.getLast? = some last ∧
        draft.name.or (Node.ofPath? path) = some name ∧
        declaration = classOf path name last construct draft.superclass draft.interfaces
          draft.members draft.properties := by
  unfold Draft.finish
  constructor
  · intro finished
    split at finished
    · cases finished
    · next construct constructs =>
        split at finished
        · next last name ends named =>
            cases finished
            exact ⟨construct, last, name, constructs, ends, named, rfl⟩
        · cases finished
  · rintro ⟨construct, last, name, constructs, ends, named, rfl⟩
    simp only [constructs, ends, named]
    rfl

/-! ## Kinds of statements in the parts of a body -/

theorem kind_of_memberStatements {options : Options} {path : Path} {before behind : Knowledge}
    {statements interfaces : List Node} {members : List (Member × Bool)}
    (derives : MemberStatements options path before statements interfaces members behind) :
    ∀ statement ∈ statements, statement.kind = .setMember ∨ statement.kind = .implementsClause := by
  induction derives with
  | nil knowledge => exact fun _ member => absurd member List.not_mem_nil
  | implements subclass more others hypothesis =>
      exact List.forall_mem_cons.mpr ⟨Or.inr rfl, hypothesis⟩
  | write through known adds others hypothesis =>
      exact List.forall_mem_cons.mpr ⟨Or.inl rfl, hypothesis⟩
  | learn through unknown carries adds others hypothesis =>
      exact List.forall_mem_cons.mpr ⟨Or.inl rfl, hypothesis⟩

theorem kind_of_callStatements {options : Options} {path : Path} {roles : Roles}
    {statements : List Node} {properties : List Property}
    (derives : CallStatements options path roles statements properties) :
    ∀ statement ∈ statements,
      statement.kind = .callMethod ∨ statement.kind = .callFunction ∨ statement.kind = .push := by
  induction derives with
  | nil => exact fun _ member => absurd member List.not_mem_nil
  | cons first others hypothesis =>
      refine List.forall_mem_cons.mpr ⟨?_, hypothesis⟩
      cases first with
      | pushed derives => exact Or.inr (Or.inr rfl)
      | bare derives =>
          cases derives with
          | property => exact Or.inl rfl
          | hideMembers => exact Or.inr (Or.inl rfl)

/-- Reading members stops where the calls begin. -/
theorem takeMembers_of_calls {options : Options} {path : Path} {roles : Roles}
    {statements : List Node} {properties : List Property}
    (derives : CallStatements options path roles statements properties) (draft : Draft) :
    takeMembers options path draft statements = .ok (.calls draft statements) := by
  have kinds := kind_of_callStatements derives
  cases statements with
  | nil => rfl
  | cons statement rest =>
      cases statement with
      | callMethod | callFunction | push => rfl
      | _ => rcases kinds _ List.mem_cons_self with kind | kind | kind <;> cases kind

/-! ## What a body opens with -/

theorem opening_of_read {options : Options} {path : Path} {parts left : List Node}
    {start : Draft} {read : Members} (nonempty : path ≠ [])
    (bound : takeBinding options path { superclass := (takeSuperclass options parts).1 }
      (takeSuperclass options parts).2 = .ok (start, left))
    (taken : takeMembers options path start left = .ok read) :
    ∃ opening rest finish interfaces added after,
      parts = opening ++ rest ∧
        Opening options path opening finish interfaces added ∧
        Draft.Holds path finish interfaces added after ∧
        takeMembers options path after rest = .ok read ∧
        ∀ statement, rest.head? = some statement → statement.isMemberStatement = false := by
  rcases takeSuperclass_split options parts with ⟨clause, whole, clauseFits⟩
  rcases takeBinding_split nonempty bound with ⟨binding, behindClause, bindingFits, started⟩
  rcases takeMembers_split nonempty taken with
    ⟨members, rest, interfaces, added, finish, after, behindBinding, membersFit, grown, stopped,
      others⟩
  have split : parts = clause ++ binding ++ members ++ rest := by
    rw [List.append_assoc, List.append_assoc, ← behindBinding, ← behindClause]
    exact whole
  exact ⟨clause ++ binding ++ members, rest, finish, interfaces, added, after, split,
    .intro clauseFits bindingFits membersFit, (started.trans grown).holds, stopped, others⟩

/-- Reading passes an opening, whatever comes behind it. -/
theorem read_of_opening {options : Options} {path : Path} {opening interfaces : List Node}
    {finish : Knowledge} {added : List (Member × Bool)}
    (opens : Opening options path opening finish interfaces added) (nonempty : path ≠ [])
    {rest : List Node} (others : ∀ statement ∈ rest,
      statement.kind ≠ .extendsClause ∧ statement.kind ≠ .storeRegister) :
    ∃ start left after,
      takeBinding options path { superclass := (takeSuperclass options (opening ++ rest)).1 }
          (takeSuperclass options (opening ++ rest)).2 = .ok (start, left) ∧
        Draft.Holds path finish interfaces added after ∧
        takeMembers options path start left = takeMembers options path after rest := by
  cases opens with
  | @intro clause binding members interfaces superclass start finish added clauseFits bindingFits
      membersFit =>
      have later : ∀ statement ∈ members ++ rest,
          statement.kind ≠ .extendsClause ∧ statement.kind ≠ .storeRegister := by
        intro statement member
        rcases List.mem_append.mp member with inMembers | inRest
        · rcases kind_of_memberStatements membersFit statement inMembers with kind | kind <;>
            rw [kind] <;> exact ⟨NodeKind.noConfusion, NodeKind.noConfusion⟩
        · exact others statement inRest
      have noClause : ∀ statement ∈ binding ++ (members ++ rest),
          statement.kind ≠ .extendsClause := by
        intro statement member
        rcases List.mem_append.mp member with inBinding | inLater
        · cases bindingFits with
          | absent => exact absurd inBinding List.not_mem_nil
          | present distinct assigns creates =>
              rw [List.mem_singleton.mp inBinding]
              exact NodeKind.noConfusion
        · exact (later statement inLater).1
      rcases takeBinding_append nonempty bindingFits fun statement member =>
        (later statement member).2 with ⟨draft, started, bound⟩
      rcases takeMembers_append membersFit nonempty draft started.knowledge with
        ⟨after, grown, passes⟩
      refine ⟨draft, members ++ rest, after, ?_, (started.trans grown).holds, passes rest⟩
      rw [List.append_assoc, List.append_assoc, takeSuperclass_append clauseFits noClause]
      exact bound

/-! ## Whole bodies -/

/-- What the members of a body lead to once the rest of the body has been read. -/
inductive Members.Declares (options : Options) (path : Path) : Members → Declaration → Prop where
  | interface (declaration : InterfaceDecl) :
      Declares options path (.interface declaration) (.interfaceDecl declaration)
  | calls {draft last : Draft} {rest : List Node} {declaration : ClassDecl}
      (called : takeCalls options path draft rest = .ok last)
      (finished : last.finish path = .ok declaration) :
      Declares options path (.calls draft rest) (.classDecl declaration)

/-- A body is accepted when all of its parts are, and neither it nor the path is
empty. -/
theorem ofBody_eq_ok_iff (options : Options) (path : Path) (parts : List Node)
    (declaration : Declaration) :
    Declaration.ofBody options path parts = .ok declaration ↔
      path ≠ [] ∧ parts ≠ [] ∧ ∃ start left read,
        takeBinding options path { superclass := (takeSuperclass options parts).1 }
            (takeSuperclass options parts).2 = .ok (start, left) ∧
          takeMembers options path start left = .ok read ∧
          Members.Declares options path read declaration := by
  constructor
  · intro accepted
    unfold Declaration.ofBody at accepted
    split at accepted
    · cases accepted
    · next someParts =>
        split at accepted
        · cases accepted
        · next somePath =>
            refine ⟨fun empty => somePath (by rw [empty]; rfl),
              fun empty => someParts (by rw [empty]; rfl), ?_⟩
            rcases (bind_eq_ok_iff _ _ _).mp accepted with ⟨⟨start, left⟩, bound, accepted⟩
            rcases (bind_eq_ok_iff _ _ _).mp accepted with ⟨read, taken, accepted⟩
            refine ⟨start, left, read, bound, taken, ?_⟩
            cases read with
            | interface found =>
                cases accepted
                exact .interface found
            | calls draft rest =>
                rcases (bind_eq_ok_iff _ _ _).mp accepted with ⟨last, called, accepted⟩
                rcases (bind_eq_ok_iff _ _ _).mp accepted with ⟨found, finished, same⟩
                cases same
                exact .calls called finished
  · rintro ⟨nonempty, someParts, start, left, read, bound, taken, declares⟩
    have somePath : ¬ path.isEmpty = true := fun empty => nonempty (List.isEmpty_iff.mp empty)
    have filled : ¬ parts.isEmpty = true := fun empty => someParts (List.isEmpty_iff.mp empty)
    rw [Declaration.ofBody, if_neg filled, if_neg somePath]
    refine (bind_eq_ok_iff _ _ _).mpr ⟨(start, left), bound, ?_⟩
    refine (bind_eq_ok_iff _ _ _).mpr ⟨read, taken, ?_⟩
    cases declares with
    | interface found => rfl
    | @calls draft last rest found called finished =>
        refine (bind_eq_ok_iff _ _ _).mpr ⟨last, called, ?_⟩
        exact (bind_eq_ok_iff _ _ _).mpr ⟨found, finished, rfl⟩

theorem classBody_of_ofBody {options : Options} {path : Path} {parts : List Node}
    {declaration : ClassDecl}
    (accepted : Declaration.ofBody options path parts = .ok (.classDecl declaration)) :
    path ≠ [] ∧ parts ≠ [] ∧ ClassBody options path parts declaration := by
  rcases (ofBody_eq_ok_iff _ _ _ _).mp accepted with
    ⟨nonempty, someParts, start, left, read, bound, taken, declares⟩
  refine ⟨nonempty, someParts, ?_⟩
  rcases opening_of_read nonempty bound taken with
    ⟨opening, calls, behind, interfaces, added, middle, split, opens, held, stopped, others⟩
  cases declares with
  | @calls draft last rest declaration called finished =>
      rcases takeMembers_stopped others stopped with ⟨rfl, rfl⟩
      rcases (takeCalls_eq_ok_iff _ _ _ _ _).mp called with ⟨properties, callsFit, rfl⟩
      rcases (finish_eq_ok_iff _ _ _).mp finished with
        ⟨construct, final, name, constructs, ends, named, rfl⟩
      have chain := held.named.or_eq.symm.trans named
      rcases held with ⟨rfl, rfl, rfl, noProperties, _⟩
      cases opens with
      | intro clauseFits bindingFits membersFit =>
          have body :=
            ClassBody.intro clauseFits bindingFits membersFit callsFit constructs chain ends
          rw [split]
          simp only [Draft.withProperties, noProperties, List.nil_append]
          exact body

theorem ofBody_of_classBody {options : Options} {path : Path} {parts : List Node}
    {declaration : ClassDecl} (nonempty : path ≠ []) (someParts : parts ≠ [])
    (body : ClassBody options path parts declaration) :
    Declaration.ofBody options path parts = .ok (.classDecl declaration) := by
  apply (ofBody_eq_ok_iff _ _ _ _).mpr
  refine ⟨nonempty, someParts, ?_⟩
  cases body with
  | @intro clause binding members calls interfaces superclass start finish added properties
      construct name last clauseFits bindingFits membersFit callsFit constructs named ends =>
      have others : ∀ statement ∈ calls,
          statement.kind ≠ .extendsClause ∧ statement.kind ≠ .storeRegister := by
        intro statement member
        rcases kind_of_callStatements callsFit statement member with kind | kind | kind <;>
          rw [kind] <;> exact ⟨NodeKind.noConfusion, NodeKind.noConfusion⟩
      rcases read_of_opening (.intro clauseFits bindingFits membersFit) nonempty others with
        ⟨first, left, middle, bound, held, passes⟩
      have taken := passes.trans (takeMembers_of_calls callsFit middle)
      have chain := held.named.or_eq.trans named
      rcases held with ⟨rfl, rfl, rfl, noProperties, _⟩
      have called := (takeCalls_eq_ok_iff options path middle _ calls).mpr
        ⟨properties, callsFit, rfl⟩
      have finished := (finish_eq_ok_iff path (middle.withProperties properties) _).mpr
        ⟨construct, last, name, constructs, ends, chain, rfl⟩
      simp only [Draft.withProperties, noProperties, List.nil_append] at called finished
      exact ⟨first, left, .calls middle calls, bound, taken, .calls called finished⟩

/-- A body is accepted as a class exactly when the grammar derives it, and then it is
the class of the derivation: every member, interface and property comes from one
statement of the body, in their order, and none is lost. -/
theorem ofBody_eq_classDecl_iff (options : Options) (path : Path) (parts : List Node)
    (declaration : ClassDecl) :
    Declaration.ofBody options path parts = .ok (.classDecl declaration) ↔
      path ≠ [] ∧ parts ≠ [] ∧ ClassBody options path parts declaration :=
  ⟨classBody_of_ofBody, fun body => ofBody_of_classBody body.1 body.2.1 body.2.2⟩

end ClassRecovery
