import ClassRecovery.Idiom
import ClassRecovery.Proofs.ClassGrammar

namespace ClassRecovery

/-!
# Which members belong to the class object

A member belongs to the class object or to the prototype according to the role of the
register that it is written through.  The role is the one that the register has when the
write is met: what stands in front of the write determines it, and what the register is
known to carry is asked only where it has none.

So a flag tells what the register carries as long as that does not contradict the role.
A register that is bound to the other object later on keeps its role, and the members
that are written through it keep following that role.
-/

namespace Grammar

/-! ## The statements in front of a member -/

/-- A derivation of members can be cut behind any statement. -/
theorem MemberStatements.of_append {options : Options} {path : Path} {before behind : Knowledge}
    {front back interfaces : List Node} {members : List (Member × Bool)}
    (derives : MemberStatements options path before (front ++ back) interfaces members behind) :
    ∃ between earlier later added others,
      MemberStatements options path before front earlier added between ∧
        MemberStatements options path between back later others behind ∧
        members = added ++ others := by
  induction front generalizing before interfaces members with
  | nil => exact ⟨before, [], interfaces, [], members, .nil before, derives, rfl⟩
  | cons statement front hypothesis =>
      cases derives with
      | implements subclass more rest =>
          rcases hypothesis rest with ⟨between, earlier, later, added, others, left, right, rfl⟩
          exact ⟨between, _, later, added, others, .implements subclass more left, right, rfl⟩
      | write through known adds rest =>
          rcases hypothesis rest with ⟨between, earlier, later, added, others, left, right, rfl⟩
          exact ⟨between, _, later, _, others, .write through known adds left, right, rfl⟩
      | learn through unknown carries adds rest =>
          rcases hypothesis rest with ⟨between, earlier, later, added, others, left, right, rfl⟩
          exact ⟨between, _, later, _, others, .learn through unknown carries adds left, right,
            rfl⟩

/-- An opening says only one thing. -/
theorem Opening.unique {options : Options} {path : Path} {opening interfaces more : List Node}
    {finish other : Knowledge} {added others : List (Member × Bool)}
    (first : Opening options path opening finish interfaces added)
    (second : Opening options path opening other more others) (nonempty : path ≠ []) :
    other = finish ∧ more = interfaces ∧ others = added := by
  have nothing : ∀ statement ∈ ([] : List Node),
      statement.kind ≠ .extendsClause ∧ statement.kind ≠ .storeRegister :=
    fun _ member => absurd member List.not_mem_nil
  rcases read_of_opening first nonempty nothing with ⟨start, left, after, bound, held, passes⟩
  rcases read_of_opening second nonempty nothing with
    ⟨start', left', after', bound', held', passes'⟩
  cases bound.symm.trans bound'
  cases passes.symm.trans passes'
  exact ⟨held'.knowledge.symm.trans held.knowledge, held'.interfaces.symm.trans held.interfaces,
    held'.members.symm.trans held.members⟩

/-- What a register carries has only one meaning. -/
theorem Carries.role_unique {options : Options} {path : Path} {register : UInt32}
    {carried : Option Node} {binding other : Binding}
    (first : Carries options path register carried binding)
    (second : Carries options path register carried other) : other.role = binding.role := by
  cases first with
  | classObject construct unlike reads =>
      cases second with
      | classObject construct' unlike' reads' => rfl
      | prototypeObject constructed reads' => exact absurd rfl unlike
  | prototypeObject constructed reads =>
      cases second with
      | classObject construct' unlike' reads' => exact absurd rfl unlike'
      | prototypeObject constructed' reads' => rfl

/-- An element that is not in the first part stands behind it. -/
theorem append_eq_append_cons_of_not_mem {α : Type} {first rest front back : List α} {element : α}
    (absent : element ∉ first) (split : first ++ rest = front ++ element :: back) :
    ∃ between, front = first ++ between ∧ rest = between ++ element :: back := by
  induction first generalizing front with
  | nil => exact ⟨front, rfl, split⟩
  | cons head tail hypothesis =>
      cases front with
      | nil => exact absurd ((List.cons.inj split).1 ▸ List.mem_cons_self) absent
      | cons other front =>
          rcases List.cons.inj split with ⟨rfl, behind⟩
          rcases hypothesis (fun member => absent (List.mem_cons_of_mem head member)) behind with
            ⟨between, rfl, whole⟩
          exact ⟨between, rfl, whole⟩

/-- A member write that does not stand behind the members of a body stands among them, for
it is neither the clause for the superclass nor the binding. -/
theorem members_of_split_of_not_mem {options : Options} {path : Path} {superclass : Option Node}
    {clause binding members rest front back : List Node} {start : Knowledge}
    {object name value : Node}
    (clauseFits : SuperclassClause options clause superclass)
    (bindingFits : BindingStatement options path superclass binding start)
    (notInRest : Node.setMember object name value ∉ rest)
    (split : clause ++ binding ++ members ++ rest =
      front ++ .setMember object name value :: back) :
    ∃ earlier later, front = clause ++ binding ++ earlier ∧
      members = earlier ++ .setMember object name value :: later := by
  have notInFront : Node.setMember object name value ∉ clause ++ binding := by
    intro member
    rcases List.mem_append.mp member with inClause | inBinding
    · cases clauseFits with
      | absent => cases inClause
      | present subclass superclass => cases List.mem_singleton.mp inClause
    · cases bindingFits with
      | absent => cases inBinding
      | present distinct assigns creates => cases List.mem_singleton.mp inBinding
  rw [List.append_assoc] at split
  rcases append_eq_append_cons_of_not_mem notInFront split with ⟨earlier, inFront, behind⟩
  refine ⟨earlier, ?_⟩
  rcases List.append_eq_append_iff.mp behind with
    ⟨between, _, inRest⟩ | ⟨between, whole, inMembers⟩
  · exact absurd (inRest ▸ List.mem_append_right between List.mem_cons_self) notInRest
  · cases between with
    | nil =>
        have whole : rest = .setMember object name value :: back := inMembers.symm
        exact absurd (whole ▸ List.mem_cons_self) notInRest
    | cons statement later =>
        cases (List.cons.inj inMembers).1
        exact ⟨later, inFront, whole⟩

/-- A write through a register stands among the members of a body: behind the clause for
the superclass and the binding, and in front of the calls. -/
theorem members_of_split {options : Options} {path : Path} {superclass : Option Node}
    {clause binding members calls front back : List Node} {start : Knowledge} {roles : Roles}
    {properties : List Property} {object name value : Node}
    (clauseFits : SuperclassClause options clause superclass)
    (bindingFits : BindingStatement options path superclass binding start)
    (callsFit : CallStatements options path roles calls properties)
    (split : clause ++ binding ++ members ++ calls =
      front ++ .setMember object name value :: back) :
    ∃ earlier later, front = clause ++ binding ++ earlier ∧
      members = earlier ++ .setMember object name value :: later := by
  refine members_of_split_of_not_mem clauseFits bindingFits (fun member => ?_) split
  rcases kind_of_callStatements callsFit _ member with kind | kind | kind <;> cases kind

end Grammar

open Grammar

/-! ## The flag of a member -/

/-- Constructor and further members with their flags. -/
theorem flaggedMembers_classOf (path : Path) (name : Node) (last : String)
    (construct : FunctionLiteral) (superclass : Option Node) (interfaces : List Node)
    (members : List (Member × Bool)) (properties : List Property) :
    (classOf path name last construct superclass interfaces members properties).flaggedMembers =
      (⟨.string last, .function { construct with inferredName := some (.string last) }⟩, false) ::
        members :=
  congrArg _ (List.zip_of_prod rfl rfl).symm

/-- There are two roles, so a flag tells them apart. -/
theorem decide_classObject_inj (role other : Role) :
    decide (role = .classObject) = decide (other = .classObject) ↔ role = other := by
  cases role <;> cases other <;> decide

/-- The statement that a derivation of members begins with, when it is a write through a
register, gives the first member its flag. -/
theorem memberStatements_cons_registered {options : Options} {path : Path}
    {known behind : Knowledge} {object name value : Node} {register : UInt32}
    {carried : Option Node} {rest interfaces : List Node} {members : List (Member × Bool)}
    (through : object.registerBinding? = some (register, carried))
    (derives : MemberStatements options path known (.setMember object name value :: rest)
      interfaces members behind) :
    ∃ role later, members = (Draft.memberOf name value, decide (role = .classObject)) :: later ∧
      (known.roles.roleOf register = some role ∨
        known.roles.roleOf register = none ∧
          ∃ binding, Carries options path register carried binding ∧ binding.role = role) := by
  cases derives with
  | write reads known adds others =>
      cases (Draft.writtenMember_iff _ _ _).mp adds
      cases through.symm.trans ((object.registerBinding?_eq_some_iff _ _).mpr reads)
      exact ⟨_, _, rfl, Or.inl known⟩
  | learn reads unknown carries adds others =>
      cases (Draft.writtenMember_iff _ _ _).mp adds
      cases through.symm.trans ((object.registerBinding?_eq_some_iff _ _).mpr reads)
      exact ⟨_, _, rfl, Or.inr ⟨unknown, _, carries, rfl⟩⟩

/-- In an accepted class every write through a register has its member, behind those of
the statements in front of it.  The flag of the member is that of the role which the
register has before the write, as the statements in front of it leave it.  Only where it
has none the register must carry a value that says what it holds, and then the flag
follows that value.  Whenever the register carries such a value, the flag agrees with it
exactly if the register had no role or had the same one. -/
theorem flaggedMembers_of_write {options : Options} {path : Path} {parts front back : List Node}
    {declaration : ClassDecl} {object name value : Node} {register : UInt32}
    {carried : Option Node}
    (accepted : Declaration.ofBody options path parts = .ok (.classDecl declaration))
    (split : parts = front ++ .setMember object name value :: back)
    (through : object.registerBinding? = some (register, carried)) :
    ∃ known interfaces added first flag later,
      (∀ other more others, Opening options path front other more others ↔
        other = known ∧ more = interfaces ∧ others = added) ∧
      declaration.flaggedMembers =
        first :: (added ++ (Draft.memberOf name value, flag) :: later) ∧
      (∀ role, known.roles.roleOf register = some role → flag = decide (role = .classObject)) ∧
      (known.roles.roleOf register = none →
        ∃ binding, Carries options path register carried binding) ∧
      ∀ binding, Carries options path register carried binding →
        (flag = decide (binding.role = .classObject) ↔
          known.roles.roleOf register = none ∨
            known.roles.roleOf register = some binding.role) := by
  rcases classBody_of_ofBody accepted with ⟨nonempty, _, body⟩
  cases body with
  | intro clauseFits bindingFits membersFit callsFit constructs named ends =>
      rcases members_of_split clauseFits bindingFits callsFit split with
        ⟨earlier, later, rfl, rfl⟩
      rcases membersFit.of_append with
        ⟨known, interfaces, others, added, members, inFront, behind, rfl⟩
      have opens := Opening.intro clauseFits bindingFits inFront
      rcases memberStatements_cons_registered through behind with
        ⟨role, following, rfl, decided⟩
      refine ⟨known, interfaces, added, _, decide (role = .classObject), following, ?_,
        flaggedMembers_classOf _ _ _ _ _ _ _ _, ?_, ?_, ?_⟩
      · intro other more others
        constructor
        · exact fun same => opens.unique same nonempty
        · rintro ⟨rfl, rfl, rfl⟩
          exact opens
      · intro held holds
        rcases decided with same | ⟨unknown, _⟩
        · rw [Option.some.inj (holds.symm.trans same)]
        · cases holds.symm.trans unknown
      · intro unknown
        rcases decided with same | ⟨_, binding, carries, _⟩
        · cases unknown.symm.trans same
        · exact ⟨binding, carries⟩
      · intro binding carries
        rw [decide_classObject_inj]
        rcases decided with same | ⟨unknown, other, agrees, rfl⟩
        · rw [same]
          constructor
          · exact fun equal => Or.inr (congrArg some equal)
          · rintro (impossible | equal)
            · cases impossible
            · exact Option.some.inj equal
        · exact iff_of_true (carries.role_unique agrees) (Or.inl unknown)

/-- A write that binds a register to the class. -/
def classWrite (register : UInt32) : Node :=
  Idiom.globalWrite {} [] "C" (.storeRegister register (.function .empty))

/-- A write that binds a register to the prototype of the class. -/
def prototypeWrite (register : UInt32) : Node :=
  Idiom.globalWrite {} ["C"] "prototype" (.storeRegister register (.construct "Base" []))

/-- The prototype is kept in the first register and the class in the second. -/
def bindingOfC : Node :=
  .storeRegister 1 (.memberNamed (.temporaryRegister 2 (classWrite 2)) "prototype")

/-- Each of the two registers of a class is bound to the other object, and a member is
written through it. -/
def reboundBody : List Node :=
  [bindingOfC,
    .assignMember (.temporaryRegister 1 (classWrite 1)) "x" (.integer 1),
    .assignMember (.temporaryRegister 2 (prototypeWrite 2)) "y" (.integer 2)]

def reboundClass : ClassDecl :=
  classOf ["C"] (.variableNamed "C") "C" .empty none []
    [(⟨.string "x", .integer 1⟩, false), (⟨.string "y", .integer 2⟩, true)] []

theorem ofBody_reboundBody :
    Declaration.ofBody {} ["C"] reboundBody = .ok (.classDecl reboundClass) := rfl

theorem flaggedMembers_of_write_reboundBody :
    Declaration.ofBody {} ["C"] reboundBody = .ok (.classDecl reboundClass) ∧
      reboundBody = [bindingOfC] ++
        .setMember (.temporaryRegister 1 (classWrite 1)) (.string "x") (.integer 1) ::
          [.assignMember (.temporaryRegister 2 (prototypeWrite 2)) "y" (.integer 2)] ∧
      (Node.temporaryRegister 1 (classWrite 1)).registerBinding? = some (1, some (classWrite 1)) ∧
      ∃ known interfaces added first flag later,
        (∀ other more others, Opening {} ["C"] [bindingOfC] other more others ↔
          other = known ∧ more = interfaces ∧ others = added) ∧
        reboundClass.flaggedMembers =
          first :: (added ++ (Draft.memberOf (.string "x") (.integer 1), flag) :: later) ∧
        (∀ role, known.roles.roleOf 1 = some role → flag = decide (role = .classObject)) ∧
        (known.roles.roleOf 1 = none →
          ∃ binding, Carries {} ["C"] 1 (some (classWrite 1)) binding) ∧
        ∀ binding, Carries {} ["C"] 1 (some (classWrite 1)) binding →
          (flag = decide (binding.role = .classObject) ↔
            known.roles.roleOf 1 = none ∨ known.roles.roleOf 1 = some binding.role) :=
  ⟨ofBody_reboundBody, rfl, rfl, flaggedMembers_of_write ofBody_reboundBody rfl rfl⟩

/-- The first register carries the class and its member belongs to the instances, and the
second carries the prototype and its member belongs to the class. -/
theorem reboundBody_flags_stale :
    Declaration.ofBody {} ["C"] reboundBody = .ok (.classDecl reboundClass) ∧
      Carries {} ["C"] 1 (some (classWrite 1)) (.classObject (.variableNamed "C") .empty) ∧
      .assignMember (.temporaryRegister 1 (classWrite 1)) "x" (.integer 1) ∈ reboundBody ∧
      reboundClass.flaggedMembers[1]? = some (⟨.string "x", .integer 1⟩, false) ∧
      Carries {} ["C"] 2 (some (prototypeWrite 2))
        (.prototypeObject (.variableNamed "C") (.variableNamed "Base")) ∧
      .assignMember (.temporaryRegister 2 (prototypeWrite 2)) "y" (.integer 2) ∈ reboundBody ∧
      reboundClass.flaggedMembers[2]? = some (⟨.string "y", .integer 2⟩, true) := by
  have reads : Reads {} ["C"] (Idiom.globalRead {} ["C"]) := ⟨["_global", "C"], rfl, rfl⟩
  have constructed : (Node.construct "Base" []).Constructs (.variableNamed "Base") :=
    .ofVariable _ _
  have ofClass : Carries {} ["C"] 1 (some (classWrite 1))
      (.classObject (.variableNamed "C") .empty) := .classObject .empty (by decide) reads
  have ofPrototype : Carries {} ["C"] 2 (some (prototypeWrite 2))
      (.prototypeObject (.variableNamed "C") (.variableNamed "Base")) :=
    .prototypeObject constructed reads
  exact ⟨ofBody_reboundBody, ofClass, List.mem_cons_of_mem _ List.mem_cons_self, rfl, ofPrototype,
    List.mem_cons_of_mem _ (List.mem_cons_of_mem _ List.mem_cons_self), rfl⟩

end ClassRecovery
