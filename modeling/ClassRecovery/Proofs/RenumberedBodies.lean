import ClassRecovery.Body.Reading
import ClassRecovery.Renumbering
import Mathlib.Data.Option.Basic

namespace ClassRecovery

/-!
# Bodies under other register numbers

The registers of a body can be renumbered, and the reading of the body changes in nothing
but their numbers.  This holds of each step of the reading, and so of the whole: whatever
a step makes of its input, it makes the renumbered result of the renumbered input, or it
is rejected for the renumbered cause.

Most steps never compare two registers, and for them any renumbering will do.  The
comparisons are in the table of roles, in the value that a register carries and in the
accessors of a property.  There the renumbering must keep different registers apart.
-/

/-! ## Questions about nodes -/

section Nodes

variable (number : UInt32 → UInt32)

@[simp]
theorem renumberNodes_append (front back : List Node) :
    renumberNodes number (front ++ back) =
      renumberNodes number front ++ renumberNodes number back := by
  simp only [renumberNodes_eq_map, List.map_append]

@[simp]
theorem isEmpty_renumberNodes (nodes : List Node) :
    (renumberNodes number nodes).isEmpty = nodes.isEmpty := by
  cases nodes <;> rfl

@[simp]
theorem length_renumberNodes (nodes : List Node) :
    (renumberNodes number nodes).length = nodes.length := by
  rw [renumberNodes_eq_map, List.length_map]

@[simp]
theorem FunctionLiteral.isPlaceholder_renumber (function : FunctionLiteral) :
    (function.renumber number).isPlaceholder = function.isPlaceholder := by
  cases function
  simp [isPlaceholder]

theorem FunctionLiteral.namedAs_renumber (function : FunctionLiteral) (member : Node) :
    (function.renumber number).namedAs (member.renumber number) =
      (function.namedAs member).renumber number := by
  cases function
  rfl

namespace Node

@[simp]
theorem text?_renumber (node : Node) : (node.renumber number).text? = node.text? := by
  cases node with
  | literal value => cases value <;> rfl
  | _ => rfl

@[simp]
theorem path?_renumber (node : Node) : (node.renumber number).path? = node.path? := by
  induction node using path?.induct with
  | case1 object member name path reads literal hypothesis =>
      simp [path?, hypothesis]
  | case2 object member unnamed hypothesis =>
      simp [path?, hypothesis]
  | case3 name => simp [path?]
  | case4 node noMember noVariable =>
      cases node with
      | getMember object member => exact (noMember object member rfl).elim
      | getVariable name => exact (noVariable name rfl).elim
      | _ => rfl

@[simp]
theorem memberOf?_renumber (parent : Path) (node : Node) :
    (node.renumber number).memberOf? parent = node.memberOf? parent := by
  rw [memberOf?, path?_renumber, memberOf?]

@[simp]
theorem writePath?_renumber (node : Node) :
    (node.renumber number).writePath? = node.writePath? := by
  cases node with
  | setMember object member value => simp [writePath?]
  | setVariable name value => simp [writePath?]
  | _ => rfl

@[simp]
theorem writtenValue?_renumber (node : Node) :
    (node.renumber number).writtenValue? = node.writtenValue?.map (·.renumber number) := by
  cases node <;> rfl

@[simp]
theorem target?_renumber (node : Node) :
    (node.renumber number).target? = node.target?.map (·.renumber number) := by
  cases node <;> rfl

@[simp]
theorem constructedType?_renumber (node : Node) :
    (node.renumber number).constructedType? = node.constructedType?.map (·.renumber number) := by
  cases node <;> rfl

theorem withoutPush_renumber (node : Node) :
    (node.renumber number).withoutPush = node.withoutPush.renumber number := by
  cases node <;> rfl

@[simp]
theorem registerBinding?_renumber (node : Node) :
    (node.renumber number).registerBinding? =
      node.registerBinding?.map (Prod.map number (renumberOptional number)) := by
  cases node with
  | literal value => cases value <;> rfl
  | _ => rfl

@[simp]
theorem withoutRoot_renumber (root : String) (node : Node) :
    (node.renumber number).withoutRoot root = (node.withoutRoot root).renumber number := by
  induction node using withoutRoot.induct root with
  | case1 name member isRoot => simp [withoutRoot, isRoot]
  | case2 name member other => simp [withoutRoot, other]
  | case3 object inner member hypothesis =>
      simp only [renumber, withoutRoot] at hypothesis ⊢
      rw [hypothesis]
  | case4 node noVariable noMember =>
      cases node with
      | getMember object member =>
          cases object with
          | getVariable name => exact (noVariable name member rfl).elim
          | getMember object inner => exact (noMember object inner member rfl).elim
          | _ => rfl
      | _ => rfl

theorem foldl_memberNamed_renumber (start : Node) (names : Path) :
    (names.foldl memberNamed start).renumber number =
      names.foldl memberNamed (start.renumber number) := by
  induction names generalizing start with
  | nil => rfl
  | cons name rest hypothesis => exact hypothesis (start.memberNamed name)

/-- The chain that reads a path goes through no register. -/
theorem ofPath?_map_renumber (path : Path) :
    (ofPath? path).map (·.renumber number) = ofPath? path := by
  cases path with
  | nil => rfl
  | cons first rest => exact congrArg some (foldl_memberNamed_renumber number _ rest)

theorem expectText_renumber (operand : Operand) (node : Node) :
    (node.renumber number).expectText operand =
      renumberReading number id (node.expectText operand) := by
  cases node with
  | literal value => cases value <;> rfl
  | _ => rfl

theorem registerNumber_renumber (operand : Operand) (node : Node) :
    (node.renumber number).registerNumber operand =
      renumberReading number number (node.registerNumber operand) := by
  rw [registerNumber, registerBinding?_renumber, registerNumber]
  cases node.registerBinding? <;> rfl

@[simp]
theorem readsPrototype_renumber (options : Options) (path : Path) (node : Node) :
    (node.renumber number).readsPrototype options path = node.readsPrototype options path := by
  rw [readsPrototype, path?_renumber, readsPrototype]

end Node

/-! ## What does not compare registers -/

theorem Roles.set_renumber (roles : Roles) (register : UInt32) (role : Role) :
    (roles.renumber number).set (number register) role =
      (roles.set register role).renumber number := by
  cases role <;> rfl

namespace CarriedWrite

theorem ofKnown_renumber (options : Options) (known : Option Node) :
    ofKnown options (renumberOptional number known) =
      renumberReading number (renumber number) (ofKnown options known) := by
  cases known with
  | none => rfl
  | some node =>
      cases node with
      | setMember object member value =>
          simp only [renumberOptional, Node.renumber, ofKnown, Node.text?_renumber]
          cases member.text? with
          | none => rfl
          | some name =>
              dsimp only
              split <;> rfl
      | _ => rfl

theorem checkPath_renumber (options : Options) (path : Path) (write : CarriedWrite) :
    (write.renumber number).checkPath options path =
      renumberReading number id (write.checkPath options path) := by
  simp only [checkPath, renumber, Node.path?_renumber]
  cases write.source.path? with
  | none => rfl
  | some found =>
      dsimp only
      split <;> rfl

theorem binding_renumber (options : Options) (write : CarriedWrite) (stored : Node) :
    (write.renumber number).binding options (stored.renumber number) =
      renumberReading number (Binding.renumber number) (write.binding options stored) := by
  simp only [binding, renumber, Node.constructedType?_renumber, Node.withoutRoot_renumber,
    Node.kind_renumber]
  split
  · cases stored.constructedType? with
    | none => rfl
    | some type => simp only [Option.map_some, Node.withoutRoot_renumber]; rfl
  · cases stored <;> rfl

end CarriedWrite

theorem Binding.role_renumber (binding : Binding) :
    (binding.renumber number).role = binding.role := by
  cases binding <;> rfl

theorem createdClass_renumber (options : Options) (path : Path) (write : Node) :
    createdClass options path (write.renumber number) =
      renumberReading number (Prod.map (Node.renumber number) (FunctionLiteral.renumber number))
        (createdClass options path write) := by
  simp only [createdClass, Node.target?_renumber, Node.writePath?_renumber,
    Node.writtenValue?_renumber, Node.kind_renumber]
  cases write.target? with
  | none => rfl
  | some target =>
      cases write.writePath? with
      | none => rfl
      | some found =>
          simp only [Option.map_some, Node.withoutRoot_renumber]
          split
          · cases write.writtenValue? with
            | none => rfl
            | some value =>
                cases value with
                | storeRegister register stored => cases stored <;> rfl
                | _ => rfl
          · rfl

theorem classRegister_renumber (options : Options) (value : Node) :
    classRegister options (value.renumber number) =
      renumberReading number (Prod.map number (Node.renumber number))
        (classRegister options value) := by
  cases value with
  | getMember object member =>
      cases object with
      | temporaryRegister register write =>
          refine renumberReading_bind (Node.expectText_renumber number _ member) fun name => ?_
          dsimp only [id_eq]
          split <;> rfl
      | _ => rfl
  | _ => rfl

namespace Draft

theorem roles_renumber (draft : Draft) :
    (draft.renumber number).roles = draft.roles.renumber number := rfl

theorem applyBinding_renumber (draft : Draft) (roles : Roles) (binding : Binding) :
    (draft.renumber number).applyBinding (roles.renumber number) (binding.renumber number) =
      (draft.applyBinding roles binding).renumber number := by
  cases binding <;> rfl

theorem memberOf_renumber (name value : Node) :
    memberOf (name.renumber number) (value.renumber number) =
      (memberOf name value).renumber number := by
  cases value with
  | function function =>
      simp [memberOf, FunctionLiteral.namedAs_renumber]
  | _ => rfl

theorem addInterfaces_renumber (draft : Draft) (interfaces : List Node) :
    (draft.renumber number).addInterfaces (renumberNodes number interfaces) =
      (draft.addInterfaces interfaces).renumber number := by
  simp [addInterfaces, renumber]

theorem finish_renumber (path : Path) (draft : Draft) :
    (draft.renumber number).finish path =
      renumberReading number (ClassDecl.renumber number) (draft.finish path) := by
  have name : (renumberOptional number draft.name).or (Node.ofPath? path) =
      (draft.name.or (Node.ofPath? path)).map (·.renumber number) := by
    rw [renumberOptional_eq_map, Option.map_or, Node.ofPath?_map_renumber]
  simp only [finish, renumber, name]
  cases draft.construct with
  | none => rfl
  | some construct =>
      cases path.getLast? with
      | none => rfl
      | some last =>
          cases draft.name.or (Node.ofPath? path) with
          | none => rfl
          | some known =>
              simp only [Option.map_some, renumberReading, ClassDecl.renumber,
                renumberMembers_eq_map, List.map_cons, List.map_map, Member.renumber,
                Node.renumber, ← FunctionLiteral.namedAs_renumber]
              rfl

end Draft

theorem checkFlags_renumber (options : Options) (path : Path) (arguments : List Node) :
    checkFlags options path (renumberNodes number arguments) =
      renumberReading number id (checkFlags options path arguments) := by
  rcases arguments with _ | ⟨object, _ | ⟨members, _ | ⟨flags, _ | ⟨more, rest⟩⟩⟩⟩
  · rfl
  · rfl
  · rfl
  · simp only [renumberNodes, checkFlags, Node.readsPrototype_renumber]
    split
    · cases members with
      | literal value =>
          cases value with
          | null =>
              cases flags with
              | literal value =>
                  cases value with
                  | integer bits =>
                      simp only [Node.renumber, Literal.renumber]
                      split <;> rfl
                  | _ => rfl
              | _ => rfl
          | _ => rfl
      | _ => rfl
    · rfl
  · simp only [renumberNodes, checkFlags, List.length_cons, length_renumberNodes]
    rfl

theorem takeSuperclass_renumber (options : Options) (parts : List Node) :
    takeSuperclass options (renumberNodes number parts) =
      Prod.map (renumberOptional number) (renumberNodes number)
        (takeSuperclass options parts) := by
  cases parts with
  | nil => rfl
  | cons statement rest =>
      cases statement with
      | extendsClause subclass superclass =>
          simp only [renumberNodes, Node.renumber, takeSuperclass, Node.withoutRoot_renumber]
          rfl
      | _ => rfl

theorem implementedBy_renumber (parts : List Node) :
    implementedBy (renumberNodes number parts) =
      renumberReading number (renumberNodes number) (implementedBy parts) := by
  induction parts using implementedBy.induct with
  | case1 => rfl
  | case2 subclass interfaces rest hypothesis =>
      refine renumberReading_bind hypothesis fun more => ?_
      exact congrArg Except.ok (renumberNodes_append number interfaces more).symm
  | case3 other rest noClause =>
      cases other with
      | implementsClause subclass interfaces => exact (noClause subclass interfaces rfl).elim
      | _ => rfl

theorem checkInterfaceFunction_renumber (value : Option Node) :
    checkInterfaceFunction (value.map (·.renumber number)) =
      renumberReading number id (checkInterfaceFunction value) := by
  cases value with
  | none => rfl
  | some node =>
      cases node with
      | function function =>
          cases function
          simp only [Option.map_some, Node.renumber, FunctionLiteral.renumber,
            checkInterfaceFunction, isEmpty_renumberNodes, apply_ite (renumberReading number id)]
          rfl
      | _ => rfl

theorem readInterface_renumber (options : Options) (path : Path) (ancestors : List Node)
    (write : Node) (rest : List Node) :
    readInterface options path (renumberNodes number ancestors) (write.renumber number)
        (renumberNodes number rest) =
      renumberReading number (InterfaceDecl.renumber number)
        (readInterface options path ancestors write rest) := by
  simp only [readInterface, Node.writePath?_renumber, Node.target?_renumber,
    Node.writtenValue?_renumber]
  cases write.writePath? with
  | none => rfl
  | some found =>
      cases write.target? with
      | none => rfl
      | some target =>
          simp only [Option.map_some]
          split
          · refine renumberReading_bind
              (checkInterfaceFunction_renumber number write.writtenValue?) fun checked => ?_
            refine renumberReading_bind (implementedBy_renumber number rest) fun more => ?_
            rw [Node.withoutRoot_renumber, ← renumberNodes_append]
            rfl
          · rfl

end Nodes

/-! ## What compares registers -/

section Registers

variable {number : UInt32 → UInt32} (injective : Function.Injective number)
include injective

namespace Roles

theorem roleOf_renumber (roles : Roles) (register : UInt32) :
    (roles.renumber number).roleOf (number register) = roles.roleOf register := by
  -- Two registers under one number would both have the role of either.
  have holds (held : Option UInt32) :
      held.map number = some (number register) ↔ held = some register := by
    rw [← Option.map_some, (Option.map_injective injective).eq_iff]
  simp only [roleOf, renumber, holds]

theorem assign_renumber (roles : Roles) (register : UInt32) (role : Role) :
    (roles.renumber number).assign (number register) role =
      renumberReading number (renumber number) (roles.assign register role) := by
  rw [assign, roleOf_renumber injective, assign]
  cases roles.roleOf register with
  | none => exact congrArg Except.ok (set_renumber number roles register role)
  | some held =>
      dsimp only
      split <;> rfl

end Roles

theorem CarriedWrite.stored_renumber (register : UInt32) (write : CarriedWrite) :
    (write.renumber number).stored (number register) =
      renumberReading number (Node.renumber number) (write.stored register) := by
  rcases write with ⟨ofPrototype, source, value⟩
  cases value with
  | storeRegister other content =>
      simp only [stored, renumber, Node.renumber, injective.eq_iff]
      split <;> rfl
  | _ => rfl

theorem Roles.derive_renumber (options : Options) (path : Path) (roles : Roles)
    (register : UInt32) (known : Option Node) :
    (roles.renumber number).derive options path (number register)
        (renumberOptional number known) =
      renumberReading number (Prod.map (Binding.renumber number) (Roles.renumber number))
        (roles.derive options path register known) := by
  refine renumberReading_bind (CarriedWrite.ofKnown_renumber number options known)
    fun write => ?_
  refine renumberReading_bind (write.checkPath_renumber number options path) fun checked => ?_
  refine renumberReading_bind (write.stored_renumber injective register) fun stored => ?_
  refine renumberReading_bind (write.binding_renumber number options stored) fun binding => ?_
  rw [binding.role_renumber number]
  exact renumberReading_bind (roles.assign_renumber injective register binding.role)
    fun assigned => rfl

namespace Draft

theorem bindBoth_renumber (options : Options) (path : Path) (draft : Draft)
    (prototypeRegister : UInt32) (value : Node) :
    (draft.renumber number).bindBoth options path (number prototypeRegister)
        (value.renumber number) =
      renumberReading number (renumber number)
        (draft.bindBoth options path prototypeRegister value) := by
  refine renumberReading_bind (classRegister_renumber number options value)
    fun (register, write) => ?_
  refine renumberReading_bind (createdClass_renumber number options path write)
    fun (name, construct) => ?_
  refine renumberReading_bind (draft.roles.assign_renumber injective register .classObject)
    fun roles => ?_
  exact renumberReading_bind (roles.assign_renumber injective prototypeRegister .prototypeObject)
    fun assigned => rfl

theorem resolveRole_renumber (options : Options) (path : Path) (draft : Draft)
    (register : UInt32) (known : Option Node) :
    (draft.renumber number).resolveRole options path (number register)
        (renumberOptional number known) =
      renumberReading number (Prod.map id (renumber number))
        (draft.resolveRole options path register known) := by
  rw [resolveRole, roles_renumber, Roles.roleOf_renumber injective, resolveRole]
  cases draft.roles.roleOf register with
  | some role => rfl
  | none =>
      refine renumberReading_bind
        (draft.roles.derive_renumber injective options path register known)
        fun (binding, roles) => ?_
      simp only [Prod.map_apply, Binding.role_renumber, applyBinding_renumber]
      rfl

theorem addMember_renumber (options : Options) (path : Path) (draft : Draft)
    (register : UInt32) (known : Option Node) (name value : Node) :
    (draft.renumber number).addMember options path (number register)
        (renumberOptional number known) (name.renumber number) (value.renumber number) =
      renumberReading number (renumber number)
        (draft.addMember options path register known name value) := by
  refine renumberReading_bind (draft.resolveRole_renumber injective options path register known)
    fun (role, resolved) => ?_
  simp only [Prod.map_apply, id_eq, memberOf_renumber]
  refine congrArg Except.ok ?_
  simp only [renumber, List.map_append, List.map_cons, List.map_nil]

end Draft

theorem hasAccessor_renumber (options : Options) (register : UInt32) (property : String)
    (which : Accessor) (value : Node) :
    hasAccessor options (number register) property which (value.renumber number) =
      renumberReading number id (hasAccessor options register property which value) := by
  cases value with
  | getMember object member =>
      refine renumberReading_bind (object.registerNumber_renumber number _) fun found => ?_
      simp only [injective.eq_iff]
      split
      · refine renumberReading_bind (member.expectText_renumber number _) fun name => ?_
        dsimp only [id_eq]
        split <;> rfl
      · rfl
  | function function =>
      simp only [Node.renumber, hasAccessor, FunctionLiteral.isPlaceholder_renumber]
      split <;> rfl
  | _ => rfl

namespace Draft

theorem addProperty_renumber (options : Options) (draft : Draft) (object : Node)
    (arguments : List Node) :
    (draft.renumber number).addProperty options (object.renumber number)
        (renumberNodes number arguments) =
      renumberReading number (renumber number) (draft.addProperty options object arguments) := by
  refine renumberReading_bind (object.registerNumber_renumber number _) fun register => ?_
  rw [roles_renumber, Roles.roleOf_renumber injective]
  cases draft.roles.roleOf register with
  | none => rfl
  | some role =>
      rcases arguments with _ | ⟨name, _ | ⟨getter, _ | ⟨setter, _ | ⟨more, rest⟩⟩⟩⟩
      · rfl
      · rfl
      · rfl
      · refine renumberReading_bind (name.expectText_renumber number _) fun text => ?_
        refine renumberReading_bind
          (hasAccessor_renumber injective options register text .getter getter)
          fun hasGetter => ?_
        exact renumberReading_bind
          (hasAccessor_renumber injective options register text .setter setter)
          fun hasSetter => rfl
      · simp only [renumberNodes, List.length_cons, length_renumberNodes]
        rfl

theorem addCall_renumber (options : Options) (path : Path) (draft : Draft) (statement : Node) :
    (draft.renumber number).addCall options path (statement.renumber number) =
      renumberReading number (renumber number) (draft.addCall options path statement) := by
  rw [addCall, Node.withoutPush_renumber, addCall]
  cases statement.withoutPush with
  | callMethod object method arguments =>
      refine renumberReading_bind (method.expectText_renumber number _) fun name => ?_
      dsimp only [id_eq]
      split
      · exact draft.addProperty_renumber injective options object arguments
      · rfl
  | callFunction function arguments =>
      refine renumberReading_bind (function.expectText_renumber number _) fun name => ?_
      dsimp only [id_eq]
      split
      · exact renumberReading_bind (checkFlags_renumber number options path arguments)
          fun checked => rfl
      · rfl
  | _ => rfl

end Draft

/-! ## Whole bodies -/

theorem takeBinding_renumber (options : Options) (path : Path) (draft : Draft)
    (parts : List Node) :
    takeBinding options path (draft.renumber number) (renumberNodes number parts) =
      renumberReading number (Prod.map (Draft.renumber number) (renumberNodes number))
        (takeBinding options path draft parts) := by
  cases parts with
  | nil => rfl
  | cons statement rest =>
      cases statement with
      | storeRegister register value =>
          exact renumberReading_bind (draft.bindBoth_renumber injective options path register value)
            fun bound => rfl
      | _ => rfl

/-- A write stays a write through a register, or one that declares an interface, so both
readings go the same way at every statement. -/
theorem takeMembers_renumber (options : Options) (path : Path) (draft : Draft)
    (parts : List Node) :
    takeMembers options path (draft.renumber number) (renumberNodes number parts) =
      renumberReading number (Members.renumber number) (takeMembers options path draft parts) := by
  induction draft, parts using takeMembers.induct with
  | case1 draft object name value rest register known through hypothesis =>
      have through' : (object.renumber number).registerBinding? =
          some (number register, renumberOptional number known) := by
        rw [object.registerBinding?_renumber, through]
        rfl
      simp only [renumberNodes, Node.renumber, takeMembers, through, through']
      exact renumberReading_bind
        (draft.addMember_renumber injective options path register known name value) hypothesis
  | case2 draft object name value rest direct =>
      have direct' : (object.renumber number).registerBinding? = none := by
        rw [object.registerBinding?_renumber, direct]
        rfl
      simp only [renumberNodes, Node.renumber, takeMembers, direct, direct']
      exact renumberReading_bind (readInterface_renumber number options path draft.interfaces
        (.setMember object name value) rest) fun declaration => rfl
  | case3 draft name value rest =>
      exact renumberReading_bind (readInterface_renumber number options path draft.interfaces
        (.setVariable name value) rest) fun declaration => rfl
  | case4 draft subclass interfaces rest hypothesis =>
      simp only [renumberNodes, Node.renumber, takeMembers, Draft.addInterfaces_renumber]
      exact hypothesis
  | case5 draft parts noMember noVariable noClause =>
      cases parts with
      | nil => rfl
      | cons statement rest =>
          cases statement with
          | setMember object name value => exact (noMember object name value rest rfl).elim
          | setVariable name value => exact (noVariable name value rest rfl).elim
          | implementsClause subclass interfaces =>
              exact (noClause subclass interfaces rest rfl).elim
          | _ => rfl

theorem takeCalls_renumber (options : Options) (path : Path) (draft : Draft)
    (parts : List Node) :
    takeCalls options path (draft.renumber number) (renumberNodes number parts) =
      renumberReading number (Draft.renumber number) (takeCalls options path draft parts) := by
  induction parts generalizing draft with
  | nil => rfl
  | cons statement rest hypothesis =>
      exact renumberReading_bind (draft.addCall_renumber injective options path statement)
        fun draft => hypothesis draft

/-- A body under other register numbers declares the same class or interface under them,
or is rejected for the same cause. -/
theorem ofBody_renumber (options : Options) (path : Path) (parts : List Node) :
    Declaration.ofBody options path (renumberNodes number parts) =
      renumberReading number (Declaration.renumber number)
        (Declaration.ofBody options path parts) := by
  rw [Declaration.ofBody, isEmpty_renumberNodes, takeSuperclass_renumber, Declaration.ofBody]
  split
  · rfl
  · split
    · rfl
    · rcases takeSuperclass options parts with ⟨superclass, parts⟩
      refine renumberReading_bind (takeBinding_renumber injective options path
        { superclass := superclass } parts) fun (draft, parts) => ?_
      refine renumberReading_bind (takeMembers_renumber injective options path draft parts)
        fun members => ?_
      cases members with
      | interface declaration => rfl
      | calls draft parts =>
          refine renumberReading_bind (takeCalls_renumber injective options path draft parts)
            fun draft => ?_
          exact renumberReading_bind (draft.finish_renumber number path) fun declaration => rfl

end Registers

end ClassRecovery
