import ClassRecovery.Declaration
import ClassRecovery.Roles

namespace ClassRecovery

/-!
# What the body of a class or an interface consists of

The grammar below says which statements make up the body of a class, and what
class they declare, without saying how a body is read.  A body has four parts in
a fixed order: a clause for the superclass, the statement that binds both
registers, the members mixed with the implemented interfaces, and the calls.
The first two may be missing, and the last two may be empty.

The body of an interface opens with the same three parts.  In the place of the
calls it has a write that is not through a register, and implemented interfaces
behind it.

Registers take on roles as the body goes on, so the members are derived from
what was known before them, and they lead to what is known behind them.  Every
statement adds exactly what its rule says to the class.  The rules write it out
in full, down to the name that a function gets from its member.
-/

namespace Grammar

/-- An expression reads a path, from the root namespace or without it. -/
def Reads (options : Options) (path : Path) (node : Node) : Prop :=
  ∃ found, node.path? = some found ∧ found.withoutRoot options.rootNamespace = path

/-- A write assigns to a path, from the root namespace or without it. -/
def Assigns (options : Options) (path : Path) (write : Node) : Prop :=
  ∃ found, write.writePath? = some found ∧ found.withoutRoot options.rootNamespace = path

/-- What a body has said so far about the objects of its class. -/
structure Knowledge where
  roles : Roles := {}
  construct : Option FunctionLiteral := none
  superclass : Option Node := none

/-- The binding of a register is the latest word on the part of the class that it
speaks of. -/
def Knowledge.learn (knowledge : Knowledge) (register : UInt32) : Binding → Knowledge
  | .classObject _ construct =>
      { knowledge with
        roles := knowledge.roles.set register .classObject
        construct := some construct }
  | .prototypeObject _ superclass =>
      { knowledge with
        roles := knowledge.roles.set register .prototypeObject
        superclass := some superclass }

/-! ## Superclass and registers -/

inductive SuperclassClause (options : Options) : List Node → Option Node → Prop where
  | absent : SuperclassClause options [] none
  | present (subclass superclass : Node) :
      SuperclassClause options [.extendsClause subclass superclass]
        (some (superclass.withoutRoot options.rootNamespace))

/-- The statement that creates the class and keeps it and its prototype in two
registers.  The register in which the constructor is stored is left open. -/
inductive BindingStatement (options : Options) (path : Path) (superclass : Option Node) :
    List Node → Knowledge → Prop where
  | absent : BindingStatement options path superclass [] { superclass := superclass }
  | present {prototypeRegister classRegister stored : UInt32} {write : Node}
      {construct : FunctionLiteral} (distinct : prototypeRegister ≠ classRegister)
      (assigns : Assigns options path write)
      (creates : write.Writes (.storeRegister stored (.function construct))) :
      BindingStatement options path superclass
        [.storeRegister prototypeRegister
          (.memberNamed (.temporaryRegister classRegister write) options.prototypeMember)]
        { roles := ⟨some classRegister, some prototypeRegister⟩
          construct := some construct
          superclass := superclass }

/-- The value that a register carries says what the register holds: the class that
a function was assigned to, or the prototype that a new object was assigned to. -/
inductive Carries (options : Options) (path : Path) (register : UInt32) :
    Option Node → Binding → Prop where
  | classObject {object : Node} {name : String} (construct : FunctionLiteral)
      (other : name ≠ options.prototypeMember)
      (reads : Reads options path (.memberNamed object name)) :
      Carries options path register
        (some (.assignMember object name (.storeRegister register (.function construct))))
        (.classObject ((Node.memberNamed object name).withoutRoot options.rootNamespace)
          construct)
  | prototypeObject {object value type : Node} (constructs : value.Constructs type)
      (reads : Reads options path object) :
      Carries options path register
        (some (.assignMember object options.prototypeMember (.storeRegister register value)))
        (.prototypeObject (object.withoutRoot options.rootNamespace)
          (type.withoutRoot options.rootNamespace))

/-! ## Members and interfaces -/

/-- The member that is made of a name and a written value.  A function learns the name
of its member and keeps the rest, and any other value is taken as it is. -/
inductive WrittenMember (name : Node) : Node → Member → Prop where
  | function (function : FunctionLiteral) :
      WrittenMember name (.function function)
        ⟨name, .function { function with inferredName := some name }⟩
  | other {value : Node} (noFunction : ∀ function, value ≠ .function function) :
      WrittenMember name value ⟨name, value⟩

/-- The statements between the registers and the calls, with the interfaces and the
members that they add, from what is known before to what is known behind. -/
inductive MemberStatements (options : Options) (path : Path) :
    Knowledge → List Node → List Node → List (Member × Bool) → Knowledge → Prop where
  | nil (knowledge : Knowledge) : MemberStatements options path knowledge [] [] [] knowledge
  | implements {before behind : Knowledge} {rest interfaces : List Node}
      {members : List (Member × Bool)} (subclass : Node) (more : List Node)
      (others : MemberStatements options path before rest interfaces members behind) :
      MemberStatements options path before (.implementsClause subclass more :: rest)
        (more ++ interfaces) members behind
  | write {before behind : Knowledge} {rest interfaces : List Node}
      {members : List (Member × Bool)} {object : Node} {register : UInt32}
      {carried : Option Node} {role : Role} {name value : Node} {member : Member}
      (through : object.ReadsRegister register carried)
      (known : before.roles.roleOf register = some role)
      (adds : WrittenMember name value member)
      (others : MemberStatements options path before rest interfaces members behind) :
      MemberStatements options path before (.setMember object name value :: rest) interfaces
        ((member, decide (role = .classObject)) :: members) behind
  | learn {before behind : Knowledge} {rest interfaces : List Node}
      {members : List (Member × Bool)} {object : Node} {register : UInt32}
      {carried : Option Node} {binding : Binding} {name value : Node} {member : Member}
      (through : object.ReadsRegister register carried)
      (unknown : before.roles.roleOf register = none)
      (carries : Carries options path register carried binding)
      (adds : WrittenMember name value member)
      (others : MemberStatements options path (before.learn register binding) rest interfaces
        members behind) :
      MemberStatements options path before (.setMember object name value :: rest) interfaces
        ((member, decide (binding.role = .classObject)) :: members) behind

/-! ## Calls -/

/-- An accessor is a method of the register that the property is added to, or an
empty function in its place. -/
inductive AccessorValue (register : UInt32) (method : String) : Node → Bool → Prop where
  | method {object : Node} {carried : Option Node}
      (through : object.ReadsRegister register carried) :
      AccessorValue register method (.memberNamed object method) true
  | placeholder (inferredName : Option Node) :
      AccessorValue register method (.function ⟨"", [], [], inferredName⟩) false

/-- A call at the end of a body, with the properties that it adds. -/
inductive Call (options : Options) (path : Path) (roles : Roles) : Node → List Property → Prop where
  | property {object getter setter : Node} {register : UInt32} {carried : Option Node}
      {role : Role} {name : String} {hasGetter hasSetter : Bool}
      (through : object.ReadsRegister register carried)
      (known : roles.roleOf register = some role)
      (getting : AccessorValue register (options.getterPrefix ++ name) getter hasGetter)
      (setting : AccessorValue register (options.setterPrefix ++ name) setter hasSetter) :
      Call options path roles
        (.callMethodNamed object options.addPropertyMethod [.string name, getter, setter])
        [⟨name, hasGetter, hasSetter, decide (role = .classObject)⟩]
  | hideMembers {object : Node}
      (reads : Reads options (path ++ [options.prototypeMember]) object) :
      Call options path roles
        (.callNamed options.propFlagsFunction [object, .null, .integer 1]) []

/-- A call may stand by itself, or its value may be left on the stack. -/
inductive CallStatement (options : Options) (path : Path) (roles : Roles) :
    Node → List Property → Prop where
  | bare {call : Node} {properties : List Property}
      (derives : Call options path roles call properties) :
      CallStatement options path roles call properties
  | pushed {call : Node} {properties : List Property}
      (derives : Call options path roles call properties) :
      CallStatement options path roles (.push call) properties

inductive CallStatements (options : Options) (path : Path) (roles : Roles) :
    List Node → List Property → Prop where
  | nil : CallStatements options path roles [] []
  | cons {statement : Node} {rest : List Node} {properties more : List Property}
      (first : CallStatement options path roles statement properties)
      (others : CallStatements options path roles rest more) :
      CallStatements options path roles (statement :: rest) (properties ++ more)

/-! ## Whole bodies -/

/-- The class with a constructor and further members, named for its path. -/
def classOf (path : Path) (name : Node) (last : String) (construct : FunctionLiteral)
    (superclass : Option Node) (interfaces : List Node) (members : List (Member × Bool))
    (properties : List Property) : ClassDecl where
  name := name
  path := path
  superclass := superclass
  interfaces := interfaces
  members := ⟨.string last, .function { construct with inferredName := some (.string last) }⟩ ::
    members.map (·.1)
  staticFlags := false :: members.map (·.2)
  properties := properties

/-- The body of a class.  It must have said what its constructor is. -/
inductive ClassBody (options : Options) (path : Path) : List Node → ClassDecl → Prop where
  | intro {clause binding members calls interfaces : List Node} {superclass : Option Node}
      {start finish : Knowledge} {added : List (Member × Bool)} {properties : List Property}
      {construct : FunctionLiteral} {name : Node} {last : String}
      (clauseFits : SuperclassClause options clause superclass)
      (bindingFits : BindingStatement options path superclass binding start)
      (membersFit : MemberStatements options path start members interfaces added finish)
      (callsFit : CallStatements options path finish.roles calls properties)
      (constructs : finish.construct = some construct)
      (named : Node.ofPath? path = some name)
      (ends : path.getLast? = some last) :
      ClassBody options path (clause ++ binding ++ members ++ calls)
        (classOf path name last construct finish.superclass interfaces added properties)

/-! ## Interfaces -/

/-- What every body opens with: the clause for the superclass, the binding of the
registers, and the members with the implemented interfaces. -/
inductive Opening (options : Options) (path : Path) :
    List Node → Knowledge → List Node → List (Member × Bool) → Prop where
  | intro {clause binding members interfaces : List Node} {superclass : Option Node}
      {start finish : Knowledge} {added : List (Member × Bool)}
      (clauseFits : SuperclassClause options clause superclass)
      (bindingFits : BindingStatement options path superclass binding start)
      (membersFit : MemberStatements options path start members interfaces added finish) :
      Opening options path (clause ++ binding ++ members) finish interfaces added

/-- A write that is not through a register. -/
inductive DirectWrite : Node → Prop where
  | ofMember {object : Node} (name value : Node)
      (unregistered : ∀ register carried, ¬ object.ReadsRegister register carried) :
      DirectWrite (.setMember object name value)
  | ofVariable (name value : Node) : DirectWrite (.setVariable name value)

/-- The write that makes an interface: an empty function is assigned to its path. -/
structure InterfaceWrite (options : Options) (path : Path) (write : Node) : Prop where
  direct : DirectWrite write
  assigns : Assigns options path write
  creates : ∃ inferredName, write.Writes (.function ⟨"", [], [], inferredName⟩)

/-- Clauses that name implemented interfaces, and nothing else. -/
inductive ImplementsClauses : List Node → List Node → Prop where
  | nil : ImplementsClauses [] []
  | cons {rest interfaces : List Node} (subclass : Node) (more : List Node)
      (others : ImplementsClauses rest interfaces) :
      ImplementsClauses (.implementsClause subclass more :: rest) (more ++ interfaces)

/-- The body of an interface.  Its ancestors are named on both sides of the write, and
whatever else the opening has said is not part of the interface. -/
inductive InterfaceBody (options : Options) (path : Path) : List Node → InterfaceDecl → Prop where
  | intro {opening clauses before behind : List Node} {write name : Node} {finish : Knowledge}
      {added : List (Member × Bool)}
      (opens : Opening options path opening finish before added)
      (writeFits : InterfaceWrite options path write)
      (clausesFit : ImplementsClauses clauses behind)
      (named : Node.ofPath? path = some name) :
      InterfaceBody options path (opening ++ [write] ++ clauses) ⟨name, path, before ++ behind⟩

end Grammar

end ClassRecovery
