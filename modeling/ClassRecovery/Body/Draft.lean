import ClassRecovery.Declaration
import ClassRecovery.Roles

namespace ClassRecovery

/-!
# A class while its body is being read

A draft collects what the statements of a body say about the class.  The name
of the class and its constructor are learnt together, from a statement that
binds registers to the class; should a later statement bind them again, it
replaces what was learnt before.

Members are kept in pairs with their flags, so the two lists of a finished
class cannot get out of step.
-/

/-- What has been learnt of a class so far. -/
structure Draft where
  roles : Roles := {}
  name : Option Node := none
  superclass : Option Node := none
  interfaces : List Node := []
  construct : Option FunctionLiteral := none
  members : List (Member × Bool) := []
  properties : List Property := []

/-- The text of an operand that has to be a string literal. -/
def Node.expectText (operand : Operand) : Node → Except Rejection String
  | .literal (.string text) => .ok text
  | .literal _ => .error (.mismatch (.notString operand))
  | _ => .error (.mismatch (.notLiteral operand))

/-! ## Binding both registers at once -/

/-- The class that a write creates: its name, and the constructor that the write
stores to a register.  The write must be to the path of the class. -/
def createdClass (options : Options) (path : Path) (write : Node) :
    Except Rejection (Node × FunctionLiteral) :=
  match write.target? with
  | none => .error (.mismatch .bindingNotWrite)
  | some target =>
      match write.writePath? with
      | none => .error (.unexpectedNode .classPathWrite write.kind)
      | some found =>
          if found.withoutRoot options.rootNamespace = path then
            match write.writtenValue? with
            | some (.storeRegister _ (.function construct)) =>
                .ok (target.withoutRoot options.rootNamespace, construct)
            | some (.storeRegister _ _) => .error (.mismatch .constructorNotFunction)
            | _ => .error (.mismatch .constructorNotStored)
          else .error (.mismatch .bindingOfOtherPath)

/-- The register that holds the class and the write that it carries, from the
value of the statement that stores the prototype. -/
def classRegister (options : Options) : Node → Except Rejection (UInt32 × Node)
  | .getMember (.temporaryRegister register write) member => do
      let name ← member.expectText .bindingMember
      if name = options.prototypeMember then .ok (register, write)
      else .error (.mismatch .bindingNotOfPrototype)
  | .getMember _ _ => .error (.mismatch .bindingNotThroughRegister)
  | _ => .error (.mismatch .bindingNotMemberRead)

namespace Draft

/-- Store the prototype of a newly created class to a register. -/
def bindBoth (options : Options) (path : Path) (draft : Draft) (prototypeRegister : UInt32)
    (value : Node) : Except Rejection Draft := do
  let (register, write) ← classRegister options value
  let (name, construct) ← createdClass options path write
  let roles ← draft.roles.assign register .classObject
  let roles ← roles.assign prototypeRegister .prototypeObject
  return { draft with roles := roles, name := some name, construct := some construct }

/-! ## Members -/

/-- Take over what a register's carried value says about the class. -/
def applyBinding (draft : Draft) (roles : Roles) : Binding → Draft
  | .classObject name construct =>
      { draft with roles := roles, name := some name, construct := some construct }
  | .prototypeObject name superclass =>
      { draft with roles := roles, name := some name, superclass := some superclass }

/-- The role of the register that a member is written through.  It is learnt from
what the register carries where it is not known yet. -/
def resolveRole (options : Options) (path : Path) (draft : Draft) (register : UInt32)
    (known : Option Node) : Except Rejection (Role × Draft) :=
  match draft.roles.roleOf register with
  | some role => .ok (role, draft)
  | none => do
      let (binding, roles) ← draft.roles.derive options path register known
      return (binding.role, draft.applyBinding roles binding)

/-- The member that a write through a register adds.  A function learns the name
of its member. -/
def memberOf (name : Node) : Node → Member
  | .function function => ⟨name, .function (function.namedAs name)⟩
  | value => ⟨name, value⟩

/-- Write a member through a register. -/
def addMember (options : Options) (path : Path) (draft : Draft) (register : UInt32)
    (known : Option Node) (name value : Node) : Except Rejection Draft := do
  let (role, draft) ← draft.resolveRole options path register known
  return { draft with
    members := draft.members ++ [(memberOf name value, decide (role = .classObject))] }

def addInterfaces (draft : Draft) (interfaces : List Node) : Draft :=
  { draft with interfaces := draft.interfaces ++ interfaces }

/-! ## The finished class -/

/-- The class that the draft describes, with the constructor as its first member
and named for the last part of the path. -/
def finish (path : Path) (draft : Draft) : Except Rejection ClassDecl :=
  match draft.construct with
  | none => .error .missingConstructor
  | some construct =>
      match path.getLast?, draft.name.or (Node.ofPath? path) with
      | some last, some name =>
          let own := Node.string last
          let members := (⟨own, .function (construct.namedAs own)⟩, false) :: draft.members
          .ok {
            name := name
            path := path
            superclass := draft.superclass
            interfaces := draft.interfaces
            members := members.map (·.1)
            staticFlags := members.map (·.2)
            properties := draft.properties }
      | _, _ => .error (.mismatch .emptyPath)

end Draft

end ClassRecovery
