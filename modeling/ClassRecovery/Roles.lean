import ClassRecovery.Options
import ClassRecovery.Rejection

namespace ClassRecovery

/-!
# Registers that alias the class and its prototype

The compiler keeps the class object and its prototype in two registers and
writes members through them.  The numbers differ from class to class, so the
roles of registers are learnt while a body is read: from the statement that
binds both at once, or from the value that a register carries when a member is
first written through it.

Each role has at most one register and each register at most one role.  A role
may move to another register, but a register never changes its role.
-/

/-! ## Register operands -/

namespace Node

/-- A register is read as an operand, or together with the value that it carries. -/
inductive ReadsRegister : Node → UInt32 → Option Node → Prop where
  | operand (number : UInt32) (known : Option Node) :
      ReadsRegister (.literal (.register number known)) number known
  | temporary (number : UInt32) (value : Node) :
      ReadsRegister (.temporaryRegister number value) number (some value)

/-- The register that an operand reads, and what is known to be in it. -/
def registerBinding? : Node → Option (UInt32 × Option Node)
  | .literal (.register number known) => some (number, known)
  | .temporaryRegister number value => some (number, some value)
  | _ => none

theorem registerBinding?_eq_some_iff (node : Node) (number : UInt32) (known : Option Node) :
    node.registerBinding? = some (number, known) ↔ node.ReadsRegister number known := by
  constructor
  · intro found
    unfold registerBinding? at found
    split at found
    · cases found
      exact .operand number known
    · cases found
      exact .temporary number _
    · cases found
  · intro reads
    cases reads <;> rfl

theorem registerBinding?_eq_none_iff (node : Node) :
    node.registerBinding? = none ↔ ∀ number known, ¬ node.ReadsRegister number known := by
  rw [Option.eq_none_iff_forall_ne_some, Prod.forall]
  exact forall_congr' fun number => forall_congr' fun known =>
    not_congr (node.registerBinding?_eq_some_iff number known)

/-- The number of a register operand. -/
def registerNumber (operand : Operand) (node : Node) : Except Rejection UInt32 :=
  match node.registerBinding? with
  | some (number, _) => .ok number
  | none => .error (.notARegister operand)

/-- A construction names a type: `B` in `new B()`, `a.B` in `new a.B()`. -/
inductive Constructs : Node → Node → Prop where
  | ofVariable (name : Node) (arguments : List Node) :
      Constructs (.newObject name arguments) (.getVariable name)
  | ofMember (object method : Node) (arguments : List Node) :
      Constructs (.newMethod object method arguments) (.getMember object method)

/-- The type that a construction names. -/
def constructedType? : Node → Option Node
  | .newMethod object method _ => some (.getMember object method)
  | .newObject name _ => some (.getVariable name)
  | _ => none

theorem constructedType?_eq_some_iff (node type : Node) :
    node.constructedType? = some type ↔ node.Constructs type := by
  constructor
  · intro constructed
    cases node with
    | newMethod object method arguments =>
        cases constructed
        exact .ofMember object method arguments
    | newObject name arguments =>
        cases constructed
        exact .ofVariable name arguments
    | _ => cases constructed
  · intro constructs
    cases constructs <;> rfl

def constructedType (node : Node) : Except Rejection Node :=
  match node.constructedType? with
  | some type => .ok type
  | none => .error (.mismatch .notConstruction)

end Node

/-! ## The table of roles -/

/-- For each role the register that has it. -/
structure Roles where
  classObject : Option UInt32 := none
  prototypeObject : Option UInt32 := none
deriving DecidableEq, Inhabited, Repr

namespace Roles

def registerFor (roles : Roles) : Role → Option UInt32
  | .classObject => roles.classObject
  | .prototypeObject => roles.prototypeObject

def roleOf (roles : Roles) (register : UInt32) : Option Role :=
  if roles.classObject = some register then some .classObject
  else if roles.prototypeObject = some register then some .prototypeObject
  else none

/-- Put a register into a role, whatever it was before. -/
def set (roles : Roles) (register : UInt32) : Role → Roles
  | .classObject => { roles with classObject := some register }
  | .prototypeObject => { roles with prototypeObject := some register }

/-- Give a role to a register.  The role moves away from any other register; a
register that already has the other role is refused. -/
def assign (roles : Roles) (register : UInt32) (role : Role) : Except Rejection Roles :=
  match roles.roleOf register with
  | some held => if held = role then .ok roles else .error (.roleConflict register held)
  | none => .ok (roles.set register role)

end Roles

/-! ## Learning a role from what a register carries -/

/-- What the value carried by a register says about the class. -/
inductive Binding where
  /-- The register holds the class object, made by its constructor. -/
  | classObject (name : Node) (construct : FunctionLiteral)
  /-- The register holds the prototype, an instance of the superclass. -/
  | prototypeObject (name superclass : Node)

def Binding.role : Binding → Role
  | .classObject .. => .classObject
  | .prototypeObject .. => .prototypeObject

/-- A member write that a register carries, taken apart.  `source` is the
expression for the class: the written place itself, or the object that holds
it when the place is the prototype member. -/
structure CarriedWrite where
  ofPrototype : Bool
  source : Node
  value : Node

/-- Take apart the value of a register. -/
def CarriedWrite.ofKnown (options : Options) : Option Node → Except Rejection CarriedWrite
  | some (.setMember object member value) =>
      match member.text? with
      | none => .error (.mismatch .carriedNameNotString)
      | some name =>
          if name = options.prototypeMember then .ok ⟨true, object, value⟩
          else .ok ⟨false, .getMember object member, value⟩
  | _ => .error (.mismatch .carriedNotMemberWrite)

/-- The carried write must be for the class at the given path. -/
def CarriedWrite.checkPath (options : Options) (path : Path) (write : CarriedWrite) :
    Except Rejection Unit :=
  match write.source.path? with
  | none => .error (.mismatch .carriedWithoutPath)
  | some found =>
      let found := found.withoutRoot options.rootNamespace
      if found = path then .ok () else .error (.mismatch (.carriedOtherPath found))

/-- The written value, which must be stored to the very register that carries
the write. -/
def CarriedWrite.stored (register : UInt32) (write : CarriedWrite) : Except Rejection Node :=
  match write.value with
  | .storeRegister number value =>
      if number = register then .ok value else .error (.mismatch .carriedOtherRegister)
  | _ => .error (.mismatch .carriedNotStored)

/-- What a stored value says about the class.  The prototype must be newly
constructed, and the class object must be a function. -/
def CarriedWrite.binding (options : Options) (write : CarriedWrite) (stored : Node) :
    Except Rejection Binding :=
  let name := write.source.withoutRoot options.rootNamespace
  if write.ofPrototype then
    match stored.constructedType? with
    | some type => .ok (.prototypeObject name (type.withoutRoot options.rootNamespace))
    | none => .error (.mismatch (.carriedOtherKind stored.kind))
  else
    match stored with
    | .function construct => .ok (.classObject name construct)
    | _ => .error (.mismatch (.carriedOtherKind stored.kind))

/-- Learn the role of a register from its known value, for the class at the
given path.  The table changes only when everything about the value fits. -/
def Roles.derive (options : Options) (path : Path) (roles : Roles) (register : UInt32)
    (known : Option Node) : Except Rejection (Binding × Roles) := do
  let write ← CarriedWrite.ofKnown options known
  write.checkPath options path
  let stored ← write.stored register
  let binding ← write.binding options stored
  let roles ← roles.assign register binding.role
  return (binding, roles)

end ClassRecovery
