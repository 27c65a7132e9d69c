import ClassRecovery.Body.Call

namespace ClassRecovery

/-!
# Reading the body of a class or an interface

The body of the innermost guard declares a class in up to four parts, each of
which may be missing: the superclass, the statement that binds the registers,
the members mixed with the implemented interfaces, and the calls at the end.

An interface starts in the same way, but then an empty function is written to
the path itself, and only implemented interfaces may follow.  That write is met
where members are expected, so what it makes of the body is decided there.

Every part is read from the statements that the part before it left over.
-/

/-- The superclass, where the body begins with one. -/
def takeSuperclass (options : Options) : List Node → Option Node × List Node
  | .extendsClause _ superclass :: rest =>
      (some (superclass.withoutRoot options.rootNamespace), rest)
  | parts => (none, parts)

/-- The statement that binds both registers, where it comes next. -/
def takeBinding (options : Options) (path : Path) (draft : Draft) :
    List Node → Except Rejection (Draft × List Node)
  | .storeRegister register value :: rest => do
      let draft ← draft.bindBoth options path register value
      return (draft, rest)
  | parts => .ok (draft, parts)

/-- The interfaces that the statements after an interface's own write implement.
Nothing else may stand there. -/
def implementedBy : List Node → Except Rejection (List Node)
  | [] => .ok []
  | .implementsClause _ interfaces :: rest => do
      let more ← implementedBy rest
      return interfaces ++ more
  | other :: _ => .error (.mismatch (.interfaceStatement other.kind))

/-- An interface is a function without a name, a body and parameters, and each of
the three is missed on its own. -/
def checkInterfaceFunction : Option Node → Except Rejection Unit
  | some (.function function) =>
      if function.name ≠ "" then .error (.mismatch .interfaceFunctionNamed)
      else if !function.body.isEmpty then .error (.mismatch .interfaceFunctionNotEmpty)
      else if !function.params.isEmpty then .error (.mismatch .interfaceFunctionWithParams)
      else .ok ()
  | some other => .error (.unexpectedNode .interfaceFunction other.kind)
  | none => .error (.mismatch .interfaceWithoutPath)

/-- The interface that a write declares, given the ancestors that were named
before it and the statements behind it. -/
def readInterface (options : Options) (path : Path) (ancestors : List Node) (write : Node)
    (rest : List Node) : Except Rejection InterfaceDecl :=
  match write.writePath?, write.target? with
  | some found, some target =>
      if found.withoutRoot options.rootNamespace = path then do
        checkInterfaceFunction write.writtenValue?
        let more ← implementedBy rest
        return ⟨target.withoutRoot options.rootNamespace, path, ancestors ++ more⟩
      else .error (.mismatch .interfaceOfOtherPath)
  | _, _ => .error (.mismatch .interfaceWithoutPath)

/-- What the members of a body lead to. -/
inductive Members where
  | interface (declaration : InterfaceDecl)
  | calls (draft : Draft) (rest : List Node)

/-- Members and implemented interfaces, as far as they reach.  A write that is not
through a register declares an interface. -/
def takeMembers (options : Options) (path : Path) : Draft → List Node → Except Rejection Members
  | draft, .setMember object name value :: rest =>
      match object.registerBinding? with
      | some (register, known) => do
          let draft ← draft.addMember options path register known name value
          takeMembers options path draft rest
      | none => do
          let declaration ←
            readInterface options path draft.interfaces (.setMember object name value) rest
          return .interface declaration
  | draft, .setVariable name value :: rest => do
      let declaration ←
        readInterface options path draft.interfaces (.setVariable name value) rest
      return .interface declaration
  | draft, .implementsClause _ interfaces :: rest =>
      takeMembers options path (draft.addInterfaces interfaces) rest
  | draft, parts => .ok (.calls draft parts)

/-- The calls at the end of a class. -/
def takeCalls (options : Options) (path : Path) : Draft → List Node → Except Rejection Draft
  | draft, [] => .ok draft
  | draft, statement :: rest => do
      let draft ← draft.addCall options path statement
      takeCalls options path draft rest

/-- Read the body of the guard that stands for the path of a class. -/
def Declaration.ofBody (options : Options) (path : Path) (parts : List Node) :
    Except Rejection Declaration :=
  if parts.isEmpty then .error (.mismatch .emptyBody)
  else if path.isEmpty then .error (.mismatch .emptyPath)
  else do
    let (superclass, parts) := takeSuperclass options parts
    let (draft, parts) ← takeBinding options path { superclass := superclass } parts
    match ← takeMembers options path draft parts with
    | .interface declaration => return .interfaceDecl declaration
    | .calls draft parts =>
        let draft ← takeCalls options path draft parts
        let declaration ← draft.finish path
        return .classDecl declaration

end ClassRecovery
