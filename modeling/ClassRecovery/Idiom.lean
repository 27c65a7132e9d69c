import ClassRecovery.Attempt

namespace ClassRecovery

/-!
# The statements that stand for a class

The compiler has a fixed way to write a class or an interface as statements.
The descriptions below say what a class consists of, and with each description
come two things: the statements that the compiler writes for it, and the node
that a recovery ought to put in their place.

Only what the compiler may choose is left open: register numbers, the order of
members and of calls, and where values are left on the stack and discarded.  What
the decompiler chooses is left open as well: what it still knows of the contents
of a register, and the names that it infers for functions.
-/

namespace Idiom

/-- Reads a path from the root namespace, as guards and bodies do. -/
def globalRead (options : Options) (path : Path) : Node :=
  path.foldl Node.memberNamed (.variableNamed options.rootNamespace)

/-- Assigns to a path below the root namespace. -/
def globalWrite (options : Options) (package : Path) (name : String) (value : Node) : Node :=
  .assignMember (globalRead options package) name value

/-- A discarded value, where there is one. -/
def discard (discarded : Bool) : List Node :=
  if discarded then [.pop] else []

/-- The node that names in source code what a path reaches. -/
def sourceName (name : String) : Path → Node
  | [] => .variableNamed name
  | first :: rest => (rest ++ [name]).foldl Node.memberNamed (.variableNamed first)

theorem ofPath?_sourceName (package : Path) (name : String) :
    Node.ofPath? (package ++ [name]) = some (sourceName name package) := by
  cases package <;> rfl

/-- An empty function, whatever name was inferred for it. -/
def emptyFunction (inferredName : Option Node) : Node :=
  .function ⟨"", [], [], inferredName⟩

/-- How a register is read: as an operand, or with the value that the decompiler
could follow to it. -/
inductive RegisterRead where
  | operand (known : Option Node)
  | temporary (value : Node)

namespace RegisterRead

def node (register : UInt32) : RegisterRead → Node
  | .operand known => .literal (.register register known)
  | .temporary value => .temporaryRegister register value

/-- What is known to be in the register. -/
def carried : RegisterRead → Option Node
  | .operand known => known
  | .temporary value => some value

theorem readsRegister_node (register : UInt32) (read : RegisterRead) :
    (read.node register).ReadsRegister register read.carried := by
  cases read with
  | operand known => exact .operand register known
  | temporary value => exact .temporary register value

end RegisterRead

/-! ## Guards -/

/-- Where a class is declared.  A flag says of each guard whether its value is
discarded by a statement of its own. -/
structure Placement where
  package : List (String × Bool)
  name : String
  discarded : Bool

namespace Placement

def packagePath (placement : Placement) : Path :=
  placement.package.map (·.1)

def path (placement : Placement) : Path :=
  placement.packagePath ++ [placement.name]

theorem path_ne_nil (placement : Placement) : placement.path ≠ [] :=
  List.append_ne_nil_of_right_ne_nil _ (List.cons_ne_nil _ _)

/-- The node that names the class in source code. -/
def nameNode (placement : Placement) : Node :=
  sourceName placement.name placement.packagePath

end Placement

/-- The guards that create the namespaces below one that exists. -/
def packageGuards (options : Options) (parent : Path) : List (String × Bool) → List Node
  | [] => []
  | (name, discarded) :: rest =>
      .branch (.not (globalRead options (parent ++ [name])))
          [globalWrite options parent name (.construct "Object" [])] [] ::
        (discard discarded ++ packageGuards options (parent ++ [name]) rest)

/-- A body inside all the guards that its place asks for. -/
def guarded (options : Options) (placement : Placement) (body : List Node) : List Node :=
  packageGuards options [] placement.package ++
    .branch (.not (globalRead options placement.path)) body [] :: discard placement.discarded

/-! ## Classes -/

/-- One statement between the binding of the registers and the calls. -/
inductive MemberStatement where
  | write (role : Role) (read : RegisterRead) (name value : Node)
  | implements (subclass : Node) (interfaces : List Node)

/-- What stands for an accessor of a property: a method of the object that the
property is added to, or an empty function in its place. -/
inductive AccessorSource where
  | method (read : RegisterRead)
  | placeholder (inferredName : Option Node)

namespace AccessorSource

def present : AccessorSource → Bool
  | .method _ => true
  | .placeholder _ => false

def node (register : UInt32) (method : String) : AccessorSource → Node
  | .method read => .memberNamed (read.node register) method
  | .placeholder inferredName => emptyFunction inferredName

end AccessorSource

/-- One call at the end of a body.  The last flag says whether its value is pushed,
and `fromRoot` whether the class is reached through the root namespace. -/
inductive Call where
  | property (name : String) (role : Role) (read : RegisterRead) (getter setter : AccessorSource)
      (pushed : Bool)
  | hideMembers (fromRoot pushed : Bool)

/-- What a class consists of. -/
structure ClassSource where
  placement : Placement
  /-- The operand that names the class itself, and the path of the superclass. -/
  superclass : Option (Node × Path × String)
  prototypeRegister : UInt32
  classRegister : UInt32
  /-- One register cannot hold both the class and its prototype. -/
  distinct : prototypeRegister ≠ classRegister
  construct : FunctionLiteral
  members : List MemberStatement
  calls : List Call

namespace ClassSource

def registerFor (source : ClassSource) : Role → UInt32
  | .classObject => source.classRegister
  | .prototypeObject => source.prototypeRegister

/-- The clause that names the superclass, where there is one. -/
def extendsStatements (options : Options) (source : ClassSource) : List Node :=
  match source.superclass with
  | none => []
  | some (subclass, package, name) =>
      [.extendsClause subclass (globalRead options (package ++ [name]))]

/-- Creates the class and keeps it and its prototype in registers. -/
def binding (options : Options) (source : ClassSource) : Node :=
  .storeRegister source.prototypeRegister
    (.memberNamed
      (.temporaryRegister source.classRegister
        (globalWrite options source.placement.packagePath source.placement.name
          (.storeRegister source.classRegister (.function source.construct))))
      options.prototypeMember)

def memberStatement (source : ClassSource) : MemberStatement → Node
  | .write role read name value => .setMember (read.node (source.registerFor role)) name value
  | .implements subclass interfaces => .implementsClause subclass interfaces

/-- Reads the prototype of the class.  A package of the root's own name can only be
reached through the root. -/
def prototypeRead (options : Options) (source : ClassSource) (fromRoot : Bool) : Node :=
  if fromRoot || source.placement.path.head? == some options.rootNamespace then
    globalRead options (source.placement.path ++ [options.prototypeMember])
  else sourceName options.prototypeMember source.placement.path

def pushedIf (pushed : Bool) (call : Node) : Node :=
  if pushed then .push call else call

def callStatement (options : Options) (source : ClassSource) : Call → Node
  | .property name role read getter setter pushed =>
      let register := source.registerFor role
      pushedIf pushed <| .callMethodNamed (read.node register) options.addPropertyMethod
        [.string name,
          getter.node register (options.getterPrefix ++ name),
          setter.node register (options.setterPrefix ++ name)]
  | .hideMembers fromRoot pushed =>
      pushedIf pushed <| .callNamed options.propFlagsFunction
        [source.prototypeRead options fromRoot, .null, .integer 1]

def body (options : Options) (source : ClassSource) : List Node :=
  source.extendsStatements options ++ source.binding options ::
    (source.members.map source.memberStatement ++ source.calls.map (source.callStatement options))

/-- The member that a statement writes.  A function learns the name of its member. -/
def flaggedMember? : MemberStatement → Option (Member × Bool)
  | .write role _ name (.function function) =>
      some (⟨name, .function { function with inferredName := some name }⟩,
        decide (role = .classObject))
  | .write role _ name value => some (⟨name, value⟩, decide (role = .classObject))
  | .implements .. => none

def interfacesOf : MemberStatement → List Node
  | .write .. => []
  | .implements _ interfaces => interfaces

def property? : Call → Option Property
  | .property name role _ getter setter _ =>
      some ⟨name, getter.present, setter.present, decide (role = .classObject)⟩
  | .hideMembers .. => none

/-- The class that the description stands for.  The constructor comes first, and it is
named for the class. -/
def declaration (source : ClassSource) : ClassDecl :=
  let own := Node.string source.placement.name
  let members := source.members.filterMap flaggedMember?
  { name := source.placement.nameNode
    path := source.placement.path
    superclass := source.superclass.map fun (_, package, name) => sourceName name package
    interfaces := source.members.flatMap interfacesOf
    members := ⟨own, .function { source.construct with inferredName := some own }⟩ ::
      members.map (·.1)
    staticFlags := false :: members.map (·.2)
    properties := source.calls.filterMap property? }

end ClassSource

/-! ## Interfaces and whole scripts -/

/-- What an interface consists of: clauses with the operand that names it. -/
structure InterfaceSource where
  placement : Placement
  inferredName : Option Node
  ancestors : List (Node × List Node)

namespace InterfaceSource

def body (options : Options) (source : InterfaceSource) : List Node :=
  globalWrite options source.placement.packagePath source.placement.name
      (emptyFunction source.inferredName) ::
    source.ancestors.map fun (subclass, interfaces) => .implementsClause subclass interfaces

/-- The interface that the description stands for. -/
def declaration (source : InterfaceSource) : InterfaceDecl :=
  ⟨source.placement.nameNode, source.placement.path, source.ancestors.flatMap (·.2)⟩

end InterfaceSource

/-- Whether a statement can be told apart from those that the compiler writes around a
class: it is no conditional, and it does not discard a value. -/
def isPlain : Node → Bool
  | .branch .. => false
  | .pop => false
  | _ => true

/-- A part of a script. -/
inductive Element where
  | ofClass (source : ClassSource)
  | ofInterface (source : InterfaceSource)
  | plain (statement : Node) (apart : isPlain statement = true)

namespace Element

/-- The statements that the compiler writes. -/
def statements (options : Options) : Element → List Node
  | .ofClass source => guarded options source.placement (source.body options)
  | .ofInterface source => guarded options source.placement (source.body options)
  | .plain statement _ => [statement]

/-- What the element declares. -/
def declaration? : Element → Option Declaration
  | .ofClass source => some (.classDecl source.declaration)
  | .ofInterface source => some (.interfaceDecl source.declaration)
  | .plain .. => none

/-- The node that belongs in the place of the statements. -/
def recovered : Element → Node
  | .ofClass source => .classDecl source.declaration
  | .ofInterface source => .interfaceDecl source.declaration
  | .plain statement _ => statement

def isClass : Element → Bool
  | .ofClass _ => true
  | _ => false

def isInterface : Element → Bool
  | .ofInterface _ => true
  | _ => false

end Element

/-- The statements of a whole script. -/
def compile (options : Options) (elements : List Element) : List Node :=
  elements.flatMap (·.statements options)

end Idiom

end ClassRecovery
