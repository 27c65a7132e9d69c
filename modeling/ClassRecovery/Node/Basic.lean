import ClassRecovery.Binary64.Basic

namespace ClassRecovery

/-!
# Statement trees

A decompiled script is a list of nodes, and one type serves for statements and
for expressions, because the bytecode does not separate the two.  Class and
interface declarations are nodes as well: recovery replaces the statements that
built a class by one such node, and its output is again a list of nodes.

Nothing here judges whether a tree makes sense.  A declaration that was read
from outside may have fewer static flags than members, and a name position may
hold any expression at all.
-/

/-- A property with accessors.  An accessor is absent when the compiler filled
its place with an empty function. -/
structure Property where
  name : String
  hasGetter : Bool
  hasSetter : Bool
  isStatic : Bool
deriving DecidableEq, Inhabited, Repr

mutual

/-- An operand written into the bytecode itself. -/
inductive Literal where
  | string (text : String)
  | integer (value : Int64)
  | double (value : Binary64)
  | boolean (value : Bool)
  | null
  | undefined
  /-- A register operand.  `known` is the value last stored to the register,
  where the decompiler could still follow it. -/
  | register (number : UInt32) (known : Option Node)

/-- A function written in place.  An anonymous function has the empty name;
`inferredName` is the member that the function was assigned to. -/
structure FunctionLiteral where
  name : String
  params : List String
  body : List Node
  inferredName : Option Node

/-- A named part of a class: a method, an initialised field or the
constructor. -/
structure Member where
  name : Node
  value : Node

/-- A class.  The first member is the constructor, and `staticFlags` says of
each member in turn whether it belongs to the class object. -/
structure ClassDecl where
  name : Node
  path : List String
  superclass : Option Node
  interfaces : List Node
  members : List Member
  staticFlags : List Bool
  properties : List Property

/-- An interface, which has ancestors and nothing else. -/
structure InterfaceDecl where
  name : Node
  path : List String
  superinterfaces : List Node

/-- A statement or an expression. -/
inductive Node where
  | branch (condition : Node) (onTrue onFalse : List Node)
  | not (operand : Node)
  | getMember (object member : Node)
  | setMember (object member value : Node)
  | getVariable (name : Node)
  | setVariable (name value : Node)
  | literal (value : Literal)
  | newObject (name : Node) (arguments : List Node)
  | newMethod (object method : Node) (arguments : List Node)
  | function (value : FunctionLiteral)
  | storeRegister (number : UInt32) (value : Node)
  /-- The reading of a register whose stored value is still known. -/
  | temporaryRegister (number : UInt32) (value : Node)
  | callMethod (object method : Node) (arguments : List Node)
  | callFunction (name : Node) (arguments : List Node)
  /-- Discards the value that the statement before it left on the stack. -/
  | pop
  /-- Leaves a value on the stack at the end of a block. -/
  | push (value : Node)
  | extendsClause (subclass superclass : Node)
  | implementsClause (subclass : Node) (interfaces : List Node)
  | classDecl (declaration : ClassDecl)
  | interfaceDecl (declaration : InterfaceDecl)
  /-- Something that the decompiler kept as text. -/
  | unresolved (text : String)

end

instance : Inhabited Node := ⟨.pop⟩

/-- The kinds of node, for messages that must not repeat a whole tree. -/
inductive NodeKind where
  | branch | not | getMember | setMember | getVariable | setVariable | literal
  | newObject | newMethod | function | storeRegister | temporaryRegister
  | callMethod | callFunction | pop | push | extendsClause | implementsClause
  | classDecl | interfaceDecl | unresolved
deriving DecidableEq, Inhabited, Repr

/-- The word for a kind, as messages and the tags of stored trees spell it. -/
def NodeKind.name : NodeKind → String
  | .branch => "If"
  | .not => "Not"
  | .getMember => "GetMember"
  | .setMember => "SetMember"
  | .getVariable => "GetVariable"
  | .setVariable => "SetVariable"
  | .literal => "DirectValue"
  | .newObject => "NewObject"
  | .newMethod => "NewMethod"
  | .function => "Function"
  | .storeRegister => "StoreRegister"
  | .temporaryRegister => "TemporaryRegister"
  | .callMethod => "CallMethod"
  | .callFunction => "CallFunction"
  | .pop => "Pop"
  | .push => "Push"
  | .extendsClause => "Extends"
  | .implementsClause => "ImplementsOp"
  | .classDecl => "Class"
  | .interfaceDecl => "Interface"
  | .unresolved => "Unresolved"

namespace FunctionLiteral

/-- A function of the given parameters and body that nothing has named yet. -/
def anonymous (params : List String) (body : List Node) : FunctionLiteral :=
  ⟨"", params, body, none⟩

/-- The empty function that fills the place of an absent accessor. -/
def empty : FunctionLiteral :=
  anonymous [] []

instance : Inhabited FunctionLiteral := ⟨empty⟩

/-- An inferred name does not count: it says where the function was put, not
what it does. -/
def isPlaceholder (function : FunctionLiteral) : Bool :=
  function.name == "" && function.params.isEmpty && function.body.isEmpty

theorem isPlaceholder_eq_true_iff (function : FunctionLiteral) :
    function.isPlaceholder = true ↔ ∃ inferredName, function = ⟨"", [], [], inferredName⟩ := by
  rcases function with ⟨name, params, body, inferredName⟩
  constructor
  · intro placeholder
    simp only [isPlaceholder, Bool.and_eq_true, beq_iff_eq, List.isEmpty_iff] at placeholder
    rcases placeholder with ⟨⟨rfl, rfl⟩, rfl⟩
    exact ⟨inferredName, rfl⟩
  · rintro ⟨_, same⟩
    cases same
    rfl

/-- Record the member that the function was assigned to. -/
def namedAs (function : FunctionLiteral) (member : Node) : FunctionLiteral :=
  { function with inferredName := some member }

/-- A name is all that the function gains. -/
theorem namedAs_eq (function : FunctionLiteral) (member : Node) :
    function.namedAs member = ⟨function.name, function.params, function.body, some member⟩ :=
  rfl

end FunctionLiteral

namespace Node

def kind : Node → NodeKind
  | .branch .. => .branch
  | .not .. => .not
  | .getMember .. => .getMember
  | .setMember .. => .setMember
  | .getVariable .. => .getVariable
  | .setVariable .. => .setVariable
  | .literal .. => .literal
  | .newObject .. => .newObject
  | .newMethod .. => .newMethod
  | .function .. => .function
  | .storeRegister .. => .storeRegister
  | .temporaryRegister .. => .temporaryRegister
  | .callMethod .. => .callMethod
  | .callFunction .. => .callFunction
  | .pop => .pop
  | .push .. => .push
  | .extendsClause .. => .extendsClause
  | .implementsClause .. => .implementsClause
  | .classDecl .. => .classDecl
  | .interfaceDecl .. => .interfaceDecl
  | .unresolved .. => .unresolved

/-! ## Trees with literal names

Name positions hold expressions.  In compiled code they are nearly always
string literals, and these spellings build exactly those trees. -/

def string (text : String) : Node :=
  .literal (.string text)

def integer (value : Int64) : Node :=
  .literal (.integer value)

def null : Node :=
  .literal .null

/-- A register operand whose contents are not known. -/
def register (number : UInt32) : Node :=
  .literal (.register number none)

def variableNamed (name : String) : Node :=
  .getVariable (string name)

def assignVariable (name : String) (value : Node) : Node :=
  .setVariable (string name) value

def memberNamed (object : Node) (name : String) : Node :=
  .getMember object (string name)

def assignMember (object : Node) (name : String) (value : Node) : Node :=
  .setMember object (string name) value

def construct (name : String) (arguments : List Node) : Node :=
  .newObject (string name) arguments

def callNamed (name : String) (arguments : List Node) : Node :=
  .callFunction (string name) arguments

def callMethodNamed (object : Node) (name : String) (arguments : List Node) : Node :=
  .callMethod object (string name) arguments

/-! ## Questions about one node -/

/-- The text of a string literal. -/
def text? : Node → Option String
  | .literal (.string text) => some text
  | _ => none

/-- Assignments to members and to variables are the writes.  A store to a
register is not one: it names no place that outlives the script. -/
def isWrite : Node → Bool
  | .setMember .. => true
  | .setVariable .. => true
  | _ => false

/-- A write assigns a value to a member or to a variable. -/
inductive Writes : Node → Node → Prop where
  | toMember (object member value : Node) : Writes (.setMember object member value) value
  | toVariable (name value : Node) : Writes (.setVariable name value) value

/-- The value that an assignment to a member or to a variable writes. -/
def writtenValue? : Node → Option Node
  | .setMember _ _ value => some value
  | .setVariable _ value => some value
  | _ => none

theorem writtenValue?_eq_some_iff (node value : Node) :
    node.writtenValue? = some value ↔ node.Writes value := by
  constructor
  · intro written
    cases node with
    | setMember object member written' =>
        cases written
        exact .toMember object member value
    | setVariable name written' =>
        cases written
        exact .toVariable name value
    | _ => cases written
  · intro writes
    cases writes <;> rfl

end Node

end ClassRecovery
