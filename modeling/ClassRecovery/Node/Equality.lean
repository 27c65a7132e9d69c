import ClassRecovery.Node.Basic

namespace ClassRecovery

/-!
# Trees of equal value

Two trees have the same value when they agree part by part and their doubles
are numerically equal.  This is not equality of trees: the two zeros agree, and
a tree that holds a value which is not a number differs even from itself.  On
trees without doubles the two notions coincide.
-/

mutual

/-- Compare two nodes part by part, doubles by their numeric value. -/
def Node.sameValue : Node → Node → Bool
  | .branch condition onTrue onFalse, .branch condition' onTrue' onFalse' =>
      condition.sameValue condition' && sameNodes onTrue onTrue' && sameNodes onFalse onFalse'
  | .not operand, .not operand' => operand.sameValue operand'
  | .getMember object member, .getMember object' member' =>
      object.sameValue object' && member.sameValue member'
  | .setMember object member value, .setMember object' member' value' =>
      object.sameValue object' && member.sameValue member' && value.sameValue value'
  | .getVariable name, .getVariable name' => name.sameValue name'
  | .setVariable name value, .setVariable name' value' =>
      name.sameValue name' && value.sameValue value'
  | .literal value, .literal value' => value.sameValue value'
  | .newObject name arguments, .newObject name' arguments' =>
      name.sameValue name' && sameNodes arguments arguments'
  | .newMethod object method arguments, .newMethod object' method' arguments' =>
      object.sameValue object' && method.sameValue method' && sameNodes arguments arguments'
  | .function value, .function value' => value.sameValue value'
  | .storeRegister number value, .storeRegister number' value' =>
      number == number' && value.sameValue value'
  | .temporaryRegister number value, .temporaryRegister number' value' =>
      number == number' && value.sameValue value'
  | .callMethod object method arguments, .callMethod object' method' arguments' =>
      object.sameValue object' && method.sameValue method' && sameNodes arguments arguments'
  | .callFunction name arguments, .callFunction name' arguments' =>
      name.sameValue name' && sameNodes arguments arguments'
  | .pop, .pop => true
  | .push value, .push value' => value.sameValue value'
  | .extendsClause subclass superclass, .extendsClause subclass' superclass' =>
      subclass.sameValue subclass' && superclass.sameValue superclass'
  | .implementsClause subclass interfaces, .implementsClause subclass' interfaces' =>
      subclass.sameValue subclass' && sameNodes interfaces interfaces'
  | .classDecl declaration, .classDecl declaration' => declaration.sameValue declaration'
  | .interfaceDecl declaration, .interfaceDecl declaration' => declaration.sameValue declaration'
  | .unresolved text, .unresolved text' => text == text'
  | _, _ => false
termination_by structural left => left

def Literal.sameValue : Literal → Literal → Bool
  | .string text, .string text' => text == text'
  | .integer value, .integer value' => value == value'
  | .double value, .double value' => value.sameValue value'
  | .boolean value, .boolean value' => value == value'
  | .null, .null => true
  | .undefined, .undefined => true
  | .register number known, .register number' known' => number == number' && sameOptional known known'
  | _, _ => false
termination_by structural left => left

def FunctionLiteral.sameValue : FunctionLiteral → FunctionLiteral → Bool
  | ⟨name, params, body, inferredName⟩, ⟨name', params', body', inferredName'⟩ =>
      name == name' && params == params' && sameNodes body body' &&
        sameOptional inferredName inferredName'
termination_by structural left => left

def Member.sameValue : Member → Member → Bool
  | ⟨name, value⟩, ⟨name', value'⟩ => name.sameValue name' && value.sameValue value'
termination_by structural left => left

def ClassDecl.sameValue : ClassDecl → ClassDecl → Bool
  | ⟨name, path, superclass, interfaces, members, staticFlags, properties⟩,
    ⟨name', path', superclass', interfaces', members', staticFlags', properties'⟩ =>
      name.sameValue name' && path == path' && sameOptional superclass superclass' &&
        sameNodes interfaces interfaces' && sameMembers members members' &&
        staticFlags == staticFlags' && properties == properties'
termination_by structural left => left

def InterfaceDecl.sameValue : InterfaceDecl → InterfaceDecl → Bool
  | ⟨name, path, superinterfaces⟩, ⟨name', path', superinterfaces'⟩ =>
      name.sameValue name' && path == path' && sameNodes superinterfaces superinterfaces'
termination_by structural left => left

def sameNodes : List Node → List Node → Bool
  | [], [] => true
  | node :: rest, node' :: rest' => node.sameValue node' && sameNodes rest rest'
  | _, _ => false
termination_by structural left => left

def sameOptional : Option Node → Option Node → Bool
  | none, none => true
  | some node, some node' => node.sameValue node'
  | _, _ => false
termination_by structural left => left

def sameMembers : List Member → List Member → Bool
  | [], [] => true
  | member :: rest, member' :: rest' => member.sameValue member' && sameMembers rest rest'
  | _, _ => false
termination_by structural left => left

end

example : (Node.string "x").sameValue (Node.string "x") = true := by decide

/-- A tree that holds a value which is not a number differs from itself. -/
example : (Node.literal (.double ⟨0x7ff8000000000000⟩)).sameValue
    (.literal (.double ⟨0x7ff8000000000000⟩)) = false := by decide

end ClassRecovery
