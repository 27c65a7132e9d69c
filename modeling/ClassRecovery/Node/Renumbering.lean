import ClassRecovery.Node.Basic

namespace ClassRecovery

/-!
# Renumbering registers

The compiler numbers registers as it finds them free, so the numbers carry no
meaning beyond which operands share one.  A renumbering replaces every register
number in a tree, however deep it lies, and leaves everything else alone.
-/

mutual

/-- Replace all register numbers in a node. -/
def Node.renumber (number : UInt32 → UInt32) : Node → Node
  | .branch condition onTrue onFalse =>
      .branch (condition.renumber number) (renumberNodes number onTrue)
        (renumberNodes number onFalse)
  | .not operand => .not (operand.renumber number)
  | .getMember object member => .getMember (object.renumber number) (member.renumber number)
  | .setMember object member value =>
      .setMember (object.renumber number) (member.renumber number) (value.renumber number)
  | .getVariable name => .getVariable (name.renumber number)
  | .setVariable name value => .setVariable (name.renumber number) (value.renumber number)
  | .literal value => .literal (value.renumber number)
  | .newObject name arguments =>
      .newObject (name.renumber number) (renumberNodes number arguments)
  | .newMethod object method arguments =>
      .newMethod (object.renumber number) (method.renumber number)
        (renumberNodes number arguments)
  | .function value => .function (value.renumber number)
  | .storeRegister register value => .storeRegister (number register) (value.renumber number)
  | .temporaryRegister register value =>
      .temporaryRegister (number register) (value.renumber number)
  | .callMethod object method arguments =>
      .callMethod (object.renumber number) (method.renumber number)
        (renumberNodes number arguments)
  | .callFunction name arguments =>
      .callFunction (name.renumber number) (renumberNodes number arguments)
  | .pop => .pop
  | .push value => .push (value.renumber number)
  | .extendsClause subclass superclass =>
      .extendsClause (subclass.renumber number) (superclass.renumber number)
  | .implementsClause subclass interfaces =>
      .implementsClause (subclass.renumber number) (renumberNodes number interfaces)
  | .classDecl declaration => .classDecl (declaration.renumber number)
  | .interfaceDecl declaration => .interfaceDecl (declaration.renumber number)
  | .unresolved text => .unresolved text

def Literal.renumber (number : UInt32 → UInt32) : Literal → Literal
  | .string text => .string text
  | .integer value => .integer value
  | .double value => .double value
  | .boolean value => .boolean value
  | .null => .null
  | .undefined => .undefined
  | .register register known => .register (number register) (renumberOptional number known)

def FunctionLiteral.renumber (number : UInt32 → UInt32) : FunctionLiteral → FunctionLiteral
  | ⟨name, params, body, inferredName⟩ =>
      ⟨name, params, renumberNodes number body, renumberOptional number inferredName⟩

def Member.renumber (number : UInt32 → UInt32) : Member → Member
  | ⟨name, value⟩ => ⟨name.renumber number, value.renumber number⟩

def ClassDecl.renumber (number : UInt32 → UInt32) : ClassDecl → ClassDecl
  | ⟨name, path, superclass, interfaces, members, staticFlags, properties⟩ =>
      ⟨name.renumber number, path, renumberOptional number superclass,
        renumberNodes number interfaces, renumberMembers number members, staticFlags, properties⟩

def InterfaceDecl.renumber (number : UInt32 → UInt32) : InterfaceDecl → InterfaceDecl
  | ⟨name, path, superinterfaces⟩ =>
      ⟨name.renumber number, path, renumberNodes number superinterfaces⟩

def renumberNodes (number : UInt32 → UInt32) : List Node → List Node
  | [] => []
  | node :: rest => node.renumber number :: renumberNodes number rest

def renumberOptional (number : UInt32 → UInt32) : Option Node → Option Node
  | none => none
  | some node => some (node.renumber number)

def renumberMembers (number : UInt32 → UInt32) : List Member → List Member
  | [] => []
  | member :: rest => member.renumber number :: renumberMembers number rest

end

attribute [simp] Node.renumber Literal.renumber FunctionLiteral.renumber Member.renumber
  ClassDecl.renumber InterfaceDecl.renumber renumberNodes renumberOptional renumberMembers

theorem renumberNodes_eq_map (number : UInt32 → UInt32) (nodes : List Node) :
    renumberNodes number nodes = nodes.map (·.renumber number) := by
  induction nodes with
  | nil => rfl
  | cons node rest hypothesis =>
      simp only [renumberNodes, List.map_cons, hypothesis]

theorem renumberMembers_eq_map (number : UInt32 → UInt32) (members : List Member) :
    renumberMembers number members = members.map (·.renumber number) := by
  induction members with
  | nil => rfl
  | cons member rest hypothesis =>
      simp only [renumberMembers, List.map_cons, hypothesis]

theorem renumberOptional_eq_map (number : UInt32 → UInt32) (node : Option Node) :
    renumberOptional number node = node.map (·.renumber number) := by
  cases node <;> rfl

/-- A renumbering does not change what kind of node it is applied to. -/
theorem Node.kind_renumber (number : UInt32 → UInt32) (node : Node) :
    (node.renumber number).kind = node.kind := by
  cases node <;> rfl

end ClassRecovery
