import Mathlib.Data.List.Forall2
import ClassRecovery.Node.Stored

namespace ClassRecovery

/-!
# Which values store a tree

The grammar below says which JSON values store a node, and which node they store,
without saying how a value is read.  It has one rule for every kind of node, and says of
each part of a node where it stands and whether it may be left out.

A rule speaks of the nodes right inside a node through a relation that it takes as an
argument.  `TreeFormat.Stores` is the least relation that is closed under the rules.
-/

namespace TreeFormat

/-! ## Parts -/

section Parts

variable {α : Type} (part : Json → α → Prop)

/-- A part that has to be there. -/
inductive One : Option Json → α → Prop where
  | intro {json : Json} {value : α} (stored : part json value) : One (some json) value

/-- A list that has to be there. -/
inductive Many : Option Json → List α → Prop where
  | intro {elements : List Json} {values : List α} (stored : List.Forall₂ part elements values) :
      Many (some (.array elements)) values

/-- A part that may be missing.  Null is the same as nothing. -/
inductive Perhaps : Option Json → Option α → Prop where
  | missing : Perhaps none none
  | null : Perhaps (some .null) none
  | present {json : Json} {value : α} (given : json ≠ .null) (stored : part json value) :
      Perhaps (some json) (some value)

end Parts

/-- A record of its own, whose fields are `names` in this order.  Those of an object stand
in any order, and others may stand between them. -/
inductive Record {α : Type} (format : TreeFormat) (names : List String)
    (parts : List (Option Json) → α → Prop) : Json → α → Prop where
  | named {fields : List (String × Json)} {value : α}
      (stored : parts (names.map fun name => fields.lookup name) value) :
      Record format names parts (.object fields) value
  | positional {elements : List Json} {value : α} (allowed : format.positional = true)
      (whole : elements.length = names.length) (stored : parts (elements.map some) value) :
      Record format names parts (.array elements) value

/-! ## Records -/

def functionFields : List String :=
  ["name", "params", "body", "calculated_name"]

def memberFields : List String :=
  ["name", "value"]

def propertyFields : List String :=
  ["name", "has_getter", "has_setter", "is_static"]

def classFields : List String :=
  ["name", "path", "extends", "implements", "traits", "traits_static", "properties"]

def interfaceFields : List String :=
  ["name", "path", "superclasses"]

inductive PropertyParts : List (Option Json) → Property → Prop where
  | intro (name : String) (hasGetter hasSetter isStatic : Bool) :
      PropertyParts [some (.string name), some (.boolean hasGetter), some (.boolean hasSetter),
        some (.boolean isStatic)] ⟨name, hasGetter, hasSetter, isStatic⟩

section Records

variable (format : TreeFormat) (part : Json → Node → Prop)

inductive FunctionParts : List (Option Json) → FunctionLiteral → Prop where
  | intro (name : String) (params : List String) {bodyField inferredField : Option Json}
      {body : List Node} {inferredName : Option Node} (bodyStored : Many part bodyField body)
      (inferredStored : Perhaps part inferredField inferredName) :
      FunctionParts [some (.string name), some (ofTexts params), bodyField, inferredField]
        ⟨name, params, body, inferredName⟩

inductive MemberParts : List (Option Json) → Member → Prop where
  | intro {nameField valueField : Option Json} {name value : Node}
      (nameStored : One part nameField name) (valueStored : One part valueField value) :
      MemberParts [nameField, valueField] ⟨name, value⟩

inductive ClassParts : List (Option Json) → ClassDecl → Prop where
  | intro (path : List String) (staticFlags : List Bool)
      {nameField superclassField interfacesField membersField propertiesField : Option Json}
      {name : Node} {superclass : Option Node} {interfaces : List Node} {members : List Member}
      {properties : List Property} (nameStored : One part nameField name)
      (superclassStored : Perhaps part superclassField superclass)
      (interfacesStored : Many part interfacesField interfaces)
      (membersStored : Many (Record format memberFields (MemberParts part)) membersField members)
      (propertiesStored :
        Many (Record format propertyFields PropertyParts) propertiesField properties) :
      ClassParts [nameField, some (ofTexts path), superclassField, interfacesField, membersField,
          some (.array (staticFlags.map .boolean)), propertiesField]
        ⟨name, path, superclass, interfaces, members, staticFlags, properties⟩

inductive InterfaceParts : List (Option Json) → InterfaceDecl → Prop where
  | intro (path : List String) {nameField superinterfacesField : Option Json} {name : Node}
      {superinterfaces : List Node} (nameStored : One part nameField name)
      (superinterfacesStored : Many part superinterfacesField superinterfaces) :
      InterfaceParts [nameField, some (ofTexts path), superinterfacesField]
        ⟨name, path, superinterfaces⟩

/-! ## Literals and nodes -/

/-- A bare name, or an object that holds null where the format has it. -/
inductive Bare (tag : String) : Json → Prop where
  | name : Bare tag (.string tag)
  | null (allowed : format.nullParts = true) : Bare tag (tagged tag .null)

inductive StoresLiteral : Json → Literal → Prop where
  | string (text : String) : StoresLiteral (tagged "String" (.string text)) (.string text)
  | integer (value : Int64) :
      StoresLiteral (tagged "Integer" (.integer value.toInt)) (.integer value)
  | double {json : Json} {value : Binary64} (read : format.readDouble? json = some value) :
      StoresLiteral (tagged "Double" json) (.double value)
  | boolean (value : Bool) : StoresLiteral (tagged "Boolean" (.boolean value)) (.boolean value)
  | null {json : Json} (bare : format.Bare "Null" json) : StoresLiteral json .null
  | undefined {json : Json} (bare : format.Bare "Undefined" json) : StoresLiteral json .undefined
  | register {fields : List (String × Json)} {number : UInt32} {known : Option Node}
      (numberStored : fields.lookup "number" = some (ofNumber number))
      (knownStored : Perhaps part (fields.lookup "computed") known) :
      StoresLiteral (tagged "Register" (.object fields)) (.register number known)

/-- A node, the nodes right inside it being stored as `part` says. -/
inductive StoresNode : Json → Node → Prop where
  | branch {fields : List (String × Json)} {condition : Node} {onTrue onFalse : List Node}
      (conditionStored : One part (fields.lookup "condition") condition)
      (onTrueStored : Many part (fields.lookup "on_true") onTrue)
      (onFalseStored : Many part (fields.lookup "on_false") onFalse) :
      StoresNode (tagged "If" (.object fields)) (.branch condition onTrue onFalse)
  | not {json : Json} {operand : Node} (stored : part json operand) :
      StoresNode (tagged "Not" json) (.not operand)
  | getMember {fields : List (String × Json)} {object member : Node}
      (objectStored : One part (fields.lookup "object") object)
      (memberStored : One part (fields.lookup "member") member) :
      StoresNode (tagged "GetMember" (.object fields)) (.getMember object member)
  | setMember {fields : List (String × Json)} {object member value : Node}
      (objectStored : One part (fields.lookup "object") object)
      (memberStored : One part (fields.lookup "member") member)
      (valueStored : One part (fields.lookup "value") value) :
      StoresNode (tagged "SetMember" (.object fields)) (.setMember object member value)
  | getVariable {fields : List (String × Json)} {name : Node}
      (nameStored : One part (fields.lookup "name") name) :
      StoresNode (tagged "GetVariable" (.object fields)) (.getVariable name)
  | setVariable {fields : List (String × Json)} {name value : Node}
      (nameStored : One part (fields.lookup "name") name)
      (valueStored : One part (fields.lookup "value") value) :
      StoresNode (tagged "SetVariable" (.object fields)) (.setVariable name value)
  | literal {json : Json} {value : Literal} (stored : StoresLiteral format part json value) :
      StoresNode (tagged "Direct" json) (.literal value)
  | newObject {fields : List (String × Json)} {name : Node} {arguments : List Node}
      (nameStored : One part (fields.lookup "name") name)
      (argumentsStored : Many part (fields.lookup "args") arguments) :
      StoresNode (tagged "NewObject" (.object fields)) (.newObject name arguments)
  | newMethod {fields : List (String × Json)} {object method : Node} {arguments : List Node}
      (objectStored : One part (fields.lookup "object") object)
      (methodStored : One part (fields.lookup "method") method)
      (argumentsStored : Many part (fields.lookup "args") arguments) :
      StoresNode (tagged "NewMethod" (.object fields)) (.newMethod object method arguments)
  | function {json : Json} {value : FunctionLiteral}
      (stored : Record format functionFields (FunctionParts part) json value) :
      StoresNode (tagged "Function" json) (.function value)
  | storeRegister {fields : List (String × Json)} {number : UInt32} {value : Node}
      (numberStored : fields.lookup "register" = some (ofNumber number))
      (valueStored : One part (fields.lookup "value") value) :
      StoresNode (tagged "StoreRegister" (.object fields)) (.storeRegister number value)
  | temporaryRegister {fields : List (String × Json)} {number : UInt32} {value : Node}
      (numberStored : fields.lookup "register" = some (ofNumber number))
      (valueStored : One part (fields.lookup "value") value) :
      StoresNode (tagged "TemporaryRegister" (.object fields)) (.temporaryRegister number value)
  | callMethod {fields : List (String × Json)} {object method : Node} {arguments : List Node}
      (objectStored : One part (fields.lookup "object") object)
      (methodStored : One part (fields.lookup "method") method)
      (argumentsStored : Many part (fields.lookup "args") arguments) :
      StoresNode (tagged "CallMethod" (.object fields)) (.callMethod object method arguments)
  | callFunction {fields : List (String × Json)} {name : Node} {arguments : List Node}
      (nameStored : One part (fields.lookup "name") name)
      (argumentsStored : Many part (fields.lookup "args") arguments) :
      StoresNode (tagged "CallFunction" (.object fields)) (.callFunction name arguments)
  | pop {json : Json} (bare : format.Bare "Pop" json) : StoresNode json .pop
  | push {json : Json} {value : Node} (stored : part json value) :
      StoresNode (tagged "Push" json) (.push value)
  | extendsClause {fields : List (String × Json)} {subclass superclass : Node}
      (subclassStored : One part (fields.lookup "subclass") subclass)
      (superclassStored : One part (fields.lookup "superclass") superclass) :
      StoresNode (tagged "Extends" (.object fields)) (.extendsClause subclass superclass)
  | implementsClause {fields : List (String × Json)} {subclass : Node} {interfaces : List Node}
      (subclassStored : One part (fields.lookup "subclass") subclass)
      (interfacesStored : Many part (fields.lookup "superclasses") interfaces) :
      StoresNode (tagged "ImplementsOp" (.object fields)) (.implementsClause subclass interfaces)
  | classDecl {json : Json} {declaration : ClassDecl}
      (stored : Record format classFields (ClassParts format part) json declaration) :
      StoresNode (tagged "Class" json) (.classDecl declaration)
  | interfaceDecl {json : Json} {declaration : InterfaceDecl}
      (stored : Record format interfaceFields (InterfaceParts part) json declaration) :
      StoresNode (tagged "Interface" json) (.interfaceDecl declaration)
  | unresolved (text : String) : StoresNode (tagged "Unresolved" (.string text)) (.unresolved text)

end Records

/-- A value stores a node, and so do the values in it that stand for nodes. -/
inductive Stores (format : TreeFormat) : Json → Node → Prop where
  | intro {json : Json} {node : Node} (level : format.StoresNode (Stores format) json node) :
      Stores format json node

end TreeFormat

/-! ## Doubles in a tree -/

mutual

/-- The doubles that are written in a node, in order. -/
def Node.doubles : Node → List Binary64
  | .branch condition onTrue onFalse =>
      condition.doubles ++ doublesOfNodes onTrue ++ doublesOfNodes onFalse
  | .not operand => operand.doubles
  | .getMember object member => object.doubles ++ member.doubles
  | .setMember object member value => object.doubles ++ member.doubles ++ value.doubles
  | .getVariable name => name.doubles
  | .setVariable name value => name.doubles ++ value.doubles
  | .literal value => value.doubles
  | .newObject name arguments => name.doubles ++ doublesOfNodes arguments
  | .newMethod object method arguments =>
      object.doubles ++ method.doubles ++ doublesOfNodes arguments
  | .function value => value.doubles
  | .storeRegister _ value => value.doubles
  | .temporaryRegister _ value => value.doubles
  | .callMethod object method arguments =>
      object.doubles ++ method.doubles ++ doublesOfNodes arguments
  | .callFunction name arguments => name.doubles ++ doublesOfNodes arguments
  | .pop => []
  | .push value => value.doubles
  | .extendsClause subclass superclass => subclass.doubles ++ superclass.doubles
  | .implementsClause subclass interfaces => subclass.doubles ++ doublesOfNodes interfaces
  | .classDecl declaration => declaration.doubles
  | .interfaceDecl declaration => declaration.doubles
  | .unresolved _ => []

def Literal.doubles : Literal → List Binary64
  | .double value => [value]
  | .register _ known => doublesOfOptional known
  | _ => []

def FunctionLiteral.doubles : FunctionLiteral → List Binary64
  | ⟨_, _, body, inferredName⟩ => doublesOfNodes body ++ doublesOfOptional inferredName

def Member.doubles : Member → List Binary64
  | ⟨name, value⟩ => name.doubles ++ value.doubles

def ClassDecl.doubles : ClassDecl → List Binary64
  | ⟨name, _, superclass, interfaces, members, _, _⟩ =>
      name.doubles ++ doublesOfOptional superclass ++ doublesOfNodes interfaces ++
        doublesOfMembers members

def InterfaceDecl.doubles : InterfaceDecl → List Binary64
  | ⟨name, _, superinterfaces⟩ => name.doubles ++ doublesOfNodes superinterfaces

def doublesOfNodes : List Node → List Binary64
  | [] => []
  | node :: rest => node.doubles ++ doublesOfNodes rest

def doublesOfOptional : Option Node → List Binary64
  | none => []
  | some node => node.doubles

def doublesOfMembers : List Member → List Binary64
  | [] => []
  | member :: rest => member.doubles ++ doublesOfMembers rest

end

end ClassRecovery
