import ClassRecovery.Node.Path

namespace ClassRecovery

/-!
# Why an attempt at recovery is abandoned

A rejection never stops a script: the statements stay as they are, the
rejection is reported, and scanning goes on with the next statement.  Causes
are constructors, and their wording is given once, by the `message` functions.

Most causes are mismatches of structure, reported as warnings.  A node of a
kind that has no business in its place is severe: it suggests that the
decompiler produced something the idiom never contains.
-/

/-- How loudly a rejection is reported. -/
inductive Severity where
  | warning
  | severe
deriving DecidableEq, Inhabited, Repr

namespace Severity

def name : Severity → String
  | .warning => "warning"
  | .severe => "severe"

/-- A larger rank is more serious. -/
def rank : Severity → Nat
  | .warning => 0
  | .severe => 1

instance : LT Severity := ⟨fun left right => left.rank < right.rank⟩

instance (left right : Severity) : Decidable (left < right) :=
  inferInstanceAs (Decidable (left.rank < right.rank))

end Severity

/-- The two objects of a class under construction that registers alias: the
class itself and the prototype that its instances share. -/
inductive Role where
  | classObject
  | prototypeObject
deriving DecidableEq, Inhabited, Repr

namespace Role

def name : Role → String
  | .classObject => "class"
  | .prototypeObject => "instance"

/-- The other of the two roles. -/
def other : Role → Role
  | .classObject => .prototypeObject
  | .prototypeObject => .classObject

end Role

/-- The two accessors of a property. -/
inductive Accessor where
  | getter
  | setter
deriving DecidableEq, Inhabited, Repr

def Accessor.name : Accessor → String
  | .getter => "getter"
  | .setter => "setter"

/-- The operands whose form is checked. -/
inductive Operand where
  | bindingMember
  | methodName
  | functionName
  | propertyObject
  | propertyName
  | accessor (which : Accessor)
  /-- An operand that the caller describes in its own words. -/
  | described (text : String)
deriving DecidableEq, Inhabited, Repr

def Operand.name : Operand → String
  | .bindingMember => "memberName"
  | .methodName => "push methodName"
  | .functionName => "pushitem function name"
  | .propertyObject => "addProperty not on register"
  | .propertyName => "propertyName"
  | .accessor which => which.name
  | .described text => text

/-- The places in which only some kinds of node make sense. -/
inductive Place where
  | classPathWrite
  | interfaceFunction
  | trailingCall
  | propertyAccessor
  /-- A place that the caller describes in its own words. -/
  | described (text : String)
deriving DecidableEq, Inhabited, Repr

def Place.name : Place → String
  | .classPathWrite => "class path write"
  | .interfaceFunction => "interface function"
  | .trailingCall => "trailing call"
  | .propertyAccessor => "property accessor"
  | .described text => text

/-- The ways in which statements can fall short of the idiom. -/
inductive Mismatch where
  | alternativeNotEmpty
  | emptyBody
  | emptyPath
  | notString (operand : Operand)
  | notLiteral (operand : Operand)
  | bindingNotMemberRead
  | bindingNotThroughRegister
  | bindingNotOfPrototype
  | bindingNotWrite
  | bindingOfOtherPath
  | constructorNotStored
  | constructorNotFunction
  | carriedNotMemberWrite
  | carriedNameNotString
  | carriedWithoutPath
  | carriedOtherPath (path : Path)
  | carriedOtherRegister
  | carriedNotStored
  | carriedOtherKind (found : NodeKind)
  | notConstruction
  | interfaceWithoutPath
  | interfaceOfOtherPath
  | interfaceFunctionNamed
  | interfaceFunctionNotEmpty
  | interfaceFunctionWithParams
  | interfaceStatement (found : NodeKind)
  | otherMethod (name : String)
  | otherFunction (name : String)
  | propertyWithoutRole (register : UInt32)
  | propertyArguments (count : Nat)
  | accessorOtherRegister (which : Accessor) (found property : UInt32)
  | accessorOtherName (which : Accessor)
  | accessorNotEmpty (which : Accessor) (property : String)
  | flagsArguments (count : Nat)
  | flagsNotOnPrototype
  | flagsNotForAll
  | flagsOtherThanHidden
  /-- A mismatch that the caller states in its own words. -/
  | stated (text : String)
deriving DecidableEq, Inhabited, Repr

def Mismatch.message : Mismatch → String
  | .alternativeNotEmpty => "else clause of the if is not empty"
  | .emptyBody => "empty class body"
  | .emptyPath => "empty class path"
  | .notString operand => operand.name ++ " not string"
  | .notLiteral operand => operand.name ++ " not DirectValue"
  | .bindingNotMemberRead => "Not Getmember in StoreRegister"
  | .bindingNotThroughRegister => "Getmember does not have TemporaryRegister as object"
  | .bindingNotOfPrototype => "memberName not \"prototype\""
  | .bindingNotWrite => "temporaryreg value not setmember/setvariable"
  | .bindingOfOtherPath => "temporaryreg value does not match class path"
  | .constructorNotStored => "Constructor expected to be in storeregister"
  | .constructorNotFunction => "Constructor expected as function"
  | .carriedNotMemberWrite => "temp register does not contain setmember"
  | .carriedNameNotString => "register binding member not string"
  | .carriedWithoutPath => "invalid path source"
  | .carriedOtherPath path => "invalid path of setmember: " ++ path.dotted
  | .carriedOtherRegister => "invalid storeregister"
  | .carriedNotStored => "not storeregister"
  | .carriedOtherKind found => "invalid storeregister value: " ++ found.name
  | .notConstruction => "NewMethod or NewObject expected"
  | .interfaceWithoutPath => "invalid setmember"
  | .interfaceOfOtherPath => "wrong path in setmember"
  | .interfaceFunctionNamed => "not unnamed func in setmember"
  | .interfaceFunctionNotEmpty => "not empty function in setmember"
  | .interfaceFunctionWithParams => "not empty params for function in setmember"
  | .interfaceStatement found => "unknown iface item: " ++ found.name
  | .otherMethod name => "unknown push method name: " ++ name
  | .otherFunction name => "unknown pushitem function call " ++ name
  | .propertyWithoutRole register =>
      "unexpected addProperty object register " ++ toString register.toNat
  | .propertyArguments count => "invalid number of arguments to addProperty: " ++ toString count
  | .accessorOtherRegister which found property =>
      which.name ++ " register does not match property register " ++ toString found.toNat ++
        " <=> " ++ toString property.toNat
  | .accessorOtherName which => which.name ++ " does not match property name"
  | .accessorNotEmpty which property =>
      "unexpected " ++ which.name ++ " value for property " ++ property
  | .flagsArguments count =>
      "Invalid number of arguments to ASSetPropFlags: " ++ toString count ++ ", 3 expected"
  | .flagsNotOnPrototype => "ASSetPropFlags not on prototype"
  | .flagsNotForAll => "ASSetPropFlags properties param not null"
  | .flagsOtherThanHidden => "ASSetPropFlags flags not set to 1"
  | .stated text => text

/-- Why one attempt was abandoned. -/
inductive Rejection where
  | notARegister (operand : Operand)
  | missingConstructor
  | roleConflict (register : UInt32) (held : Role)
  | unexpectedNode (place : Place) (found : NodeKind)
  | mismatch (cause : Mismatch)
deriving DecidableEq, Inhabited, Repr

namespace Rejection

def message : Rejection → String
  | .notARegister operand => "not a register - " ++ operand.name
  | .missingConstructor => "no constructor found"
  | .roleConflict register held =>
      "register " ++ toString register.toNat ++ " already holds the " ++ held.name ++ " object"
  | .unexpectedNode place found => found.name ++ " found where " ++ place.name ++ " was expected"
  | .mismatch cause => cause.message

def severity : Rejection → Severity
  | .unexpectedNode .. => .severe
  | _ => .warning

/-- The message as it is reported, which says how serious the cause is. -/
def report (rejection : Rejection) : String :=
  match rejection.severity with
  | .severe => "Cannot detect class - unexpected node kind, aborting scan: " ++ rejection.message
  | .warning => "Cannot detect class - structural assertion failed: " ++ rejection.message

end Rejection

end ClassRecovery
