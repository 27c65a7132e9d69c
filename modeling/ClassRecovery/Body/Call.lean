import ClassRecovery.Body.Draft
import ClassRecovery.PropFlags

namespace ClassRecovery

/-!
# The calls at the end of a class body

Behind the members of a class the compiler adds its properties, one call each,
and hides the members of the prototype by one more.  No other call belongs to a
class, and these two belong to it only in the exact form that the compiler
writes, since a call that means anything else would be lost with the body.
-/

/-- A value left on the stack at the end of a block counts as the value. -/
def Node.withoutPush : Node → Node
  | .push value => value
  | node => node

/-- The name of an accessor's method begins with one of two prefixes. -/
def Options.accessorPrefix (options : Options) : Accessor → String
  | .getter => options.getterPrefix
  | .setter => options.setterPrefix

/-- Whether a property has an accessor.  It must be the method of that name on
the register that the property is added to, or an empty function in its place. -/
def hasAccessor (options : Options) (register : UInt32) (property : String) (which : Accessor) :
    Node → Except Rejection Bool
  | .getMember object member => do
      let found ← object.registerNumber (.accessor which)
      if found = register then
        let name ← member.expectText (.accessor which)
        if name = options.accessorPrefix which ++ property then .ok true
        else .error (.mismatch (.accessorOtherName which))
      else .error (.mismatch (.accessorOtherRegister which found register))
  | .function function =>
      if function.isPlaceholder then .ok false
      else .error (.mismatch (.accessorNotEmpty which property))
  | other => .error (.unexpectedNode .propertyAccessor other.kind)

namespace Draft

/-- Add a property to the object that a register holds. -/
def addProperty (options : Options) (draft : Draft) (object : Node) (arguments : List Node) :
    Except Rejection Draft := do
  let register ← object.registerNumber .propertyObject
  match draft.roles.roleOf register with
  | none => .error (.mismatch (.propertyWithoutRole register))
  | some role =>
      match arguments with
      | [name, getter, setter] =>
          let name ← name.expectText .propertyName
          let hasGetter ← hasAccessor options register name .getter getter
          let hasSetter ← hasAccessor options register name .setter setter
          let property : Property := ⟨name, hasGetter, hasSetter, decide (role = .classObject)⟩
          return { draft with properties := draft.properties ++ [property] }
      | _ => .error (.mismatch (.propertyArguments arguments.length))

end Draft

/-- Whether an expression reads the prototype of the class at a path. -/
def Node.readsPrototype (options : Options) (path : Path) (node : Node) : Bool :=
  match node.path? with
  | some found => found.withoutRoot options.rootNamespace == path ++ [options.prototypeMember]
  | none => false

/-- Attributes may be set on all members of the prototype, and then only so that
they are hidden. -/
def checkFlags (options : Options) (path : Path) : List Node → Except Rejection Unit
  | [object, members, flags] =>
      if object.readsPrototype options path then
        match members with
        | .literal .null =>
            match flags with
            | .literal (.integer value) =>
                if PropFlags.ofInt? value = some .hiddenOnly then .ok ()
                else .error (.mismatch .flagsOtherThanHidden)
            | _ => .error (.mismatch .flagsOtherThanHidden)
        | _ => .error (.mismatch .flagsNotForAll)
      else .error (.mismatch .flagsNotOnPrototype)
  | arguments => .error (.mismatch (.flagsArguments arguments.length))

/-- Read one of the calls at the end of a body. -/
def Draft.addCall (options : Options) (path : Path) (draft : Draft) (statement : Node) :
    Except Rejection Draft :=
  match statement.withoutPush with
  | .callMethod object method arguments => do
      let name ← method.expectText .methodName
      if name = options.addPropertyMethod then draft.addProperty options object arguments
      else .error (.mismatch (.otherMethod name))
  | .callFunction function arguments => do
      let name ← function.expectText .functionName
      if name = options.propFlagsFunction then
        checkFlags options path arguments
        return draft
      else .error (.mismatch (.otherFunction name))
  | other => .error (.unexpectedNode .trailingCall other.kind)

end ClassRecovery
