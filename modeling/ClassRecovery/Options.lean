namespace ClassRecovery

/-!
# Names that the compiler writes

Compiled classes refer to a few objects and members by fixed names.  They are
options because obfuscators rename them, always consistently within a script.
-/

structure Options where
  /-- The namespace object through which packages are reached. -/
  rootNamespace : String := "_global"
  /-- The member of a class that holds its prototype. -/
  prototypeMember : String := "prototype"
  /-- The method that adds a property with accessors to an object. -/
  addPropertyMethod : String := "addProperty"
  /-- The function that sets attributes of members. -/
  propFlagsFunction : String := "ASSetPropFlags"
  /-- What precedes a property's name in the name of its getter. -/
  getterPrefix : String := "__get__"
  /-- What precedes a property's name in the name of its setter. -/
  setterPrefix : String := "__set__"
  /-- Whether statements in the alternative of a class's guard are kept behind
  the declaration.  Otherwise they keep the class from being recovered. -/
  preserveAlternative : Bool := true
deriving DecidableEq, Inhabited, Repr

end ClassRecovery
