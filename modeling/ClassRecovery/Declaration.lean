import ClassRecovery.Node.Path

namespace ClassRecovery

/-!
# Declarations

What an attempt at recovery yields when it succeeds.  The parts of a class are
stored with one flag for each member; the views below pair them up again.  The
constructor stands first and is never listed among the members of instances,
whatever its flag says.
-/

namespace ClassDecl

def qualifiedName (declaration : ClassDecl) : String :=
  Path.dotted declaration.path

/-- The first member. -/
def constructor? (declaration : ClassDecl) : Option Member :=
  declaration.members.head?

/-- The members with their flags, as far as both lists reach. -/
def flaggedMembers (declaration : ClassDecl) : List (Member × Bool) :=
  declaration.members.zip declaration.staticFlags

/-- The members of instances, without the constructor. -/
def instanceMembers (declaration : ClassDecl) : List Member :=
  ((declaration.flaggedMembers.drop 1).filter (!·.2)).map (·.1)

/-- The members of the class object. -/
def staticMembers (declaration : ClassDecl) : List Member :=
  (declaration.flaggedMembers.filter (·.2)).map (·.1)

end ClassDecl

namespace InterfaceDecl

def qualifiedName (declaration : InterfaceDecl) : String :=
  Path.dotted declaration.path

end InterfaceDecl

/-- A recovered declaration. -/
inductive Declaration where
  | classDecl (declaration : ClassDecl)
  | interfaceDecl (declaration : InterfaceDecl)

namespace Declaration

def path : Declaration → Path
  | .classDecl declaration => declaration.path
  | .interfaceDecl declaration => declaration.path

def name : Declaration → Node
  | .classDecl declaration => declaration.name
  | .interfaceDecl declaration => declaration.name

def qualifiedName : Declaration → String
  | .classDecl declaration => declaration.qualifiedName
  | .interfaceDecl declaration => declaration.qualifiedName

theorem qualifiedName_eq (declaration : Declaration) :
    declaration.qualifiedName = ".".intercalate declaration.path := by
  cases declaration with
  | classDecl declaration => exact Path.dotted_eq declaration.path
  | interfaceDecl declaration => exact Path.dotted_eq declaration.path

/-- The node that stands for the declaration in a list of statements. -/
def toNode : Declaration → Node
  | .classDecl declaration => .classDecl declaration
  | .interfaceDecl declaration => .interfaceDecl declaration

/-- The declaration that a node stands for. -/
def ofNode? : Node → Option Declaration
  | .classDecl declaration => some (.classDecl declaration)
  | .interfaceDecl declaration => some (.interfaceDecl declaration)
  | _ => none

end Declaration

end ClassRecovery
