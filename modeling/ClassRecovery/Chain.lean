import ClassRecovery.Node.Path

namespace ClassRecovery

/-!
# What a chain of guards consists of

A chain is described here by the statements that it is made of, and not by how it
is followed.  The guards of the packages come first, each one name below the guard
before it, and the guard of the class comes last.  A package guard is told from the
guard of a class by its body alone: it creates the object that the guard tests, and
does nothing else.

What a guard runs when the tested object exists already plays no part in any of
this, neither for packages nor for classes.
-/

namespace Chain

/-- A body does nothing but assign a newly constructed object to a path.  The path is
taken with its root. -/
def Creates (path : Path) (body : List Node) : Prop :=
  ∃ write type arguments, body = [write] ∧
    write.Writes (.newObject type arguments) ∧ write.writePath? = some path

/-- A conditional that runs a body while nothing is found at a path, and an
alternative otherwise. -/
inductive Guard (path : Path) (body alternative : List Node) : Node → Prop where
  | intro {tested : Node} (reads : tested.path? = some path) :
      Guard path body alternative (.branch (.not tested) body alternative)

/-- The guards of packages, from a path that exists through the given names.  Behind
each of them one value may be discarded. -/
inductive PackageGuards : Path → Path → List Node → Prop where
  | nil (reached : Path) : PackageGuards reached [] []
  | cons {reached names : Path} {name : String} {guard : Node}
      {body alternative discarded rest : List Node}
      (tests : Guard (reached ++ [name]) body alternative guard)
      (creates : Creates (reached ++ [name]) body)
      (atMostOne : discarded = [] ∨ discarded = [.pop])
      (deeper : PackageGuards (reached ++ [name]) names rest) :
      PackageGuards reached (name :: names) (guard :: (discarded ++ rest))

/-- Statements open with the chain for the class that lies below a path by some names.
The guard of the class stands at an offset, directly behind the guards of all its
packages, and has a body and an alternative. -/
inductive Opens (reached : Path) (statements : List Node) (names : Path) (offset : Nat)
    (body alternative : List Node) : Prop where
  | intro {package : Path} {name : String} {guards after : List Node} {guard : Node}
      (split : statements = guards ++ guard :: after)
      (place : offset = guards.length)
      (named : names = package ++ [name])
      (packages : PackageGuards reached package guards)
      (tests : Guard (reached ++ names) body alternative guard)
      (noCreation : ¬ Creates (reached ++ names) body)

end Chain

end ClassRecovery
