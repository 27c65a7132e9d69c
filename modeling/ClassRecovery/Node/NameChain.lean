import ClassRecovery.Node.Path

namespace ClassRecovery

/-!
# Chains of names

A chain of names reads a variable and then members of what it has read, and every name in
it is a literal.  It is described here from its variable outwards, without taking an
expression apart: each member puts its name at the end of the path.

An expression is met from the other end.  Its outermost node reads the last member, so a
walk inwards meets the names in the opposite order, and only the innermost node tells
whether there is a path at all.
-/

namespace Node

/-- The expression reads a variable, and then one member after the other, by the literal
names of the path. -/
inductive NameChain : Node → Path → Prop where
  | start (name : String) : NameChain (.variableNamed name) [name]
  | member {object : Node} {path : Path} (name : String) (chain : NameChain object path) :
      NameChain (.memberNamed object name) (path ++ [name])

/-- The node writes some value to the place that a chain of names with the path reads. -/
inductive NameWrite : Node → Path → Prop where
  | toVariable (name : String) (value : Node) : NameWrite (.assignVariable name value) [name]
  | toMember {object : Node} {path : Path} (name : String) (value : Node)
      (chain : NameChain object path) :
      NameWrite (.assignMember object name value) (path ++ [name])

/-- The names on the way from the last member of a chain in to its variable, behind those
that have been met already. -/
def namesInward? (met : List String) : Node → Option (List String)
  | .getMember object member =>
      match member.text? with
      | some name => object.namesInward? (met ++ [name])
      | none => none
  | .getVariable name => name.text?.map fun text => met ++ [text]
  | _ => none

theorem NameChain.path_ne_nil {node : Node} {path : Path} (chain : NameChain node path) :
    path ≠ [] := by
  cases chain with
  | start name => exact List.cons_ne_nil name []
  | member name chain => exact List.append_ne_nil_of_right_ne_nil _ (List.cons_ne_nil name [])

/-- Members that are read from a chain make it longer, and its path as well. -/
theorem NameChain.extend {object : Node} {path : Path} (chain : NameChain object path)
    (names : Path) : NameChain (names.foldl memberNamed object) (path ++ names) := by
  induction names generalizing object path with
  | nil =>
      rw [List.append_nil]
      exact chain
  | cons name rest hypothesis =>
      rw [List.append_cons]
      exact hypothesis (.member name chain)

end Node

end ClassRecovery
